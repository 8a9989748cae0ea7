import CommandLine.Text.Basic

/-!
# Searching a text

Where a text occurs in a stretch of another one.  A stretch is given by two bounds that may count
from the end; a stretch that starts behind its end holds nothing, not even the empty text.
-/

namespace CommandLine.Text

/-- a bound of a stretch of `n` characters: below zero it counts from the end -/
def bound (n : Nat) (i : Int) : Nat :=
  if i < 0 then (n + i).toNat else i.toNat

/-- the places, from `i` on, where `sub` occurs -/
def occurrences (sub : List Char) : Nat → List Char → List Nat
  | i, [] => if sub.isEmpty then [i] else []
  | i, c :: cs =>
    let rest := occurrences sub (i + 1) cs
    if sub.isPrefixOf (c :: cs) then i :: rest else rest

/-- the places that remain when each must lie `n` behind the one before -/
def apart (n : Nat) : Nat → List Nat → List Nat
  | _, [] => []
  | least, i :: is => if i < least then apart n least is else i :: apart n (i + n) is

/-- a stretch of a text: where it starts, and its characters -/
def stretch (s : String) (start stop : Option Int) : Option (Nat × List Char) :=
  let n := s.length
  let i := (start.map (bound n)).getD 0
  let j := min n ((stop.map (bound n)).getD n)
  if i ≤ j then some (i, (s.toList.drop i).take (j - i)) else none

def places (sub s : String) (start stop : Option Int) : List Nat :=
  match stretch s start stop with
  | some (i, cs) => occurrences sub.toList i cs
  | none => []

def count (sub s : String) (start stop : Option Int) : Nat :=
  (apart (max 1 sub.length) 0 (places sub s start stop)).length

def stretchStarts (sub s : String) (start stop : Option Int) : Bool :=
  match stretch s start stop with
  | some (_, cs) => sub.toList.isPrefixOf cs
  | none => false

def stretchEnds (sub s : String) (start stop : Option Int) : Bool :=
  match stretch s start stop with
  | some (_, cs) => sub.toList.isSuffixOf cs
  | none => false

end CommandLine.Text
