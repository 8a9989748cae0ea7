import CommandLine.Text.Basic
import CommandLine.Text.CharClass

/-!
# Patterns

Patterns over texts.  A character stands for itself, a point for any character, brackets for one of
several; `*`, `+`, `?` and counts in braces repeat what is before them, a bar separates choices,
parentheses group, `^` and `$` hold at the start and the end of a line.  `found` says whether a
pattern fits anywhere in a text.

A pattern is followed over all the places it can lead to at once, so that the answer does not hang
on the order in which the choices are tried.
-/

namespace CommandLine
namespace Text

inductive CharSet where
  | any
  | range (lo hi : Char)
  | digit
  | word
  | blank
  | or (a b : CharSet)
  | not (a : CharSet)
  deriving DecidableEq, Repr

namespace CharSet

def single (c : Char) : CharSet := range c c

def has : CharSet → Char → Bool
  | any, _ => true
  | range lo hi, c => lo ≤ c && c ≤ hi
  | digit, c => (digitValue? c).isSome
  | word, c => isWordPart c
  | blank, c => isBlank c
  | or a b, c => a.has c || b.has c
  | not a, c => !a.has c

/-- the set that a letter behind a backslash names -/
def named? : Char → Option CharSet
  | 'd' => some digit
  | 'w' => some word
  | 's' => some blank
  | 'D' => some digit.not
  | 'W' => some word.not
  | 'S' => some blank.not
  | _ => none

end CharSet

inductive Pattern where
  | nothing
  | one (s : CharSet)
  | next (a b : Pattern)
  | either (a b : Pattern)
  /-- any number of times -/
  | many (a : Pattern)
  | lineStart
  | lineEnd
  | textStart
  | textEnd
  /-- between a character of a word and another one -/
  | wordEdge
  /-- within a word or outside of words, in a text that is not empty -/
  | noWordEdge
  deriving DecidableEq, Repr

/-! ## Where a pattern leads -/

/-- a place in a text: its distance from the start, the character before it and what follows -/
structure Spot where
  place : Nat
  before : Option Char
  rest : List Char

namespace Spot

def start (s : String) : Spot := ⟨0, none, s.toList⟩

def step? (s : Spot) : Option (Char × Spot) :=
  match s.rest with
  | [] => none
  | c :: cs => some (c, ⟨s.place + 1, some c, cs⟩)

def isWordEdge (s : Spot) : Bool := s.before.any isWordPart != s.rest.head?.any isWordPart

/-- is it the only place of an empty text? -/
def isAlone (s : Spot) : Bool := s.before.isNone && s.rest.isEmpty

/-- the places without repetition -/
def distinct (spots : List Spot) : List Spot := spots.eraseDupsBy fun a b => a.place == b.place

/-- the places that steps lead to, each step going on from all the places of the one before -/
def closure (step : Spot → List Spot) : Nat → List Spot → List Spot
  | 0, spots => spots
  | _ + 1, [] => []
  | n + 1, spots =>
    spots ++ closure step n
      (distinct (spots.flatMap fun s => (step s).filter fun t => s.place < t.place))

/-- a place and all the later ones -/
def onward (s : Spot) : List Spot := closure (fun s => (s.step?.map (·.2)).toList) s.rest.length [s]

end Spot

/-- the place itself, where a condition holds -/
def Spot.stay (s : Spot) (b : Bool) : List Spot := if b then [s] else []

/-- the places that a pattern leads to -/
def Pattern.ends : Pattern → Spot → List Spot
  | nothing, s => [s]
  | one set, s =>
    match s.step? with
    | some (c, t) => if set.has c then [t] else []
    | none => []
  | next a b, s => Spot.distinct ((a.ends s).flatMap b.ends)
  | either a b, s => Spot.distinct (a.ends s ++ b.ends s)
  | many a, s => Spot.closure a.ends s.rest.length [s]
  | lineStart, s => s.stay (s.before.all (· == '\n'))
  | lineEnd, s => s.stay (s.rest.head?.all (· == '\n'))
  | textStart, s => s.stay s.before.isNone
  | textEnd, s => s.stay s.rest.isEmpty
  | wordEdge, s => s.stay s.isWordEdge
  | noWordEdge, s => s.stay (!s.isWordEdge && !s.isAlone)

/-! ## Reading a pattern -/

namespace Pattern

def times (a : Pattern) : Nat → Pattern
  | 0 => nothing
  | n + 1 => next a (a.times n)

def atMost (a : Pattern) : Nat → Pattern
  | 0 => nothing
  | n + 1 => either (next a (a.atMost n)) nothing

/-- the character that a letter behind a backslash stands for -/
def escaped (c : Char) : Char :=
  match c with
  | 'n' => '\n'
  | 't' => '\t'
  | 'r' => '\r'
  | 'f' => '\x0c'
  | 'v' => '\x0b'
  | 'a' => '\x07'
  | c => c

/-- one member of a set in brackets, or the start of a range -/
def setMember : List Char → Option (CharSet × List Char)
  | [] => none
  | '\\' :: c :: cs => some ((CharSet.named? c).getD (.single (escaped c)), cs)
  | c :: cs => some (.single c, cs)

def setMembers : Nat → Option CharSet → List Char → Option (CharSet × List Char)
  | 0, _, _ => none
  | _ + 1, some sofar, ']' :: cs => some (sofar, cs)
  | n + 1, sofar, cs => do
    let (m, rest) ← setMember cs
    let (m, rest) := match m, rest with
      | .range lo _, '-' :: c :: more =>
        if c = ']' then (m, rest)
        else
          match setMember (c :: more) with
          | some (.range hi _, more) => (.range lo hi, more)
          | _ => (m, rest)
      | m, rest => (m, rest)
    setMembers n (some (sofar.elim m fun s => s.or m)) rest

def bracketSet (cs : List Char) : Option (CharSet × List Char) :=
  match cs with
  | '^' :: cs => (setMembers (cs.length + 1) none cs).map fun (s, rest) => (s.not, rest)
  | cs => setMembers (cs.length + 1) none cs

def natOf (ds : List Char) : Nat := ds.foldl (fun n d => 10 * n + (d.toNat - '0'.toNat)) 0

/-- the counts in braces, behind the opening one: the least and the greatest number of times -/
def counts (cs : List Char) : Option ((Nat × Option Nat) × List Char) :=
  let low := cs.takeWhile Char.isDigit
  match cs.dropWhile Char.isDigit with
  | '\x7d' :: rest => if low = [] then none else some ((natOf low, some (natOf low)), rest)
  | ',' :: more =>
    let high := more.takeWhile Char.isDigit
    match more.dropWhile Char.isDigit with
    | '\x7d' :: rest => some ((natOf low, if high = [] then none else some (natOf high)), rest)
    | _ => none
  | _ => none

/-- the mark behind a repetition that changes only which of several fits is taken -/
def skipMode : List Char → List Char
  | '?' :: cs => cs
  | cs => cs

/-- a pattern with what repeats it -/
def repeated (a : Pattern) : List Char → Pattern × List Char
  | '*' :: cs => (many a, skipMode cs)
  | '+' :: cs => (next a (many a), skipMode cs)
  | '?' :: cs => (either a nothing, skipMode cs)
  | '\x7b' :: cs =>
    match counts cs with
    | some ((low, some high), rest) => (next (a.times low) (a.atMost (high - low)), skipMode rest)
    | some ((low, none), rest) => (next (a.times low) (many a), skipMode rest)
    | none => (a, '\x7b' :: cs)
  | cs => (a, cs)

/-- the marks behind an opening parenthesis, which give the group no other meaning here -/
def skipGroupMark : List Char → List Char
  | '?' :: ':' :: cs => cs
  | '?' :: 'P' :: '<' :: cs => (cs.dropWhile (· ≠ '>')).drop 1
  | cs => cs

/-- what a character behind a backslash stands for -/
def behindBackslash (c : Char) : Pattern :=
  match c with
  | 'A' => textStart
  | 'Z' => textEnd
  | 'b' => wordEdge
  | 'B' => noWordEdge
  | c => one ((CharSet.named? c).getD (.single (escaped c)))

mutual

/-- choices, up to a closing parenthesis or the end -/
def choices : Nat → List Char → Pattern × List Char
  | 0, cs => (nothing, cs)
  | n + 1, cs =>
    match sequence n cs with
    | (p, '|' :: rest) =>
      let (q, rest) := choices n rest
      (either p q, rest)
    | r => r

/-- what stands in a row, up to a bar, a closing parenthesis or the end -/
def sequence : Nat → List Char → Pattern × List Char
  | 0, cs => (nothing, cs)
  | _ + 1, [] => (nothing, [])
  | _ + 1, '|' :: cs => (nothing, '|' :: cs)
  | _ + 1, ')' :: cs => (nothing, ')' :: cs)
  | n + 1, c :: cs =>
    let (a, rest) := atom n c cs
    let (a, rest) := repeated a rest
    let (b, rest) := sequence n rest
    (next a b, rest)

/-- the smallest part, by its first character -/
def atom : Nat → Char → List Char → Pattern × List Char
  | 0, _, cs => (nothing, cs)
  | n + 1, '(', cs =>
    let (p, rest) := choices n (skipGroupMark cs)
    (p, rest.drop 1)
  | _ + 1, '[', cs =>
    match bracketSet cs with
    | some (s, rest) => (one s, rest)
    | none => (one (.single '['), cs)
  | _ + 1, '\\', c :: cs => (behindBackslash c, cs)
  | _ + 1, '.', cs => (one .any, cs)
  | _ + 1, '^', cs => (lineStart, cs)
  | _ + 1, '$', cs => (lineEnd, cs)
  | _ + 1, c, cs => (one (.single c), cs)

end

def read (s : String) : Pattern := (choices (3 * s.length + 3) s.toList).1

end Pattern

def found (pattern s : String) : Bool :=
  let p := Pattern.read pattern
  (Spot.start s).onward.any fun spot => !(p.ends spot).isEmpty

end Text
end CommandLine
