import CommandLine.Value.Equal

/-!
# The order of the elements of a set

The elements of a set are listed in the order of the slots they take.  A set has a power of two of
slots, at first eight.  An element asks for the slot that its code gives, and goes on to others when
that one is taken; when three fifths of the slots are taken the set moves to more slots, in the
order it then has.  Numbers, and tuples and unchanging sets of numbers, have a code by their value,
so the order of a set of them is settled; any other set is listed in the order in which it was
filled.
-/

namespace CommandLine

/-! ## codes -/

/-- the modulus of the codes of numbers -/
def codeModulus : Nat := Nat.pow 2 61 - 1

def codeCount : Nat := Nat.pow 2 64

/-- the code of a signed residue; minus one is not used -/
def signedCode (negative : Bool) (n : Nat) : Nat :=
  if !negative then n
  else if n = 1 then codeCount - 2
  else (codeCount - n) % codeCount

def intCode (i : Int) : Nat := signedCode (i < 0) (i.natAbs % codeModulus)

/-- the code of a binary number, which agrees with that of an equal integer: dividing by two turns
the 61 bits of a residue -/
def floatCode? (x : Float) : Option Nat :=
  match (Number.Binary.of x).fraction? with
  | some (n, d) =>
    let turn := (61 - d.log2 % 61) % 61
    some (signedCode (n < 0) (n.natAbs * Nat.pow 2 turn % codeModulus))
  | none =>
    if x == 1.0 / 0.0 then some 314159
    else if x == -1.0 / 0.0 then some (signedCode true 314159)
    else none

/-- a code that a sum has reached; minus one is not used -/
def settledCode (n : Nat) : Nat :=
  let n := n % codeCount
  if n = codeCount - 1 then codeCount - 2 else n

def turnLeft (n k : Nat) : Nat := (n * Nat.pow 2 k) % codeCount + n / Nat.pow 2 (64 - k)

def tupleCode (codes : List Nat) : Nat :=
  let acc := codes.foldl
    (fun acc lane =>
      turnLeft ((acc + lane * 14029467366897019727) % codeCount) 31 * 11400714785074694791 %
        codeCount)
    2870177450012600261
  let acc := (acc + (codes.length ^^^ (2870177450012600261 ^^^ 3527539))) % codeCount
  if acc = codeCount - 1 then 1546275796 else acc

/-- the code of an unchanging set, which does not hang on the order of its elements -/
def unorderedCode (codes : List Nat) : Nat :=
  let spread := fun (h : Nat) => ((h ^^^ 89869747) ^^^ (h * Nat.pow 2 16 % codeCount)) * 3644798167 %
    codeCount
  let acc := codes.foldl (fun acc h => acc ^^^ spread h) 0
  let acc := acc ^^^ ((codes.length + 1) * 1927868237 % codeCount)
  let acc := acc ^^^ (acc / Nat.pow 2 11 ^^^ acc / Nat.pow 2 25)
  let acc := (acc * 69069 + 907133923) % codeCount
  if acc = codeCount - 1 then 590923713 else acc

mutual

/-- the code of a value, if its value settles it -/
def Value.code? : Value → Option Nat
  | .bool b => some (if b then 1 else 0)
  | .int i => some (intCode i)
  | .float x => floatCode? x
  | .complex a b =>
    match floatCode? a, floatCode? b with
    | some a, some b => some (settledCode (a + 1000003 * b))
    | _, _ => none
  | .tuple xs => (Value.codes? xs).map tupleCode
  | .frozenSet xs => (Value.codes? xs).map unorderedCode
  | _ => none

def Value.codes? : List Value → Option (List Nat)
  | [] => some []
  | x :: xs =>
    match x.code?, Value.codes? xs with
    | some c, some cs => some (c :: cs)
    | _, _ => none

end

/-! ## slots -/

abbrev Slots := List (Option (Nat × Value))

def emptySlots (n : Nat) : Slots := List.replicate n none

def Slots.elements (s : Slots) : List (Nat × Value) := s.filterMap id

/-- the first free slot of `count` slots from the `i`-th on -/
def Slots.freeAmong (s : Slots) (i : Nat) : Nat → Option Nat
  | 0 => none
  | count + 1 =>
    match s[i]? with
    | some none => some i
    | some (some _) => Slots.freeAmong s (i + 1) count
    | none => none

/-- the free slot that a code leads to: a slot and, unless the end is near, the nine behind it, then
a slot that more and more of the code decides -/
def Slots.free (s : Slots) : Nat → Nat → Nat → Nat
  | 0, i, _ => i
  | fuel + 1, i, rest =>
    let n := s.length
    match s.freeAmong i (if i + 9 < n then 10 else 1) with
    | some j => j
    | none =>
      let rest := rest / 32
      Slots.free s fuel ((i * 5 + 1 + rest) % n) rest

/-- puts an element into the slot that its code leads to -/
def Slots.place (s : Slots) (e : Nat × Value) : Slots :=
  s.set (s.free (16 * s.length + 64) (e.1 % s.length) e.1) (some e)

/-- the number of slots for more than `n` elements -/
def slotCount (n : Nat) : Nat := max 8 (Nat.pow 2 (n.log2 + 1))

def Slots.move (s : Slots) (n : Nat) : Slots := s.elements.foldl Slots.place (emptySlots n)

/-- are three fifths of the slots taken? -/
def isFull (taken slots : Nat) : Bool := (slots - 1) * 3 ≤ taken * 5

/-- adds a new element, and moves to more slots if too many are taken -/
def Slots.add (s : Slots) (e : Nat × Value) : Slots :=
  let s := s.place e
  let taken := s.elements.length
  if isFull taken s.length then s.move (slotCount (if 50000 < taken then taken * 2 else taken * 4))
  else s

/-- distinct elements in the order in which a set lists them that has `n` slots at first and has
been filled with them in turn -/
def slotOrderFrom (n : Nat) (xs : List Value) : List Value :=
  match Value.codes? xs with
  | some codes => ((codes.zip xs).foldl Slots.add (emptySlots n)).elements.map (·.2)
  | none => xs

def slotOrder (xs : List Value) : List Value := slotOrderFrom 8 xs

/-- the slots of a set before it takes `n` elements at once -/
def preparedSlots (n : Nat) : Nat := if isFull n 8 then slotCount (n * 2) else 8

/-- the slots of a set that has taken `n` elements one by one -/
def grownSlots : Nat → Nat
  | 0 => 8
  | n + 1 =>
    let before := grownSlots n
    if isFull (n + 1) before then slotCount ((n + 1) * 4) else before

/-- the elements of a set as a copy of it lists them: a copy has room for twice the elements, and
keeps the slots if it has as many -/
def copyOrder (xs : List Value) : List Value :=
  if preparedSlots xs.length = grownSlots xs.length then xs
  else match Value.codes? xs with
    | some codes =>
      ((codes.zip xs).foldl Slots.place (emptySlots (preparedSlots xs.length))).elements.map (·.2)
    | none => xs

/-- the distinct elements in the order of a set that is made of the elements of `v` -/
def Value.orderFrom (v : Value) (xs : List Value) : List Value :=
  match v with
  | .set _ | .frozenSet _ => copyOrder xs
  | .dict _ => slotOrderFrom (preparedSlots xs.length) xs
  | _ => slotOrder (Value.distinct xs)

end CommandLine
