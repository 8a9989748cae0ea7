/-!
# Binary floating point numbers, exactly

A finite number is `m · 2 ^ q` with a sign, read off its 64 bits.  All text of numbers and all
comparisons with integers go through this form, in exact arithmetic.
-/

namespace CommandLine.Number

/-- how many decimal digits the text of a whole number may have -/
def maxDigits : Nat := 4300

/-- what the bits of a number say -/
inductive Binary where
  | finite (negative : Bool) (m : Nat) (q : Int)
  | infinite (negative : Bool)
  | notANumber

/-- the least exponent: that of the subnormal numbers -/
def minExponent : Int := -1074

def Binary.ofBits (bits : Nat) : Binary :=
  let negative := bits / Nat.pow 2 63 % 2 = 1
  let e := bits / Nat.pow 2 52 % Nat.pow 2 11
  let f := bits % Nat.pow 2 52
  if e = 2047 then
    if f = 0 then .infinite negative else .notANumber
  else if e = 0 then .finite negative f minExponent
  else .finite negative (f + Nat.pow 2 52) (Int.ofNat e - 1075)

def Binary.of (x : Float) : Binary := .ofBits x.toBits.toNat

def Binary.fraction? : Binary → Option (Int × Nat)
  | .finite neg m q =>
    let n : Int := if neg then -(Int.ofNat m) else Int.ofNat m
    if 0 ≤ q then some (n * Nat.pow 2 q.toNat, 1) else some (n, Nat.pow 2 (-q).toNat)
  | _ => none

/-- the whole part of a finite number, cut towards zero -/
def Binary.truncate? (b : Binary) : Option Int := b.fraction?.map fun (n, d) => n.tdiv d

def Binary.eqInt (b : Binary) (i : Int) : Bool :=
  match b.fraction? with
  | some (n, d) => n = i * d
  | none => false

def Binary.ltInt (b : Binary) (i : Int) : Bool :=
  match b with
  | .infinite neg => neg
  | .notANumber => false
  | .finite .. => match b.fraction? with
    | some (n, d) => n < i * d
    | none => false

def Binary.gtInt (b : Binary) (i : Int) : Bool :=
  match b with
  | .infinite neg => !neg
  | .notANumber => false
  | .finite .. => match b.fraction? with
    | some (n, d) => i * d < n
    | none => false

/-- the number nearest to `n · 10 ^ e`; exponents far out of range need no power of ten -/
def ofDecimal (n : Nat) (e : Int) : Float :=
  let size := (Nat.toDigits 10 n).length
  if n = 0 then 0.0
  else if 400 < e + size then 1.0 / 0.0
  else if e + size < -400 then 0.0
  else if 0 ≤ e then Float.ofScientific n false e.toNat
  else Float.ofScientific n true (-e).toNat

/-- the number nearest to an integer; none if it is beyond the largest finite number -/
def ofInt? (i : Int) : Option Float :=
  let x := Float.ofScientific i.natAbs false 0
  if x.isInf then none else some (if i < 0 then -x else x)

end CommandLine.Number
