import CommandLine.Number.Binary

/-!
# Division with remainder of binary numbers

The remainder is exact, found on the fractions that the numbers are, and has the divisor's sign.
-/

namespace CommandLine.Number

def isSigned (x : Float) : Bool := x.toBits.toNat / Nat.pow 2 63 % 2 = 1

/-- a zero with the sign of a number -/
def zeroLike (x : Float) : Float := if isSigned x then -0.0 else 0.0

/-- the number nearest to `m · 2 ^ q`, read as a decimal -/
def ofBinary (m : Nat) (q : Int) : Float :=
  if 0 ≤ q then Float.ofScientific (m * Nat.pow 2 q.toNat) false 0
  else Float.ofScientific (m * Nat.pow 5 (-q).toNat) true (-q).toNat

/-- the remainder that has the dividend's sign -/
def truncatedRemainder (x y : Float) : Float :=
  match Binary.of x, Binary.of y with
  | .finite .., .infinite _ => x
  | .finite neg m q, .finite _ m' q' =>
    if m' = 0 then 0.0 / 0.0
    else
      let low := min q q'
      let r := m * Nat.pow 2 (q - low).toNat % (m' * Nat.pow 2 (q' - low).toNat)
      let r := ofBinary r low
      if neg then -r else r
  | _, _ => 0.0 / 0.0

/-- the whole quotient and the remainder, for a divisor other than zero -/
def divMod (x y : Float) : Float × Float :=
  let r := truncatedRemainder x y
  let q := (x - r) / y
  let (q, r) :=
    if r == 0.0 then (q, zeroLike y)
    else if (y < 0.0) != (r < 0.0) then (q - 1.0, r + y)
    else (q, r)
  if q == 0.0 then (zeroLike (x / y), r)
  else
    let whole := q.floor
    (if 0.5 < q - whole then whole + 1.0 else whole, r)

end CommandLine.Number
