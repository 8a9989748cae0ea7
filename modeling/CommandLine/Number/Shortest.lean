import CommandLine.Number.Binary

/-!
# The fewest decimal digits that read back

A number `m · 2 ^ q` is the nearest one to every real between the middles to its two neighbours
(the ends count when `m` is even).  For 1, 2, … digits the two decimals around the number on that
grid are tried; the first grid with one inside gives the digits, the nearer one if both are inside
and the even one in a tie.  Seventeen digits are always enough.

All ends are kept as whole numbers over one common denominator.
-/

namespace CommandLine.Number

/-- a positive number and the ends of its interval, over the denominator `den` -/
structure Interval where
  low : Nat
  value : Nat
  high : Nat
  den : Nat
  closed : Bool

/-- the interval of `m · 2 ^ q`; below a power of two the lower neighbour is half as far -/
def Interval.of (m : Nat) (q : Int) : Interval :=
  let lower := if m = Nat.pow 2 52 ∧ minExponent < q then 1 else 2
  let scale := fun (n : Nat) => if 0 ≤ q then n * Nat.pow 2 q.toNat else n
  let den := if 0 ≤ q then 4 else 4 * Nat.pow 2 (-q).toNat
  ⟨scale (4 * m - lower), scale (4 * m), scale (4 * m + 2), den, m % 2 = 0⟩

/-- is the decimal `n · 10 ^ e` inside? -/
def Interval.has (i : Interval) (n : Nat) (e : Int) : Bool :=
  let x := if 0 ≤ e then n * Nat.pow 10 e.toNat * i.den else n * i.den
  let s := if 0 ≤ e then 1 else Nat.pow 10 (-e).toNat
  if i.closed then i.low * s ≤ x && x ≤ i.high * s else i.low * s < x && x < i.high * s

/-- the whole part of the number over `10 ^ e` -/
def Interval.floor (i : Interval) (e : Int) : Nat :=
  if 0 ≤ e then i.value / (i.den * Nat.pow 10 e.toNat)
  else i.value * Nat.pow 10 (-e).toNat / i.den

/-- twice the distance beyond the floor, against the grid: before, at or after the middle -/
def Interval.half (i : Interval) (n : Nat) (e : Int) : Ordering :=
  if 0 ≤ e then compare (2 * i.value) ((2 * n + 1) * Nat.pow 10 e.toNat * i.den)
  else compare (2 * i.value * Nat.pow 10 (-e).toNat) ((2 * n + 1) * i.den)

/-- the number of decimal digits of the whole part, or minus the zeros after the point: the least
`k` with the number below `10 ^ k` -/
def Interval.places (i : Interval) : Int :=
  let whole := i.value / i.den
  if 0 < whole then (Nat.toDigits 10 whole).length
  else
    let scaled := i.value * Nat.pow 10 400 / i.den
    Int.ofNat (Nat.toDigits 10 scaled).length - 400

/-- the decimals of the grid `10 ^ e` that are inside, the better one first -/
def Interval.hit? (i : Interval) (e : Int) : Option Nat :=
  let n := i.floor e
  match i.has n e && 0 < n, i.has (n + 1) e with
  | true, true =>
    match i.half n e with
    | .lt => some n
    | .gt => some (n + 1)
    | .eq => some (if n % 2 = 0 then n else n + 1)
  | true, false => some n
  | false, true => some (n + 1)
  | false, false => none

/-- tries the grids of `n`, `n + 1`, … digits -/
def Interval.search (i : Interval) (k : Int) (n : Nat) : Nat → Nat × Int
  | 0 => (i.floor (k - n), k - n)
  | fuel + 1 =>
    match i.hit? (k - n) with
    | some d => (d, k - n)
    | none => i.search k (n + 1) fuel

/-- the digits and the exponent of the shortest decimal of a positive `m · 2 ^ q` -/
def shortest (m : Nat) (q : Int) : Nat × Int :=
  let i := Interval.of m q
  i.search i.places 1 17

end CommandLine.Number
