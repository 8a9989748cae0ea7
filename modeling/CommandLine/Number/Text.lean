import CommandLine.Number.Shortest

/-!
# Numbers as text

Decimal text of integers and of floating point numbers.  A finite number is written with the fewest
digits that read back: in positions from `1e-4` up to `1e16`, with a point and at least one digit
behind it, and in scientific form outside, the exponent with a sign and at least two digits.

A rounded number has at most six significant digits, a middle going to the even neighbour, and no
zeros at its end; it is written in positions from `1e-4` up to `1e6`.
-/

namespace CommandLine.Number

structure NumberFormat where
  /-- the least decimal exponent that is still written in positions -/
  leastPlain : Int
  /-- the first decimal exponent that is no longer written in positions -/
  firstScientific : Int
  /-- what a whole number ends with -/
  wholeEnd : String
  infinite : String
  notANumber : String

def NumberFormat.value : NumberFormat := ⟨-4, 16, ".0", "inf", "nan"⟩

/-- the layout of numbers that are parts of a complex number: no `.0` -/
def NumberFormat.part : NumberFormat := ⟨-4, 16, "", "inf", "nan"⟩

def NumberFormat.data : NumberFormat := ⟨-4, 16, ".0", "Infinity", "NaN"⟩

def natText (n : Nat) : String := String.ofList (Nat.toDigits 10 n)

def intText (i : Int) : String := if i < 0 then "-" ++ natText i.natAbs else natText i.natAbs

/-- are the digits of a whole number few enough for a text? -/
def isWritable (i : Int) : Bool := (Nat.toDigits 10 i.natAbs).length ≤ maxDigits

def hexText (n : Nat) : String := String.ofList (Nat.toDigits 16 n)

/-- trailing zeros of a positive number, moved into the exponent -/
def dropZeros : Nat → Nat × Int → Nat × Int
  | 0, p => p
  | fuel + 1, (n, e) => if n ≠ 0 ∧ n % 10 = 0 then dropZeros fuel (n / 10, e + 1) else (n, e)

/-- the decimal `n · 10 ^ e` laid out -/
def decimalText (f : NumberFormat) (n : Nat) (e : Int) : String :=
  let digits := Nat.toDigits 10 n
  let point := Int.ofNat digits.length + e
  let ten := point - 1
  if f.leastPlain ≤ ten ∧ ten < f.firstScientific then
    if point ≤ 0 then
      "0." ++ String.ofList (List.replicate (-point).toNat '0' ++ digits)
    else if 0 ≤ e then
      String.ofList (digits ++ List.replicate e.toNat '0') ++ f.wholeEnd
    else
      String.ofList (digits.take point.toNat ++ '.' :: digits.drop point.toNat)
  else
    let mantissa := match digits with
      | [] => []
      | [d] => [d]
      | d :: ds => d :: '.' :: ds
    let exp := natText ten.natAbs
    let exp := if exp.length < 2 then "0" ++ exp else exp
    String.ofList mantissa ++ "e" ++ (if ten < 0 then "-" else "+") ++ exp

def floatText (f : NumberFormat) (x : Float) : String :=
  match Binary.of x with
  | .notANumber => f.notANumber
  | .infinite neg => (if neg then "-" else "") ++ f.infinite
  | .finite neg m q =>
    let sign := if neg then "-" else ""
    if m = 0 then sign ++ "0" ++ f.wholeEnd
    else
      let (n, e) := dropZeros 20 (shortest m q)
      sign ++ decimalText f n e

def complexText (re im : Float) : String :=
  let i := floatText .part im
  if re.toBits = 0 then i ++ "j"
  else
    let sign := if i.startsWith "-" then "" else "+"
    "(" ++ floatText .part re ++ sign ++ i ++ "j)"

/-! ## rounded numbers -/

def significantDigits : Nat := 6

def NumberFormat.significant : NumberFormat := ⟨-4, significantDigits, "", "inf", "nan"⟩

/-- a positive `m · 2 ^ q` rounded to the kept digits -/
def roundedDigits (m : Nat) (q : Int) : Nat × Int :=
  let i := Interval.of m q
  let e := i.places - significantDigits
  let n := i.floor e
  match i.half n e with
  | .lt => (n, e)
  | .gt => (n + 1, e)
  | .eq => (if n % 2 = 0 then n else n + 1, e)

def significantText (x : Float) : String :=
  match Binary.of x with
  | .finite neg m q =>
    if m = 0 then floatText .significant x
    else
      let (n, e) := dropZeros 20 (roundedDigits m q)
      (if neg then "-" else "") ++ decimalText .significant n e
  | _ => floatText .significant x

end CommandLine.Number
