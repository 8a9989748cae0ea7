/-!
# Tables over code points

Three written forms of a table, and how they are looked up.

* A **range table** is a list of words `lo-hi` or `lo` in hexadecimal: the set of the code points
  that lie in one of the ranges.
* A **gap table** is one of many ranges: a list of numbers, which say by turns how many code points
  lie before a range and how many follow its first one.  A number is written in base 26, with capital
  letters for all its digits but the last and a small letter for that one.
* A **map table** is a list of words `lo-hi:t` or `lo-hi/2:t` (the code points `lo`, `lo + step`,
  …, `hi` go to `t`, `t + step`, …) and `c:a.b.c` (the single code point `c` goes to a sequence, in
  which a plus sign may stand for a point).
  A word without a colon is that of the code point behind those of the word before.  A code point
  under no word stays as it is.

The text is split once, when the table is first needed; the look-ups walk the entries.
-/

namespace CommandLine.Text

def hexDigit? (c : Char) : Option Nat :=
  if '0' ≤ c ∧ c ≤ '9' then some (c.toNat - '0'.toNat)
  else if 'a' ≤ c ∧ c ≤ 'f' then some (c.toNat - 'a'.toNat + 10)
  else none

/-- reads the hexadecimal digits at the front, and gives what follows them -/
def readHex : Nat → List Char → Nat × List Char
  | acc, [] => (acc, [])
  | acc, c :: cs =>
    match hexDigit? c with
    | some d => readHex (acc * 16 + d) cs
    | none => (acc, c :: cs)

def tableWords (lines : List String) : List (List Char) :=
  lines.flatMap fun line => line.toList.splitOn ' '

/-! ## ranges -/

/-- the code points from `lo` to `hi` -/
structure CodeRange where
  lo : Nat
  hi : Nat

def CodeRange.ofWord (w : List Char) : CodeRange :=
  let (lo, rest) := readHex 0 w
  match rest with
  | '-' :: r => ⟨lo, (readHex 0 r).1⟩
  | _ => ⟨lo, lo⟩

def CodeRange.has (r : CodeRange) (n : Nat) : Bool := r.lo ≤ n && n ≤ r.hi

def rangeTable (lines : List String) : List CodeRange := (tableWords lines).map CodeRange.ofWord

/-- the numbers of a gap table, the first argument being the digits read so far -/
def readNumbers : Nat → List Char → List Nat
  | _, [] => []
  | acc, c :: cs =>
    if c ≤ 'Z' then readNumbers (acc * 26 + (c.toNat - 'A'.toNat)) cs
    else (acc * 26 + (c.toNat - 'a'.toNat)) :: readNumbers 0 cs

def rangesFrom : Nat → List Nat → List CodeRange
  | n, gap :: more :: ns => ⟨n + gap, n + gap + more⟩ :: rangesFrom (n + gap + more + 1) ns
  | _, _ => []

def gapTable (lines : List String) : List CodeRange :=
  rangesFrom 0 (readNumbers 0 (lines.flatMap String.toList))

/-! ## maps -/

/-- `lo`, `lo + step`, … up to `hi` go to `target`, or a single code point goes to a sequence -/
structure CodeEntry where
  lo : Nat
  hi : Nat
  step : Nat
  target : List Nat

def readTarget : Nat → List Char → List Nat
  | 0, _ => []
  | fuel + 1, cs =>
    let (n, rest) := readHex 0 cs
    match rest with
    | '.' :: r | '+' :: r => n :: readTarget fuel r
    | _ => [n]

/-- the entry of a word, `next` being the code point behind those of the word before -/
def CodeEntry.ofWord (next : Nat) (w : List Char) : CodeEntry :=
  if !w.contains ':' then ⟨next, next, 1, readTarget w.length w⟩ else
  let (lo, rest) := readHex 0 w
  let (hi, rest) := match rest with
    | '-' :: r => readHex 0 r
    | _ => (lo, rest)
  let (step, rest) := match rest with
    | '/' :: r => readHex 0 r
    | _ => (1, rest)
  ⟨lo, hi, step, readTarget w.length (rest.drop 1)⟩

/-- where the entry sends `n`, if it speaks of `n` -/
def CodeEntry.image? (e : CodeEntry) (n : Nat) : Option (List Nat) :=
  if e.lo ≤ n ∧ n ≤ e.hi ∧ (n - e.lo) % e.step = 0 then
    match e.target with
    | [t] => some [t + (n - e.lo)]
    | ts => some ts
  else none

def mapEntries : Nat → List (List Char) → List CodeEntry
  | _, [] => []
  | next, w :: ws =>
    let e := CodeEntry.ofWord next w
    e :: mapEntries (e.hi + 1) ws

def mapTable (lines : List String) : List CodeEntry := mapEntries 0 (tableWords lines)

def CodeEntry.lookup (table : List CodeEntry) (n : Nat) : Option (List Nat) :=
  table.findSome? (·.image? n)

end CommandLine.Text
