import CommandLine.Number.Binary
import CommandLine.Text.Basic
import CommandLine.Text.CharClass

/-!
# Numbers from text

Whole, floating point and complex numbers as conversions read them: blanks around the number are
dropped, digits of every script count, and single underscores may stand between digits.  The
information separators are blanks elsewhere, but not here.
-/

namespace CommandLine.Number

def isBlank (c : Char) : Bool := Text.isBlank c && !(0x1c ≤ c.toNat && c.toNat ≤ 0x1f)

/-- digits in ASCII and blanks as spaces, other characters as they are -/
def plainDigits (cs : List Char) : List Char :=
  cs.map fun c =>
    match Text.digitValue? c with
    | some d => Char.ofNat ('0'.toNat + d)
    | none => if isBlank c then ' ' else c

def trimmed (s : String) : List Char :=
  Text.trimRightOf (· = ' ') (Text.trimLeftOf (· = ' ') (plainDigits s.toList))

def digitsOnly? : List Char → Option (List Char)
  | [] => none
  | [c] => if c.isDigit then some [c] else none
  | c :: '_' :: d :: cs => if c.isDigit then (digitsOnly? (d :: cs)).map (c :: ·) else none
  | c :: cs => if c.isDigit then (digitsOnly? cs).map (c :: ·) else none

def natOfDigits (ds : List Char) : Nat :=
  ds.foldl (fun n c => n * 10 + (c.toNat - '0'.toNat)) 0

def splitSign : List Char → Bool × List Char
  | '-' :: cs => (true, cs)
  | '+' :: cs => (false, cs)
  | cs => (false, cs)

inductive IntRefusal where
  | malformed
  | tooLong (digits : Nat)

def parseInt (s : String) : Except IntRefusal Int :=
  let (negative, cs) := splitSign (trimmed s)
  match digitsOnly? cs with
  | none => .error .malformed
  | some ds =>
    if maxDigits < ds.length then .error (.tooLong ds.length)
    else
      let n := Int.ofNat (natOfDigits ds)
      .ok (if negative then -n else n)

/-- underscores only between digits; the text without them -/
def dropUnderscores? : Bool → List Char → Option (List Char)
  | _, [] => some []
  | before, '_' :: c :: cs =>
    if before && c.isDigit then (dropUnderscores? true cs).map (c :: ·) else none
  | _, c :: cs =>
    if c = '_' then none
    else (dropUnderscores? (c.isDigit) cs).map (c :: ·)

/-- the unsigned floating point number at the front of a text, and the rest -/
def unsignedFloat? (cs : List Char) : Option (Float × List Char) :=
  let low := cs.map Char.toLower
  if "infinity".toList.isPrefixOf low then some (1.0 / 0.0, cs.drop 8)
  else if "inf".toList.isPrefixOf low then some (1.0 / 0.0, cs.drop 3)
  else if "nan".toList.isPrefixOf low then some (0.0 / 0.0, cs.drop 3)
  else
    let whole := cs.takeWhile Char.isDigit
    let rest := cs.dropWhile Char.isDigit
    let (fraction, rest) := match rest with
      | '.' :: r => (r.takeWhile Char.isDigit, r.dropWhile Char.isDigit)
      | r => ([], r)
    if whole.isEmpty && fraction.isEmpty then none
    else
      let digits := natOfDigits (whole ++ fraction)
      let places := Int.ofNat fraction.length
      match rest with
      | c :: r =>
        if c = 'e' ∨ c = 'E' then
          let (negative, r) := splitSign r
          let ds := r.takeWhile Char.isDigit
          if ds.isEmpty then some (ofDecimal digits (-places), rest)
          else
            let e := Int.ofNat (natOfDigits ds)
            some (ofDecimal digits ((if negative then -e else e) - places),
              r.dropWhile Char.isDigit)
        else some (ofDecimal digits (-places), rest)
      | [] => some (ofDecimal digits (-places), [])

def signedFloat? (cs : List Char) : Option (Float × List Char) :=
  let (negative, cs) := splitSign cs
  (unsignedFloat? cs).map fun (x, r) => (if negative then -x else x, r)

/-- does a text have an underscore that does not stand between digits? -/
def hasStrayUnderscore (s : String) : Bool := (dropUnderscores? false (trimmed s)).isNone

def parseFloat? (s : String) : Option Float := do
  let cs ← dropUnderscores? false (trimmed s)
  match ← signedFloat? cs with
  | (x, []) => some x
  | _ => none

def isImaginaryMark (c : Char) : Bool := c = 'j' || c = 'J'

/-- the imaginary part that a bare sign before the mark stands for -/
def signOnly? : List Char → Option (Float × List Char)
  | '+' :: c :: r => if isImaginaryMark c then some (1.0, c :: r) else none
  | '-' :: c :: r => if isImaginaryMark c then some (-1.0, c :: r) else none
  | c :: r => if isImaginaryMark c then some (1.0, c :: r) else none
  | [] => none

/-- a complex number: a real part, an imaginary part with its mark, or both -/
def complexBody? (cs : List Char) : Option (Float × Float) :=
  match signedFloat? cs with
  | some (x, []) => some (x, 0.0)
  | some (x, c :: r) =>
    if isImaginaryMark c then if r.isEmpty then some (0.0, x) else none
    else if c = '+' ∨ c = '-' then
      match (signedFloat? (c :: r)).orElse fun _ => signOnly? (c :: r) with
      | some (y, [m]) => if isImaginaryMark m then some (x, y) else none
      | _ => none
    else none
  | none =>
    match signOnly? cs with
    | some (y, [_]) => some (0.0, y)
    | _ => none

def parseComplex? (s : String) : Option (Float × Float) := do
  let cs ← dropUnderscores? false (trimmed s)
  match cs with
  | '(' :: r =>
    match (Text.trimRightOf (· = ' ') (Text.trimLeftOf (· = ' ') r)).reverse with
    | ')' :: inner => complexBody? (Text.trimRightOf (· = ' ') inner.reverse)
    | _ => none
  | _ => complexBody? cs

end CommandLine.Number
