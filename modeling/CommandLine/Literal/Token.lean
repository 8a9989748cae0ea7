import CommandLine.Number.Binary
import CommandLine.Text.CharClass
import CommandLine.Text.CharName
import CommandLine.Text.Compatibility

/-!
# Tokens of expressions

An argument is read as the text of one expression.  This module cuts the text into tokens: words,
numbers, quoted strings, signs and line ends.  Inside brackets line ends are blanks; outside,
blank lines and comments count for nothing and an indented line is refused.  `scan?` gives `none`
for a text that is not made of tokens, with more than `maxDepth` brackets open at once, or with
brackets open at its end.
-/

namespace CommandLine.Literal

/-- a number as it is written, sign apart -/
inductive Numeral where
  | whole (n : Nat)
  | real (x : Float)
  | imaginary (x : Float)

inductive Piece where
  | text (cs : List Char)
  | bytes (bs : List UInt8)
  /-- a string with fields to fill in: no literal.  Its body is kept as it is written. -/
  | template (raw : Bool) (body : List Char)

inductive Token where
  /-- a word as written, and its compatibility form -/
  | word (raw form : List Char)
  | number (n : Numeral)
  | string (p : Piece)
  | sign (cs : List Char)
  | newline

/-- how many brackets may be open at once -/
def maxDepth : Nat := 200

/-! ## characters -/

/-- a character that continues a word or a number: judged only afterwards, when the word is whole -/
def isWordLike (c : Char) : Bool := c.isAlphanum || c = '_' || 0x80 ≤ c.toNat

def isInlineBlank (c : Char) : Bool := c = ' ' || c = '\t' || c = '\x0c'

/-! ## numbers -/

/-- the value of a digit in a base up to sixteen -/
def digitIn? (base : Nat) (c : Char) : Option Nat :=
  let d? := if c.isDigit then some (c.toNat - '0'.toNat)
    else if 'a' ≤ c ∧ c ≤ 'f' then some (c.toNat - 'a'.toNat + 10)
    else if 'A' ≤ c ∧ c ≤ 'F' then some (c.toNat - 'A'.toNat + 10)
    else none
  match d? with
  | some d => if d < base then some d else none
  | none => none

/-- digits of a base with single underscores between them: their values in order and the rest.  An
underscore with no digit behind it is refused. -/
def digitRun (base : Nat) : List Char → Option (List Nat × List Char)
  | [] => some ([], [])
  | '_' :: c :: cs =>
    match digitIn? base c with
    | some d => (digitRun base cs).map fun (ds, r) => (d :: ds, r)
    | none => none
  | c :: cs =>
    if c = '_' then none
    else match digitIn? base c with
      | some d => (digitRun base cs).map fun (ds, r) => (d :: ds, r)
      | none => some ([], c :: cs)

def ofDigits (base : Nat) (ds : List Nat) : Nat := ds.foldl (fun n d => n * base + d) 0

/-- may a number end in front of this?  A word right behind it is refused, unless it starts with one
of the few keywords that can follow a number. -/
def endsNumber : List Char → Bool
  | [] => true
  | c :: cs =>
    let follows := fun (w : String) => w.toList.isPrefixOf (c :: cs)
    ["and", "else", "for", "if", "in", "is", "or", "not"].any follows || !isWordLike c

/-- the number under a base mark, its digits still to come -/
def markedNumber (base : Nat) (cs : List Char) : Option (Numeral × List Char) := do
  let (ds, rest) ← digitRun base cs
  if ds.isEmpty then none
  else if rest.head?.any Char.isDigit then none
  else if endsNumber rest then some (.whole (ofDigits base ds), rest)
  else none

def exponentPart : List Char → Option (Option Int × List Char)
  | c :: cs =>
    if c = 'e' ∨ c = 'E' then
      match cs with
      | s :: d :: _ =>
        if s = '+' ∨ s = '-' then
          if d.isDigit then do
            let (ds, rest) ← digitRun 10 (cs.drop 1)
            let n := Int.ofNat (ofDigits 10 ds)
            some (some (if s = '-' then -n else n), rest)
          else none
        else if s.isDigit then do
          let (ds, rest) ← digitRun 10 cs
          some (some (Int.ofNat (ofDigits 10 ds)), rest)
        else if endsNumber (c :: cs) then some (none, c :: cs) else none
      | [s] =>
        if s.isDigit then some (some (Int.ofNat (s.toNat - '0'.toNat)), [])
        else if s = '+' ∨ s = '-' then none
        else if endsNumber (c :: cs) then some (none, c :: cs) else none
      | [] => if endsNumber (c :: cs) then some (none, c :: cs) else none
    else some (none, c :: cs)
  | [] => some (none, [])

/-- ends a number that has a point, an exponent or an imaginary mark -/
def realEnd (ds : List Nat) (places : Nat) (isReal : Bool) (cs : List Char) :
    Option (Option Numeral × List Char) := do
  let (e?, rest) ← exponentPart cs
  let x := fun (_ : Unit) =>
    Number.ofDecimal (ofDigits 10 ds) (e?.getD 0 - Int.ofNat places)
  match rest with
  | 'j' :: r | 'J' :: r => if endsNumber r then some (some (.imaginary (x ())), r) else none
  | r =>
    -- an exponent letter that started a keyword has been judged already
    if e?.isSome || isReal then
      if endsNumber r then some (some (.real (x ())), r) else none
    else some (none, r)

/-- the number at the front of a text that starts with a digit -/
def decimalNumber (cs : List Char) : Option (Numeral × List Char) := do
  let (ds, rest) ← digitRun 10 cs
  let (fs, isReal, rest) ← match rest with
    | '.' :: r =>
      if r.head?.any Char.isDigit then (digitRun 10 r).map fun (fs, r) => (fs, true, r)
      else some ([], true, r)
    | r => some ([], false, r)
  match ← realEnd (ds ++ fs) fs.length isReal rest with
  | (some n, r) => some (n, r)
  | (none, r) =>
    -- in front of `else` a number with leading zeros is taken for a real one
    let leading := ds.head? = some 0 && ds.any (· ≠ 0) && r.head? ≠ some 'e'
    -- zeros alone are a zero, however many they are
    if leading || (ds.any (· ≠ 0) && Number.maxDigits < ds.length) then none
    else if endsNumber r then some (.whole (ofDigits 10 ds), r)
    else none

def fractionNumber (cs : List Char) : Option (Numeral × List Char) := do
  let (fs, rest) ← digitRun 10 cs
  match ← realEnd fs fs.length true rest with
  | (some n, r) => some (n, r)
  | (none, _) => none

def number (cs : List Char) : Option (Numeral × List Char) :=
  match cs with
  | '0' :: 'x' :: r | '0' :: 'X' :: r => markedNumber 16 r
  | '0' :: 'o' :: r | '0' :: 'O' :: r => markedNumber 8 r
  | '0' :: 'b' :: r | '0' :: 'B' :: r => markedNumber 2 r
  | _ => decimalNumber cs

/-! ## strings -/

/-- what a string's letters in front of its quote say -/
structure Marks where
  raw : Bool := false
  bytes : Bool := false
  template : Bool := false

/-- the marks of a word that stands right in front of a quote; `none` for an ordinary word -/
def marks? (w : List Char) : Option Marks :=
  match w.map Char.toLower with
  | [] | ['u'] => some {}
  | ['r'] => some { raw := true }
  | ['b'] => some { bytes := true }
  | ['f'] => some { template := true }
  | ['b', 'r'] | ['r', 'b'] => some { raw := true, bytes := true }
  | ['f', 'r'] | ['r', 'f'] => some { raw := true, template := true }
  | _ => none

/-- the body of a string up to its closing quotes, escapes left as they are -/
def stringBody (q : Char) (triple : Bool) : List Char → Option (List Char × List Char)
  | [] => none
  | '\\' :: c :: cs => (stringBody q triple cs).map fun (b, r) => ('\\' :: c :: b, r)
  | c :: cs =>
    if c = q then
      if triple then
        match cs with
        | d :: e :: r =>
          if d = q ∧ e = q then some ([], r)
          else (stringBody q triple cs).map fun (b, r) => (c :: b, r)
        | _ => none
      else some ([], cs)
    else if c = '\n' ∧ ¬ triple then none
    else (stringBody q triple cs).map fun (b, r) => (c :: b, r)

def hexRun : Nat → Nat → List Char → Option (Nat × List Char)
  | 0, acc, cs => some (acc, cs)
  | _ + 1, _, [] => none
  | n + 1, acc, c :: cs =>
    match digitIn? 16 c with
    | some d => hexRun n (acc * 16 + d) cs
    | none => none

def octalRun : Nat → Nat → List Char → Nat × List Char
  | 0, acc, cs => (acc, cs)
  | _ + 1, acc, [] => (acc, [])
  | n + 1, acc, c :: cs =>
    match digitIn? 8 c with
    | some d => octalRun n (acc * 8 + d) cs
    | none => (acc, c :: cs)

def simpleEscape? (c : Char) : Option Nat :=
  match c with
  | '\\' => some 0x5c
  | '\'' => some 0x27
  | '"' => some 0x22
  | 'a' => some 7
  | 'b' => some 8
  | 'f' => some 12
  | 'n' => some 10
  | 'r' => some 13
  | 't' => some 9
  | 'v' => some 11
  | _ => none

/-- what the escape behind a backslash stands for, and the rest.  `wide` admits the escapes by code
point.  `none` refuses the string; an unknown escape stands for itself, backslash included, and so
does a backslash at the end. -/
def escape (wide : Bool) : List Char → Option (List Nat × List Char)
  | [] => some ([0x5c], [])
  | '\n' :: cs => some ([], cs)
  | c :: cs =>
    match simpleEscape? c with
    | some n => some ([n], cs)
    | none =>
      match digitIn? 8 c with
      | some d => let (n, r) := octalRun 2 d cs; some ([n], r)
      | none =>
        if c = 'x' then (hexRun 2 0 cs).map fun (n, r) => ([n], r)
        else if c = 'u' ∧ wide then (hexRun 4 0 cs).map fun (n, r) => ([n], r)
        else if c = 'U' ∧ wide then
          match hexRun 8 0 cs with
          | some (n, r) => if n ≤ 0x10ffff then some ([n], r) else none
          | none => none
        else if c = 'N' ∧ wide then
          match cs with
          | '\x7b' :: r => do
            let (name, rest) ← Text.cutChars '\x7d' r
            let n ← Text.charNamed? name
            some ([n], rest)
          | _ => none
        else some ([0x5c, c.toNat], cs)

/-- the code points of a string's body; each round takes at least one character -/
def unescape (wide : Bool) : Nat → List Char → Option (List Nat)
  | 0, _ => some []
  | _ + 1, [] => some []
  | fuel + 1, '\\' :: cs =>
    match escape wide cs with
    | some (ns, r) => (unescape wide fuel r).map (ns ++ ·)
    | none => none
  | fuel + 1, c :: cs => (unescape wide fuel cs).map (c.toNat :: ·)

/-- the character of a code point; half of a surrogate pair is none -/
def charOf? (n : Nat) : Option Char := if n.isValidChar then some (Char.ofNat n) else none

/-- the content of a string from its body; a text with half of a surrogate pair is refused -/
def piece (m : Marks) (body : List Char) : Option Piece :=
  if m.template then some (.template m.raw body)
  else if m.bytes then
    if body.any (0x80 ≤ ·.toNat) then none
    else if m.raw then some (.bytes (body.map fun c => c.toNat.toUInt8))
    else (unescape false body.length body).map fun ns => .bytes (ns.map (·.toUInt8))
  else if m.raw then some (.text body)
  else do
    let ns ← unescape true body.length body
    let cs ← ns.mapM charOf?
    some (.text cs)

def string (m : Marks) (q : Char) (cs : List Char) : Option (Piece × List Char) := do
  let (body, rest) ← match cs with
    | a :: b :: r =>
      if a = q ∧ b = q then stringBody q true r
      else if a = q then some ([], b :: r)
      else stringBody q false cs
    | [a] => if a = q then some ([], []) else none
    | [] => none
  if body.contains '\x00' then none
  let p ← piece m body
  some (p, rest)

/-! ## signs -/

def signs : List (List Char) :=
  ["**=", "//=", ">>=", "<<=", "...", "!=", "**", "*=", "+=", "-=", "->", "//", "/=", ":=", "<=",
    "<>", "<<", "==", ">=", ">>", "@=", "%=", "&=", "^=", "|=", "(", ")", "[", "]", "\x7b",
    "\x7d", ",", ":", ";", ".", "+", "-", "*", "/", "%", "@", "&", "|", "^", "~", "<", ">",
    "="].map String.toList

def sign? (cs : List Char) : Option (List Char) := signs.find? (·.isPrefixOf cs)

def isOpening (s : List Char) : Bool := s = ['('] || s = ['['] || s = ['\x7b']
def isClosing (s : List Char) : Bool := s = [')'] || s = [']'] || s = ['\x7d']

/-! ## the scan -/

/-- the column of the first character of a line that is no blank, and what starts there.  A line may
go on behind a backslash; then the column of the first backslash counts, if it is not zero. -/
def lineStart : Nat → Nat → List Char → Option (Nat × List Char)
  | first, col, ' ' :: cs => lineStart first (col + 1) cs
  | first, col, '\t' :: cs => lineStart first ((col / 8 + 1) * 8) cs
  | first, _, '\x0c' :: cs => lineStart first 0 cs
  | first, col, '\\' :: '\n' :: cs =>
    if cs.isEmpty then none else lineStart (if first = 0 then col else first) col cs
  | _, _, '\\' :: _ => none
  | first, col, cs => some (if first = 0 then col else first, cs)

def skipComment (cs : List Char) : List Char := cs.dropWhile (· ≠ '\n')

def token? (cs : List Char) : Option (Token × List Char) :=
  match cs with
  | [] => none
  | c :: r =>
    if c.isDigit then (number cs).map fun (n, r) => (.number n, r)
    else if c = '.' ∧ r.head?.any Char.isDigit then
      (fractionNumber r).map fun (n, r) => (.number n, r)
    else if c = '"' ∨ c = '\'' then (string {} c r).map fun (p, r) => (.string p, r)
    else if isWordLike c then
      let w := cs.takeWhile isWordLike
      let rest := cs.dropWhile isWordLike
      match rest, marks? w with
      | '"' :: r, some m => (string m '"' r).map fun (p, r) => (.string p, r)
      | '\'' :: r, some m => (string m '\'' r).map fun (p, r) => (.string p, r)
      | _, _ => if Text.isWord w then some (.word w (Text.compatible w), rest) else none
    else (sign? cs).map fun s => (.sign s, cs.drop s.length)

/-- the tokens of a text; `depth` brackets are open, `fresh` at the start of a line.  Each round
takes at least one character. -/
def scan : Nat → Nat → Bool → List Char → Option (List Token)
  | 0, _, _, _ => none
  | fuel + 1, depth, true, cs =>
    match lineStart 0 0 cs with
    | some (_, '\n' :: r) => scan fuel depth true r
    | some (_, '#' :: r) => scan fuel depth true ((skipComment r).drop 1)
    | some (0, []) => some []
    | some (0, r) => scan fuel depth false r
    | _ => none
  | fuel + 1, depth, false, cs =>
    match cs.dropWhile isInlineBlank with
    | [] => if depth = 0 then some [] else none
    | '#' :: r => scan fuel depth false (skipComment r)
    | '\n' :: r =>
      if depth = 0 then (scan fuel depth true r).map (.newline :: ·)
      else scan fuel depth false r
    | '\\' :: '\n' :: r => if r.isEmpty then none else scan fuel depth false r
    | r =>
      match token? r with
      | none => none
      | some (.sign s, r) =>
        if isOpening s then
          if depth < maxDepth then (scan fuel (depth + 1) false r).map (.sign s :: ·) else none
        else if isClosing s then
          if depth = 0 then none else (scan fuel (depth - 1) false r).map (.sign s :: ·)
        else (scan fuel depth false r).map (.sign s :: ·)
      | some (t, r) => (scan fuel depth false r).map (t :: ·)

def unifyLineEnds : List Char → List Char
  | [] => []
  | '\r' :: '\n' :: cs => '\n' :: unifyLineEnds cs
  | c :: cs => (if c = '\r' then '\n' else c) :: unifyLineEnds cs

/-- the tokens of a text.  A zero character belongs to none of them, so it can stand in comments
only. -/
def scan? (cs : List Char) : Option (List Token) :=
  let cs := unifyLineEnds cs
  scan (2 * cs.length + 3) 0 true cs

end CommandLine.Literal
