import CommandLine.Text.CharClass

/-!
# Quoted text

A text is shown between quotes: single ones, or double ones if it holds a single quote and no
double one.  The quote, the backslash and the characters that are not printable are escaped, the
latter with two, four or eight hexadecimal digits as their size needs.  Byte strings are shown
alike after a `b`, every byte outside printable ASCII as two digits.
-/

namespace CommandLine.Text

def hexChar (n : Nat) : Char := (Nat.toDigits 16 (n % 16)).headD '0'

def hexPadded : Nat → Nat → List Char
  | 0, _ => []
  | width + 1, n => hexPadded width (n / 16) ++ [hexChar n]

/-- the quote for a text that holds single quotes or double quotes or both or none -/
def quoteFor (single double : Bool) : Char := if single && !double then '"' else '\''

def escapeCode (n : Nat) : List Char :=
  if n ≤ 0xff then '\\' :: 'x' :: hexPadded 2 n
  else if n ≤ 0xffff then '\\' :: 'u' :: hexPadded 4 n
  else '\\' :: 'U' :: hexPadded 8 n

def escapeChar (q c : Char) : List Char :=
  if c = q ∨ c = '\\' then ['\\', c]
  else if c = '\t' then ['\\', 't']
  else if c = '\n' then ['\\', 'n']
  else if c = '\r' then ['\\', 'r']
  else if isPrintable c then [c]
  else escapeCode c.toNat

def quoteChars (cs : List Char) : List Char :=
  let q := quoteFor (cs.contains '\'') (cs.contains '"')
  q :: cs.flatMap (escapeChar q) ++ [q]

def quoted (s : String) : String := String.ofList (quoteChars s.toList)

def escapeByte (q : Char) (b : UInt8) : List Char :=
  let c := Char.ofNat b.toNat
  if c = q ∨ c = '\\' then ['\\', c]
  else if c = '\t' then ['\\', 't']
  else if c = '\n' then ['\\', 'n']
  else if c = '\r' then ['\\', 'r']
  else if 0x20 ≤ b.toNat ∧ b.toNat < 0x7f then [c]
  else '\\' :: 'x' :: hexPadded 2 b.toNat

def quotedBytes (b : List UInt8) : String :=
  let q := quoteFor (b.contains 0x27) (b.contains 0x22)
  String.ofList ('b' :: q :: b.flatMap (escapeByte q) ++ [q])

end CommandLine.Text
