/-!
# Pairs of characters in one

A long table is written in signs.  A sign is a character that the text of the table does not have, and
stands for two others, which may be signs again.  The signs are some characters of ASCII and then the
characters from U+0100 on, in this order; a sign stands for earlier ones only.

A passage that stands earlier in the table need not be written again.  Two characters stand for it: one
from U+0180 on says how many characters back it starts, or an ideograph from U+4E00 on if these are many,
and the character behind it says how long it is, `#` being the shortest length.
-/

namespace CommandLine.Text

structure PairCode where
  /-- the signs that are characters of ASCII -/
  asciiSigns : List Char
  /-- the two characters of the first sign, of the second, and so on -/
  pairs : List Char

namespace PairCode

def number? (p : PairCode) (c : Char) : Option Nat :=
  if c.toNat < 0x80 then p.asciiSigns.idxOf? c else some (p.asciiSigns.length + (c.toNat - 0x100))

/-- what a character stands for, given what the signs do -/
def spell (p : PairCode) (meanings : Array (List Char)) (c : Char) : List Char :=
  match p.number? c with
  | some n => meanings.getD n []
  | none => [c]

/-- what the signs stand for, the first argument being what those before do -/
def meaningsFrom (p : PairCode) : Array (List Char) → List Char → Array (List Char)
  | known, a :: b :: rest =>
    p.meaningsFrom (known.push (p.spell known a ++ p.spell known b)) rest
  | known, _ => known

def meanings (p : PairCode) : Array (List Char) := p.meaningsFrom #[] p.pairs

def shortestPassage : Nat := 4

/-- does the character say where a passage starts? -/
def isBack (c : Char) : Bool := 0x180 ≤ c.toNat

/-- the passage of a text that a character which says where it starts and the one behind it stand for -/
def passage (text : Array Char) (back length : Char) : Array Char :=
  let start := text.size - (back.toNat - if back.toNat < 0x4e00 then 0x180 else 0x4e00)
  text.extract start (start + shortestPassage + (length.toNat - '#'.toNat))

/-- the text that signs, passages and other characters stand for, the second argument being what
those before do -/
def decodeFrom (p : PairCode) (meanings : Array (List Char)) : Array Char → List Char → Array Char
  | text, c :: d :: cs =>
    if isBack c then p.decodeFrom meanings (text ++ passage text c d) cs
    else p.decodeFrom meanings (text ++ p.spell meanings c) (d :: cs)
  | text, [c] => text ++ p.spell meanings c
  | text, [] => text

def decode (p : PairCode) (lines : List String) : List Char :=
  (p.decodeFrom p.meanings #[] (lines.flatMap String.toList)).toList

end PairCode

end CommandLine.Text
