import CommandLine.Text.Basic
import CommandLine.Text.CharName.Common
import CommandLine.Text.CharName.From0
import CommandLine.Text.CharName.From1000
import CommandLine.Text.CharName.From10000
import CommandLine.Text.CharName.From13000
import CommandLine.Text.CharName.From1C000
import CommandLine.Text.CharName.From2000
import CommandLine.Text.CharName.From3000
import CommandLine.Text.CharName.Second
import CommandLine.Text.CodeTable

/-!
# Characters by name

The code point of the character with a given name.  Most names stand in tables.  The ideographs of
some scripts are named by their code points, and Hangul syllables by their letters.  Names from the
tables may be written in letters of either case.

A table is written in signs (`nameSigns`), and the names stand in order of the code points.  A name starts
with a letter from `a` to `j`, the number of words that it takes over from the front of the name before
it, and its other words follow.  A slash and a digit before them stand for so many words from the end of
the name before.  A letter from `k` to `z` with the character behind it stands for a common word; other
words stand as they are, with a space between two of them.  Where the code point is not the next one, it
stands first, between equals signs.  A plus sign and a number behind a name stand for so many further
names, each with the number at its end one higher than in the name before.
-/

namespace CommandLine.Text

/-- the value of hexadecimal digits in upper case -/
def upperHex? (cs : List Char) : Option Nat :=
  cs.foldlM (fun n c =>
    if c.isDigit then some (n * 16 + (c.toNat - '0'.toNat))
    else if 'A' ≤ c ∧ c ≤ 'F' then some (n * 16 + (c.toNat - 'A'.toNat + 10))
    else none) 0

/-! ## tables -/

def commonWords : Array String := (commonWordLines.flatMap (splitAtChar ' ')).toArray

def commonWord (c d : Char) : String :=
  let place := if d.isDigit then 26 + (d.toNat - '0'.toNat) else d.toNat - 'A'.toNat
  commonWords.getD ((c.toNat - 'k'.toNat) * 36 + place) ""

/-- the words written in a table; the first argument collects a word, last character first -/
def tableNameWords : List Char → List Char → List String
  | word, [] => wordOf word
  | word, c :: cs =>
    if c = ' ' then wordOf word ++ tableNameWords [] cs
    else if 'k' ≤ c ∧ c ≤ 'z' then
      match cs with
      | d :: cs => wordOf word ++ commonWord c d :: tableNameWords [] cs
      | [] => wordOf word
    else tableNameWords (c :: word) cs
where
  wordOf (word : List Char) : List String :=
    if word.isEmpty then [] else [String.ofList word.reverse]

structure NameItem where
  code? : Option Nat
  kept : Nat
  keptLast : Nat
  words : List String
  further : Nat

def NameItem.ofChars (cs : List Char) : NameItem :=
  let rest := cs.drop 1
  let (code?, rest) := match rest with
    | '=' :: cs => match cutChars '=' cs with
      | some (code, rest) => (upperHex? code, rest)
      | none => (none, rest)
    | _ => (none, rest)
  let (keptLast, rest) := match rest with
    | '/' :: d :: cs => (d.toNat - '0'.toNat, cs)
    | _ => (0, rest)
  let (rest, further) := match cutChars '+' rest with
    | some (rest, n) => (rest, n.foldl (fun n c => n * 10 + (c.toNat - '0'.toNat)) 0)
    | none => (rest, 0)
  { code?, kept := (cs.headD 'a').toNat - 'a'.toNat, keptLast, words := tableNameWords [] rest
    further }

def nameItems (lines : List String) : List NameItem :=
  ((nameSigns.decode lines).splitBy fun _ c => !('a' ≤ c ∧ c ≤ 'j')).map NameItem.ofChars

/-- a place in a table: the code point of the next name, and the words of the last one -/
structure NameSpot where
  code : Nat := 0
  words : List String := []

def NameSpot.next (s : NameSpot) (i : NameItem) : NameSpot :=
  { code := i.code?.getD s.code + 1
    words := s.words.take i.kept ++ i.words ++ s.words.drop (s.words.length - i.keptLast) }

/-- the next number, the digits of both being written last one first -/
def countDigits : List Char → List Char
  | [] => []
  | c :: cs => if c = '9' then '0' :: countDigits cs else Char.ofNat (c.toNat + 1) :: cs

/-- the place behind the name that counts on -/
def NameSpot.counted (s : NameSpot) : NameSpot :=
  { code := s.code + 1
    words := s.words.dropLast ++ (s.words.getLast?.map fun w =>
      String.ofList (countDigits w.toList.reverse).reverse).toList }

/-- the code point under a name from a place on where names count on, or the place behind them -/
def NameSpot.find (name : List String) : Nat → NameSpot → Except Nat NameSpot
  | 0, s => if s.words = name then .error (s.code - 1) else .ok s
  | n + 1, s => if s.words = name then .error (s.code - 1) else s.counted.find name n

def findName (name : List String) (table : List String) : Option Nat :=
  let step (s : NameSpot) (i : NameItem) : Except Nat NameSpot := (s.next i).find name i.further
  match (nameItems table).foldlM step {} with
  | .error code => some code
  | .ok _ => none

def nameTables : List (List String) :=
  [secondNames, namesFrom0, namesFrom1000, namesFrom2000, namesFrom3000, namesFrom10000,
    namesFrom13000, namesFrom1C000]

/-! ## names by rule -/

/-- the ideographs of one script: their names start with a word and end in the code point -/
structure IdeographNames where
  start : String
  ranges : List CodeRange

def unifiedIdeographs : IdeographNames where
  start := "CJK UNIFIED IDEOGRAPH-"
  ranges := rangeTable
    [ "3400-4dbf 4e00-9fff 20000-2a6df 2a700-2b738 2b740-2b81d 2b820-2cea1 2ceb0-2ebe0"
    , "30000-3134a" ]

def otherIdeographs : List IdeographNames :=
  [ { start := "CJK COMPATIBILITY IDEOGRAPH-"
      ranges := rangeTable ["f900-fa6d fa70-fad9 2f800-2fa1d"] }
  , { start := "KHITAN SMALL SCRIPT CHARACTER-", ranges := rangeTable ["18b00-18cd5"] }
  , { start := "NUSHU CHARACTER-", ranges := rangeTable ["1b170-1b2fb"] } ]

/-- the ideograph with a name that starts as it should; with `padded` a zero may stand before four
digits -/
def IdeographNames.code? (i : IdeographNames) (padded : Bool) (name : List Char) : Option Nat := do
  let digits := name.drop i.start.length
  let code ← upperHex? digits
  if (digits.length = 4 ∨ digits.length = 5) ∧ i.ranges.any (·.has code) ∧
      (padded ∨ digits.head? ≠ some '0') then some code
  else none

def hangulLeads : List String :=
  ["G", "GG", "N", "D", "DD", "R", "M", "B", "BB", "S", "SS", "", "J", "JJ", "C", "K", "T", "P",
    "H"]

def hangulVowels : List String :=
  ["A", "AE", "YA", "YAE", "EO", "E", "YEO", "YE", "O", "WA", "WAE", "OE", "YO", "U", "WEO", "WE",
    "WI", "YU", "EU", "YI", "I"]

def hangulTails : List String :=
  ["", "G", "GG", "GS", "N", "NJ", "NH", "D", "L", "LG", "LM", "LB", "LS", "LT", "LP", "LH", "M",
    "B", "BS", "S", "SS", "NG", "J", "C", "K", "T", "P", "H"]

/-- the longest of the letters at the front: its number and what follows it -/
def longestLetter (letters : List String) (cs : List Char) : Option (Nat × List Char) :=
  let fits := letters.zipIdx.filter fun p => p.1.toList.isPrefixOf cs
  match fits.foldl (fun (best : Option (String × Nat)) p => match best with
      | some b => if b.1.length < p.1.length then some p else best
      | none => some p) none with
  | some (s, i) => some (i, cs.drop s.length)
  | none => none

def hangulCode? (cs : List Char) : Option Nat := do
  let (l, cs) ← longestLetter hangulLeads cs
  let (v, cs) ← longestLetter hangulVowels cs
  let (t, cs) ← longestLetter hangulTails cs
  if cs.isEmpty then some (0xac00 + (l * 21 + v) * 28 + t) else none

def hangulStart : List Char := "HANGUL SYLLABLE ".toList

/-! ## all names -/

def charNamed? (name : List Char) : Option Nat :=
  if hangulStart.isPrefixOf name then hangulCode? (name.drop hangulStart.length)
  else if unifiedIdeographs.start.toList.isPrefixOf name then unifiedIdeographs.code? true name
  else
    let name := name.map Char.toUpper
    match otherIdeographs.find? fun i => i.start.toList.isPrefixOf name with
    | some i => i.code? false name
    | none =>
      let words := splitAtChar ' ' (String.ofList name)
      nameTables.findSome? (findName words)

end CommandLine.Text
