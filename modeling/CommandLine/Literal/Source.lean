import CommandLine.Literal.Token
import CommandLine.Text.Basic

/-!
# The characters of a byte string

A byte string that is to be read as an expression holds characters in UTF-8, unless a comment in
one of its first two lines declares another encoding: `coding` with a colon or an equals sign and a
name behind it.  A byte order mark goes with UTF-8 only.  Bytes that stand for no character are kept
as zero characters, which no token takes, so that they do no harm in comments.
-/

namespace CommandLine.Literal

/-! ## UTF-8 -/

/-- the lower six bits of a byte that continues a character -/
def tailBits? (b : UInt8) : Option Nat :=
  if 0x80 ≤ b ∧ b < 0xc0 then some (b.toNat - 0x80) else none

/-- a character of several bytes, if its code needs so many and is one of a character -/
def wideChar? (least code : Nat) : Option Char :=
  if least ≤ code ∧ code < 0x110000 ∧ ¬ (0xd800 ≤ code ∧ code < 0xe000) then
    some (Char.ofNat code)
  else none

/-- the character at the front of the bytes, and the number of its bytes behind the first -/
def firstChar? (b : UInt8) (rest : List UInt8) : Option (Char × Nat) :=
  if b < 0x80 then some (Char.ofNat b.toNat, 0)
  else match (rest.take 3).map tailBits? with
    | some x :: more =>
      if 0xc0 ≤ b ∧ b < 0xe0 then
        (wideChar? 0x80 ((b.toNat - 0xc0) * 64 + x)).map (·, 1)
      else match more with
        | some y :: more =>
          if 0xe0 ≤ b ∧ b < 0xf0 then
            (wideChar? 0x800 (((b.toNat - 0xe0) * 64 + x) * 64 + y)).map (·, 2)
          else match more with
            | some z :: _ =>
              if 0xf0 ≤ b ∧ b < 0xf8 then
                (wideChar? 0x10000 ((((b.toNat - 0xf0) * 64 + x) * 64 + y) * 64 + z)).map (·, 3)
              else none
            | _ => none
        | _ => none
    | _ => none

/-- the characters of bytes in UTF-8, behind `skip` bytes that have been read -/
def utf8Chars : Nat → List UInt8 → List Char
  | _, [] => []
  | skip + 1, _ :: bs => utf8Chars skip bs
  | 0, b :: bs =>
    match firstChar? b bs with
    | some (c, n) => c :: utf8Chars n bs
    | none => '\x00' :: utf8Chars 0 bs

/-! ## declared encodings -/

def plainChars (bs : List UInt8) : List Char := bs.map fun b => Char.ofNat b.toNat

def isNameChar (c : Char) : Bool := c.isAlphanum || c = '-' || c = '_' || c = '.'

/-- the name that a comment declares, from its sign on -/
def declaredName? : List Char → Option String
  | [] => none
  | c :: cs =>
    match c :: cs with
    | 'c' :: 'o' :: 'd' :: 'i' :: 'n' :: 'g' :: mark :: rest =>
      let name := (rest.dropWhile fun c => c = ' ' || c = '\t').takeWhile isNameChar
      if (mark = ':' || mark = '=') && !name.isEmpty then some (String.ofList name)
      else declaredName? cs
    | _ => declaredName? cs

/-- the first two lines, as far as a line end closes them -/
def closedLines (cs : List Char) : List (List Char) :=
  let lines := cs.splitOn '\n'
  (lines.take (lines.length - 1)).take 2

/-- does the line hold nothing but blanks and a comment? -/
def isBareLine (line : List Char) : Bool :=
  match line.dropWhile fun c => c = ' ' || c = '\t' || c = '\x0c' with
  | [] => true
  | c :: _ => c = '#'

/-- the encoding that the lines declare; a line that holds anything else ends the search -/
def declaration? : List (List Char) → Option String
  | [] => none
  | line :: lines =>
    if isBareLine line then (declaredName? line).orElse fun _ => declaration? lines else none

def plainName (name : String) : String :=
  String.ofList (name.toList.map fun c => if c = '_' then '-' else c.toLower)

/-- is it the name, or the name with something behind a hyphen? -/
def isNamed (name : String) (s : String) : Bool :=
  s = name || Text.startsWith (name ++ "-") s

inductive Encoding where
  /-- for ASCII characters each of the other encodings has the same bytes -/
  | ascii
  | latin
  | utf8
  deriving DecidableEq, Repr

/-- names of encodings that are read as far as they agree with ASCII -/
def asciiNames : List String :=
  Text.words ("ascii us-ascii 646 cp1250 cp1251 cp1252 cp1253 cp1254 cp1255 cp1256 cp1257 cp1258" ++
    " windows-1250 windows-1251 windows-1252 cp437 cp850 cp866 iso8859-2 iso8859-5 iso8859-15" ++
    " iso-8859-2 iso-8859-5 iso-8859-7 iso-8859-9 iso-8859-15 latin2 latin5 latin9 koi8-r koi8-u" ++
    " big5 gb2312 gbk gb18030 shift-jis sjis euc-jp euc-kr mac-roman utf-8-sig")

def Encoding.ofName? (name : String) : Option Encoding :=
  let s := plainName name
  if ["latin-1", "iso-8859-1", "iso-latin-1"].any (isNamed · (Text.takeChars 12 s)) ||
      ["latin1", "latin", "l1", "iso8859-1", "cp819"].contains s then some .latin
  else if s = "utf8" || s = "u8" then some .utf8
  else if asciiNames.contains s then some .ascii
  else none

def Encoding.decode? (e : Encoding) (bs : List UInt8) : Option (List Char) :=
  match e with
  | .latin => some (plainChars bs)
  | .ascii => if bs.all (· < 0x80) then some (plainChars bs) else none
  | .utf8 =>
    let cs := utf8Chars 0 bs
    if cs.contains '\x00' then none else some cs

def sourceChars? (bs : List UInt8) : Option (List Char) :=
  if bs.contains 0 then none
  else
    let marked := [0xef, 0xbb, 0xbf].isPrefixOf bs
    let bs := if marked then bs.drop 3 else bs
    match declaration? (closedLines (unifyLineEnds (plainChars bs))) with
    | none => some (utf8Chars 0 bs)
    | some name =>
      if isNamed "utf-8" (Text.takeChars 12 (plainName name)) then some (utf8Chars 0 bs)
      else if marked then none
      else (Encoding.ofName? name).bind (·.decode? bs)

end CommandLine.Literal
