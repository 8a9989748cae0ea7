/-!
# Cutting and joining text

The operations on text that the other modules share.  Each is a function on the list of
characters; the forms on `String` only wrap it.  Trimming and cutting into words go by all the blank
characters of the character set: the ASCII blanks, the four information separators and the Unicode
spaces.
-/

namespace CommandLine.Text

/-! ## characters -/

def isBlank (c : Char) : Bool :=
  let n := c.toNat
  (9 ≤ n && n ≤ 13) || (0x1c ≤ n && n ≤ 0x20) || n = 0x85 || n = 0xa0 || n = 0x1680 ||
    (0x2000 ≤ n && n ≤ 0x200a) || n = 0x2028 || n = 0x2029 || n = 0x202f || n = 0x205f ||
    n = 0x3000

def isLineEnd (c : Char) : Bool :=
  let n := c.toNat
  (10 ≤ n && n ≤ 13) || (0x1c ≤ n && n ≤ 0x1e) || n = 0x85 || n = 0x2028 || n = 0x2029

/-! ## tests -/

def startsWith (pre s : String) : Bool := pre.toList.isPrefixOf s.toList
def endsWith (suf s : String) : Bool := suf.toList.isSuffixOf s.toList
def hasChar (c : Char) (s : String) : Bool := s.toList.contains c

def hasInfix (sub : List Char) : List Char → Bool
  | [] => sub.isEmpty
  | c :: cs => sub.isPrefixOf (c :: cs) || hasInfix sub cs

def hasText (sub s : String) : Bool := hasInfix sub.toList s.toList

/-! ## cuts -/

def dropChars (n : Nat) (s : String) : String := String.ofList (s.toList.drop n)
def takeChars (n : Nat) (s : String) : String := String.ofList (s.toList.take n)

def cutChars (c : Char) : List Char → Option (List Char × List Char)
  | [] => none
  | x :: xs => if x = c then some ([], xs) else (cutChars c xs).map fun (a, b) => (x :: a, b)

def cutAt (c : Char) (s : String) : Option (String × String) :=
  (cutChars c s.toList).map fun (a, b) => (String.ofList a, String.ofList b)

def splitAtChar (c : Char) (s : String) : List String := (s.toList.splitOn c).map String.ofList

/-- cuts at every occurrence of a non-empty text, from the left; `acc` is the part being read -/
def splitAtTextFrom (sep : List Char) : Nat → List Char → List Char → List (List Char)
  | 0, acc, cs => [acc.reverse ++ cs]
  | _ + 1, acc, [] => [acc.reverse]
  | n + 1, acc, c :: cs =>
    if sep.isPrefixOf (c :: cs) then
      acc.reverse :: splitAtTextFrom sep n [] ((c :: cs).drop sep.length)
    else splitAtTextFrom sep n (c :: acc) cs

def splitAtText (sep s : String) : List String :=
  (splitAtTextFrom sep.toList (s.length + 1) [] s.toList).map String.ofList

def wordsFrom : List Char → List Char → List (List Char)
  | [], [] => []
  | acc, [] => [acc.reverse]
  | acc, c :: cs =>
    if isBlank c then
      if acc.isEmpty then wordsFrom [] cs else acc.reverse :: wordsFrom [] cs
    else wordsFrom (c :: acc) cs

def words (s : String) : List String := (wordsFrom [] s.toList).map String.ofList

/-- the lines of a text without their ends; `acc` is the line being read -/
def linesFrom : List Char → List Char → List (List Char)
  | [], [] => []
  | acc, [] => [acc.reverse]
  | acc, '\r' :: '\n' :: cs => acc.reverse :: linesFrom [] cs
  | acc, c :: cs => if isLineEnd c then acc.reverse :: linesFrom [] cs else linesFrom (c :: acc) cs

def lines (s : String) : List String := (linesFrom [] s.toList).map String.ofList

/-! ## trimming -/

def trimLeftOf (p : Char → Bool) (cs : List Char) : List Char := cs.dropWhile p
def trimRightOf (p : Char → Bool) (cs : List Char) : List Char := (cs.reverse.dropWhile p).reverse

def trimOf (p : Char → Bool) (s : String) : String :=
  String.ofList (trimRightOf p (trimLeftOf p s.toList))

def trim (s : String) : String := trimOf isBlank s
def trimLeft (s : String) : String := String.ofList (trimLeftOf isBlank s.toList)
def trimRight (s : String) : String := String.ofList (trimRightOf isBlank s.toList)

/-! ## replacing, joining, padding -/

def replaceChar (a b : Char) (s : String) : String :=
  String.ofList (s.toList.map fun c => if c = a then b else c)

def removeChar (a : Char) (s : String) : String := String.ofList (s.toList.filter (· ≠ a))

def joinWith (sep : String) : List String → String
  | [] => ""
  | [x] => x
  | x :: y :: r => x ++ sep ++ joinWith sep (y :: r)

/-- each non-overlapping `old`, from the left, becomes `new` -/
def replaceText (old new s : String) : String := joinWith new (splitAtText old s)

def spaces (n : Nat) : String := String.ofList (List.replicate n ' ')

def padRight (n : Nat) (s : String) : String := s ++ spaces (n - s.length)
def padLeft (n : Nat) (s : String) : String := spaces (n - s.length) ++ s

/-- order by code point -/
def le (a b : String) : Bool := decide (a ≤ b)

def sort (xs : List String) : List String := xs.mergeSort le

end CommandLine.Text
