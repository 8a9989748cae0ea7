import CommandLine.Text.Basic
import CommandLine.Text.LetterCase

/-!
# Paths

A path is a drive, a root and a list of names.  Reading a text drops empty names and single dots;
`..` stays.  Paths come in two flavours: slash paths, and drive paths, which are separated by
backslashes, accept slashes, and do not distinguish letter case.
-/

namespace CommandLine

inductive PathKind where
  | posix
  | purePosix
  | pureWindows
  deriving DecidableEq, Repr

structure Path where
  kind : PathKind
  drive : String
  root : String
  names : List String
  deriving DecidableEq, Repr

namespace Path

/-! ## reading -/

/-- the root of a slash path and what follows it: two leading slashes are a root of their own -/
def splitSlashRoot (s : String) : String × String × String :=
  let cs := s.toList
  let rest := cs.dropWhile (· = '/')
  match cs.length - rest.length with
  | 0 => ("", "", s)
  | 2 => ("", "//", String.ofList rest)
  | _ => ("", "/", String.ofList rest)

def findFrom (c : Char) (start : Nat) (cs : List Char) : Option Nat :=
  ((cs.drop start).findIdx? (· = c)).map (· + start)

/-- takes off the mark of an extended path -/
def splitExtended (cs : List Char) : List Char × List Char :=
  if ['\\', '\\', '?', '\\'].isPrefixOf cs then
    let pre := cs.take 4
    let rest := cs.drop 4
    if ['U', 'N', 'C', '\\'].isPrefixOf rest then (pre ++ rest.take 3, '\\' :: rest.drop 3)
    else (pre, rest)
  else ([], cs)

/-- the share `\\machine\mount` at the front of a path, with what follows it -/
def shareRoot? (cs : List Char) : Option (List Char × List Char) :=
  match cs with
  | '\\' :: '\\' :: third =>
    if third.head? = some '\\' then none
    else do
      let i ← findFrom '\\' 2 cs
      let j := findFrom '\\' (i + 1) cs
      if j = some (i + 1) then none
      else
        let j := j.getD cs.length
        some (cs.take j, cs.drop (j + 1))
  | _ => none

/-- the letter of a drive with its colon, and what follows them -/
def splitLetter : List Char → List Char × List Char
  | d :: ':' :: rest => if d.isAlpha then ([d, ':'], rest) else ([], d :: ':' :: rest)
  | cs => ([], cs)

def splitDriveRoot (s : String) : String × String × String :=
  let (pre, cs) := splitExtended s.toList
  match shareRoot? cs with
  | some (share, rest) =>
    let drive := if pre.isEmpty then share else pre ++ share.drop 1
    (String.ofList drive, "\\", String.ofList rest)
  | none =>
    let (drive, rest) := splitLetter cs
    (String.ofList (pre ++ drive), if rest.head? = some '\\' then "\\" else "",
      String.ofList (rest.dropWhile (· = '\\')))

def isDrivePath : PathKind → Bool
  | .pureWindows => true
  | _ => false

def separator (k : PathKind) : Char := if isDrivePath k then '\\' else '/'

def splitRoot (k : PathKind) (s : String) : String × String × String :=
  if isDrivePath k then splitDriveRoot (Text.replaceChar '/' '\\' s) else splitSlashRoot s

def namesOf (k : PathKind) (rel : String) : List String :=
  (Text.splitAtChar (separator k) rel).filter fun x => x ≠ "" && x ≠ "."

/-- reads the parts from the last one back to the first rooted one; `parts` is reversed -/
def ofPartsRev (k : PathKind) : List String → List String → Path
  | names, [] => ⟨k, "", "", names⟩
  | names, part :: parts =>
    if part = "" then ofPartsRev k names parts
    else
      let (drive, root, rel) := splitRoot k part
      let names := namesOf k rel ++ names
      if drive = "" ∧ root = "" then ofPartsRev k names parts
      else
        let drive := if drive ≠ "" then drive
          else ((parts.map fun p => (splitRoot k p).1).find? (· ≠ "")).getD ""
        ⟨k, drive, root, names⟩

def ofParts (k : PathKind) (parts : List String) : Path := ofPartsRev k [] parts.reverse

def ofText (k : PathKind) (s : String) : Path := ofParts k [s]

/-! ## writing -/

def anchor (p : Path) : String := p.drive ++ p.root

def parts (p : Path) : List String := if p.anchor = "" then p.names else p.anchor :: p.names

def text (p : Path) : String :=
  let s := p.anchor ++ Text.joinWith (String.singleton (separator p.kind)) p.names
  if s = "" then "." else s

def slashText (p : Path) : String :=
  if isDrivePath p.kind then Text.replaceChar '\\' '/' p.text else p.text

/-! ## operations -/

def isAbsolute (p : Path) : Bool :=
  if isDrivePath p.kind then p.drive ≠ "" && p.root ≠ "" else p.root ≠ ""

/-- `q` read from the directory `p` -/
def join (p q : Path) : Path :=
  if q.root ≠ "" then
    if q.drive = "" ∧ p.drive ≠ "" then { q with kind := p.kind, drive := p.drive }
    else { q with kind := p.kind }
  else if q.drive ≠ "" then
    if Text.lower q.drive = Text.lower p.drive then { p with names := p.names ++ q.names }
    else { q with kind := p.kind }
  else { p with names := p.names ++ q.names }

/-- the directory of a path; an anchor or the empty path is its own -/
def parent (p : Path) : Path := { p with names := p.names.dropLast }

/-- the endings of a name, each with its dot; a name that ends in a dot has none -/
def suffixesOf (n : String) : List String :=
  if Text.endsWith "." n then []
  else
    let bare := String.ofList (n.toList.dropWhile (· = '.'))
    ((Text.splitAtChar '.' bare).drop 1).map ("." ++ ·)

/-- the last name; empty for an anchor -/
def name (p : Path) : String := p.names.getLastD ""

/-- cuts the last dot of a name and what follows it, unless the name starts or ends with it -/
def stemOf (n : String) : String :=
  let cs := n.toList
  let after := (cs.reverse.takeWhile (· ≠ '.')).length
  let dot := cs.length - after
  if dot = 0 ∨ dot = 1 ∨ after = 0 then n else String.ofList (cs.take (dot - 1))

def stem (p : Path) : String := stemOf p.name

def suffixes (p : Path) : List String := suffixesOf p.name

/-- equality of paths: drive paths regardless of letter case, slash paths of both kinds alike -/
def same (p q : Path) : Bool :=
  if isDrivePath p.kind != isDrivePath q.kind then false
  else if isDrivePath p.kind then p.parts.map Text.lower == q.parts.map Text.lower
  else p.parts == q.parts

end Path

end CommandLine
