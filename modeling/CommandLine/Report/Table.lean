import CommandLine.Number.Parse
import CommandLine.Number.Text
import CommandLine.Text.Basic
import CommandLine.Text.LetterCase

/-!
# Plain tables

The layout that reports are printed with.  Rows of texts are set in columns, two spaces apart and
nothing around them.  A column of numbers is set flush right with the decimal points below each
other; every other column is set flush left.  A row may end before the last column, and no line ends
in a blank.
-/

namespace CommandLine.Report

/-! ## what a column holds -/

/-- what the texts of a column are, each including those before it -/
inductive ColumnKind where
  | truth
  | whole
  | number
  | text
  deriving DecidableEq, Repr

def ColumnKind.rank : ColumnKind → Nat
  | truth => 0
  | whole => 1
  | number => 2
  | text => 3

def ColumnKind.join (a b : ColumnKind) : ColumnKind := if a.rank < b.rank then b else a

def isWholeText (s : String) : Bool :=
  match Number.parseInt s with
  | .ok _ => true
  | .error _ => false

/-- is it a number?  A number without bound must be spelled in the short way. -/
def isNumberText (s : String) : Bool :=
  match Number.parseFloat? s with
  | none => false
  | some x =>
    if x.isFinite then true else ["inf", "-inf", "nan"].contains (Text.lower s)

def kindOfText (s : String) : ColumnKind :=
  if s = "True" || s = "False" then .truth
  else if isWholeText s then .whole
  else if isNumberText s then .number
  else .text

/-- the kind of a column; a missing cell says nothing -/
def columnKind (cells : List (Option String)) : ColumnKind :=
  cells.foldl (fun k c => match c with
    | some s => k.join (kindOfText s)
    | none => k) .truth

/-! ## one column -/

def cellText (k : ColumnKind) : Option String → String
  | none => ""
  | some s =>
    match k with
    | .number => ((Number.parseFloat? s).map Number.significantText).getD s
    | _ => s

/-- how many characters stand behind the point of a number, or behind its exponent mark; one less
than none if it has neither -/
def behindPoint (s : String) : Int :=
  if isNumberText s && !isWholeText s then
    let cs := s.toList.reverse
    match cs.findIdx? (· == '.') with
    | some i => i
    | none => match cs.findIdx? (fun c => c == 'e' || c == 'E') with
      | some i => i
      | none => -1
  else -1

def flushLeft (cells : List String) : List String :=
  let cells := cells.map Text.trim
  let width := ((cells.map String.length).max?).getD 0
  cells.map (Text.padRight width)

/-- sets numbers flush right, point below point -/
def flushPoint (cells : List String) : List String :=
  let most := ((cells.map behindPoint).max?).getD (-1)
  let cells := cells.map fun s => s ++ Text.spaces (most - behindPoint s).toNat
  let width := ((cells.map String.length).max?).getD 0
  cells.map (Text.padLeft width)

def columnTexts (cells : List (Option String)) : List String :=
  let kind := columnKind cells
  let texts := cells.map (cellText kind)
  match kind with
  | .whole | .number => flushPoint texts
  | _ => flushLeft texts

/-! ## the table -/

def columns (rows : List (List String)) : List (List (Option String)) :=
  let count := ((rows.map List.length).max?).getD 0
  (List.range count).map fun i => rows.map fun r => r[i]?

def table (rows : List (List String)) : String :=
  let cols := (columns rows).map columnTexts
  Text.joinWith "\n" (rows.mapIdx fun i _ =>
    Text.trimRight (Text.joinWith "  " (cols.map fun c => c.getD i "")))

end CommandLine.Report
