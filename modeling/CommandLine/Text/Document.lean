import CommandLine.Text.Basic

/-!
# Documentation text

Documentation is written indented inside a declaration.  `clean` takes out the indentation that its
lines share, the blanks in front of the first line, and empty lines at both ends.
-/

namespace CommandLine.Text

/-- tabs as spaces up to the next multiple of eight; `col` is the column reached -/
def expandTabsFrom : Nat → List Char → List Char
  | _, [] => []
  | col, '\t' :: cs =>
    let n := 8 - col % 8
    List.replicate n ' ' ++ expandTabsFrom (col + n) cs
  | col, c :: cs =>
    c :: expandTabsFrom (if c = '\n' ∨ c = '\r' then 0 else col + 1) cs

def expandTabs (s : String) : String := String.ofList (expandTabsFrom 0 s.toList)

/-- how far a line is indented; nothing for a blank line -/
def indentation? (line : String) : Option Nat :=
  let rest := trimLeft line
  if rest = "" then none else some (line.length - rest.length)

def margin? (lines : List String) : Option Nat := (lines.filterMap indentation?).min?

def dropBlankEnds (lines : List String) : List String :=
  ((lines.dropWhile (· = "")).reverse.dropWhile (· = "")).reverse

def clean (doc : String) : String :=
  match splitAtChar '\n' (expandTabs doc) with
  | [] => ""
  | first :: rest =>
    let rest := match margin? rest with
      | some m => rest.map (dropChars m)
      | none => rest
    joinWith "\n" (dropBlankEnds (trimLeft first :: rest))

end CommandLine.Text
