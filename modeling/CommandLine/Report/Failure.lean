import CommandLine.Component.Call

/-!
# Reports of failures

What is printed when a program fails: the last places the failure came through, each a row of a
table, with the kind of error in the last row; then the error's own last line.  How the rows are set
is left to a layout.  Leaving the program is no failure and passes by.
-/

namespace CommandLine.Report

/-- a place that a failure came through -/
structure Frame where
  name : String
  file : String
  line : Int
  /-- the line of the program that stands there -/
  text : String

def homeOfKind : ErrorKind → String
  | .requiredParameter => "clima.core."
  | .missingSectionHeader | .duplicateSection | .duplicateOption | .parsing | .interpolationSyntax
  | .interpolationMissingOption | .interpolationDepth => "configparser."
  | _ => ""

/-- the kind and the message of an error; a message that says nothing is left out -/
def description (e : Error) : String :=
  homeOfKind e.kind ++ e.kind.name ++ if e.message = "" then "" else ": " ++ e.message

/-- the last line of a text that is printed on lines of its own -/
def lastLine (s : String) : String := (Text.lines (s ++ "\n")).getLastD ""

def beforeColon (s : String) : String :=
  match Text.cutAt ':' s with
  | some (a, _) => a
  | none => s

def Frame.row (f : Frame) : List String :=
  [(Path.ofText .posix f.file).name ++ ":" ++ Number.intText f.line, "::", f.name ++ "()", ":",
    Text.trim f.text, "=>"]

def shownFrames : Nat := 3

/-- the place where a failure is caught: it comes before all places of the failure -/
def catching : Frame := ⟨"suppress_traceback", "utils.py", 55, "yield"⟩

/-- the rows for the places of a failure: the last few without private ones, and the very last -/
def rows (frames : List Frame) (errorName : String) : List (List String) :=
  let near := (catching :: frames).drop (frames.length + 1 - shownFrames)
  let before := near.dropLast.filter fun f => !Text.startsWith "_" f.name
  before.map Frame.row ++ (near.getLast?.map fun f => f.row ++ [errorName]).toList

def text (table : String) (e : Error) : String :=
  "Error (full trace in exception.log):\n\n" ++ table ++ "\n\n" ++ lastLine (description e) ++ "\n"

def failure {σ α : Type} (layout : List (List String) → String) (frames : List Frame) (e : Error) :
    Run σ α := do
  if e.kind.isOrdinary then
    printOut (text (layout (rows frames (beforeColon (lastLine (description e))))) e)
    throw (.exit (.int 1))
  else throw e

end CommandLine.Report
