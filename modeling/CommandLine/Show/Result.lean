import CommandLine.Value.Iterate
import CommandLine.Value.Json

/-!
# What a command prints

An element of a result is printed on a line of its own: a text with its line ends as spaces, other
data as data text, and everything else in its text for people.  A dictionary is a table with one
line per visible entry; keys that start with an underscore are visible only on request.  A value with
a whole number of too many digits has no line.

An interactive session announces the modules and the other objects it makes available, each list in
order.  Private names are left out unless asked for, and so are names that cannot be typed.
-/

namespace CommandLine

/-! ## results on single lines -/

def oneLine (s : String) : String := Text.replaceChar '\n' ' ' s

/-- the line of a value that can be written -/
def Value.lineText : Value → String
  | .text s => oneLine s
  | v => v.json?.getD (oneLine v.plain)

def Value.line (v : Value) : Except Error String := v.checkWritable.map fun _ => v.lineText

def Value.lines (xs : List Value) : Except Error String :=
  (Value.list xs).checkWritable.map fun _ => String.join (xs.map fun x => x.lineText ++ "\n")

def isVisibleKey (verbose : Bool) : Value → Bool
  | .text s => verbose || !Text.startsWith "_" s
  | _ => true

/-- a dictionary as a table: the keys padded to the longest one -/
def dictTable (verbose : Bool) (es : List (Value × Value)) : Except Error String :=
  let es := es.filter fun e => isVisibleKey verbose e.1
  let width := ((es.map fun e => e.1.plain.length).max?).getD 0
  (Value.dict es).checkWritable.map fun _ =>
    if es.isEmpty then "\x7b\x7d"
    else Text.joinWith "\n" (es.map fun e =>
      Text.padRight (width + 1) (e.1.plain ++ ":") ++ " " ++ e.2.lineText)

/-! ## the names at hand -/

def Value.isModule : Value → Bool
  | .module .. => true
  | _ => false

def isTypable (name : String) : Bool := !Text.hasChar '-' name && !Text.hasChar '/' name

def labelled (label : String) (names : List String) : Option String :=
  if names.isEmpty then none else some (label ++ ": " ++ Text.joinWith ", " (Text.sort names))

def availableText (verbose : Bool) (atHand : List (String × Value)) : String :=
  let shown := atHand.filter fun v =>
    (verbose || !Text.startsWith "_" v.1) && isTypable v.1
  let modules := (shown.filter (·.2.isModule)).map (·.1)
  let others := (shown.filter fun v => !v.2.isModule).map (·.1)
  "Fire is starting a Python REPL with the following objects:\n" ++
    Text.joinWith "\n" ((labelled "Modules" modules).toList ++
      (labelled "Objects" others).toList) ++ "\n"

end CommandLine
