import CommandLine.Value.Iterate

/-!
# Help for declared parameters

A schema declares one parameter a line, `name: type = default  # description`.  From those lines the
help of each parameter is made, and it is appended to the documentation of a command.
-/

namespace CommandLine

/-! ## reading declarations -/

/-- a line cut at its first equals sign, both sides trimmed; `none` if there is none -/
def declaration? (line : String) : Option (String × String) :=
  (Text.cutAt '=' line).map fun (a, b) => (Text.trim a, Text.trim b)

/-- all the texts, if every one is there -/
def allSome {α : Type} : List (Option α) → Option (List α)
  | [] => some []
  | none :: _ => none
  | some a :: rest => (allSome rest).map (a :: ·)

/-- the declarations among the lines of a schema: all the indented lines, or none of them if one is
no declaration -/
def declarations (lines : List String) : List (String × String) :=
  match allSome ((lines.filter (Text.startsWith " ")).map declaration?) with
  | some ds => ds.foldl (fun acc d => putName d.1 d.2 acc) []
  | none => []

structure ParamDoc where
  type : Option String
  default : String
  description : String
  deriving DecidableEq, Repr

def nameAndType (left : String) : String × Option String :=
  match Text.cutAt ':' left with
  | some (name, type) => (name, some (Text.trim type))
  | none => (left, none)

def defaultAndDescription (right : String) : String × String :=
  match Text.cutAt '#' right with
  | some (default, description) => (Text.trim default, Text.trim description)
  | none => (Text.trim right, "")

def paramDoc (left right : String) : String × ParamDoc :=
  let (name, type) := nameAndType left
  let (default, description) := defaultAndDescription right
  (name, { type, default, description })

def paramDocs (declarations : List (String × String)) : List (String × ParamDoc) :=
  declarations.foldl (fun acc d => let p := paramDoc d.1 d.2; putName p.1 p.2 acc) []

/-! ## writing help -/

def ParamDoc.help (name : String) (d : ParamDoc) : String :=
  "    --" ++ name ++ " (" ++ d.type.getD "" ++ "): " ++ d.description ++ " (Default is " ++
    d.default ++ ")"

def factText (facts : List (String × Value)) (name : String) : Except Error String :=
  match facts.lookup name with
  | some v => v.writePlain
  | none => .error (.missingKey (Text.quoted name))

/-- what is declared of a parameter, from its facts by name -/
def ParamDoc.ofFacts (facts : List (String × Value)) : Except Error ParamDoc := do
  let type ← factText facts "type"
  let type := match facts.lookup "type" with
    | some .null => none
    | _ => some type
  let description ← factText facts "description"
  let default ← factText facts "default"
  return { type, default, description }

def appendHelp (doc : Option String) (help : String) : String := doc.getD "" ++ "\nArgs:\n" ++ help

/-- the lines that declare parameters: those before the first routine -/
def beforeRoutines (lines : List String) : List String :=
  lines.takeWhile fun l => !Text.startsWith "def " (Text.trim l)

def paramsHelp (names : List String) (lines : List String) : String :=
  let docs := paramDocs (declarations (beforeRoutines lines))
  Text.joinWith "\n" (names.filterMap fun n => (docs.lookup n).map (ParamDoc.help n))

end CommandLine
