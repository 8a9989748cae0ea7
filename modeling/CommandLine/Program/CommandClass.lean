import CommandLine.Program.Words

/-!
# Command classes

The class that a program declares for its commands becomes one whose making fills the configuration.
Its public methods announce the parameters of the schema, and their documentation ends with the help
of the parameters.
-/

namespace CommandLine

namespace Class

def asCommand (c : Class) : Class :=
  { name := "Cli"
    home := "clima.core"
    doc := none
    members := c.members.filter fun m => isPublic m.1
    init := .configures "cli_args"
    base := some c
    shown := none
    length := none
    file := some "clima/core.py"
    decorations := [] }

def methods (c : Class) : List (String × Routine) :=
  c.members.filterMap fun m => match m.2 with
    | .plain (.routine r) => if isPublic m.1 then some (m.1, r) else none
    | _ => none

end Class

def Routine.paramNames (r : Routine) : List String :=
  r.params ++ r.signature.more.toList ++ r.signature.flagParams ++ r.signature.moreNamed.toList

/-- no method has a parameter of its own that is named like one of the schema -/
def checkMethods (params : List String) : List Routine → Except Error Unit
  | [] => .ok ()
  | r :: rs =>
    match params.find? fun p => r.paramNames.contains p with
    | some p => .error (.duplicateParameter p)
    | none => checkMethods params rs

def Routine.prepared (r : Routine) (params : List String) (help : String) : Routine :=
  { r with announced := params.getLast?, doc := some (appendHelp r.doc help) }

def Class.prepared (c : Class) (params : List String) (help : String) : Class :=
  { c with members := c.members.map fun m => match m.2 with
      | .plain (.routine r) =>
        (m.1, if isPublic m.1 then .plain (.routine (r.prepared params help)) else m.2)
      | other => (m.1, other) }

def Class.methodDocs (c : Class) : List (String × Option String) :=
  c.methods.map fun m => (m.1, m.2.doc)

end CommandLine
