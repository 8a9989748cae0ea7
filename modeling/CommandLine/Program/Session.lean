import CommandLine.Command.Outcome
import CommandLine.Config.Draft
import CommandLine.Program.CommandClass
import CommandLine.Report.Failure

/-!
# Programs

A program declares a schema and a class of commands; running it fills the configuration and runs the
command.  `Session` is all that lasts from one such step to the next: the configuration, the
settings and the command class that are registered, and the command line.
-/

namespace CommandLine

/-! ## the state -/

/-- what a program finds around it -/
structure Program where
  surroundings : Surroundings
  packages : Packages
  /-- what the decrypting program prints for a command line; `none` if it fails -/
  decrypts : List String → Option String
  /-- the table of places in the report of a failure -/
  failureTable : String
  /-- the variables that an interactive session finds -/
  atHand : List (String × Value)

/-- what is registered as the schema -/
inductive Registered where
  | settings (s : Settings)
  | value (v : Value)

structure Registry where
  schema : Registered
  /-- the command class that was made last -/
  generated : Value
  others : List (String × Value) := []

structure Session where
  config : Configuration
  registry : Registry
  /-- do new schemas reach the registry? -/
  linked : Bool
  argv : List Value := []
  /-- the command lines that have decrypted secrets -/
  decrypted : List (List String) := []

namespace Session

/-- the state before anything is declared -/
def start : Session :=
  { config := { behind := .class baseForm }
    registry := { schema := .settings { schema := baseSchema }, generated := .null }
    linked := true }

/-- empties the registry and what stands behind the configuration; the registry that new schemas
are written to is lost -/
def clear (s : Session) : Session :=
  { s with
    config := { s.config with behind := .null }
    registry := { schema := .value .null, generated := .null }
    linked := false }

def register (s : Session) (key : String) (v : Value) : Session :=
  let r := s.registry
  { s with registry :=
      if key = "schema" then { r with schema := .value v }
      else if key = "generated" then { r with generated := v }
      else { r with others := putName key v r.others } }

def keys (s : Session) : List String :=
  ["schema", "generated"] ++ s.registry.others.map (·.1)

def takeSchema (s : Session) (schema : Schema) : Session :=
  { s with
    config := { s.config with behind := .class schema.form }
    registry := if s.linked then { s.registry with schema := .settings { schema } }
      else s.registry }

def setSettings (s : Session) (t : Settings) : Session :=
  { s with registry := { s.registry with schema := .settings t } }

def depth (s : Session) : Nat :=
  let behind := match s.config.behind with
    | .dict es => Value.listDepth (es.map (·.2))
    | _ => 0
  let settings := match s.registry.schema with
    | .settings t => Value.namedDepth t.object.namedMembers
    | .value _ => 0
  max (max behind settings)
    (max (Value.namedDepth s.config.values) (Value.namedDepth s.config.behind.namedMembers))

end Session

/-! ## schemas -/

def declare (p : Program) (d : Declaration) : Run Session Schema := do
  let schema ← d.make p.surroundings p.packages
  modifyState (·.takeSchema schema)
  return schema

/-- does a class inherit from the class of all schemas? -/
def Class.isSchema (c : Class) : Bool := c.lineage.any fun k => k.fullName = baseForm.fullName

/-- takes a class as the schema -/
def initialise (v : Value) : Run Session Value := do
  match v with
  | .class c =>
    if c.isSchema then
      modifyState (·.takeSchema ⟨c, [], []⟩)
      return v
    else throw .notASchema
  | _ => throw .notASchema

/-- the registered settings; what is registered instead has no fields -/
def registeredSettings : Run Session Settings := do
  match (← getState).registry.schema with
  | .settings s => return s
  | .value v => throw (v.attributeError "_fields")

/-- a value cast to the type of a field of what is registered -/
def Registered.cast (r : Registered) (name : String) (v : Value) : Except Error Value :=
  match r with
  | .settings s => s.cast name v
  | .value w =>
    match v with
    | .null => w.attribute name
    | v => .ok v

/-- calls what is registered; settings take anything and give nothing -/
def Registered.call (r : Registered) : Except Error Value :=
  match r with
  | .settings _ => .ok .null
  | .value v => .error (.notCallable v.kindName)

/-! ## filling the configuration -/

/-- runs the decrypting program, and notes its command line -/
def Program.decryptor (p : Program) : Decryptor Session :=
  ⟨fun c => do
    modifyState fun s => { s with decrypted := s.decrypted ++ [c] }
    return p.decrypts c⟩

def onConfig {α : Type} (r : Run Configuration α) : Run Session α :=
  runWithin (·.config) (fun c s => { s with config := c }) r

def act (actions : List Action) (_values : List (String × Value)) : Run Session Value :=
  onConfig (runActions Configuration.target actions)

/-- the hook of a command class: a static one works on the draft, one that is a method on the
configuration -/
def Class.draftHook? (c : Class) : Option (DraftHook Session) :=
  match c.member? hookName with
  | none => none
  | some (.static r) => some fun draft =>
    match r.body with
    | .act actions => do
      let (_, changed) ← runApart draft (runActions Configuration.target actions)
      return changed
    | _ => return draft
  | some (.plain (.routine r)) => some fun draft => do
    let _ ← r.call ⟨act, fun _ => pure (), 0⟩ false [.null] []
    return draft
  | some (.plain v) => some fun _ => throw (.notCallable v.kindName)
  | some _ => some fun draft => return draft

/-- takes the flags of a command into the registered settings, whose directory becomes absolute -/
def takeFlags (p : Program) (flags : Layer) : Run Session Settings := do
  let before ← registeredSettings
  let (taken, failure) := before.take flags
  modifyState (·.setSettings taken)
  match failure with
  | some e => throw e
  | none =>
    let settings ← taken.absolute p.surroundings.cwdPath
    modifyState (·.setSettings settings)
    return settings

/-- fills the configuration from layers: what stands behind the draft in the end says which names
are published -/
def Settings.fillFrom (s : Settings) (hook : Option (DraftHook Session)) (layers : List Layer) :
    Run Session Unit := do
  let draft ← s.draft layers hook
  let names ← draft.behind.elements
  onConfig (publish draft names)

/-- takes the flags of a command into the settings, and all sources into the configuration -/
def fill (p : Program) (hook : Option (DraftHook Session)) (flags : Layer) : Run Session Unit := do
  let settings ← takeFlags p flags
  let layers ← settings.layers p.decryptor p.surroundings flags
  settings.fillFrom hook layers

/-! ## running -/

/-- reports a failure with its table given, and leaves the program -/
def reporting {σ α : Type} (table : String) (r : Run σ α) : Run σ α :=
  tryCatch r fun e => do
    if e.kind.isOrdinary then
      printOut (Report.text table e)
      throw (.exit (.int 1))
    else throw e

structure Launch where
  /-- the declared class of commands -/
  form : Class
  argv : List Value
  /-- the text that is piped in; none at a terminal -/
  input : Option String
  /-- is the class only made, and no command run? -/
  idle : Bool

/-- how many calls in a row can follow from what the hook of a class sets -/
def Class.hookDepth (c : Class) : Nat :=
  match c.member? hookName with
  | some (.static r) | some (.plain (.routine r)) => r.body.callDepth
  | _ => 0

def Launch.host (l : Launch) (p : Program) (s : Session) : Host Session :=
  { act, configure := fill p l.form.draftHook?, depth := max s.depth l.form.hookDepth }

/-- runs the command on a prepared class, or prints the version -/
def Launch.command (l : Launch) (p : Program) (c : Class) : Run Session Unit := do
  let s ← getState
  if asksForVersion s.argv then
    let settings ← registeredSettings
    let v ← settings.get versionName
    printOut (v.plain ++ "\n")
  else
    let _ ← runCommand (l.host p s) s.argv
      (p.atHand ++ [("cls", .class c), ("schema", .null)]) (.class c) .null none
    return ()

/-- prepares the class for the registered settings, and runs the command -/
def Launch.prepare (l : Launch) (p : Program) (c : Class) : Run Session Unit := do
  let settings ← registeredSettings
  checkParamNames settings.fields
  let params := settings.params
  printOut (paramsText params ++ "\n")
  let argv := l.argv ++ pipedWords l.argv l.input
  modifyState fun s => { s with argv }
  let argv ← flaggedLine params argv
  modifyState fun s => { s with argv }
  checkMethods params (c.methods.map (·.2))
  let c := c.prepared params settings.help
  modifyState (·.register "generated" (.class c))
  reporting p.failureTable (l.command p c)

def launch (p : Program) (l : Launch) : Run Session Value := do
  modifyState fun s => { s with argv := l.argv }
  let c := l.form.asCommand
  modifyState (·.register "generated" (.class c))
  if !l.idle then l.prepare p c
  return .class c

def commandDocs (s : Session) : Except Error (List (String × Option String)) :=
  match s.registry.generated with
  | .class c => .ok c.methodDocs
  | v => .error (.noAttribute v.kindName "__dict__")

end CommandLine
