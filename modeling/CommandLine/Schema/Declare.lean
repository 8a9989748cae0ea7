import CommandLine.Component.Act
import CommandLine.Component.Members
import CommandLine.Schema.Block
import CommandLine.Source.Version

/-!
# Declaring a schema

A schema is a class whose members are the fields of a program's configuration with their defaults.
When it is made its hook runs first, then every field with a type gets its default cast to it, and
last the program's version is put beside the fields.  A default of a wrong type ends the program.
-/

namespace CommandLine

/-! ## declarations -/

structure Field where
  name : String
  kind : Option Kind
  default : Option Value

def Field.line (f : Field) : String :=
  "    " ++ f.name ++ ((f.kind.map fun k => ": " ++ k.name).getD "") ++
    ((f.default.map fun v => " = " ++ v.shown).getD "")

structure Declaration where
  name : String
  /-- the module it belongs to -/
  home : String
  fields : List Field
  /-- the actions of its hook -/
  hook : Option (List Action)
  /-- the lines after its head, where they are known -/
  source : Option (List String)
  importer : Option Importer

/-- the lines of the class; an empty class has a line that does nothing -/
def Declaration.lines (d : Declaration) : List String :=
  let own := if d.fields.isEmpty then ["    pass"] else d.fields.map Field.line
  blockLines (d.source.getD own)

def Declaration.kinds (d : Declaration) : List (String × Kind) :=
  d.fields.foldl (fun acc f => match f.kind with
    | some k => putName f.name k acc
    | none => acc) []

def Declaration.defaults (d : Declaration) : List (String × Value) :=
  d.fields.foldl (fun acc f => match f.default with
    | some v => putName f.name v acc
    | none => acc) []

/-! ## schemas -/

/-- a schema: the class, the types of its fields, and the lines it was declared with -/
structure Schema where
  form : Class
  kinds : List (String × Kind)
  lines : List String

def hookName : String := "post_init"

def versionName : String := "version"

def hookSignature : Signature Value := { args := [], more := some "args" }

/-- a routine that all schemas have, known by its name alone -/
def baseRoutine (name : String) : String × Member :=
  (name, .plain (.routine
    { name, receiver := some "self", signature := {}, doc := none, body := .const .null
      place := none, decorations := [], announced := none }))

/-- the class that all schemas inherit from; its hook does nothing -/
def baseForm : Class :=
  { name := "Schema"
    home := "clima.core"
    doc := some "Base class for the user's configuration class"
    members :=
      [(hookName, .static
          { name := hookName, receiver := none,
            signature := { hookSignature with args := ["self"] }, doc := none, body := .const .null,
            place := none, decorations := [], announced := none }),
        (versionName, .plain (.text firstVersion)),
        baseRoutine "_get_configfile_asdict", baseRoutine "_asdict", baseRoutine "_wrap",
        baseRoutine "__call__"]
    init := .inherited
    base := none
    shown := none
    length := none
    file := some "clima/core.py"
    decorations := [] }

def baseSchema : Schema := ⟨baseForm, [], []⟩

def Class.setMember (c : Class) (name : String) (v : Value) : Class :=
  { c with members := putName name (.plain v) c.members }

def hookRoutine (actions : List Action) : Value :=
  .routine
    { name := hookName, receiver := some "self", signature := hookSignature, doc := none,
      body := .act actions, place := none, decorations := [], announced := none }

/-- what the declaration gives under its names: the defaults and the hook -/
def Declaration.given (d : Declaration) : List (String × Value) :=
  match d.hook with
  | some actions => putName hookName (hookRoutine actions) d.defaults
  | none => d.defaults

/-- the class before its hook has run -/
def Declaration.form (d : Declaration) : Class :=
  { name := d.name
    home := d.home
    doc := none
    members := d.given.map fun (n, v) => (n, Member.plain v)
    init := .inherited
    base := some baseForm
    shown := none
    length := none
    file := none
    decorations := [] }

/-! ## the hook -/

def classTarget : Target Class := ⟨fun c name => (Value.class c).attribute name, Class.setMember⟩

/-- the class after its hook has run -/
def Declaration.hooked {σ : Type} (d : Declaration) : Run σ Class := do
  match d.hook, d.defaults.lookup hookName with
  | some actions, _ =>
    let (_, c) ← runApart d.form (runActions classTarget actions)
    return c
  | none, some v => throw (.notCallable v.kindName)
  | none, none => return d.form

/-! ## casting the defaults -/

/-- what is left of a value that has been walked through: a source of values can be read once -/
def Value.spent : Value → Value
  | .generator _ => .generator []
  | v => v

/-- the value to set for a field that is declared with `v` and that the hook has left with `current`:
the declared one, cast, if both casts are equal, else the one that the hook has left; nothing is set
for a field that is still to be given.  The casts that are compared are not kept: what is set is cast
once more. -/
def Kind.settle (k : Kind) (v current : Value) : Except Error (Option Value) := do
  let a ← k.cast (v.wrapped k)
  let b ← k.cast (current.wrapped k)
  if a.eqv b then
    match current with
    | .null => return none
    | _ => (k.cast (v.wrapped k).spent).map some
  else (k.cast (current.wrapped k).spent).map some

def castDefault (declared : Option Value) (name : String) (k : Kind) (c : Class) :
    Except Error Class := do
  let v ← match declared with
    | some v => pure v
    | none => throw (.missingKey (Text.quoted name))
  let current ← (Value.class c).attribute name
  let x ← k.settle v current
  return x.elim c (c.setMember name)

/-- the class with all the defaults cast; a failure comes with the field it is about -/
def castDefaults (given : List (String × Value)) :
    List (String × Kind) → Class → Except (String × Error) Class
  | [], c => .ok c
  | (name, k) :: kinds, c =>
    match castDefault (given.lookup name) name k c with
    | .ok c => castDefaults given kinds c
    | .error e => .error (name, e)

/-- what is printed about a default of a wrong type -/
def wrongDefault (schema field : String) (e : Error) : String :=
  "given parameters or defined defaults were of incorrect type:\n" ++ schema ++ "." ++ field ++
    " -> " ++ (Value.tuple [.text e.message]).shown ++ "\n"

def Declaration.make {σ : Type} (d : Declaration) (s : Surroundings) (p : Packages) :
    Run σ Schema := do
  let c ← d.hooked
  match castDefaults d.given d.kinds c with
  | .error (field, e) =>
    if e.kind = .type then
      printOut (wrongDefault d.name field e)
      throw (.exit (.int 1))
    else throw e
  | .ok c =>
    let version ← programVersion s p d.importer
    return { form := c.setMember versionName (.text version), kinds := d.kinds, lines := d.lines }

end CommandLine
