import CommandLine.Schema.Declare
import CommandLine.Schema.Fields
import CommandLine.Schema.ParamHelp

/-!
# Settings

The instance of a schema: its fields with the values that a program has given them so far.  A field
without such a value has its default.
-/

namespace CommandLine

/-- is a member, read from an instance, a method of it? -/
def Member.isMethod : Member → Bool
  | .plain (.routine _) | .classMethod _ => true
  | _ => false

/-- a value cast to the type of a field; a field without a type takes any value -/
def Schema.cast (s : Schema) (name : String) (v : Value) : Except Error Value :=
  match s.kinds.lookup name with
  | some k => k.cast (v.wrapped k)
  | none => .ok v

structure Settings where
  schema : Schema
  /-- the values given so far -/
  values : List (String × Value) := []

namespace Settings

def object (s : Settings) : Value := .object s.schema.form s.values

def get? (s : Settings) (name : String) : Option Value := s.object.attribute? name

def get (s : Settings) (name : String) : Except Error Value := s.object.attribute name

def set (s : Settings) (name : String) (v : Value) : Settings :=
  { s with values := putName name v s.values }

/-- the names of the fields: those that have been given a value first, then the declared ones in
their order -/
def fields (s : Settings) : List String :=
  let names := (s.values.map (·.1) ++ s.schema.form.declared.map (·.1)).eraseDups
  names.filter fun n => isPublic n &&
    ((s.values.lookup n).isSome || !(s.schema.form.member? n).any Member.isMethod)

def entries (s : Settings) : List (String × Value) :=
  (s.schema.form.members.filter fun m => isPublic m.1 && !m.2.isMethod).map fun m =>
    (m.1, (s.get? m.1).getD .null)

/-- a value cast to the type of a field; nothing stands for the value that the field has -/
def cast (s : Settings) (name : String) (v : Value) : Except Error Value := do
  let v ← match v with
    | .null => s.get name
    | v => pure v
  s.schema.cast name v

/-- takes values by name into the settings, each cast to the type of its field; what is no field is
passed over.  A failure leaves the values before it taken. -/
def take (s : Settings) : List (String × Value) → Settings × Option Error
  | [] => (s, none)
  | (name, v) :: rest =>
    if (s.get? name).isNone then s.take rest
    else
      match s.cast name v with
      | .ok w => (s.set name w).take rest
      | .error e => (s, some e)

def cwdName : String := "cwd"

def fileName : String := "CFG"

/-- the settings with an absolute working directory, a relative one being read from the running
directory -/
def absolute (s : Settings) (running : Path) : Except Error Settings :=
  match s.get? cwdName with
  | none => .ok s
  | some (.path p) =>
    if p.isAbsolute then .ok s
    else
      let below := if p.kind = .pureWindows then Path.ofParts .posix p.parts else p
      .ok (s.set cwdName (.path (running.join below)))
  | some v => .error (v.attributeError "is_absolute")

def help (s : Settings) : String := paramsHelp (s.schema.kinds.map (·.1)) s.schema.lines

end Settings

end CommandLine
