import CommandLine.Component.Act
import CommandLine.Component.Members

/-!
# The configuration

Values under names, and something behind them that answers for the other names: a schema, a
dictionary of all that the sources give, or nothing.  A name that is answered by nothing at all is a
parameter that is still to be given.
-/

namespace CommandLine

structure Configuration where
  values : List (String × Value) := []
  /-- what answers for a name that has no value -/
  behind : Value

def Value.entry? (v : Value) (name : String) : Option Value :=
  match v with
  | .dict es => Value.lookup (.text name) es
  | _ => none

/-- what a value gives under a name: its entry, or else its member -/
def Value.answer (v : Value) (name : String) : Except Error Value :=
  match v.entry? name with
  | some w => .ok w
  | none => v.attribute name

def Value.entryError (v : Value) (name : String) : Error :=
  match v with
  | .dict _ => .missingKey (Text.quoted name)
  | .class c => .classNotSubscriptable c.name
  | .kind k => .classNotSubscriptable k.name
  | .text _ => .type "string indices must be integers, not 'str'"
  | .list _ => .type "list indices must be integers or slices, not str"
  | .tuple _ => .type "tuple indices must be integers or slices, not str"
  | .bytes _ => .type "byte indices must be integers or slices, not str"
  | .byteArray _ => .type "bytearray indices must be integers or slices, not str"
  | v => .notSubscriptable v.kindName

/-! ## the configuration itself -/

/-- the private name for what stands behind the values -/
def behindName : String := "_Configurable__configured"

/-- a routine of the configuration, known by its name and parameters alone -/
def ownRoutine (name : String) (args : List String) : String × Member :=
  (name, .plain (.routine
    { name, receiver := some "self", signature := { args }, doc := none, body := .const .null
      place := none, decorations := [], announced := none }))

/-- the class of configurations; an instance is shown as what stands behind its values -/
def configurationForm (behind : Value) : Class :=
  { name := "Configurable"
    home := "clima.core"
    doc := some "Configuration management"
    members :=
      [ ownRoutine "_get_configured" []
      , ownRoutine "_set_configured" ["dct"]
      , ownRoutine "_chain_configurations" ["params", "_schema"]
      , ownRoutine "_init" ["_schema"]
      , ownRoutine "__call__" ["cls"]
      , ownRoutine "__getattr__" ["item"]
      , ownRoutine "__getitem__" ["item"]
      , ownRoutine "_clear" [] ]
    init := .inherited
    base := none
    shown := some behind.shown
    length := none
    file := some "clima/core.py"
    decorations := [] }

namespace Configuration

/-- what the configuration has under a private name without being given it -/
def own? (c : Configuration) (name : String) : Option Value :=
  if isPublic name then none
  else (Value.object (configurationForm c.behind) ((behindName, c.behind) :: c.values)).attribute?
    name

/-- the value that stands behind a name which has none of its own -/
def answer (c : Configuration) (name : String) : Except Error Value :=
  match c.behind with
  | .null => .error (.requiredParameter name)
  | v => do
    match ← v.answer name with
    | .null => throw (.requiredParameter name)
    | w => return w

def get (c : Configuration) (name : String) : Except Error Value :=
  match c.values.lookup name, c.own? name with
  | some v, _ => .ok v
  | none, some v => .ok v
  | none, none => c.answer name

def set (c : Configuration) (name : String) (v : Value) : Configuration :=
  if name = behindName then { c with behind := v }
  else { c with values := putName name v c.values }

/-- the entry behind the values under a name; that it holds nothing is told -/
def item {σ : Type} (c : Configuration) (name : String) : Run σ Value := do
  match c.behind.entry? name with
  | none => throw (c.behind.entryError name)
  | some .null =>
    printOut "none\n"
    return .null
  | some v => return v

def target : Target Configuration := ⟨get, set⟩

end Configuration

end CommandLine
