import CommandLine.Binding.Bind
import CommandLine.Command.Trace
import CommandLine.Component.Call
import CommandLine.Component.Members

/-!
# One move of a command

A move takes a component and the arguments at hand, and leads to the next component.  What can be
called is called with the arguments bound to its parameters; from a list or a tuple the first
argument picks an element by its index, from a dictionary an entry by its key, and from everything
else a member by its name.  Without arguments, what cannot be called stays as it is.
-/

namespace CommandLine

inductive Move where
  /-- the command does not fit the component -/
  | refused (e : CommandError)
  /-- to another component, with these arguments left -/
  | made (component : Value) (step : Step) (rest : List Value)
  /-- nowhere; a call that gives the routine back leaves a step, and may leave the arguments as they
  were given -/
  | same (step : Option Step) (rest : List Value) (asGiven : Bool)

def Value.isText (v : Value) (s : String) : Bool :=
  match v with
  | .text t => t == s
  | _ => false

/-! ## calls -/

def Value.callName : Value → String
  | .routine r | .method _ r => r.name
  | .class c => c.name
  | .kind k => k.name
  | .builtin b => b.name
  | .builtinMethod _ _ name => name
  | _ => ""

def callStep (called component : Value) (b : Bound) : Step :=
  { deed := if called.isClass then .instantiated else .called
    component
    target := some (.text called.callName)
    args := b.consumed.map .text
    file := called.place.1
    line := called.place.2.map Int.ofNat
    capacity := some b.capacity }

def Value.moveByCall {σ : Type} (host : Host σ) (v : Value) (args : List Value) : Run σ Move := do
  let words ← flagTexts args
  match v.bind words with
  | .error (.command e) => return .refused e
  | .error (.reading e) => throw e
  | .ok b =>
    let rest := b.remaining.map Value.text
    match ← v.call host b.positional b.named with
    | .itself => return .same (some (callStep v v b)) rest (b.remaining == words)
    | .value w => return .made w (callStep v w b) rest

/-! ## accesses -/

def underscored (s : String) : String := Text.replaceChar '-' '_' s

/-- the refusal to look for dashes in an argument that is no text -/
def noReplacement : Value → Error
  | .bytes _ | .byteArray _ => .type "a bytes-like object is required, not 'str'"
  | .class c => .noTypeAttribute c.name "replace"
  | v => .noAttribute v.kindName "replace"

/-- an element by its index; a negative one counts from the end -/
def elementAt? (xs : List Value) (i : Int) : Option Value :=
  if i < 0 then
    if i.natAbs ≤ xs.length then xs[xs.length - i.natAbs]? else none
  else xs[i.toNat]?

/-- an element of a list, with its index as a value; `none` if the argument is no index of it -/
def indexed (xs : List Value) (arg : Value) : Except Error (Option (Value × Value)) :=
  match castInt arg with
  | .ok (.int i) => .ok ((elementAt? xs i).map (·, .int i))
  | .ok _ => .ok none
  | .error e => if e.kind = .value then .ok none else .error e

/-- the entry of a dictionary for an argument: under it, under its underscored form, or under a key
whose text it is -/
def entryFor (es : List (Value × Value)) (arg : Value) : Except Error (Option Value) :=
  match arg.unhashable? with
  | some k => .error (.unhashable k)
  | none =>
    match Value.lookup arg es, arg with
    | some v, _ => .ok (some v)
    | none, .text s =>
      .ok ((Value.lookup (.text (underscored s)) es).orElse fun _ =>
        (es.find? fun e => e.1.plain = s).map (·.2))
    | none, v => .error (noReplacement v)

/-- the member of a component for an argument: under it, or under its underscored form -/
def memberFor (v arg : Value) : Except Error (Option Value) :=
  match arg with
  | .text s =>
    .ok ((v.namedMembers.lookup s).orElse fun _ => v.namedMembers.lookup (underscored s))
  | arg => .error (noReplacement arg)

/-- is the part that an argument picks the component itself?  A number is its own real part, and an
anchor its own parent. -/
def Value.isOwnPart (v arg : Value) : Bool :=
  match v, arg.text?.map underscored with
  | .null, some "__doc__" => true
  | .int _, some "real" | .int _, some "numerator" | .float _, some "real" => true
  | .int i, some "denominator" => i = 1
  | .int i, some "imag" => i = 0
  | .path p, some "parent" => p.names.isEmpty && p.anchor ≠ ""
  | _, _ => false

def accessStep (component target arg : Value) : Step :=
  { deed := .accessed, component, target := some target, args := [arg] }

/-- goes to a part of a component that cannot be called -/
def Value.moveByAccess (v arg : Value) (rest : List Value) : Except Error Move := do
  match v with
  | .list xs | .tuple xs =>
    match ← indexed xs arg with
    | some (w, i) => return .made w (accessStep w i arg) rest
    | none => return .refused (.noIndex arg)
  | .dict es =>
    match ← entryFor es arg with
    | some w => return .made w (accessStep w arg arg) rest
    | none => return .refused (.noTarget arg v)
  | v =>
    match ← memberFor v arg with
    | some w =>
      let step := { accessStep w arg arg with
        file := w.place.1
        line := w.place.2.map Int.ofNat }
      return .made w step rest
    | none => return .refused (.notConsumed arg)

def Value.move {σ : Type} (host : Host σ) (v : Value) (args : List Value) : Run σ Move :=
  if v.isCallable then v.moveByCall host args
  else match args with
    | [] => return .same none [] true
    | arg :: rest => v.moveByAccess arg rest

end CommandLine
