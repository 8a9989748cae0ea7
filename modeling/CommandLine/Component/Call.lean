import CommandLine.Component.Method.Call
import CommandLine.Component.Spec

/-!
# Calling a component

A call gives the parameters their values and runs the body.  Running needs a place for what is
printed and, for the methods of a command class, the configuration; `Host` supplies the latter, so
components without such methods behave the same under every host.
-/

namespace CommandLine

/-! ## runs -/

/-- what a run has printed so far, and the state of its host -/
structure World (σ : Type) where
  out : String := ""
  err : String := ""
  state : σ

/-- a computation that prints, changes the host's state, and may end in an error -/
abbrev Run (σ : Type) := ExceptT Error (StateM (World σ))

def printOut {σ : Type} (s : String) : Run σ Unit := modify fun w => { w with out := w.out ++ s }
def printErr {σ : Type} (s : String) : Run σ Unit := modify fun w => { w with err := w.err ++ s }

/-- what an outer program does for its command classes -/
structure Host (σ : Type) where
  /-- runs the actions of a method on the values of its parameters -/
  act : List Action → List (String × Value) → Run σ Value
  /-- takes the named arguments of a command class into the configuration -/
  configure : List (String × Value) → Run σ Unit
  /-- how many calls in a row its values allow -/
  depth : Nat := 0

/-- a host that has no configuration -/
def Host.plain (σ : Type) : Host σ := ⟨fun _ _ => pure .null, fun _ => pure (), 0⟩

/-- what a call gives: the called component itself, or a value -/
inductive Result where
  | itself
  | value (v : Value)

/-! ## giving the parameters their values -/

def multipleValues (routine param : String) : Error :=
  .type (routine ++ "() got multiple values for argument '" ++ param ++ "'")

def unexpectedName (routine param : String) : Error :=
  .type (routine ++ "() got an unexpected keyword argument '" ++ param ++ "'")

def missingArgument (routine param : String) : Error :=
  .type (routine ++ "() missing 1 required positional argument: '" ++ param ++ "'")

def missingFlag (routine param : String) : Error :=
  .type (routine ++ "() missing 1 required keyword-only argument: '" ++ param ++ "'")

def tooMany (routine : String) (most given : Nat) : Error :=
  .type (routine ++ "() takes " ++ Number.natText most ++ " positional argument" ++
    (if most = 1 then "" else "s") ++ " but " ++ Number.natText given ++
    (if given = 1 then " was" else " were") ++ " given")

/-- the values of the positional parameters from `index` on -/
def positionalValues (name : String) (s : Signature Value) (named : List (String × Value)) :
    Nat → List String → List Value → Except Error (List (String × Value))
  | _, [], _ => .ok []
  | index, p :: ps, v :: vs => do
    if (named.lookup p).isSome then throw (multipleValues name p)
    let rest ← positionalValues name s named (index + 1) ps vs
    return (p, v) :: rest
  | index, p :: ps, [] => do
    let v ← match named.lookup p with
      | some v => pure v
      | none =>
        let required := s.args.length - s.defaults.length
        if index < required then throw (missingArgument name p)
        else pure (s.defaults.getD (index - required) .null)
    let rest ← positionalValues name s named (index + 1) ps []
    return (p, v) :: rest

def flagValues (name : String) (s : Signature Value) (named : List (String × Value)) :
    List String → Except Error (List (String × Value))
  | [] => .ok []
  | k :: ks => do
    let v ← match (named.lookup k).orElse fun _ => s.flagDefaults.lookup k with
      | some v => pure v
      | none => throw (missingFlag name k)
    let rest ← flagValues name s named ks
    return (k, v) :: rest

def Signature.assign (s : Signature Value) (name : String) (positional : List Value)
    (named : List (String × Value)) : Except Error (List (String × Value)) := do
  let args ← positionalValues name s named 0 s.args positional
  let extra := positional.drop s.args.length
  if s.more.isNone && !extra.isEmpty then
    throw (tooMany name s.args.length positional.length)
  let flags ← flagValues name s named s.flagParams
  let others := named.filter fun p => !(s.args.contains p.1) && !(s.flagParams.contains p.1)
  match s.moreNamed, others with
  | none, p :: _ => throw (unexpectedName name p.1)
  | _, _ =>
    return args ++ (s.more.map fun n => (n, Value.tuple extra)).toList ++ flags ++
      (s.moreNamed.map fun n => (n, Value.record others)).toList

/-! ## bodies -/

/-- the error that a body raises: leaving the program is an exit with the message as its code -/
def raiseError : ErrorKind → String → Error
  | .exit, message => .exit (.text message)
  | kind, message => .raised kind message

def Body.run {σ : Type} (host : Host σ) (b : Body) (values : List (String × Value)) :
    Run σ Result :=
  match b with
  | .echo => return .value (Value.record values)
  | .tuple => return .value (.tuple (values.map (·.2)))
  | .list => return .value (.list (values.map (·.2)))
  | .arg name => return .value ((values.lookup name).getD .null)
  | .const v => return .value v
  | .print text => do
    printOut (text ++ "\n")
    return .value .null
  | .raise kind message => throw (raiseError kind message)
  | .generate xs => return .value (.generator xs)
  | .itself => return .itself
  | .act actions => do
    let v ← host.act actions values
    return .value v

/-! ## calls -/

def Class.instantiate {σ : Type} (host : Host σ) (c : Class) (positional : List Value)
    (named : List (String × Value)) : Run σ Value :=
  match c.initializer with
  | .inherited =>
    if positional.isEmpty && named.isEmpty then return .object c []
    else throw (.type (c.name ++ "() takes no arguments"))
  | .stores r => do
    if (named.lookup "self").isSome then throw (multipleValues (c.name ++ ".__init__") "self")
    let values ← r.signature.assign (c.name ++ ".__init__") positional named
    return .object c values
  | .configures _ => do
    if (named.lookup "self").isSome then throw (multipleValues "cli.<locals>.init" "self")
    host.configure named
    return .object c []

def pathPart : Value → Except Error (List String)
  | .text s => .ok [s]
  | .path p => .ok p.parts
  | .bytes _ => .error (.notAPurePath "<class 'bytes'>")
  | v => .error (.notAPath v.kindName)

/-- a value of the type: a path from its parts, anything else from nothing or from one value -/
def Kind.make (k : Kind) (positional : List Value) : Except Error Value :=
  match k, positional with
  | .path p, vs => do
    let parts ← vs.mapM pathPart
    return .path (Path.ofParts p parts.flatten)
  | k, [v] => k.cast v
  | k, _ => .ok k.empty

def Routine.call {σ : Type} (host : Host σ) (r : Routine) (bound : Bool) (positional : List Value)
    (named : List (String × Value)) : Run σ Result := do
  match r.receiver, bound with
  | some p, true =>
    if (named.lookup p).isSome then throw (multipleValues r.name p)
    let values ← r.signature.assign r.name positional named
    r.body.run host values
  | some p, false =>
    let s := { r.signature with args := p :: r.signature.args }
    let values ← s.assign r.name positional named
    r.body.run host (values.drop 1)
  | none, _ =>
    let values ← r.signature.assign r.name positional named
    r.body.run host values

def Value.call {σ : Type} (host : Host σ) (component : Value) (positional : List Value)
    (named : List (String × Value)) : Run σ Result :=
  match component with
  | .routine r => r.call host false positional named
  | .method _ r => do
    match ← r.call host true positional named with
    | .itself => return .value (.routine r)
    | result => return result
  | .class c => do
    let v ← c.instantiate host positional named
    return .value v
  | .kind k => do
    let v ← k.make positional
    return .value v
  | .builtin b => do
    let v ← b.call positional named
    return .value v
  | .builtinMethod _ v name => do
    let w ← callBuiltinMethod v name positional named
    return .value w
  | v => throw (.notCallable v.kindName)

end CommandLine
