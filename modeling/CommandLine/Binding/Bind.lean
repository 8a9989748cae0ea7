import CommandLine.Binding.Keywords
import CommandLine.Binding.Readings
import CommandLine.Component.Spec

/-!
# Binding arguments to parameters

`bind` gives a component's parameters their values from a list of arguments.  Named arguments go to
the parameters they name; the parameters left take the single arguments in order, then their
defaults; what remains goes to the extra arguments if the component takes any, and is handed back
otherwise, unknown flags behind it.
-/

namespace CommandLine

/-- what a command cannot be applied for -/
inductive CommandError where
  | noValue (param : String)
  | missingFlags (names : List String)
  | noIndex (arg : Value)
  | noTarget (target : Value) (component : Value)
  | notConsumed (arg : Value)
  | leftOver (args : List Value)

def CommandError.parts : CommandError → List Value
  | .noValue p => [.text "The function received no value for the required argument:", .text p]
  | .missingFlags names => [.text "Missing required flags:", .set (names.map .text)]
  | .noIndex arg => [.text "Unable to index into component with argument:", arg]
  | .noTarget t c => [.text "Cannot find target in dict:", t, c]
  | .notConsumed arg => [.text "Could not consume arg:", arg]
  | .leftOver args => [.text "Could not consume arguments:", .list args]

/-- why arguments cannot be bound: the command does not fit, or an argument cannot be read -/
inductive BindError where
  | command (e : CommandError)
  | reading (e : Error)

structure Bound where
  /-- the values of the positional parameters, then the extra arguments -/
  positional : List Value
  /-- the values given by name, beyond the positional parameters -/
  named : List (String × Value)
  consumed : List String
  remaining : List String
  /-- could the call have taken more arguments? -/
  capacity : Bool

namespace Binding

def readFor (m : Metadata) (index : Option Nat) (name : Option String) (s : String) :
    Except BindError Value :=
  match (m.readings.choose index name).read s with
  | .ok v => .ok v
  | .error e => .error (.reading e)

/-- the values of the parameters from `index` on: `named` and `single` are what is still to be used,
`required` how many parameters have no default -/
structure Filled where
  values : List Value := []
  single : List String
  capacity : Bool := false

def fill (m : Metadata) (defaults : List Value) (required : Nat) (named : List (String × String)) :
    Nat → List String → List String → Except BindError Filled
  | _, [], single => .ok { single }
  | index, p :: ps, single =>
    match named.lookup p with
    | some s => do
      let v ← readFor m (some index) (some p) s
      let f ← fill m defaults required named (index + 1) ps single
      return { f with values := v :: f.values }
    | none =>
      match m.positional, single with
      | true, s :: single => do
        let v ← readFor m (some index) (some p) s
        let f ← fill m defaults required named (index + 1) ps single
        return { f with values := v :: f.values }
      | _, _ =>
        if index < required then .error (.command (.noValue p))
        else do
          let f ← fill m defaults required named (index + 1) ps single
          return { f with
            values := defaults.getD (index - required) .null :: f.values
            capacity := true }

def readNamed (m : Metadata) : List (String × String) → Except BindError (List (String × Value))
  | [] => .ok []
  | (k, s) :: rest => do
    let v ← readFor m none (some k) s
    let vs ← readNamed m rest
    return (k, v) :: vs

def readExtra (m : Metadata) : List String → Except BindError (List Value)
  | [] => .ok []
  | s :: rest => do
    let v ← readFor m none none s
    let vs ← readExtra m rest
    return v :: vs

def requiredFlags (spec : Signature Value) : List String :=
  spec.flagParams.filter fun k => (spec.flagDefaults.lookup k).isNone

end Binding

open Binding in
def bindWith (spec : Signature Value) (m : Metadata) (args : List String) :
    Except BindError Bound := do
  let anyName := spec.moreNamed.any (· ≠ "")
  let k := Keywords.of (spec.args ++ spec.flagParams) anyName args
  let required := spec.args.length - spec.defaults.length
  let f ← fill m spec.defaults required k.named 0 spec.args k.rest
  let others := k.named.filter fun p => !spec.args.contains p.1
  let named ← readNamed m others
  let missing := (requiredFlags spec).filter fun p => (others.lookup p).isNone
  if !missing.isEmpty then throw (.command (.missingFlags missing))
  let (extra, rest) := if spec.more.isSome then (f.single, []) else ([], f.single)
  let extra ← readExtra m extra
  let remaining := rest ++ k.unknown
  return {
    positional := f.values ++ extra
    named
    consumed := args.take (args.length - remaining.length)
    remaining
    capacity := f.capacity || spec.more.any (· ≠ "") || anyName }

def Value.bind (component : Value) (args : List String) : Except BindError Bound :=
  bindWith component.spec component.metadata args

end CommandLine
