import CommandLine.Component.Call

/-!
# Methods as lists of actions

A method of a command class is a list of actions on something that has values under names: the
configuration, one that is still being filled, or a schema that is being made.  The actions run in
order until one gives the method's result.
-/

namespace CommandLine

/-! ## runs on a part of the state -/

/-- runs on a state of its own, and gives the result with the state it ends in; what is printed is
printed outside, also where the run fails -/
def runApart {σ τ α : Type} (state : τ) (r : Run τ α) : Run σ (α × τ) :=
  ExceptT.mk fun w =>
    let (a, v) := r.run.run { out := w.out, err := w.err, state }
    (a.map (·, v.state), { w with out := v.out, err := v.err })

/-- runs on a part of the state, and stores the part back, also where the run fails -/
def runWithin {σ τ α : Type} (part : σ → τ) (store : τ → σ → σ) (r : Run τ α) : Run σ α :=
  ExceptT.mk fun w =>
    let (a, v) := r.run.run { out := w.out, err := w.err, state := part w.state }
    (a, { out := v.out, err := v.err, state := store v.state w.state })

def getState {σ : Type} : Run σ σ := return (← get).state

def modifyState {σ : Type} (f : σ → σ) : Run σ Unit := modify fun w => { w with state := f w.state }

/-! ## actions -/

/-- how actions read and write a value under a name -/
structure Target (σ : Type) where
  read : σ → String → Except Error Value
  write : σ → String → Value → σ

/-- one action; a value ends the method -/
def Action.run {σ : Type} (t : Target σ) : Action → Run σ (Option Value)
  | .print v => do
    let text ← v.writePlain
    printOut (text ++ "\n")
    return none
  | .show name => do
    let v ← t.read (← getState) name
    let text ← v.writeShown
    printOut (name ++ " " ++ text ++ "\n")
    return none
  | .set name v => do
    modifyState fun s => t.write s name v
    return none
  | .copy target source => do
    let v ← t.read (← getState) source
    modifyState fun s => t.write s target v
    return none
  | .raise kind message => throw (raiseError kind message)
  | .return v => return some v
  | .get name => do
    let v ← t.read (← getState) name
    return some v

def runActions {σ : Type} (t : Target σ) : List Action → Run σ Value
  | [] => return .null
  | a :: rest => do
    match ← a.run t with
    | some v => return v
    | none => runActions t rest

end CommandLine
