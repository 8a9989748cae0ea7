import CommandLine.Value.Basic

/-!
# How often one call leads to another

A call may give something that can be called again.  `callDepth` bounds how many calls in a row can
follow each other without an argument being used up: a routine gives the value it is declared with
or the value of a parameter, both of which are parts of it, or itself.  A method of a set can take
one of its elements out.
-/

namespace CommandLine

mutual

def Value.callDepth : Value → Nat
  | .routine r => r.callDepth
  | .method _ r => r.callDepth
  | .builtinMethod _ v _ => 1 + v.heldDepth
  | .class _ | .kind _ | .builtin _ => 1
  | _ => 0

/-- the depth of what a set holds -/
def Value.heldDepth : Value → Nat
  | .set xs | .frozenSet xs => Value.listDepth xs
  | _ => 0

def Routine.callDepth : Routine → Nat
  | ⟨_, _, s, _, body, _, _, _⟩ => 1 + max (Signature.callDepth s) body.callDepth

def Signature.callDepth : Signature Value → Nat
  | ⟨_, defaults, _, _, flagDefaults, _⟩ =>
    max (Value.listDepth defaults) (Value.namedDepth flagDefaults)

def Value.listDepth : List Value → Nat
  | [] => 0
  | v :: vs => max v.callDepth (Value.listDepth vs)

def Value.namedDepth : List (String × Value) → Nat
  | [] => 0
  | p :: ps => max (Value.pairDepth p) (Value.namedDepth ps)

def Value.pairDepth : String × Value → Nat
  | (_, v) => v.callDepth

def Body.callDepth : Body → Nat
  | .const v => v.callDepth
  | .act actions => Action.listDepth actions
  | _ => 0

def Action.listDepth : List Action → Nat
  | [] => 0
  | a :: as => max a.callDepth (Action.listDepth as)

def Action.callDepth : Action → Nat
  | .return v | .set _ v => v.callDepth
  | _ => 0

end

end CommandLine
