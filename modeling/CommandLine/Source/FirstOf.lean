import CommandLine.Component.Call

/-!
# The first that gives something

A chain of attempts, each a tuple of a routine and its arguments.  They are made from left to right
until one gives something; the state of the run counts the attempts made.
-/

namespace CommandLine

def Value.isTuple : Value → Bool
  | .tuple _ => true
  | _ => false

def attempt (host : Host Nat) (items : List Value) : Run Nat Value := do
  match items with
  | [] => throw (.indexOutOfRange "tuple")
  | f :: args =>
    modify fun w => { w with state := w.state + 1 }
    match ← f.call host args [] with
    | .itself => return f
    | .value v => return v

/-- makes attempts until one gives something; `none` if none does -/
def attempts (host : Host Nat) : List Value → Run Nat (Option Value)
  | [] => return none
  | .tuple items :: rest => do
    match ← attempt host items with
    | .null => attempts host rest
    | v => return some v
  | _ :: rest => attempts host rest

/-- the first thing that an attempt gives; without any, nothing, or a failure if one is asked for -/
def firstOf (host : Host Nat) (fail : Bool) (chain : List Value) : Run Nat Value := do
  let bad := chain.filter fun v => !v.isTuple
  if !bad.isEmpty then
    printOut "incorrect params to chain_get\n"
    bad.forM fun v => do
      let text ← v.writePlain
      printOut (text ++ " is not a tuple\n")
    throw (.type "")
  match ← attempts host chain with
  | some v => return v
  | none =>
    if fail then
      printOut "Failed. Only None values collected..\n"
      throw (.value "")
    else return .null

end CommandLine
