import CommandLine.Component.Members
import CommandLine.Component.Spec

/-!
# Completions

What may follow a command that has led to a component: the flags of a routine or a class, the
positions of a list, or the names of members.  `commands` lists the commands down to a depth, each
as its words; a command comes before the longer ones that start with it.
-/

namespace CommandLine

/-- a name as a word of a command: dashes for underscores, unless it starts with one -/
def commandWord (s : String) : String :=
  if Text.startsWith "_" s then s else Text.replaceChar '_' '-' s

def Value.commandWord (v : Value) : String := CommandLine.commandWord v.plain

def isListed (verbose : Bool) : Value → Bool
  | .text s => verbose || (s ≠ "" && !Text.startsWith "_" s)
  | _ => true

def Value.listedMembers (verbose : Bool) (v : Value) : List (Value × Value) :=
  v.members.filter fun m => isListed verbose m.1

def flagWord (param : String) : String := "--" ++ Text.replaceChar '_' '-' param

def Value.completions (verbose : Bool) (v : Value) : List String :=
  if v.isCallable then
    let spec := v.spec
    (spec.args ++ spec.flagParams).map flagWord
  else match v with
    | .tuple xs | .list xs => (List.range xs.length).map Number.natText
    | .generator _ => []
    | v => (v.listedMembers verbose).map (·.1.commandWord)

/-- the commands that start at a component, down to a depth -/
def Value.commands : Nat → Value → List (List String)
  | depth, v =>
    let flags := if v.isCallable then (v.completions false).map ([·]) else []
    if v.isRoutine then flags
    else match depth with
      | 0 => flags
      | depth + 1 => flags ++ (v.listedMembers false).flatMap fun m =>
        let word := m.1.commandWord
        [word] :: (m.2.commands depth).map (word :: ·)

end CommandLine
