import CommandLine.Command.Depth
import CommandLine.Command.Move
import CommandLine.Flags

/-!
# Moving until the arguments are used up

A run repeats moves.  Each move sees only the arguments up to the next separator; those behind it
are kept back and joined again afterwards.  The run stops when a move changes nothing, or, if it was
only asked to show something, as soon as there are no arguments.

Every round either uses up an argument or makes a call whose result allows fewer calls in a row, so
a run ends.  `rounds` counts the calls in a row, `run` the arguments used up.
-/

namespace CommandLine

structure Progress where
  component : Value
  args : List Value
  trace : Trace
  /-- do the arguments come as a tuple?  What a call leaves of them is a list. -/
  tupled : Bool := false
  /-- is the component still the one the run has started with? -/
  atStart : Bool := true
  /-- what a call of that component gave -/
  made : Value := .null

inductive Round where
  | again (p : Progress)
  | finished (p : Progress)
  | refused (t : Trace)

/-- the arguments before the separator, and those behind it if there is one -/
def splitAtSeparator (separator : String) : List Value → List Value × Option (List Value)
  | [] => ([], none)
  | x :: xs =>
    if x.isText separator then ([], some xs)
    else
      let (before, behind) := splitAtSeparator separator xs
      (x :: before, behind)

def mixedSequences (left right : String) : Error :=
  .type ("can only concatenate " ++ left ++ " (not \"" ++ right ++ "\") to " ++ left)

/-- joins the arguments left by a move with those behind the separator: the separator stays while
there is something left before it or if a part was accessed, and a call takes it.  Parts of a tuple
cannot be joined with the separator. -/
def joinBehind (separator : String) (callable moved tupled : Bool) (rest : List Value) :
    Option (List Value) → Except Error (List Value)
  | none => .ok rest
  | some behind =>
    if !rest.isEmpty then
      if !tupled then .ok (rest ++ .text separator :: behind)
      else if callable then .error (mixedSequences "list" "tuple")
      else .error (mixedSequences "tuple" "list")
    else if callable || !moved then .ok behind
    else if tupled then .error (mixedSequences "list" "tuple")
    else .ok (.text separator :: behind)

def takesSeparator (callable : Bool) (rest : List Value) (behind : Option (List Value)) : Bool :=
  callable && rest.isEmpty && behind.isSome

/-- is the run asked only to show something? -/
def Flags.shows (fs : Flags) : Bool := fs.help || fs.interactive || fs.trace || fs.completion

/-- are the arguments still a tuple behind a move?  They are unless a call has left its own list. -/
def staysTupled (tupled callable : Bool) (rest : List Value) (behind : Option (List Value)) :
    Bool :=
  tupled && (!callable || takesSeparator callable rest behind)

/-- does a step lead to another component?  A part may be the component itself, and then a separator
behind it is not put back.  For a list that is no matter: put back, it is dropped in the next round. -/
def Progress.movesOn (p : Progress) (s : Step) : Bool :=
  !(p.tupled && s.args.any p.component.isOwnPart)

/-- where a move leads, the arguments behind the separator having been kept back -/
def Progress.after (fs : Flags) (p : Progress) (behind : Option (List Value)) :
    Move → Except Error Round
  | .refused e => return .refused (p.trace.fail e.parts p.args)
  | .made component step rest => do
    let callable := p.component.isCallable
    let args ← joinBehind fs.separator callable (p.movesOn step) p.tupled rest behind
    let trace := p.trace.add step
    return .again {
      component
      args
      trace := if takesSeparator callable rest behind then trace.mark else trace
      tupled := staysTupled p.tupled callable rest behind
      atStart := false
      made := if callable && p.atStart then component else p.made }
  | .same step rest asGiven => do
    let callable := p.component.isCallable
    let args ← joinBehind fs.separator callable false p.tupled rest behind
    let trace := match step with
      | some s => p.trace.add s
      | none => p.trace
    let next := { p with
      args
      trace := if takesSeparator callable rest behind then trace.mark else trace
      tupled := staysTupled p.tupled callable rest behind
      made := if callable && p.atStart then p.component else p.made }
    if asGiven && args.length = p.args.length && next.tupled = p.tupled then return .finished next
    else return .again next

def Progress.round {σ : Type} (host : Host σ) (fs : Flags) (p : Progress) : Run σ Round := do
  if p.args.isEmpty && fs.shows then return .finished p
  let (before, behind) := splitAtSeparator fs.separator p.args
  let m ← p.component.move host before
  p.after fs behind m

inductive RunEnd where
  /-- all moves are made; arguments may be left -/
  | finished (p : Progress)
  /-- a move was refused -/
  | refused (t : Trace)
  /-- more calls in a row than the component allows -/
  | stuck (p : Progress)

/-- rounds that use up no argument, at most `n` in a row; `next` goes on once one is used up -/
def Progress.rounds {σ : Type} (host : Host σ) (fs : Flags) (next : Progress → Run σ RunEnd) :
    Nat → Progress → Run σ RunEnd
  | 0, p => return .stuck p
  | n + 1, p => do
    match ← p.round host fs with
    | .finished q => return .finished q
    | .refused t => return .refused t
    | .again q =>
      if q.args.length < p.args.length then next q else q.rounds host fs next n

/-- how many rounds may use up no argument -/
def Progress.patience {σ : Type} (host : Host σ) (p : Progress) : Nat :=
  p.component.callDepth + host.depth + 2

/-- moves until nothing changes, `n` being more than the number of arguments -/
def Progress.runFor {σ : Type} (host : Host σ) (fs : Flags) : Nat → Progress → Run σ RunEnd
  | 0, p => return .stuck p
  | n + 1, p => p.rounds host fs (Progress.runFor host fs n) (p.patience host)

def Progress.run {σ : Type} (host : Host σ) (fs : Flags) (p : Progress) : Run σ RunEnd :=
  p.runFor host fs (p.args.length + 1)

end CommandLine
