import CommandLine.Binding.Keywords
import CommandLine.Text.ShellWords

/-!
# The trace of a command

A trace keeps what a command has done: the component it started with, then one element for each
call, each access, and for the failure that ended it.  The result of a command is the component of
the last step that did not fail, and the steps together give back the command that makes them.
-/

namespace CommandLine

inductive Deed where
  | start
  | instantiated
  | called
  | accessed
  | script
  | interactive
  deriving DecidableEq, Repr

def Deed.text : Deed → String
  | .start => "Initial component"
  | .instantiated => "Instantiated class"
  | .called => "Called routine"
  | .accessed => "Accessed property"
  | .script => "Generated completion script"
  | .interactive => "Entered interactive mode"

structure Step where
  deed : Deed
  /-- what the step has led to -/
  component : Value
  target : Option Value := none
  /-- the arguments it has used up -/
  args : List Value := []
  file : Option String := none
  line : Option Int := none
  /-- could a call have taken more arguments?  Other steps leave this open. -/
  capacity : Option Bool := none
  /-- does a separator follow in the command? -/
  separated : Bool := false

inductive TraceElement where
  | step (s : Step)
  /-- the parts of the complaint, and the arguments that were at hand -/
  | failure (parts args : List Value)

/-- the text of a complaint: a single part stands for itself, several as a tuple -/
def complaint : List Value → String
  | [] => ""
  | [v] => v.plain
  | vs => (Value.tuple vs).shown

/-- where a step took place, in parentheses -/
def Step.placeText (s : Step) : String :=
  match s.file, s.line with
  | none, _ => ""
  | some f, none => " (" ++ f ++ ")"
  | some f, some n => " (" ++ f ++ ":" ++ Number.intText n ++ ")"

def Step.text (s : Step) : String :=
  s.deed.text ++
    (match s.target with
      | some t => " \"" ++ t.plain ++ "\""
      | none => "") ++
    s.placeText

def TraceElement.text : TraceElement → String
  | .step s => s.text
  | .failure parts _ => complaint parts

def TraceElement.isFailure : TraceElement → Bool
  | .step _ => false
  | .failure .. => true

/-- notes a separator behind an element; behind a failure it has no place in the command -/
def TraceElement.mark : TraceElement → TraceElement
  | .step s => .step { s with separated := true }
  | e => e

structure Trace where
  name : Option String := none
  separator : String := "-"
  first : Step
  later : List TraceElement := []

namespace Trace

/-- the trace that starts with a component -/
def ofComponent (component : Value) (name : Option String) (separator : String) : Trace :=
  { name, separator, first := { deed := .start, component } }

def elements (t : Trace) : List TraceElement := .step t.first :: t.later

/-! ## adding -/

def add (t : Trace) (s : Step) : Trace := { t with later := t.later ++ [.step s] }

def fail (t : Trace) (parts args : List Value) : Trace :=
  { t with later := t.later ++ [.failure parts args] }

def mark (t : Trace) : Trace :=
  match t.later.getLast? with
  | none => { t with first := { t.first with separated := true } }
  | some e => { t with later := t.later.dropLast ++ [e.mark] }

/-! ## reading -/

/-- the steps that did not fail, behind the first -/
def steps (t : Trace) : List Step :=
  t.later.filterMap fun e => match e with
    | .step s => some s
    | .failure .. => none

def lastStep (t : Trace) : Step := t.steps.getLastD t.first

def result (t : Trace) : Value := t.lastStep.component

def failed (t : Trace) : Bool :=
  match t.later.getLast? with
  | some e => e.isFailure
  | none => false

/-- must a separator follow before more arguments act on the result? -/
def needsSeparator (t : Trace) : Option Bool :=
  t.lastStep.capacity.map fun c => c && !t.lastStep.separated

def stepWords (separator : String) (s : Step) : List Value :=
  s.args ++ if s.separated then [.text separator] else []

def words (t : Trace) : List Value :=
  (match t.name with
    | some n => if n = "" then [] else [.text n]
    | none => []) ++
    (t.first :: t.steps).flatMap (stepWords t.separator) ++
    (if t.needsSeparator = some true then [.text t.separator] else [])

def command (t : Trace) : Except Error String := do
  let ws ← flagTexts t.words
  return Text.joinWith " " (ws.map Text.quoteArg)

def text (t : Trace) : String :=
  Text.joinWith "\n" (t.elements.mapIdx fun i e => Number.natText (i + 1) ++ ". " ++ e.text)

end Trace

end CommandLine
