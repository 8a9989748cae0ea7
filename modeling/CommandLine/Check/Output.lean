import CommandLine.Component.Call
import CommandLine.Text.Pattern

/-!
# Checking what a run prints

A run is made with its output kept back, and what it has printed is compared with patterns.
-/

namespace CommandLine

/-- what the output of a run should be: a pattern for each channel, or nothing at all -/
structure Expectation where
  out : Option String := some ".*"
  err : Option String := some ".*"
  /-- is the output kept back? -/
  capture : Bool := true

def keepingOutput {σ α : Type} (run : Run σ α) : Run σ (Except Error α × String × String) := do
  let before ← get
  let (r, w) := run.run.run { before with out := "", err := "" }
  set { w with out := before.out, err := before.err }
  return (r, w.out, w.err)

/-- the complaint about one channel, if it is not as expected -/
def channelError? (name : String) (pattern : Option String) (printed : String) : Option Error :=
  match pattern with
  | none =>
    if printed = "" then none
    else some (.raised .assertion (name ++ ": Expected no output. Got: " ++ Text.quoted printed))
  | some p =>
    if Text.found p printed then none
    else some (.raised .assertion (name ++ ": Expected " ++ Text.quoted printed ++ " to match " ++
      Text.quoted p))

/-- runs and compares the output; an error of the run itself comes first -/
def expectOutput {σ α : Type} (e : Expectation) (run : Run σ α) : Run σ Unit := do
  let (r, out, err) ← keepingOutput run
  if !e.capture then
    printOut out
    printErr err
  match r with
  | .error e => throw e
  | .ok _ =>
    match (channelError? "stdout" e.out out).orElse fun _ => channelError? "stderr" e.err err with
    | some e => throw e
    | none => return ()

/-- runs what should leave a command with a code -/
def expectCommandExit {σ α : Type} (code : Value) (run : Run σ α) : Run σ Unit := do
  match ← (fun w => let (r, w) := run.run.run w; (.ok r, w) : Run σ (Except Error α)) with
  | .ok _ => throw (.raised .assertion "FireExit not raised")
  | .error (.commandExit c _) =>
    if (Value.int c).eqv code then return ()
    else throw (.raised .assertion ("Incorrect exit code: " ++ (Value.int c).shown ++ " != " ++
      code.shown))
  | .error e => throw e

/-- runs what should leave a command with a code, and compares what it prints on the error
channel -/
def expectExit {σ α : Type} (code : Value) (pattern : Option String) (run : Run σ α) : Run σ Unit :=
  expectOutput { err := pattern } (expectCommandExit code run)

end CommandLine
