import CommandLine.Command.Loop
import CommandLine.Show.Help
import CommandLine.Show.Result
import CommandLine.Show.Script

/-!
# Commands

A command is run on a component: its flags are split off, the moves are made, and then the result
is printed, or what the flags ask for.  A command that does not fit leaves the program with code 2
after its trace and the help of what it has reached; a command that was asked for help or for its
trace leaves with code 0.
-/

namespace CommandLine

/-! ## the words of a command -/

def baseName : Value → Except Error String
  | .text s => .ok ((Text.splitAtChar '/' s).getLastD "")
  | .path p => .ok ((Text.splitAtChar '/' p.text).getLastD "")
  | v => .error (.notAPath v.kindName)

def programName (argv : List Value) : Except Error String :=
  match argv with
  | [] => .error (.indexOutOfRange "list")
  | v :: _ => baseName v

/-- the arguments of a command and whether they come as a tuple: a text is cut into words, and
without a command the arguments of the program are taken -/
def commandWords (argv : List Value) : Value → Except Error (List Value × Bool)
  | .text s =>
    match Text.shellWords s with
    | .ok ws => .ok (ws.map .text, false)
    | .error .noClosingQuotation => .error .noClosingQuotation
    | .error .noEscapedCharacter => .error .noEscapedCharacter
  | .list xs => .ok (xs, false)
  | .tuple xs => .ok (xs, true)
  | .null => .ok (argv.drop 1, false)
  | _ => .error .badCommand

/-- the first part of a value, by which flags are told from other arguments -/
def firstPart : Value → Except Error Value
  | .bytes (b :: _) | .byteArray (b :: _) => .ok (.int b.toNat)
  | .list (x :: _) | .tuple (x :: _) => .ok x
  | .dict es =>
    match Value.lookup (.int 0) es with
    | some v => .ok v
    | none => .error (.missingKey "0")
  | .class c => .error (.classNotSubscriptable c.name)
  | v => .error (.notSubscriptable v.kindName)

/-- an argument that is no text is no flag, if it can be told -/
def checkNoFlag (v : Value) : Except Error Unit := do
  if v.isTrue then
    match ← firstPart v with
    | .text s =>
      match v.unhashable? with
      | some k => if s = "" ∨ s = "-" then throw (.unhashable k)
      | none => pure ()
    | w => throw (.type ("'in <string>' requires string as left operand, not " ++ w.kindName))

/-- the texts of the flags; what is no text is no flag -/
def switchTexts : List Value → Except Error (List String)
  | [] => .ok []
  | .text s :: vs => do
    let ss ← switchTexts vs
    return s :: ss
  | v :: vs => do
    checkNoFlag v
    let ss ← switchTexts vs
    return "" :: ss

/-- splits the flags off a command; a tuple cannot be changed to ask for help in the long way -/
def splitFlags (words : List Value) (tupled : Bool) : Except Error (Separated Value) :=
  if tupled && asksHelp Value.isText words then .error (.noAttribute "tuple" "pop")
  else .ok (separateBy Value.isText .text words)

/-! ## running -/

def sessionVariables (context : List (String × Value)) (name : Option String) (initial : Value)
    (p : Progress) : List (String × Value) :=
  let own := (name.map (·, initial)).toList ++
    [("component", initial), ("result", p.component), ("trace", .null)] ++
    match p.made with
    | .null => []
    | v => [("self", v)]
  own.foldl (fun vs v => putName v.1 v.2 vs) context

/-- what an interactive session shows: the announcement, then the names one can type -/
def sessionText (verbose : Bool) (atHand : List (String × Value)) : String :=
  let names := (atHand.map (·.1)).filter fun n => !Text.startsWith "_" n
  availableText verbose atHand ++ "\nREPL: " ++ Text.joinWith " " (Text.sort names) ++ "\n"

/-- ends a run: arguments left over are a failure, otherwise the flags may ask for a script or for
an interactive session -/
def Progress.conclude {σ : Type} (fs : Flags) (context : List (String × Value)) (initial : Value)
    (p : Progress) : Run σ Trace := do
  if !p.args.isEmpty then return p.trace.fail (CommandError.leftOver p.args).parts p.args
  let trace ← if fs.completion then
      match p.trace.name with
      | none => throw .noCommandName
      | some n => pure (p.trace.add { deed := .script, component := .text (initial.script n []) })
    else pure p.trace
  if fs.interactive then
    printOut (sessionText fs.verbose (sessionVariables context trace.name initial p))
    return trace.add { deed := .interactive, component := .null }
  else return trace

structure Command where
  component : Value
  words : List Value
  /-- do the words come as a tuple? -/
  tupled : Bool := false
  /-- the variables at hand, which also stand for a missing component -/
  context : List (String × Value) := []
  name : Option String
  /-- the program's name in complaints about flags -/
  program : String

def Command.initial (c : Command) : Value :=
  match c.component with
  | .null => Value.record c.context
  | v => v

/-- where a run stands before its first move -/
def Progress.start (fs : Flags) (name : Option String) (component : Value) (args : List Value) :
    Progress :=
  { component, args, trace := Trace.ofComponent component name fs.separator }

def Command.start (c : Command) (fs : Flags) (args : List Value) : Progress :=
  { Progress.start fs c.name c.initial args with tupled := c.tupled }

/-- makes all the moves, up to the trace -/
def Progress.walk {σ : Type} (host : Host σ) (fs : Flags) (context : List (String × Value))
    (p : Progress) : Run σ Trace := do
  match ← p.run host fs with
  | .refused t => return t
  | .finished q | .stuck q => q.conclude fs context p.component

def Command.trace {σ : Type} (host : Host σ) (c : Command) : Run σ (Trace × Flags) := do
  let split ← splitFlags c.words c.tupled
  let switches ← switchTexts split.flags
  match Flags.read switches with
  | .error e =>
    printErr (e.report c.program)
    throw (.exit (.int 2))
  | .ok (fs, _) =>
    let t ← (c.start fs split.args).walk host fs c.context
    return (t, fs)

/-! ## printing -/

def Trace.help (t : Trace) (verbose : Bool) : Except Error String := do
  let command ← t.command
  t.result.help (some command) verbose

/-- the printed form of a result, if all of it can be printed; `none` if nothing is -/
def Trace.resultText? (t : Trace) (verbose : Bool) : Except Error (Option String) :=
  match t.result with
  | .list xs | .set xs | .generator xs => (Value.lines xs).map some
  | .routine r | .method _ r =>
    if r.isGenerating then .error .generatorRoutine
    else (t.help verbose).map fun h => some (h ++ "\n")
  | .dict es => (dictTable verbose es).map fun s => some (s ++ "\n")
  | .tuple xs => (Value.tuple xs).line.map fun s => some (s ++ "\n")
  | .null => .ok none
  | .bool b => .ok (some ((Value.bool b).plain ++ "\n"))
  | .text s => .ok (some (s ++ "\n"))
  | .int i => (Value.int i).writePlain.map fun s => some (s ++ "\n")
  | .float x => .ok (some ((Value.float x).plain ++ "\n"))
  | .complex a b => .ok (some ((Value.complex a b).plain ++ "\n"))
  | _ => (t.help verbose).map fun h => some (h ++ "\n")

/-- prints values one by one, up to the first that cannot be written -/
def printLines {σ : Type} : List Value → Run σ Unit
  | [] => pure ()
  | x :: xs => do
    let l ← x.line
    printOut (l ++ "\n")
    printLines xs

def Trace.printResult {σ : Type} (t : Trace) (verbose : Bool) : Run σ Unit := do
  match t.result with
  | .list xs | .set xs | .generator xs => printLines xs
  | _ =>
    match ← t.resultText? verbose with
    | some s => printOut s
    | none => pure ()

/-- was help asked for where the last element failed? -/
def Trace.failedAskingHelp (t : Trace) : Bool :=
  match t.later.getLast? with
  | some (.failure _ args) => args.any fun v => v.isText "-h" || v.isText "--help"
  | _ => false

def traceReport (t : Trace) : String := "Fire trace:\n" ++ t.text ++ "\n"

/-- shows what a trace calls for, and gives its result or leaves the program -/
def Trace.present {σ : Type} (t : Trace) (fs : Flags) : Run σ Value := do
  if t.failed then
    if t.failedAskingHelp then
      let _ ← t.command
    printErr (traceReport t ++ "\n")
    printErr ((← t.help fs.verbose) ++ "\n")
    throw (.commandExit 2 t.text)
  else if fs.trace && fs.help then
    printErr (traceReport t ++ "\n")
    printErr ((← t.help fs.verbose) ++ "\n")
    throw (.commandExit 0 t.text)
  else if fs.trace then
    printErr (traceReport t)
    throw (.commandExit 0 t.text)
  else if fs.help then
    printErr ((← t.help fs.verbose) ++ "\n")
    throw (.commandExit 0 t.text)
  else
    t.printResult fs.verbose
    return t.result

def Command.run {σ : Type} (host : Host σ) (c : Command) : Run σ Value := do
  let (t, fs) ← c.trace host
  t.present fs

/-- runs a command on a component, given as text, words or not at all, under a name that may be
missing -/
def runCommand {σ : Type} (host : Host σ) (argv : List Value) (context : List (String × Value))
    (component command : Value) (name : Option String) : Run σ Value := do
  let name ← match name with
    | some n => if n = "" then programName argv else pure n
    | none => programName argv
  let (words, tupled) ← commandWords argv command
  let _ ← splitFlags words tupled
  let program ← programName argv
  Command.run host { component, words, tupled, context, name := some name, program }

end CommandLine
