import CommandLine.Text.Basic
import CommandLine.Text.CharClass
import CommandLine.Text.Quoted

/-!
# Flags of the command line itself

Behind the last isolated `--` stand the flags that steer the command line instead of the component:
`--help`, `--trace` and so on.  `separate` finds them, `Flags.read` reads them.  Long flags may be
shortened as long as they stay unique, short ones may be clustered, and what is neither a flag nor
the value of one is left over.
-/

namespace CommandLine

/-! ## finding the flags -/

structure Separated (α : Type) where
  args : List α
  flags : List α
  /-- the arguments as they were split -/
  given : List α

section
variable {α : Type}

/-- the parts before and behind the last mark -/
def splitLast (isMark : α → Bool) : List α → Option (List α × List α)
  | [] => none
  | x :: xs =>
    match splitLast isMark xs with
    | some (a, b) => some (x :: a, b)
    | none => if isMark x then some ([], xs) else none

/-- a call for help at the end, with no `--` anywhere, asks for the help flag; `is` tells whether an
argument is the given word -/
def asksHelp (is : α → String → Bool) (args : List α) : Bool :=
  (args.getLast?.any fun x => is x "-h" || is x "--help") && !(args.any fun x => is x "--")

/-- splits arguments of any kind, `word` being the argument that is a given word -/
def separateBy (is : α → String → Bool) (word : String → α) (args : List α) : Separated α :=
  let given := if asksHelp is args then args.dropLast ++ [word "--", word "-h"] else args
  match splitLast (fun x => is x "--") given with
  | some (a, f) => ⟨a, f, given⟩
  | none => ⟨given, [], given⟩

end

def separate (args : List String) : Separated String := separateBy (fun x s => x == s) id args

/-! ## the flags -/

inductive Flag where
  | verbose
  | interactive
  | separator
  | completion
  | help
  | trace
  deriving DecidableEq, Repr

namespace Flag

def all : List Flag := [verbose, interactive, separator, completion, help, trace]

def spellings : Flag → List String
  | verbose => ["--verbose", "-v"]
  | interactive => ["--interactive", "-i"]
  | separator => ["--separator"]
  | completion => ["--completion"]
  | help => ["--help", "-h"]
  | trace => ["--trace", "-t"]

def takesValue : Flag → Bool
  | separator => true
  | _ => false

def usage (f : Flag) : String :=
  match f with
  | separator => "[--separator SEPARATOR]"
  | f => "[" ++ f.spellings.headD "" ++ "]"

def spelled : List (String × Flag) := all.flatMap fun f => f.spellings.map (·, f)

def ofSpelling? (s : String) : Option Flag := spelled.lookup s

end Flag

structure Flags where
  verbose : Bool := false
  interactive : Bool := false
  separator : String := "-"
  completion : Bool := false
  help : Bool := false
  trace : Bool := false
  deriving DecidableEq, Repr

def Flags.switch (fs : Flags) : Flag → Flags
  | .verbose => { fs with verbose := true }
  | .interactive => { fs with interactive := true }
  | .separator => fs
  | .completion => { fs with completion := true }
  | .help => { fs with help := true }
  | .trace => { fs with trace := true }

inductive FlagError where
  | ambiguous (given : String) (candidates : List String)
  | unwanted (flag : Flag) (value : String)
  | missing (flag : Flag)

/-! ## one argument -/

inductive FlagShape where
  | argument
  /-- it looks like a flag and is none -/
  | unknown
  | flag (f : Flag) (spelling : String) (value : Option String)

def isDecimalDigit (c : Char) : Bool := (Text.digitValue? c).isSome

/-- a negative number is an argument, also with a line end behind it -/
def isNegativeNumber (s : String) : Bool :=
  match s.toList with
  | '-' :: cs =>
    let cs := if cs.getLast? = some '\n' then cs.dropLast else cs
    let whole := cs.takeWhile isDecimalDigit
    match cs.dropWhile isDecimalDigit with
    | [] => !whole.isEmpty
    | '.' :: r => !r.isEmpty && r.all isDecimalDigit
    | _ => false
  | _ => false

/-- the flags that a shortened or clustered spelling may stand for -/
def flagCandidates (s : String) : List (Flag × String × Option String) :=
  match s.toList with
  | '-' :: '-' :: _ =>
    let (name, value) := match Text.cutAt '=' s with
      | some (a, b) => (a, some b)
      | none => (s, none)
    (Flag.spelled.filter fun p => Text.startsWith name p.1).map fun p => (p.2, p.1, value)
  | '-' :: c :: rest =>
    Flag.spelled.filterMap fun p =>
      if p.1.toList = ['-', c] then some (p.2, p.1, some (String.ofList rest))
      else if Text.startsWith s p.1 then some (p.2, p.1, none)
      else none
  | _ => []

def flagShape (s : String) : Except FlagError FlagShape :=
  if !Text.startsWith "-" s then .ok .argument
  else match Flag.ofSpelling? s with
    | some f => .ok (.flag f s none)
    | none =>
      if s.length = 1 then .ok .argument
      else
        let explicit := (Text.cutAt '=' s).bind fun (name, value) =>
          (Flag.ofSpelling? name).map fun f => FlagShape.flag f name (some value)
        match explicit with
        | some shape => .ok shape
        | none =>
          match flagCandidates s with
          | [(f, spelling, value)] => .ok (.flag f spelling value)
          | [] =>
            if isNegativeNumber s || Text.hasChar ' ' s then .ok .argument else .ok .unknown
          | cs => .error (.ambiguous s (cs.map (·.2.1)))

/-- the shapes of all the arguments; behind a `--` everything is an argument -/
def flagShapes : List String → Except FlagError (List (String × Option FlagShape))
  | [] => .ok []
  | x :: xs =>
    if x = "--" then .ok ((x, none) :: xs.map (·, some .argument))
    else do
      let shape ← flagShape x
      let rest ← flagShapes xs
      return (x, some shape) :: rest

/-! ## all of them -/

/-- switches on the flags of a cluster: `value` is what follows the first one's letter -/
def Flags.cluster (fs : Flags) (f : Flag) : List Char → Except FlagError Flags
  | [] => .ok (fs.switch f)
  | c :: cs =>
    match Flag.ofSpelling? (String.ofList ['-', c]) with
    | some g => (fs.switch f).cluster g cs
    | none => .error (.unwanted f (String.ofList (c :: cs)))

/-- takes a flag that has a value written to it -/
def Flags.explicit (fs : Flags) (f : Flag) (spelling value : String) : Except FlagError Flags :=
  if f.takesValue then .ok { fs with separator := value }
  else if Text.startsWith "--" spelling || value = "" then .error (.unwanted f value)
  else fs.cluster f value.toList

/-- reads the shapes from left to right; `extra` are the arguments left over so far -/
def Flags.readShapes : Flags → List String → List (String × Option FlagShape) →
    Except FlagError (Flags × List String)
  | fs, extra, [] => .ok (fs, extra)
  | fs, extra, (_, some (.flag f spelling value)) :: rest =>
    match value with
    | some v => do
      let fs ← fs.explicit f spelling v
      fs.readShapes extra rest
    | none =>
      if f.takesValue then
        match rest with
        | (v, some .argument) :: rest => Flags.readShapes { fs with separator := v } extra rest
        | _ => .error (.missing f)
      else (fs.switch f).readShapes extra rest
  | fs, extra, (x, _) :: rest => fs.readShapes (extra ++ [x]) rest

/-- the flags in a list of arguments, and the arguments that are none -/
def Flags.read (args : List String) : Except FlagError (Flags × List String) := do
  let shapes ← flagShapes args
  Flags.readShapes {} [] shapes

/-! ## complaints -/

def FlagError.message : FlagError → String
  | .ambiguous s cs => "ambiguous option: " ++ s ++ " could match " ++ Text.joinWith ", " cs
  | .unwanted f v =>
    "argument " ++ Text.joinWith "/" f.spellings ++ ": ignored explicit argument " ++ Text.quoted v
  | .missing f => "argument " ++ Text.joinWith "/" f.spellings ++ ": expected one argument"

def usageWidth : Nat := 78

/-- fills lines with words; `used` is how much of the first line is taken -/
def fillLines (width indent : Nat) : Nat → List String → List String → List (List String)
  | _, line, [] => if line.isEmpty then [] else [line]
  | used, line, w :: ws =>
    if width < used + 1 + w.length ∧ ¬ line.isEmpty then
      line :: fillLines width indent (indent + w.length) [w] ws
    else fillLines width indent (used + 1 + w.length) (line ++ [w]) ws

def flagUsage (prog : String) : String :=
  let lead := "usage: "
  let parts := Flag.all.map Flag.usage
  let whole := Text.joinWith " " (prog :: parts)
  if lead.length + whole.length ≤ usageWidth then lead ++ whole ++ "\n"
  else if 4 * (lead.length + prog.length) ≤ 3 * usageWidth then
    let indent := lead.length + prog.length + 1
    let lines := fillLines usageWidth indent (lead.length - 1) [] (prog :: parts)
    lead ++ Text.joinWith ("\n" ++ Text.spaces indent) (lines.map (Text.joinWith " ")) ++ "\n"
  else
    let indent := lead.length
    let lines := fillLines usageWidth indent (indent - 1) [] parts
    lead ++ prog ++
      String.join (lines.map fun l => "\n" ++ Text.spaces indent ++ Text.joinWith " " l) ++ "\n"

def FlagError.report (prog : String) (e : FlagError) : String :=
  flagUsage prog ++ prog ++ ": error: " ++ e.message ++ "\n"

end CommandLine
