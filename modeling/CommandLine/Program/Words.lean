import CommandLine.Command.Move
import CommandLine.Literal.Expr
import CommandLine.Schema.Settings

/-!
# The words of a program's command line

Words that are piped in are added to the command line.  Then the words behind the command become
flags for the parameters in turn, up to the first word that is a flag itself.  A command line that
asks for help stays as it is.
-/

namespace CommandLine

/-! ## parameters -/

def Settings.params (s : Settings) : List String := s.fields.filter (· ≠ hookName)

/-- can a parameter have the name? -/
def isParamName (name : String) : Bool :=
  Text.isWord name.toList && !Literal.keywords.contains name.toList

/-- the first of some names that no parameter can have -/
def checkParamNames (names : List String) : Except Error Unit :=
  match names.find? fun n => !isParamName n with
  | none => .ok ()
  | some n => .error (.value (Text.quoted n ++ " is not a valid parameter name"))

def paramsText (params : List String) : String :=
  "[" ++ Text.joinWith ", " (params.map fun n => "<Parameter \"**" ++ n ++ "\">") ++ "]"

/-! ## words -/

/-- the words of the first line that is piped in; only a command line with a command takes any -/
def pipedWords (argv : List Value) (input : Option String) : List Value :=
  match input with
  | none => []
  | some text =>
    if argv.length < 2 then []
    else (Text.words (String.ofList (text.toList.takeWhile (· ≠ '\n')))).map .text

/-- is it a flag that ends the words for parameters? -/
def endsWords : Value → Bool
  | .text s => Text.startsWith "--" s && !Text.endsWith "--" s
  | _ => false

/-- the words with the flags of their parameters; there must be a parameter for each, also for the
word that ends them -/
def flagWords : List String → List Value → Except Error (List Value)
  | _, [] => .ok []
  | [], _ :: _ => .error (.indexOutOfRange "list")
  | p :: ps, w :: ws =>
    if endsWords w then .ok (w :: ws)
    else do
      let rest ← flagWords ps ws
      return .text ("--" ++ p) :: .text w.plain :: rest

def asksForHelp (argv : List Value) : Bool :=
  argv.any fun v => v.isText "-h" || v.isText "--help"

/-- the command line with flags for the words behind the command -/
def flaggedLine (params : List String) (argv : List Value) : Except Error (List Value) := do
  if argv.length ≤ 2 || asksForHelp argv then return argv
  let rest ← flagWords params (argv.drop 2)
  return argv.take 2 ++ rest

def asksForVersion (argv : List Value) : Bool :=
  1 < argv.length && argv.getLast?.any (·.isText versionName)

end CommandLine
