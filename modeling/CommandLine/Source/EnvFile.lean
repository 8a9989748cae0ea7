import CommandLine.Number.Text
import CommandLine.Source.Files
import CommandLine.Text.Basic
import CommandLine.Value.Equal

/-!
# A reader of environment files

Programs take any reader of environment files (`Surroundings.readVariables`); this is the one that
they are run with, and no theorem depends on it.

It reads a text with one variable a line: `name=value`, with `export` before it if one likes, blanks
around the sign, and the value bare or in quotes.  Quoted values may run over lines; a bare one ends
before a blank and a `#`.  A name alone has no value.  A line that is none of this is skipped with a
warning.  In a value `${name}` and `${name:-default}` stand for a variable of the environment, or
else for one further up in the file.
-/

namespace CommandLine.EnvFile

/-! ## characters -/

/-- a blank inside of a line -/
def isInlineBlank (c : Char) : Bool := Text.isBlank c && c ≠ '\n' && c ≠ '\r'

def skipInline (cs : List Char) : List Char := cs.dropWhile isInlineBlank

/-! ## quoted values -/

/-- the text up to a closing quote, and what follows it.  A backslash keeps a quote inside, unless
no other quote closes the text. -/
def quotedSpan (q : Char) : List Char → Option (List Char × List Char)
  | [] => none
  | [c] => if c = q then some ([], []) else none
  | c :: d :: cs =>
    if c = q then some ([], d :: cs)
    else if c = '\\' ∧ d = q then
      match quotedSpan q cs with
      | some (v, r) => some (c :: d :: v, r)
      | none => some ([c], cs)
    else (quotedSpan q (d :: cs)).map fun (v, r) => (c :: v, r)

/-- what a backslash and a character stand for in single quotes -/
def singleEscape? : Char → Option Char
  | '\\' => some '\\'
  | '\'' => some '\''
  | _ => none

/-- what they stand for in double quotes -/
def doubleEscape? : Char → Option Char
  | '\\' => some '\\'
  | '\'' => some '\''
  | '"' => some '"'
  | 'a' => some '\x07'
  | 'b' => some '\x08'
  | 'f' => some '\x0c'
  | 'n' => some '\n'
  | 'r' => some '\r'
  | 't' => some '\t'
  | 'v' => some '\x0b'
  | _ => none

def unescape (escape? : Char → Option Char) : List Char → List Char
  | '\\' :: c :: cs =>
    match escape? c with
    | some d => d :: unescape escape? cs
    | none => '\\' :: unescape escape? (c :: cs)
  | c :: cs => c :: unescape escape? cs
  | [] => []

/-! ## bare values -/

/-- cuts a comment: blanks and a `#` behind them -/
def cutComment : List Char → List Char → List Char
  | _, [] => []
  | blanks, c :: cs =>
    if c = '#' && !blanks.isEmpty then []
    else if Text.isBlank c then cutComment (blanks ++ [c]) cs
    else blanks ++ c :: cutComment [] cs

/-! ## one statement -/

/-- a statement that could not be read: where it broke off -/
structure Broken where
  rest : List Char

def skipExport (cs : List Char) : List Char :=
  if "export".toList.isPrefixOf cs then
    let rest := cs.drop 6
    if (rest.head?.any isInlineBlank) then skipInline rest else cs
  else cs

def key (cs : List Char) : Except Broken (Option String × List Char) :=
  match cs with
  | '#' :: _ => .ok (none, cs)
  | '\'' :: rest =>
    let name := rest.takeWhile (· ≠ '\'')
    match rest.dropWhile (· ≠ '\'') with
    | _ :: after => if name.isEmpty then .error ⟨cs⟩ else .ok (some (String.ofList name), after)
    | [] => .error ⟨cs⟩
  | _ =>
    let isName := fun (c : Char) => c ≠ '=' && c ≠ '#' && !Text.isBlank c
    let name := cs.takeWhile isName
    if name.isEmpty then .error ⟨cs⟩ else .ok (some (String.ofList name), cs.dropWhile isName)

def value (cs : List Char) : Except Broken (String × List Char) :=
  match cs with
  | '\'' :: rest =>
    match quotedSpan '\'' rest with
    | some (v, after) => .ok (String.ofList (unescape singleEscape? v), after)
    | none => .error ⟨cs⟩
  | '"' :: rest =>
    match quotedSpan '"' rest with
    | some (v, after) => .ok (String.ofList (unescape doubleEscape? v), after)
    | none => .error ⟨cs⟩
  | _ =>
    let part := cs.takeWhile fun c => c ≠ '\n' && c ≠ '\r'
    .ok (Text.trimRight (String.ofList (cutComment [] part)),
      cs.dropWhile fun c => c ≠ '\n' && c ≠ '\r')

def skipComment (cs : List Char) : List Char :=
  match skipInline cs with
  | '#' :: rest => rest.dropWhile fun c => c ≠ '\n' && c ≠ '\r'
  | _ => cs

def lineEnd (cs : List Char) : Except Broken (List Char) :=
  match skipInline cs with
  | [] => .ok []
  | '\n' :: rest => .ok rest
  | _ => .error ⟨cs⟩

def statement (cs : List Char) : Except Broken ((Option String × Option String) × List Char) := do
  let cs := cs.dropWhile Text.isBlank
  if cs.isEmpty then return ((none, none), [])
  let (k, cs) ← key (skipExport cs)
  let cs := skipInline cs
  let (v, cs) ← match cs with
    | '=' :: rest => do
      let (v, cs) ← value (skipInline rest)
      pure (some v, cs)
    | _ => pure (none, cs)
  let rest ← lineEnd (skipComment cs)
  return ((k, v), rest)

/-- what follows the line on which a statement broke off -/
def afterLine (cs : List Char) : List Char := (cs.dropWhile (· ≠ '\n')).drop 1

/-- what a file holds: variables, and the lines of statements that could not be read -/
structure Contents where
  entries : List (String × Option String) := []
  broken : List Nat := []

/-- reads statements; `line` is where the next one starts -/
def statements : Nat → Nat → Contents → List Char → Contents
  | 0, _, acc, _ => acc
  | _ + 1, _, acc, [] => acc
  | n + 1, line, acc, cs =>
    let (acc, rest) := match statement cs with
      | .ok ((some k, v), rest) => ({ acc with entries := acc.entries ++ [(k, v)] }, rest)
      | .ok ((none, _), rest) => (acc, rest)
      | .error b => ({ acc with broken := acc.broken ++ [line] }, afterLine b.rest)
    let used := cs.take (cs.length - rest.length)
    statements n (line + used.count '\n') acc rest

def read (text : String) : Contents := statements (text.length + 1) 1 {} text.toList

/-! ## references -/

/-- a reference behind its opening brace: the name, the default if there is one, and the rest -/
def reference? (cs : List Char) : Option (String × Option String × List Char) :=
  let name := cs.takeWhile fun c => c ≠ '\x7d' && c ≠ ':'
  match cs.dropWhile (fun c => c ≠ '\x7d' && c ≠ ':') with
  | '\x7d' :: rest => some (String.ofList name, none, rest)
  | ':' :: '-' :: more =>
    let default := more.takeWhile (· ≠ '\x7d')
    match more.dropWhile (· ≠ '\x7d') with
    | _ :: rest => some (String.ofList name, some (String.ofList default), rest)
    | [] => none
  | _ => none

def expandFrom (lookup : String → Option String) : Nat → List Char → List Char
  | 0, cs => cs
  | _ + 1, [] => []
  | n + 1, '$' :: '\x7b' :: cs =>
    match reference? cs with
    | some (name, default, rest) =>
      ((lookup name).getD (default.getD "")).toList ++ expandFrom lookup n rest
    | none => '$' :: expandFrom lookup n ('\x7b' :: cs)
  | n + 1, c :: cs => c :: expandFrom lookup n cs

def expand (lookup : String → Option String) (s : String) : String :=
  String.ofList (expandFrom lookup s.length s.toList)

/-- a variable of the environment, or else one read before; one without a value is empty -/
def variableValue (env : List (String × String)) (before : List (String × Option String))
    (name : String) : Option String :=
  (env.lookup name).orElse fun _ => (before.lookup name).map (·.getD "")

/-- the variables with their references replaced, each seeing those before it -/
def resolve (env : List (String × String)) (vars : List (String × Option String)) :
    List (String × Option String) :=
  vars.foldl (fun acc v => putName v.1 (v.2.map (expand (variableValue env acc))) acc) []

/-- the reader that programs are run with -/
def reader : EnvReader := fun env text =>
  let c := read text
  (resolve env c.entries, String.join (c.broken.map fun n =>
    "Python-dotenv could not parse statement starting at line " ++ Number.natText n ++ "\n"))

end CommandLine.EnvFile
