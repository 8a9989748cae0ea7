import CommandLine.Text.Basic

/-!
# Shell words

`shellWords` cuts a command into words the way a shell does: blanks part words, single quotes keep
everything, double quotes keep everything but an escaped quote or backslash, and a backslash outside
of quotes keeps the next character.  `quoteWord` is the other direction: it writes a word so that
cutting gives it back.
-/

namespace CommandLine
namespace Text

/-! ## cutting -/

inductive ShellError where
  | noClosingQuotation
  | noEscapedCharacter
  deriving DecidableEq, Repr

/-- where in a command one stands -/
inductive ShellMode where
  | plain
  | quoted (q : Char)
  /-- behind a backslash, outside of quotes or inside double ones -/
  | escaped
  | escapedIn (q : Char)
  deriving DecidableEq, Repr

/-- the characters that part words -/
def isShellBlank (c : Char) : Bool := c == ' ' || c == '\t' || c == '\r' || c == '\n'

def isShellQuote (c : Char) : Bool := c == '\'' || c == '"'

/-- the word begun so far as it stands in the result; a word may be begun and empty -/
def finished : Option (List Char) → List String
  | some w => [String.ofList w]
  | none => []

def begun (word : Option (List Char)) (more : List Char) : Option (List Char) :=
  some (word.getD [] ++ more)

/-- cuts the rest of a command; `word` is what has been begun -/
def cutWords : ShellMode → Option (List Char) → List Char → Except ShellError (List String)
  | .plain, word, [] => .ok (finished word)
  | .quoted _, _, [] => .error .noClosingQuotation
  | .escaped, _, [] | .escapedIn _, _, [] => .error .noEscapedCharacter
  | .plain, word, c :: cs =>
    if isShellBlank c then do
      let rest ← cutWords .plain none cs
      return finished word ++ rest
    else if isShellQuote c then cutWords (.quoted c) (begun word []) cs
    else if c = '\\' then cutWords .escaped word cs
    else cutWords .plain (begun word [c]) cs
  | .quoted q, word, c :: cs =>
    if c = q then cutWords .plain word cs
    else if c = '\\' ∧ q = '"' then cutWords (.escapedIn q) word cs
    else cutWords (.quoted q) (begun word [c]) cs
  | .escaped, word, c :: cs => cutWords .plain (begun word [c]) cs
  | .escapedIn q, word, c :: cs =>
    if c = '\\' ∨ c = q then cutWords (.quoted q) (begun word [c]) cs
    else cutWords (.quoted q) (begun word ['\\', c]) cs

def shellWords (s : String) : Except ShellError (List String) := cutWords .plain none s.toList

/-! ## writing -/

/-- the characters that need no quotes -/
def isShellSafe (c : Char) : Bool :=
  c.isAlphanum || c == '_' || c == '@' || c == '%' || c == '+' || c == '=' || c == ':' ||
    c == ',' || c == '.' || c == '/' || c == '-'

/-- inside single quotes a single quote leaves them, stands in double ones, and enters again -/
def inSingleQuotes : List Char → List Char
  | [] => []
  | c :: cs => (if c = '\'' then ['\'', '"', '\'', '"', '\''] else [c]) ++ inSingleQuotes cs

/-- a word, in single quotes unless all its characters are safe -/
def quoteWord (s : String) : String :=
  if s = "" then "''"
  else if s.toList.all isShellSafe then s
  else String.ofList ('\'' :: inSingleQuotes s.toList ++ ['\''])

/-- a word with the name and the value of a flag quoted apart -/
def quoteArg (s : String) : String :=
  if startsWith "--" s then
    match cutAt '=' s with
    | some (name, value) => quoteWord name ++ "=" ++ quoteWord value
    | none => quoteWord s
  else quoteWord s

end Text
end CommandLine
