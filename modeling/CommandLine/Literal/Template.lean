import CommandLine.Literal.Expr

/-!
# Strings with fields

A template is text with fields in curly brackets.  A field holds an expression, and behind it, if
one likes, an equals sign, a conversion and a format, which is a template again.  Doubled brackets
stand for themselves, in a template that is no format.

A template is no literal, but a text is an expression only if its templates are well formed.
`fields?` cuts the expressions out of a template; `sound` asks that each of them is one, and that
the templates inside it are sound.
-/

namespace CommandLine.Literal

/-! ## the text between fields -/

/-- where the text of a template stands: outside of escapes, behind a backslash, behind the mark of
a named character, or in its name -/
inductive TextState where
  | plain
  | escaped
  | mark
  | name

/-- the text up to the next field, or up to the end.  The truth value says that the text goes on
behind a doubled bracket. -/
def templateText (raw format : Bool) :
    TextState → List Char → Option (List Char × Bool × List Char)
  | _, [] => some ([], false, [])
  | .mark, c :: cs =>
    if c = '\x7b' then (templateText raw format .name cs).map fun (t, r) => (c :: t, r) else none
  | .name, c :: cs =>
    let state := if c = '\x7d' then .plain else .name
    (templateText raw format state cs).map fun (t, r) => (c :: t, r)
  | state, c :: cs =>
    if c = '\x7b' ∨ c = '\x7d' then
      if format then some ([], false, c :: cs)
      else if cs.head? = some c then some ([c], true, cs.drop 1)
      else if c = '\x7d' then none
      else some ([], false, c :: cs)
    else
      let state := match state with
        | .escaped => if c = 'N' then .mark else .plain
        | _ => if c = '\\' ∧ ¬ raw then .escaped else .plain
      (templateText raw format state cs).map fun (t, r) => (c :: t, r)

/-- can the text be written in a string? -/
def isText (raw : Bool) (cs : List Char) : Bool := raw || (unescape true cs.length cs).isSome

/-! ## the expression of a field -/

/-- do the brackets belong together? -/
def areBrackets (opening closing : Char) : Bool :=
  [('(', ')'), ('[', ']'), ('\x7b', '\x7d')].contains (opening, closing)

/-- a quote at the front: the characters of it, three if it is a triple one, and the rest -/
def quoteAt (q : Char) (cs : List Char) : List Char × List Char :=
  if [q, q].isPrefixOf cs then ([q, q, q], cs.drop 2) else ([q], cs)

/-- the expression of a field, up to what ends it.  `quote` is the quote of the string that is open,
empty outside of strings, and `brackets` are those that are open, the last one first.  Each round
takes at least one character. -/
def fieldText : Nat → List Char → List Char → List Char → Option (List Char × List Char)
  | 0, _, _, _ => none
  | _ + 1, _, _, [] => none
  | n + 1, quote, brackets, c :: cs =>
    let go := fun (taken : List Char) (quote brackets rest : List Char) =>
      (fieldText n quote brackets rest).map fun (e, r) => (taken ++ e, r)
    if c = '\\' then none
    else if quote ≠ [] then
      if quote.isPrefixOf (c :: cs) then go quote [] brackets (cs.drop (quote.length - 1))
      else go [c] quote brackets cs
    else if c = '\'' ∨ c = '"' then
      let (q, rest) := quoteAt c cs
      go q q brackets rest
    else if c = '(' ∨ c = '[' ∨ c = '\x7b' then
      if brackets.length < maxDepth then go [c] [] (c :: brackets) cs else none
    else if c = '#' then none
    else if brackets = [] ∧ ['!', ':', '\x7d', '=', '<', '>'].contains c then
      if cs.head? = some '=' ∧ c ≠ ':' ∧ c ≠ '\x7d' then go [c, '='] [] [] (cs.drop 1)
      else if c = '<' ∨ c = '>' then go [c] [] [] cs
      else some ([], c :: cs)
    else if c = ')' ∨ c = ']' ∨ c = '\x7d' then
      match brackets with
      | b :: bs => if areBrackets b c then go [c] [] bs cs else none
      | [] => none
    else go [c] [] brackets cs

/-- the blanks that an equals sign may have behind it -/
def isFieldBlank (c : Char) : Bool := isInlineBlank c || c = '\n' || c = '\r' || c = '\x0b'

def skipEquals : List Char → List Char
  | '=' :: cs => cs.dropWhile isFieldBlank
  | cs => cs

/-- a conversion: one of three letters -/
def skipConversion : List Char → Option (List Char)
  | '!' :: c :: cs => if ['s', 'r', 'a'].contains c then some cs else none
  | ['!'] => none
  | cs => some cs

/-! ## templates -/

/-- how deep formats may lie in formats -/
def maxFormats : Nat := 2

/-- the expressions in a template, and what is left: nothing, or what starts with the bracket that
ends the format.  `level` counts the formats around. -/
def templateFields (raw : Bool) : Nat → Nat → List Char → Option (List (List Char) × List Char)
  | 0, _, _ => none
  | n + 1, level, cs => do
    let (text, again, rest) ← templateText raw (0 < level) .plain cs
    if !isText raw text then none
    else if again then templateFields raw n level rest
    else match rest with
      | '\x7b' :: rest =>
        if maxFormats ≤ level then none
        else do
          let (e, rest) ← fieldText (rest.length + 1) [] [] rest
          let rest ← skipConversion (skipEquals rest)
          let (inner, rest) ← match rest with
            | ':' :: rest => templateFields raw n (level + 1) rest
            | rest => some ([], rest)
          match rest with
          | '\x7d' :: rest => do
            let (more, rest) ← templateFields raw n level rest
            some (e :: inner ++ more, rest)
          | _ => none
      | rest => some ([], rest)

/-- the expressions in the fields of a template; `none` if it is malformed -/
def fields? (raw : Bool) (body : List Char) : Option (List (List Char)) :=
  match templateFields raw (body.length + 2) 0 body with
  | some (es, []) => some es
  | _ => none

/-- is there nothing but blanks? -/
def isBlankField (e : List Char) : Bool := e.all fun c => isInlineBlank c || c = '\n'

/-- are the templates among the tokens sound?  Each field is read in round brackets; the fuel falls
with each template inside of another. -/
def sound : Nat → List Token → Bool
  | 0, _ => false
  | n + 1, ts => ts.all fun t =>
    match t with
    | .string (.template raw body) =>
      match fields? raw body with
      | none => false
      | some es => es.all fun e =>
        !isBlankField e &&
        match scan? ('(' :: e ++ [')']) with
        | none => false
        | some ts => (expr? ts).isSome && sound n ts
    | _ => true

def parse? (cs : List Char) : Option Expr := do
  let ts ← scan? cs
  let e ← expr? ts
  if sound (cs.length + 1) ts then some e else none

end CommandLine.Literal
