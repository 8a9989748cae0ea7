import CommandLine.Literal.Token
import CommandLine.Value.Basic

/-!
# Expressions

The grammar of expressions over tokens.  Only the forms that can denote a literal keep their
structure; every other form that the grammar knows (calls, comparisons, comprehensions, …) becomes
`Expr.compound`.  So reading tells three things apart: no expression, an expression of some other
form, and a form that can be evaluated.

Operators are read by precedence climbing.  Every function takes fuel that falls with each nested
call; `expr?` gives enough for its tokens.
-/

namespace CommandLine.Literal

inductive Expr where
  | constant (v : Value)
  /-- a bare word -/
  | word (s : String)
  | tuple (es : List Expr)
  | list (es : List Expr)
  | set (es : List Expr)
  | dict (es : List (Expr × Expr))
  /-- a sign in front of an expression -/
  | signed (negative : Bool) (e : Expr)
  /-- a sum, or a difference -/
  | sum (minus : Bool) (l r : Expr)
  /-- any other binary operation -/
  | operation
  /-- an expression of any other form -/
  | compound

/-- the words with a meaning of their own -/
def keywords : List (List Char) :=
  ["False", "None", "True", "and", "as", "assert", "async", "await", "break", "class", "continue",
    "def", "del", "elif", "else", "except", "finally", "for", "from", "global", "if", "import",
    "in", "is", "lambda", "nonlocal", "not", "or", "pass", "raise", "return", "try", "while",
    "with", "yield"].map String.toList

/-! ## single tokens -/

def Token.isSign (s : String) : Token → Bool
  | .sign cs => cs = s.toList
  | _ => false

def Token.isKeyword (s : String) : Token → Bool
  | .word raw _ => raw = s.toList
  | _ => false

def takeSign (s : String) : List Token → Option (List Token)
  | t :: ts => if t.isSign s then some ts else none
  | [] => none

def takeKeyword (s : String) : List Token → Option (List Token)
  | t :: ts => if t.isKeyword s then some ts else none
  | [] => none

def takeName : List Token → Option (String × List Token)
  | .word raw form :: ts => if keywords.contains raw then none else some (String.ofList form, ts)
  | _ => none

def nextIsSign (s : String) (ts : List Token) : Bool := (takeSign s ts).isSome
def nextIsKeyword (s : String) (ts : List Token) : Bool := (takeKeyword s ts).isSome

/-! ## operators -/

inductive Operator where
  | add
  | sub
  | arithmetic
  | power
  | logical

/-- the binary operator at the front: its level, what it is, and the tokens behind it -/
def operator? : List Token → Option (Nat × Operator × List Token)
  | .sign s :: ts =>
    match String.ofList s with
    | "==" | "!=" | "<=" | "<" | ">=" | ">" => some (4, .logical, ts)
    | "|" => some (5, .arithmetic, ts)
    | "^" => some (6, .arithmetic, ts)
    | "&" => some (7, .arithmetic, ts)
    | "<<" | ">>" => some (8, .arithmetic, ts)
    | "+" => some (9, .add, ts)
    | "-" => some (9, .sub, ts)
    | "*" | "/" | "//" | "%" | "@" => some (10, .arithmetic, ts)
    | "**" => some (12, .power, ts)
    | _ => none
  | .word raw _ :: ts =>
    match String.ofList raw with
    | "or" => some (1, .logical, ts)
    | "and" => some (2, .logical, ts)
    | "in" => some (4, .logical, ts)
    | "not" => (takeKeyword "in" ts).map fun ts => (4, .logical, ts)
    | "is" => some (4, .logical, (takeKeyword "not" ts).getD ts)
    | _ => none
  | _ => none

def Operator.apply (o : Operator) (l r : Expr) : Expr :=
  match o with
  | .add => .sum false l r
  | .sub => .sum true l r
  | .arithmetic | .power => .operation
  | .logical => .compound

/-! ## atoms without brackets -/

def takeStrings : List Token → List Piece × List Token
  | .string p :: ts => let (ps, r) := takeStrings ts; (p :: ps, r)
  | ts => ([], ts)

/-- several strings in a row are one; texts and byte strings do not mix -/
def joinPieces (ps : List Piece) : Option Expr :=
  let isBytes := fun p => match p with | Piece.bytes _ => true | _ => false
  let isTemplate := fun p => match p with | Piece.template .. => true | _ => false
  if ps.all isBytes then
    some (.constant (.bytes (ps.flatMap fun p => match p with | .bytes b => b | _ => [])))
  else if ps.any isBytes then none
  else if ps.any isTemplate then some .compound
  else some (.constant (.text (String.ofList
    (ps.flatMap fun p => match p with | .text cs => cs | _ => []))))

def Numeral.value : Numeral → Value
  | .whole n => .int n
  | .real x => .float x
  | .imaginary x => .complex 0.0 x

def plainAtom (ts : List Token) : Option (Expr × List Token) :=
  match ts with
  | .word raw form :: r =>
    match String.ofList raw with
    | "None" => some (.constant .null, r)
    | "True" => some (.constant (.bool true), r)
    | "False" => some (.constant (.bool false), r)
    | _ =>
      if keywords.contains raw then none
      else match String.ofList form with
        | "None" | "True" | "False" => some (.compound, r)
        | s => some (.word s, r)
  | .number n :: r => some (.constant n.value, r)
  | .string _ :: _ =>
    let (ps, r) := takeStrings ts
    (joinPieces ps).map fun e => (e, r)
  | .sign s :: r => if String.ofList s = "..." then some (.constant .ellipsis, r) else none
  | _ => none

/-! ## the grammar -/

/-- what stands in brackets: nothing, one expression, several, or a comprehension -/
inductive Items where
  | one (starred : Bool) (e : Expr)
  | many (es : List Expr)
  | comprehension

/-- what stands last behind an atom -/
inductive Trailer where
  | none
  | call
  /-- an attribute or a subscript -/
  | assignable

/-- what the parameters of a `lambda` so far leave open to those that follow -/
structure Parameters where
  /-- has there been a parameter? -/
  nonempty : Bool := false
  /-- has there been one with a default, so that no plain one may follow? -/
  defaulted : Bool := false
  slashed : Bool := false
  /-- has there been a star, so that only named parameters follow? -/
  starred : Bool := false
  /-- has there been a star alone, so that a named parameter has to follow? -/
  lacking : Bool := false
  /-- has there been a double star, so that nothing may follow? -/
  closed : Bool := false

namespace Parameters

def param (p : Parameters) (default : Bool) : Option Parameters :=
  if p.closed || (p.defaulted && !default && !p.starred) then none
  else some { p with nonempty := true, defaulted := p.defaulted || default, lacking := false }

/-- the slash behind the parameters that have no names for a caller -/
def slash (p : Parameters) : Option Parameters :=
  if p.nonempty && !p.slashed && !p.starred && !p.closed then some { p with slashed := true }
  else none

def star (p : Parameters) : Option Parameters :=
  if p.starred || p.closed then none else some { p with starred := true }

def bareStar (p : Parameters) : Option Parameters :=
  p.star.map fun p => { p with lacking := true }

def doubleStar (p : Parameters) : Option Parameters :=
  if p.lacking || p.closed then none else some { p with closed := true }

end Parameters

mutual

/-- an expression: a condition, or a `lambda` -/
def expression : Nat → List Token → Option (Expr × List Token)
  | 0, _ => none
  | n + 1, ts =>
    match takeKeyword "lambda" ts with
    | some ts => do
      let ts ← parameters n {} ts
      let ts ← takeSign ":" ts
      let (_, ts) ← expression n ts
      some (.compound, ts)
    | none => do
      let (e, ts) ← climb n 1 ts
      match takeKeyword "if" ts with
      | none => some (e, ts)
      | some ts => do
        let (_, ts) ← climb n 1 ts
        let ts ← takeKeyword "else" ts
        let (_, ts) ← expression n ts
        some (.compound, ts)

/-- an operation whose operators have at least the level `least` -/
def climb : Nat → Nat → List Token → Option (Expr × List Token)
  | 0, _, _ => none
  | n + 1, least, ts =>
    match takeKeyword "not" ts with
    | some ts =>
      if least ≤ 3 then do
        let (_, ts) ← climb n 3 ts
        climbOn n least .compound ts
      else none
    | none => do
      let (e, ts) ← factor n ts
      climbOn n least e ts

/-- goes on with the operators behind a left operand -/
def climbOn : Nat → Nat → Expr → List Token → Option (Expr × List Token)
  | 0, _, _, _ => none
  | n + 1, least, l, ts =>
    match operator? ts with
    | some (level, o, rest) =>
      if least ≤ level ∧ level < 12 then do
        let (r, rest) ← climb n (level + 1) rest
        climbOn n least (o.apply l r) rest
      else some (l, ts)
    | none => some (l, ts)

def factor : Nat → List Token → Option (Expr × List Token)
  | 0, _ => none
  | n + 1, ts =>
    match ts with
    | .sign s :: r =>
      match String.ofList s with
      | "+" => do let (e, r) ← factor n r; some (.signed false e, r)
      | "-" => do let (e, r) ← factor n r; some (.signed true e, r)
      | "~" => do let (_, r) ← factor n r; some (.compound, r)
      | _ => power n ts
    | _ => power n ts

def power : Nat → List Token → Option (Expr × List Token)
  | 0, _ => none
  | n + 1, ts => do
    let (e, ts) ← match takeKeyword "await" ts with
      | some ts => do let (_, ts) ← primary n ts; some (Expr.compound, ts)
      | none => primary n ts
    match takeSign "**" ts with
    | some ts => do let (_, ts) ← factor n ts; some (.operation, ts)
    | none => some (e, ts)

def primary : Nat → List Token → Option (Expr × List Token)
  | 0, _ => none
  | n + 1, ts => do
    let (e, ts) ← atom n ts
    trailers n e ts

/-- attributes, calls and subscripts behind an atom -/
def trailers : Nat → Expr → List Token → Option (Expr × List Token)
  | 0, _, _ => none
  | n + 1, e, ts =>
    match ts with
    | .sign s :: r =>
      match String.ofList s with
      | "." => do let (_, r) ← takeName r; trailers n .compound r
      | "(" => do let r ← arguments n false false true r; trailers n .compound r
      | "[" => do let r ← slices n r; trailers n .compound r
      | _ => some (e, ts)
    | _ => some (e, ts)

def atom : Nat → List Token → Option (Expr × List Token)
  | 0, _ => none
  | n + 1, ts =>
    match ts with
    | .sign s :: r =>
      match String.ofList s with
      | "(" => group n r
      | "[" =>
        if nextIsSign "]" r then some (.list [], r.drop 1)
        else do
          let (items, r) ← itemsUntil n "]" r
          match items with
          | .one _ e => some (.list [e], r)
          | .many es => some (.list es, r)
          | .comprehension => some (.compound, r)
      | "\x7b" => braces n r
      | _ => plainAtom ts
    | _ => plainAtom ts

/-- behind an opening round bracket -/
def group : Nat → List Token → Option (Expr × List Token)
  | 0, _ => none
  | n + 1, ts =>
    if nextIsSign ")" ts then some (.tuple [], ts.drop 1)
    else match takeKeyword "yield" ts with
      | some ts => yielded n ts
      | none => do
        let (items, r) ← itemsUntil n ")" ts
        match items with
        | .one true _ => none
        | .one false e => some (e, r)
        | .many es => some (.tuple es, r)
        | .comprehension => some (.compound, r)

/-- behind the keyword `yield` in round brackets -/
def yielded : Nat → List Token → Option (Expr × List Token)
  | 0, _ => none
  | n + 1, ts =>
    match takeKeyword "from" ts with
    | some ts => do
      let (_, ts) ← expression n ts
      let ts ← takeSign ")" ts
      some (.compound, ts)
    | none =>
      if nextIsSign ")" ts then some (.compound, ts.drop 1)
      else do let ts ← starredUntil n ")" ts; some (.compound, ts)

/-- expressions between commas up to a closing bracket, at least one; each may be starred -/
def starredUntil : Nat → String → List Token → Option (List Token)
  | 0, _, _ => none
  | n + 1, close, ts => do
    let ts ← match takeSign "*" ts with
      | some ts => (climb n 5 ts).map (·.2)
      | none => (expression n ts).map (·.2)
    match takeSign close ts with
    | some ts => some ts
    | none => do
      let ts ← takeSign "," ts
      match takeSign close ts with
      | some ts => some ts
      | none => starredUntil n close ts

/-- an element of a list, tuple or set: starred, named or plain.  The two truth values say whether
it is starred and whether it is named. -/
def element : Nat → List Token → Option ((Bool × Bool × Expr) × List Token)
  | 0, _ => none
  | n + 1, ts =>
    match takeSign "*" ts with
    | some ts => do let (_, ts) ← climb n 5 ts; some ((true, false, .compound), ts)
    | none =>
      match takeName ts with
      | some (_, r) =>
        match takeSign ":=" r with
        | some r => do let (_, r) ← expression n r; some ((false, true, .compound), r)
        | none => do let (e, ts) ← expression n ts; some ((false, false, e), ts)
      | none => do let (e, ts) ← expression n ts; some ((false, false, e), ts)

/-- the elements up to a closing bracket, at least one -/
def itemsUntil : Nat → String → List Token → Option (Items × List Token)
  | 0, _, _ => none
  | n + 1, close, ts => do
    let ((starred, _, e), ts) ← element n ts
    match takeSign close ts with
    | some ts => some (.one starred e, ts)
    | none =>
      match takeSign "," ts with
      | some ts => do let (es, ts) ← moreItems n close ts; some (.many (e :: es), ts)
      | none =>
        if starred then none
        else do
          let ts ← clauses n ts
          let ts ← takeSign close ts
          some (.comprehension, ts)

def moreItems : Nat → String → List Token → Option (List Expr × List Token)
  | 0, _, _ => none
  | n + 1, close, ts =>
    match takeSign close ts with
    | some ts => some ([], ts)
    | none => do
      let ((_, _, e), ts) ← element n ts
      match takeSign close ts with
      | some ts => some ([e], ts)
      | none => do
        let ts ← takeSign "," ts
        let (es, ts) ← moreItems n close ts
        some (e :: es, ts)

/-- behind an opening curly bracket: a dictionary or a set -/
def braces : Nat → List Token → Option (Expr × List Token)
  | 0, _ => none
  | n + 1, ts =>
    if nextIsSign "\x7d" ts then some (.dict [], ts.drop 1)
    else if nextIsSign "**" ts then do
      let (es, ts) ← entries n ts
      some (.dict es, ts)
    else do
      let ((starred, named, e), r) ← element n ts
      if !starred && !named && nextIsSign ":" r then do
        let (v, r) ← expression n (r.drop 1)
        match takeSign "\x7d" r with
        | some r => some (.dict [(e, v)], r)
        | none =>
          match takeSign "," r with
          | some r => do let (es, r) ← entries n r; some (.dict ((e, v) :: es), r)
          | none => do
            let r ← clauses n r
            let r ← takeSign "\x7d" r
            some (.compound, r)
      else do
        let (items, r) ← itemsUntil n "\x7d" ts
        match items with
        | .one _ e => some (.set [e], r)
        | .many es => some (.set es, r)
        | .comprehension => some (.compound, r)

def entries : Nat → List Token → Option (List (Expr × Expr) × List Token)
  | 0, _ => none
  | n + 1, ts =>
    match takeSign "\x7d" ts with
    | some ts => some ([], ts)
    | none => do
      let (entry, ts) ← match takeSign "**" ts with
        | some ts => do let (e, ts) ← climb n 5 ts; some ((Expr.compound, e), ts)
        | none => do
          let (k, ts) ← expression n ts
          let ts ← takeSign ":" ts
          let (v, ts) ← expression n ts
          some ((k, v), ts)
      match takeSign "\x7d" ts with
      | some ts => some ([entry], ts)
      | none => do
        let ts ← takeSign "," ts
        let (es, ts) ← entries n ts
        some (entry :: es, ts)

/-- the clauses of a comprehension, at least one -/
def clauses : Nat → List Token → Option (List Token)
  | 0, _ => none
  | n + 1, ts => do
    let ts := (takeKeyword "async" ts).getD ts
    let ts ← takeKeyword "for" ts
    let ts ← targets n ts
    let ts ← takeKeyword "in" ts
    let (_, ts) ← climb n 1 ts
    let ts ← conditions n ts
    if nextIsKeyword "for" ts || nextIsKeyword "async" ts then clauses n ts else some ts

def conditions : Nat → List Token → Option (List Token)
  | 0, _ => none
  | n + 1, ts =>
    match takeKeyword "if" ts with
    | some ts => do let (_, ts) ← climb n 1 ts; conditions n ts
    | none => some ts

def targets : Nat → List Token → Option (List Token)
  | 0, _ => none
  | n + 1, ts => do
    let ts ← starTarget n ts
    match takeSign "," ts with
    | some ts => if nextIsKeyword "in" ts then some ts else targets n ts
    | none => some ts

def starTarget : Nat → List Token → Option (List Token)
  | 0, _ => none
  | n + 1, ts => target n ((takeSign "*" ts).getD ts)

/-- a target: an attribute or a subscript of something, or else a name or targets in brackets -/
def target : Nat → List Token → Option (List Token)
  | 0, _ => none
  | n + 1, ts =>
    match (atom n ts).bind fun (_, r) => targetTrailers n .none r with
    | some (.assignable, r) => some r
    | some (.call, _) => none
    | _ =>
      match takeName ts, takeSign "(" ts, takeSign "[" ts with
      | some (_, r), _, _ => some r
      | _, some r, _ =>
        if nextIsSign ")" r then some (r.drop 1)
        else do
          let starred := nextIsSign "*" r
          let rest ← starTarget n r
          match takeSign ")" rest with
          | some rest => if starred then none else some rest
          | none => do
            let rest ← takeSign "," rest
            targetsUntil n ")" rest
      | _, _, some r => targetsUntil n "]" r
      | none, none, none => none

/-- the trailers behind an atom in a target, and what the last one is -/
def targetTrailers : Nat → Trailer → List Token → Option (Trailer × List Token)
  | 0, _, _ => none
  | n + 1, last, ts =>
    match ts with
    | .sign s :: r =>
      match String.ofList s with
      | "." => do let (_, r) ← takeName r; targetTrailers n .assignable r
      | "(" => do let r ← arguments n false false true r; targetTrailers n .call r
      | "[" => do let r ← slices n r; targetTrailers n .assignable r
      | _ => some (last, ts)
    | _ => some (last, ts)

/-- targets between commas up to a closing bracket, or none -/
def targetsUntil : Nat → String → List Token → Option (List Token)
  | 0, _, _ => none
  | n + 1, close, ts =>
    match takeSign close ts with
    | some ts => some ts
    | none => do
      let ts ← starTarget n ts
      match takeSign close ts with
      | some ts => some ts
      | none => do
        let ts ← takeSign "," ts
        targetsUntil n close ts

/-- the parameters of a `lambda`, up to its colon, behind those that `p` knows of -/
def parameters : Nat → Parameters → List Token → Option (List Token)
  | 0, _, _ => none
  | n + 1, p, ts =>
    if nextIsSign ":" ts then if p.lacking then none else some ts
    else do
      let (p, ts) ← match takeSign "*" ts, takeSign "**" ts, takeSign "/" ts with
        | some ts, _, _ =>
          match takeName ts with
          | some (_, ts) => p.star.map (·, ts)
          | none => if nextIsSign "," ts then p.bareStar.map (·, ts) else none
        | _, some ts, _ => do
          let (_, ts) ← takeName ts
          p.doubleStar.map (·, ts)
        | _, _, some ts => p.slash.map (·, ts)
        | none, none, none => do
          let (_, ts) ← takeName ts
          match takeSign "=" ts with
          | some ts => do
            let (_, ts) ← expression n ts
            (p.param true).map (·, ts)
          | none => (p.param false).map (·, ts)
      match takeSign "," ts with
      | some ts => parameters n p ts
      | none => if nextIsSign ":" ts && !p.lacking then some ts else none

/-- the arguments of a call up to its closing bracket; `named` once a keyword argument or a double
star has come, `doubled` once a double star has come, `first` for the first argument -/
def arguments : Nat → Bool → Bool → Bool → List Token → Option (List Token)
  | 0, _, _, _, _ => none
  | n + 1, named, doubled, first, ts =>
    match takeSign ")" ts with
    | some ts => some ts
    | none => do
      let (named, doubled, ts) ← match takeSign "**" ts, takeSign "*" ts with
        | some ts, _ => do let (_, ts) ← expression n ts; some (true, true, ts)
        | none, some ts =>
          if doubled then none else do let (_, ts) ← expression n ts; some (named, doubled, ts)
        | none, none =>
          match (takeName ts).bind fun (_, r) => takeSign "=" r with
          | some r => do let (_, r) ← expression n r; some (true, doubled, r)
          | none =>
            if named then none
            else do
              let ((starred, _, _), r) ← element n ts
              if starred then none
              else if first && (nextIsKeyword "for" r || nextIsKeyword "async" r) then do
                let r ← clauses n r
                if nextIsSign ")" r then some (named, doubled, r) else none
              else some (named, doubled, r)
      match takeSign ")" ts with
      | some ts => some ts
      | none => do
        let ts ← takeSign "," ts
        arguments n named doubled false ts

def slices : Nat → List Token → Option (List Token)
  | 0, _ => none
  | n + 1, ts => do
    let ts ← match takeSign "*" ts with
      | some ts => (expression n ts).map (·.2)
      | none => slice n ts
    match takeSign "]" ts with
    | some ts => some ts
    | none => do
      let ts ← takeSign "," ts
      match takeSign "]" ts with
      | some ts => some ts
      | none => slices n ts

/-- one subscript: an element, or bounds between colons -/
def slice : Nat → List Token → Option (List Token)
  | 0, _ => none
  | n + 1, ts =>
    if nextIsSign ":" ts then bounds n ts
    else do
      let ((starred, named, _), ts) ← element n ts
      if starred then none
      else if named then some ts
      else bounds n ts

def bounds : Nat → List Token → Option (List Token)
  | 0, _ => none
  | n + 1, ts =>
    match takeSign ":" ts with
    | none => some ts
    | some ts => do
      let ends := fun ts => nextIsSign "]" ts || nextIsSign "," ts
      let ts ← if nextIsSign ":" ts || ends ts then some ts else (expression n ts).map (·.2)
      match takeSign ":" ts with
      | none => some ts
      | some ts => if ends ts then some ts else (expression n ts).map (·.2)

end

def isNewline : Token → Bool
  | .newline => true
  | _ => false

/-- the expression that the tokens spell -/
def expr? (ts : List Token) : Option Expr := do
  let n := 24 * (ts.length + 2)
  let (e, rest) ← expression n ts
  let (e, rest) ← match takeSign "," rest with
    | none => some (e, rest)
    | some rest =>
      if rest.all isNewline then some (.tuple [e], rest)
      else do
        let (es, rest) ← listed n n rest
        some (.tuple (e :: es), rest)
  if rest.all isNewline then some e else none
where
  /-- further expressions behind a comma, a last comma left aside -/
  listed (n : Nat) : Nat → List Token → Option (List Expr × List Token)
    | 0, _ => none
    | m + 1, ts => do
      let (e, ts) ← expression n ts
      match takeSign "," ts with
      | none => some ([e], ts)
      | some ts =>
        if ts.all isNewline then some ([e], ts)
        else do let (es, ts) ← listed n m ts; some (e :: es, ts)

end CommandLine.Literal
