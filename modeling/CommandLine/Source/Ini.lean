import CommandLine.Error
import CommandLine.Text.LetterCase

/-!
# Files with sections

A text with sections: `[name]` opens one, `option = value` or `option: value` sets an option of it,
deeper indented lines go on with the value, and lines that start with `#` or `;` are comments.  The
section `DEFAULT` holds options for all the others.  Option names have no letter case.  No section
and no option may be given twice.

A value may refer to other options of its section as `%(name)s`; `%%` is a percent sign.
-/

namespace CommandLine.Ini

/-- why a text cannot be read, or a value not be expanded -/
inductive IniError where
  | noHeader (line : Nat) (text : String)
  | repeatedSection (line : Nat) (sect : String)
  | repeatedOption (line : Nat) (sect option : String)
  | badLines (lines : List (Nat × String))
  | badReference (option sect rest : String)
  | strayPercent (option sect rest : String)
  | unknownReference (option sect raw reference : String)
  | tooDeep (option sect raw : String)

/-- how deep values may refer to each other -/
def maxDepth : Nat := 10

def lineMark (n : Nat) : String := "[line " ++ Text.padLeft 2 (Number.natText n) ++ "]"

def IniError.message (source : String) : IniError → String
  | noHeader n t =>
    "File contains no section headers.\nfile: " ++ source ++ ", line: " ++ Number.natText n ++
      "\n" ++ Text.quoted t
  | repeatedSection n s =>
    "While reading from " ++ source ++ " " ++ lineMark n ++ ": section " ++ Text.quoted s ++
      " already exists"
  | repeatedOption n s o =>
    "While reading from " ++ source ++ " " ++ lineMark n ++ ": option " ++ Text.quoted o ++
      " in section " ++ Text.quoted s ++ " already exists"
  | badLines ls =>
    "Source contains parsing errors: " ++ source ++
      String.join (ls.map fun (n, t) => "\n\t" ++ lineMark n ++ ": " ++ Text.quoted t)
  | badReference _ _ rest => "bad interpolation variable reference " ++ Text.quoted rest
  | strayPercent _ _ rest =>
    "'%' must be followed by '%' or '(', found: " ++ Text.quoted rest
  | unknownReference o s raw ref =>
    "Bad value substitution: option " ++ Text.quoted o ++ " in section " ++ Text.quoted s ++
      " contains an interpolation key " ++ Text.quoted ref ++
      " which is not a valid option name. Raw value: " ++ Text.quoted raw
  | tooDeep o s raw =>
    "Recursion limit exceeded in value substitution: option " ++ Text.quoted o ++ " in section " ++
      Text.quoted s ++ " contains an interpolation key which cannot be substituted in " ++
      Number.natText maxDepth ++ " steps. Raw value: " ++ Text.quoted raw

def IniError.kind : IniError → ErrorKind
  | noHeader .. => .missingSectionHeader
  | repeatedSection .. => .duplicateSection
  | repeatedOption .. => .duplicateOption
  | badLines _ => .parsing
  | badReference .. | strayPercent .. => .interpolationSyntax
  | unknownReference .. => .interpolationMissingOption
  | tooDeep .. => .interpolationDepth

def IniError.toError (source : String) (e : IniError) : Error := .raised e.kind (e.message source)

/-! ## lines -/

def linesFrom : List Char → List Char → List String
  | [], [] => []
  | acc, [] => [String.ofList acc.reverse]
  | acc, c :: cs =>
    if c = '\n' then String.ofList (c :: acc).reverse :: linesFrom [] cs
    else linesFrom (c :: acc) cs

/-- the name in a section header: everything up to the last bracket -/
def header? (s : String) : Option String :=
  match s.toList with
  | '[' :: cs =>
    match (cs.reverse.dropWhile (· ≠ ']')) with
    | _ :: name => if name.isEmpty then none else some (String.ofList name.reverse)
    | [] => none
  | _ => none

/-- the name and the value of an option line, cut at the first `=` or `:` -/
def option? (s : String) : Option (String × String) :=
  let cs := s.toList
  let name := cs.takeWhile fun c => c ≠ '=' && c ≠ ':'
  match cs.dropWhile (fun c => c ≠ '=' && c ≠ ':') with
  | [] => none
  | _ :: value => some (Text.trimRight (String.ofList name), Text.trim (String.ofList value))

/-- the section that holds options for all the others -/
def defaultSection : String := "DEFAULT"

/-! ## reading -/

/-- options with the lines of their values -/
abbrev Options := List (String × List String)

/-- what has been read so far -/
structure Draft where
  sections : List (String × Options) := []
  defaults : Options := []
  /-- the section being read -/
  current : Option String := none
  /-- the option that a deeper line goes on with -/
  option : Option String := none
  indent : Nat := 0
  bad : List (Nat × String) := []

namespace Draft

def options (r : Draft) : Options :=
  match r.current with
  | none => []
  | some s => if s = defaultSection then r.defaults else (r.sections.lookup s).getD []

def setOptions (r : Draft) (o : Options) : Draft :=
  match r.current with
  | none => r
  | some s =>
    if s = defaultSection then { r with defaults := o }
    else { r with sections := r.sections.map fun p => if p.1 = s then (s, o) else p }

def extend (r : Draft) (name line : String) : Draft :=
  r.setOptions (r.options.map fun p => if p.1 = name then (name, p.2 ++ [line]) else p)

/-- the option that can go on; one without a name cannot -/
def open? (r : Draft) : Option String :=
  match r.current, r.option with
  | some _, some o => if o = "" then none else some o
  | _, _ => none

def openSection (r : Draft) (n : Nat) (name : String) : Except IniError Draft :=
  if name = defaultSection then .ok { r with current := some name, option := none }
  else if (r.sections.lookup name).isSome then .error (.repeatedSection n name)
  else .ok { r with sections := r.sections ++ [(name, [])], current := some name, option := none }

def setOption (r : Draft) (n : Nat) (line sect name value : String) : Except IniError Draft :=
  let bad := if name = "" then r.bad ++ [(n, line)] else r.bad
  let name := Text.lower (Text.trimRight name)
  if (r.options.lookup name).isSome then .error (.repeatedOption n sect name)
  else .ok ({ r with option := some name, bad }.setOptions (r.options ++ [(name, [value])]))

/-- a line that opens a section or sets an option -/
def start (r : Draft) (n : Nat) (line stripped : String) : Except IniError Draft :=
  match header? stripped, r.current with
  | some name, _ => r.openSection n name
  | none, none => .error (.noHeader n line)
  | none, some sect =>
    match option? stripped with
    | some (name, value) => r.setOption n line sect name value
    | none => .ok { r with bad := r.bad ++ [(n, line)] }

def line (r : Draft) (n : Nat) (line : String) : Except IniError Draft :=
  let stripped := Text.trim line
  if Text.startsWith "#" stripped || Text.startsWith ";" stripped then .ok r
  else if stripped = "" then
    match r.open? with
    | some o => .ok (r.extend o "")
    | none => .ok r
  else
    let indent := (line.toList.takeWhile Text.isBlank).length
    match r.open? with
    | some o =>
      if r.indent < indent then .ok (r.extend o stripped)
      else { r with indent }.start n line stripped
    | none => { r with indent }.start n line stripped

def lines (r : Draft) : Nat → List String → Except IniError Draft
  | _, [] => .ok r
  | n, l :: ls => do
    let r ← r.line n l
    r.lines (n + 1) ls

end Draft

structure Contents where
  sections : List (String × List (String × String)) := []
  defaults : List (String × String) := []

def joinValues (o : Options) : List (String × String) :=
  o.map fun (k, ls) => (k, Text.trimRight (Text.joinWith "\n" ls))

def read (text : String) : Except IniError Contents := do
  let r ← ({} : Draft).lines 1 (linesFrom [] text.toList)
  if !r.bad.isEmpty then throw (.badLines r.bad)
  let sections := r.sections.map fun (k, o) => (k, joinValues o)
  return { sections, defaults := joinValues r.defaults }

/-! ## expanding values -/

inductive Piece where
  | text (s : String)
  | reference (name : String)
  | badReference (rest : String)
  | strayPercent (rest : String)

/-- the name in a reference, behind its opening bracket, and what follows it -/
def reference? (cs : List Char) : Option (String × List Char) :=
  let name := cs.takeWhile (· ≠ ')')
  match cs.dropWhile (· ≠ ')') with
  | ')' :: 's' :: rest => if name.isEmpty then none else some (String.ofList name, rest)
  | _ => none

/-- cuts a value into its parts; what follows a broken one is not looked at -/
def pieces : Nat → List Char → List Piece
  | 0, _ => []
  | _ + 1, [] => []
  | n + 1, '%' :: cs =>
    match cs with
    | '%' :: rest => .text "%" :: pieces n rest
    | '(' :: rest =>
      match reference? rest with
      | some (name, rest) => .reference (Text.lower name) :: pieces n rest
      | none => [.badReference (String.ofList ('%' :: cs))]
    | _ => [.strayPercent (String.ofList ('%' :: cs))]
  | n + 1, c :: cs => .text (String.singleton c) :: pieces n cs

/-- what is being expanded: an option of a section, with its raw value and the options one may refer
to -/
structure Expansion where
  option : String
  sect : String
  raw : String
  options : List (String × String)

/-- expands a value; `n` is how much deeper references may lead -/
def Expansion.expand (x : Expansion) : Nat → String → Except IniError String
  | 0, _ => .error (.tooDeep x.option x.sect x.raw)
  | n + 1, value => do
    let parts ← (pieces value.length value.toList).mapM fun p => match p with
      | .text s => .ok s
      | .reference name =>
        match x.options.lookup name with
        | none => .error (.unknownReference x.option x.sect x.raw name)
        | some v => if Text.hasChar '%' v then x.expand n v else .ok v
      | .badReference rest => .error (.badReference x.option x.sect rest)
      | .strayPercent rest => .error (.strayPercent x.option x.sect rest)
    return String.join parts

/-! ## looking up -/

namespace Contents

def options (i : Contents) (sect : String) : Option (List (String × String)) :=
  (i.sections.lookup sect).map fun own =>
    own ++ i.defaults.filter fun p => (own.lookup p.1).isNone

def expanded (options : List (String × String)) (sect option raw : String) :
    Except IniError String :=
  Expansion.expand { option, sect, raw, options } maxDepth raw

def values (i : Contents) (sect : String) : Except IniError (Option (List (String × String))) :=
  match i.options sect with
  | none => .ok none
  | some os => do
    let vs ← os.mapM fun (k, raw) => do
      let v ← expanded os sect k raw
      return (k, v)
    return some vs

end Contents

end CommandLine.Ini
