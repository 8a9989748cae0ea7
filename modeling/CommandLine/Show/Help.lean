import CommandLine.Show.Completion
import CommandLine.Text.LetterCase

/-!
# Usage and help

How a component can be used, as lines that start with the command that has led to it, and the help
text: usage, description and length, each behind its label.
-/

namespace CommandLine

/-! ## usage -/

/-- one parameter by name and by position; `optional` ones stand in brackets -/
def paramUsage (optional : Bool) (param : String) : String × String :=
  let flag := flagWord param ++ " " ++ Text.upper param
  if optional then ("[" ++ flag ++ "]", "[" ++ Text.upper param ++ "]")
  else (flag, Text.upper param)

/-- the lines for a call: by position, and by name if that differs -/
def callUsage (command : String) (spec : Signature Value) : String :=
  let required := spec.args.length - spec.defaults.length
  let params := spec.args.mapIdx fun i a => paramUsage (required ≤ i) a
  let extra := match spec.more with
    | some v => if v = "" then [] else ["[" ++ Text.upper v ++ " ...]"]
    | none => []
  let flags := spec.flagParams.map fun k =>
    let flag := "--" ++ k ++ " " ++ Text.upper k
    if (spec.flagDefaults.lookup k).isSome then "[" ++ flag ++ "]" else flag
  let behind := extra ++ flags ++ ["[ARGS]"]
  let byName := command ++ Text.joinWith " " (params.map (·.1) ++ behind)
  let byPosition := command ++ Text.joinWith " " (params.map (·.2) ++ behind)
  (if byName = byPosition then byPosition else byPosition ++ "\n" ++ byName) ++ "\n"

def Value.usage (command : Option String) (verbose : Bool) (v : Value) : String :=
  let lead := match command with
    | some c => c ++ " "
    | none => ""
  if v.isCallable then callUsage lead v.spec
  else match v with
    | .tuple xs | .list xs =>
      match xs.length with
      | 0 => lead
      | 1 => lead ++ "[0]"
      | n => lead ++ "[0.." ++ Number.natText (n - 1) ++ "]"
    | v =>
      let ends := v.completions verbose
      let ends := if lead = "" then ends else "" :: ends
      Text.joinWith "\n" (ends.map (lead ++ ·))

/-! ## help -/

def fieldLabel (field : String) : Except Error String :=
  let field := if field = "type_name" then "type" else field
  if field = "docstring" then .ok "Description"
  else match field.toList with
    | [] => .error (.indexOutOfRange "string")
    | c :: cs => .ok (Text.replaceChar '_' ' ' (String.ofList (Text.upperChar c ++ cs)))

/-- the kinds whose documentation says nothing about the value at hand -/
def undocumentedKinds : List String := ["dict", "list", "unicode", "int", "float", "bool"]

/-- the text of a field: lines of a usage behind the first are indented, documentation that says
nothing is left out -/
def fieldText (kindName : Option String) (padding : Nat) (field value : String) : Option String :=
  if field = "docstring" then
    if kindName.any undocumentedKinds.contains || value = "<no docstring>" then none else some value
  else if field = "usage" then
    some (Text.joinWith ("\n" ++ Text.spaces padding) (Text.splitAtChar '\n' value))
  else some value

inductive HelpField where
  | usage
  | document
  | length
  deriving DecidableEq, Repr

def HelpField.name : HelpField → String
  | .usage => "usage"
  | .document => "docstring"
  | .length => "length"

def HelpField.label : HelpField → String
  | .usage => "Usage"
  | .document => "Description"
  | .length => "Length"

/-- the fields of a help text in order, with their texts -/
def helpFields (info : Info) (usage : String) : List (HelpField × String) :=
  [(.usage, usage)] ++
    (info.document.map ((.document, ·))).toList ++
    (info.length.map fun n => (.length, Number.natText n)).toList

/-- lays out the fields that have a text: labels padded to the widest one -/
def helpLayout (kindName : String) (fields : List (HelpField × String)) : Except Error String :=
  let fields := fields.filter fun f => f.2 ≠ ""
  match (fields.map fun f => f.1.label.length + 1).max? with
  | none => .error .emptyMaximum
  | some width =>
    let lines := fields.filterMap fun (f, v) =>
      match fieldText (some kindName) (width + 1) f.name v with
      | some t => if t = "" then none else some (Text.padRight width (f.label ++ ":") ++ " " ++ t)
      | none => none
    .ok (Text.joinWith "\n" lines)

def Value.help (command : Option String) (verbose : Bool) (v : Value) : Except Error String :=
  let info := v.info
  helpLayout info.kindName (helpFields info (v.usage command verbose))

end CommandLine
