import CommandLine.Error
import CommandLine.Value.Equal

/-!
# Named arguments

A list of arguments falls, from left to right, into groups: a flag `--name=value`, a bare flag
`--name` (the last argument, or one in front of another flag), a flag `--name` with the argument
behind it as its value, and single arguments.  `groups` cuts the list, `Keywords.of` sorts the
groups: flags that the routine knows become named values, unknown flags and single arguments are
kept, each in their order.

Arguments are texts when they come from a shell, but a program may hand over any values.  A step that
needs text refuses the first argument that is none (`flagTexts`).
-/

namespace CommandLine.Binding

/-- where the value of a flag stands -/
inductive FlagValue where
  | inline (v : String)
  | bare
  | next (v : String)
  deriving DecidableEq, Repr

inductive Group where
  | flag (name : String) (value : FlagValue)
  | single (arg : String)
  deriving DecidableEq, Repr

def isFlag (arg : String) : Bool := Text.startsWith "--" arg

def flagBody (arg : String) : String := Text.dropChars 2 arg

def groups : List String → List Group
  | [] => []
  | a :: rest =>
    if isFlag a then
      match Text.cutAt '=' (flagBody a) with
      | some (name, v) => .flag name (.inline v) :: groups rest
      | none =>
        match rest with
        | [] => [.flag (flagBody a) .bare]
        | b :: rest' =>
          if isFlag b then .flag (flagBody a) .bare :: groups (b :: rest')
          else .flag (flagBody a) (.next b) :: groups rest'
    else .single a :: groups rest

def Group.args : Group → List String
  | .flag name (.inline v) => ["--" ++ name ++ "=" ++ v]
  | .flag name .bare => ["--" ++ name]
  | .flag name (.next v) => ["--" ++ name, v]
  | .single a => [a]

/-- dashes in a flag stand for underscores -/
def normal (name : String) : String := Text.replaceChar '-' '_' name

/-- the name and value that a bare flag stands for: `no` in front of a name that is no parameter
turns the rest off -/
def bareFlag (params : List String) (name : String) : String × String :=
  if params.contains name then (name, "True")
  else if Text.startsWith "no" name then (Text.dropChars 2 name, "False")
  else (name, "True")

/-- the parameter and the text of its value that a flag gives -/
def flagEntry (params : List String) (name : String) : FlagValue → String × String
  | .inline v => (normal name, v)
  | .bare => let (n, v) := bareFlag params name; (normal n, v)
  | .next v => (normal name, v)

/-- arguments sorted into named values, flags not known, and single arguments -/
structure Keywords where
  named : List (String × String) := []
  unknown : List String := []
  rest : List String := []
  deriving DecidableEq, Repr

/-- puts one more group in its place; with `anyName` every name is known -/
def Keywords.add (params : List String) (anyName : Bool) (k : Keywords) (g : Group) : Keywords :=
  match g with
  | .single a => { k with rest := k.rest ++ [a] }
  | .flag name value =>
    let (param, v) := flagEntry params name value
    if params.contains param || anyName then { k with named := putName param v k.named }
    else { k with unknown := k.unknown ++ g.args }

/-- sorts arguments for a routine with these parameters; `anyName` if it takes every name -/
def Keywords.of (params : List String) (anyName : Bool) (args : List String) : Keywords :=
  (groups args).foldl (Keywords.add params anyName) {}

end CommandLine.Binding

namespace CommandLine

/-! ## arguments that are no text -/

/-- the text of an argument from which flags can be told by its start -/
def flagText : Value → Except Error String
  | .text s => .ok s
  | .bytes _ | .byteArray _ =>
    .error (.type "startswith first arg must be bytes or a tuple of bytes, not str")
  | v => .error (.noAttribute v.kindName "startswith")

def flagTexts : List Value → Except Error (List String)
  | [] => .ok []
  | v :: vs => do
    let s ← flagText v
    let ss ← flagTexts vs
    return s :: ss

end CommandLine
