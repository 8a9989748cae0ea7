import CommandLine.Value.Basic

/-!
# Names of kinds

The name under which the kind of a value appears in messages and in shown values, and the classes a
class inherits from.
-/

namespace CommandLine

def PathKind.name : PathKind → String
  | .posix => "PosixPath"
  | .purePosix => "PurePosixPath"
  | .pureWindows => "PureWindowsPath"

/-- the name of a type, as a value of it names its type -/
def Kind.valueName : Kind → String
  | .int => "int"
  | .text => "str"
  | .float => "float"
  | .bool => "bool"
  | .list => "list"
  | .tuple => "tuple"
  | .set => "set"
  | .dict => "dict"
  | .bytes => "bytes"
  | .byteArray => "bytearray"
  | .complex => "complex"
  | .frozenSet => "frozenset"
  | .path k => k.name

/-- the name of a type, as it is written in a declaration -/
def Kind.name : Kind → String
  | .path .posix => "Path"
  | k => k.valueName

def Kind.all : List Kind :=
  [.int, .text, .float, .bool, .list, .tuple, .set, .dict, .bytes, .byteArray, .complex,
    .frozenSet, .path .posix, .path .purePosix, .path .pureWindows]

def Kind.ofName? (s : String) : Option Kind := Kind.all.find? (·.name = s)

/-- the name with the module, where that is not the standard one -/
def Kind.fullName : Kind → String
  | .path k => "pathlib." ++ Kind.name (.path k)
  | k => k.name

def Builtin.name : Builtin → String
  | .len => "len"
  | .abs => "abs"
  | .max => "max"
  | .min => "min"
  | .sorted => "sorted"
  | .divMod => "divmod"
  | .isInstance => "isinstance"
  | .member => "getattr"

def Builtin.all : List Builtin :=
  [.len, .abs, .max, .min, .sorted, .divMod, .isInstance, .member]

def Builtin.ofName? (s : String) : Option Builtin := Builtin.all.find? (·.name = s)

def Value.kindName : Value → String
  | .null => "NoneType"
  | .bool _ => "bool"
  | .int _ => "int"
  | .float _ => "float"
  | .complex .. => "complex"
  | .text _ => "str"
  | .bytes _ => "bytes"
  | .byteArray _ => "bytearray"
  | .list _ => "list"
  | .tuple _ => "tuple"
  | .set _ => "set"
  | .frozenSet _ => "frozenset"
  | .dict _ => "dict"
  | .ellipsis => "ellipsis"
  | .path p => p.kind.name
  | .kind _ => "type"
  | .generator _ => "generator"
  | .builtin _ => "builtin_function_or_method"
  | .builtinMethod .operator .. => "method-wrapper"
  | .builtinMethod .. => "builtin_function_or_method"
  | .routine _ => "function"
  | .method .. => "method"
  | .class _ => "type"
  | .object c _ => c.name
  | .module .. => "module"

/-! ## inheritance -/

mutual

/-- a class and the classes it inherits from, nearest first -/
def Class.lineage : Class → List Class
  | ⟨name, home, doc, members, init, base, shown, length, file, decorations⟩ =>
    ⟨name, home, doc, members, init, base, shown, length, file, decorations⟩ ::
      Class.lineageOfBase base

def Class.lineageOfBase : Option Class → List Class
  | none => []
  | some c => c.lineage

end

/-- the text that stands for instances -/
def Class.shown? (c : Class) : Option String := c.lineage.findSome? (·.shown)

def Class.length? (c : Class) : Option Nat := c.lineage.findSome? (·.length)

def Class.member? (c : Class) (name : String) : Option Member :=
  c.lineage.findSome? fun k => k.members.lookup name

def Class.fullName (c : Class) : String := c.home ++ "." ++ c.name

/-- what a complaint about an argument calls the value: nothing by itself, all else by its type -/
def Value.argumentName : Value → String
  | .null => "None"
  | v => v.kindName

/-- is the value of the type?  Whole numbers include truth values, pure slash paths the paths of
this system. -/
def Value.isOf (v : Value) (k : Kind) : Bool :=
  match k, v with
  | .int, .int _ | .int, .bool _ | .text, .text _ | .float, .float _ | .bool, .bool _
  | .list, .list _ | .tuple, .tuple _ | .set, .set _ | .dict, .dict _ | .bytes, .bytes _
  | .byteArray, .byteArray _ | .complex, .complex .. | .frozenSet, .frozenSet _ => true
  | .path k, .path p => p.kind = k || (k = .purePosix && p.kind = .posix)
  | _, _ => false

end CommandLine
