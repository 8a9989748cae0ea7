import CommandLine.Path

/-!
# Values and components

Everything the command line can reach is a `Value`: data (numbers, text, containers, paths) and the
things one can call or look into (routines, classes, objects, modules).  A routine is declared by
its signature and by a body from a small language, so a call is a function of the arguments alone;
the bodies `act` are the methods of a command class, which also work on the configuration.

Sets and dictionaries are lists in the order of insertion.  That no two of their elements are equal
is kept by the functions that build them (`CommandLine.Value.Equal`).
-/

namespace CommandLine

/-! ## names of kinds -/

/-- the types a field can be declared with -/
inductive Kind where
  | int
  | text
  | float
  | bool
  | list
  | tuple
  | set
  | dict
  | bytes
  | byteArray
  | complex
  | frozenSet
  | path (k : PathKind)
  deriving DecidableEq, Repr

inductive Builtin where
  | len
  | abs
  | max
  | min
  | sorted
  | divMod
  | isInstance
  | member
  deriving DecidableEq, Repr

/-- the kinds of error a routine can raise or that a rule of this library states -/
inductive ErrorKind where
  | value
  | type
  | key
  | runtime
  | attribute
  | index
  | zeroDivision
  | stopIteration
  | notImplemented
  | general
  | exit
  | interrupt
  | overflow
  | unicodeDecode
  | lookup
  | assertion
  | isADirectory
  | requiredParameter
  | missingSectionHeader
  | duplicateSection
  | duplicateOption
  | parsing
  | interpolationSyntax
  | interpolationMissingOption
  | interpolationDepth
  deriving DecidableEq, Repr

/-- how the text given for a parameter becomes a value -/
inductive Reading where
  | text
  | int
  | float
  | length
  | upper
  | list
  | literal
  deriving DecidableEq, Repr

/-- one decoration of a routine: a reading for some parameters (for all, if none is named), or
readings by position and by name -/
inductive Decoration where
  | one (r : Reading) (names : List String)
  | many (positional : List Reading) (named : List (String × Reading))
  deriving DecidableEq, Repr

/-- what a method of a built-in type is bound to: a value, a value that an operator works on, or the
type itself -/
inductive MethodForm where
  | ofValue
  | operator
  | ofKind
  deriving DecidableEq, Repr

/-! ## signatures -/

/-- the parameters of a routine; the defaults belong to the last of `args` -/
structure Signature (α : Type) where
  args : List String := []
  defaults : List α := []
  /-- the name for all further arguments -/
  more : Option String := none
  /-- the parameters that are given by name only -/
  flagParams : List String := []
  flagDefaults : List (String × α) := []
  /-- the name for all further arguments that are given by name -/
  moreNamed : Option String := none

instance (α : Type) : Inhabited (Signature α) := ⟨{}⟩

/-! ## values -/

mutual

inductive Value where
  | null
  | bool (b : Bool)
  | int (i : Int)
  | float (x : Float)
  | complex (re im : Float)
  | text (s : String)
  | bytes (b : List UInt8)
  | byteArray (b : List UInt8)
  | list (xs : List Value)
  | tuple (xs : List Value)
  | set (xs : List Value)
  | frozenSet (xs : List Value)
  | dict (entries : List (Value × Value))
  | ellipsis
  | path (p : Path)
  /-- a type itself -/
  | kind (k : Kind)
  /-- a source of values that is read once -/
  | generator (xs : List Value)
  | builtin (b : Builtin)
  /-- a method of a value of a built-in type -/
  | builtinMethod (form : MethodForm) (receiver : Value) (name : String)
  | routine (r : Routine)
  /-- a routine with its first parameter already given -/
  | method (receiver : Value) (r : Routine)
  | class (c : Class)
  | object (c : Class) (attrs : List (String × Value))
  | module (name : String) (doc : Option String) (members : List (String × Value))

structure Routine where
  name : String
  /-- the parameter that a bound call fills: `self` of methods, `cls` of class methods -/
  receiver : Option String
  signature : Signature Value
  doc : Option String
  body : Body
  /-- file and line, where known -/
  place : Option (String × Nat)
  decorations : List Decoration
  /-- the name for further keywords that the routine announces without taking them itself -/
  announced : Option String

/-- what a routine does with its arguments -/
inductive Body where
  /-- gives a dictionary from the parameters to their values -/
  | echo
  | tuple
  | list
  /-- gives the value of one parameter -/
  | arg (name : String)
  | const (v : Value)
  | print (text : String)
  | raise (kind : ErrorKind) (message : String)
  | generate (xs : List Value)
  /-- gives the routine itself -/
  | itself
  /-- works on the configuration -/
  | act (actions : List Action)

/-- one step of a method on the configuration -/
inductive Action where
  | print (v : Value)
  | show (name : String)
  | set (name : String) (v : Value)
  | copy (target source : String)
  | raise (kind : ErrorKind) (message : String)
  | return (v : Value)
  | get (name : String)

/-- what stands under a name in a class -/
inductive Member where
  | plain (v : Value)
  | static (r : Routine)
  | classMethod (r : Routine)
  /-- computed when it is read -/
  | property (v : Value)

structure Class where
  name : String
  /-- the module that the class belongs to -/
  home : String
  doc : Option String
  members : List (String × Member)
  init : Initializer
  base : Option Class
  /-- the text that stands for an instance -/
  shown : Option String
  length : Option Nat
  /-- the file the class is written in, where known -/
  file : Option String
  decorations : List Decoration

/-- how an instance is set up -/
inductive Initializer where
  /-- no initialiser of its own -/
  | inherited
  /-- stores each argument under its parameter's name -/
  | stores (r : Routine)
  /-- collects the named arguments into the configuration -/
  | configures (moreNamed : String)

end

instance : Inhabited Value := ⟨.null⟩
instance : Inhabited Body := ⟨.echo⟩
instance : Inhabited Routine := ⟨⟨"", none, {}, none, .echo, none, [], none⟩⟩
instance : Inhabited Member := ⟨.plain .null⟩
instance : Inhabited Class := ⟨⟨"", "", none, [], .inherited, none, none, none, none, []⟩⟩

namespace Value

def ofOption (f : α → Value) : Option α → Value
  | none => null
  | some a => f a

def text? : Value → Option String
  | text s => some s
  | _ => none

end Value

/-- a dictionary whose keys are texts -/
def Value.record (entries : List (String × Value)) : Value :=
  .dict (entries.map fun (k, v) => (.text k, v))

namespace Routine

/-- all the positional parameters, the one of the receiver first -/
def params (r : Routine) : List String := r.receiver.toList ++ r.signature.args

def isGenerating (r : Routine) : Bool :=
  match r.body with
  | .generate _ => true
  | _ => false

end Routine

end CommandLine
