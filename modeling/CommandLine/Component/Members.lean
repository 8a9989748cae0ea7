import CommandLine.Component.BuiltinNames
import CommandLine.Component.Method.Documents
import CommandLine.Component.Method.Table
import CommandLine.Value.Cast
import CommandLine.Value.Show
import CommandLine.Text.Document

/-!
# Members of a component

The names under which a component gives other components, with what stands there.  A dictionary
gives its entries under its keys, in their order; everything else gives its members by name, in
order of the names: what an object carries, what its class and the classes before it declare, and
the private names that all values have.

One member is found without listing the others: an object gives what it carries before what its
class declares, and a class what it declares before what it inherits.

The facts that help shows of a component are those that can be told from the component alone (`Info`).
An interactive shell that is installed beside the library is asked first; where there is none, as
here, these facts stand in for its answer.
-/

namespace CommandLine

def isPublic (name : String) : Bool := !Text.startsWith "_" name

/-! ## documentation -/

/-- the documentation of a class: its own, or the nearest inherited one -/
def Class.document? (c : Class) : Option String := c.lineage.findSome? (·.doc)

/-- the documentation a method has, or inherits from a method of the same name -/
def methodDocument? (receiver : Value) (r : Routine) : Option String :=
  match r.doc, receiver with
  | some d, _ => some d
  | none, .object c _ | none, .class c =>
    c.lineage.findSome? fun k => match k.members.lookup r.name with
      | some (.plain (.routine m)) | some (.static m) | some (.classMethod m) => m.doc
      | _ => none
  | none, _ => none

def Value.rawDocument? : Value → Option String
  | .bool _ => Kind.document? .bool
  | .int _ => Kind.document? .int
  | .float _ => Kind.document? .float
  | .complex .. => Kind.document? .complex
  | .text _ => Kind.document? .text
  | .bytes _ => Kind.document? .bytes
  | .byteArray _ => Kind.document? .byteArray
  | .list _ => Kind.document? .list
  | .tuple _ => Kind.document? .tuple
  | .set _ => Kind.document? .set
  | .frozenSet _ => Kind.document? .frozenSet
  | .dict _ => Kind.document? .dict
  | .path p => p.document?
  | .kind k => k.document?
  | .builtin b => some b.document
  | .builtinMethod _ v name => builtinDocument? v.kindName name
  | .routine r => r.doc
  | .method v r => methodDocument? v r
  | .class c => c.document?
  | .object c _ => c.doc
  | .module _ doc _ => doc
  | _ => none

def Value.document? (v : Value) : Option String := v.rawDocument?.map Text.clean

/-! ## reading a member -/

def Member.ofInstance (receiver : Value) : Member → Value
  | .plain (.routine r) => if r.receiver.isSome then .method receiver r else .routine r
  | .plain v => v
  | .static r => .routine r
  | .classMethod r =>
    match receiver with
    | .object c _ => .method (.class c) r
    | _ => .method receiver r
  | .property v => v

/-- the class of what stands in a built-in or declared class for something else -/
def markerClass (name : String) : Class :=
  { name, home := "builtins", doc := none, members := [], init := .inherited, base := none
    shown := some ("<" ++ name ++ " object at 0x>"), length := none, file := none
    decorations := [] }

def propertyRoutine (v : Value) : Routine :=
  { name := "fget", receiver := some "self", signature := {}, doc := none, body := .const v
    place := none, decorations := [], announced := none }

/-- what stands for a property that is read from its class -/
def propertyValue (v : Value) : Value :=
  let self := Value.object (markerClass "property") []
  .object (markerClass "property")
    [ ("deleter", .builtinMethod .ofValue self "deleter")
    , ("fdel", .null)
    , ("fget", .routine (propertyRoutine v))
    , ("fset", .null)
    , ("getter", .builtinMethod .ofValue self "getter")
    , ("setter", .builtinMethod .ofValue self "setter") ]

def Value.typeOf : Value → Value
  | .object c _ => .class c
  | v =>
    match Kind.all.find? fun k => k.valueName = v.kindName with
    | some k => .kind k
    | none => .class (markerClass v.kindName)

def Member.ofClass (c : Class) : Member → Value
  | .plain v => v
  | .static r => .routine r
  | .classMethod r => .method (.class c) r
  | .property v => propertyValue v

def Class.declared (c : Class) : List (String × Member) :=
  (c.lineage.flatMap (·.members)).foldl
    (fun acc m => if (acc.lookup m.1).isSome then acc else acc ++ [m]) []

/-- a method of a value of a built-in type, or of what all values have -/
def builtinMethodOf (v : Value) (name : String) : Value :=
  .builtinMethod (methodForm v.kindName name) v name

def Class.privateMember (c : Class) (self : Value) (name : String) : Value :=
  match name with
  | "__doc__" => Value.ofOption .text (match self with
    | .object k _ => k.doc
    | _ => c.doc)
  | "__class__" => self.typeOf
  | "__module__" => .text c.home
  | "__dict__" => match self with
    | .object _ attrs => Value.record attrs
    | _ => .dict []
  | "__weakref__" => .null
  | n => builtinMethodOf self n

/-- the private names, with the one for lengths where there is a length -/
def Class.privateNames (c : Class) : List String :=
  if c.length?.isSome then objectNames ++ ["__len__"] else objectNames

/-! ## values of built-in kinds -/

def numberMember? (v : Value) (name : String) : Option Value :=
  match v, name with
  | .bool b, "real" | .bool b, "numerator" => some (.int (if b then 1 else 0))
  | .bool _, "imag" => some (.int 0)
  | .bool _, "denominator" => some (.int 1)
  | .int i, "real" | .int i, "numerator" => some (.int i)
  | .int _, "imag" => some (.int 0)
  | .int _, "denominator" => some (.int 1)
  | .float x, "real" => some (.float x)
  | .float _, "imag" => some (.float 0.0)
  | .complex a _, "real" => some (.float a)
  | .complex _ b, "imag" => some (.float b)
  | _, _ => none

/-- a routine that searches the ancestors of a path, among which is nothing that can be given -/
def ancestorSearch (name : String) (signature : Signature Value) (doc : String) (body : Body) :
    String × Member :=
  (name, .plain (.routine
    { name, receiver := some "self", signature, doc := some doc, body, place := none,
      decorations := [], announced := none }))

/-- what stands for the directories above a path -/
def ancestorsClass (p : Path) : Class :=
  { name := "_PathParents", home := "pathlib"
    doc := some (Text.clean "This object provides sequence-like access to the logical ancestors
      of a path.  Don't try to construct it yourself.")
    members :=
      [ ancestorSearch "count" { args := ["value"] }
          "S.count(value) -> integer -- return number of occurrences of value" (.const (.int 0))
      , ancestorSearch "index"
          { args := ["value", "start", "stop"], defaults := [.int 0, .null] }
          (Text.clean "S.index(value, [start, [stop]]) -> integer -- return first index of value.
            Raises ValueError if the value is not present.

            Supporting start and stop arguments is optional, but
            recommended.")
          (.raise .value "") ]
    init := .inherited, base := none
    shown := some ("<" ++ p.kind.name ++ ".parents>")
    length := some p.names.length, file := none, decorations := [] }

def pathMember? (p : Path) (name : String) : Option Value :=
  match name with
  | "anchor" => some (.text p.anchor)
  | "drive" => some (.text p.drive)
  | "root" => some (.text p.root)
  | "name" => some (.text p.name)
  | "stem" => some (.text p.stem)
  | "suffix" => some (.text (Text.dropChars p.stem.length p.name))
  | "parent" => some (.path p.parent)
  | "parts" => some (.tuple (p.parts.map .text))
  | "parents" => some (.object (ancestorsClass p) [])
  | "suffixes" => some (.list (p.suffixes.map .text))
  | _ => none

/-- values that can change are no keys -/
def Value.isMutable : Value → Bool
  | .list _ | .dict _ | .set _ | .byteArray _ => true
  | _ => false

def builtinMember (v : Value) (name : String) : Value :=
  match numberMember? v name with
  | some w => w
  | none =>
    match v with
    | .path p => (pathMember? p name).getD (builtinMethodOf v name)
    | _ =>
      if name = "__doc__" then Value.ofOption .text v.rawDocument?
      else if name = "__class__" then v.typeOf
      else if name = "__hash__" && v.isMutable then .null
      else builtinMethodOf v name

/-- a public member of a built-in type: a method that shows its receiver, or what stands for a
number that the values have -/
def Kind.member (k : Kind) (name : String) : Value :=
  match numberMember? k.empty name with
  | some _ => .object (markerClass "getset_descriptor") []
  | none => builtinMethodOf k.empty name

def byName (xs : List (String × Value)) : List (String × Value) :=
  xs.mergeSort fun a b => Text.le a.1 b.1

def Value.namedMembers (v : Value) : List (String × Value) :=
  match v with
  | .object c attrs =>
    let declared := (c.declared.filter fun m => (attrs.lookup m.1).isNone).map fun m =>
      (m.1, m.2.ofInstance v)
    let own := attrs ++ declared
    let hidden := c.privateNames.filter fun n => (own.lookup n).isNone
    byName (own ++ hidden.map fun n => (n, c.privateMember v n))
  | .class c =>
    let own := c.declared.map fun m => (m.1, m.2.ofClass c)
    let hidden := c.privateNames.filter fun n => (own.lookup n).isNone
    byName (own ++ hidden.map fun n => (n, c.privateMember v n))
  | .module name doc members =>
    let hidden := moduleNames.filter fun n => (members.lookup n).isNone
    byName (members ++ hidden.map fun n =>
      (n, if n = "__doc__" then Value.ofOption .text doc
        else if n = "__name__" then .text name else .null))
  | .kind k => (publicNames k.valueName).map fun n => (n, k.member n)
  | v =>
    let names := publicNames v.kindName ++ commonNames ++ extraNames v.kindName
    byName (names.map fun n => (n, builtinMember v n))

def Value.members : Value → List (Value × Value)
  | .dict es => es
  | v => v.namedMembers.map fun (n, w) => (.text n, w)

/-! ## kinds of components -/

def Value.isRoutine : Value → Bool
  | .routine _ | .method .. | .builtin _ | .builtinMethod .. => true
  | _ => false

def Value.isClass : Value → Bool
  | .class _ | .kind _ => true
  | _ => false

def Value.isCallable (v : Value) : Bool := v.isRoutine || v.isClass

/-! ## what is known of a component -/

structure Info where
  kindName : String
  text : String
  file : Option String
  line : Option Nat
  document : Option String
  length : Option Nat

def Value.place : Value → Option String × Option Nat
  | .routine r | .method _ r =>
    match r.place with
    | some (f, l) => (some f, some l)
    | none => (none, none)
  | .class c => (c.file, none)
  | _ => (none, none)

def Value.info (v : Value) : Info :=
  { kindName := v.kindName
    text := v.plain
    file := v.place.1
    line := v.place.2
    document := v.document?
    length := v.length? }

/-! ## one member -/

def Value.attribute? (v : Value) (name : String) : Option Value :=
  match v with
  | .object c attrs =>
    match attrs.lookup name, c.member? name with
    | some w, _ => some w
    | none, some m => some (m.ofInstance v)
    | none, none => if c.privateNames.contains name then some (c.privateMember v name) else none
  | .class c =>
    match c.member? name with
    | some m => some (m.ofClass c)
    | none =>
      if c.privateNames.contains name then some (c.privateMember v name)
      else if name = "__name__" || name = "__qualname__" then some (.text c.name)
      else none
  | v => v.namedMembers.lookup name

def Value.attributeError (v : Value) (name : String) : Error :=
  match v with
  | .class c => .noTypeAttribute c.name name
  | .kind k => .noTypeAttribute k.name name
  | .module m .. => .raised .attribute ("module '" ++ m ++ "' has no attribute '" ++ name ++ "'")
  | v => .noAttribute v.kindName name

def Value.attribute (v : Value) (name : String) : Except Error Value :=
  match v.attribute? name with
  | some w => .ok w
  | none => .error (v.attributeError name)

end CommandLine
