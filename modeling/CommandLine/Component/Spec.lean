import CommandLine.Component.Method.Table
import CommandLine.Value.Kind

/-!
# The parameters of a component

What can be given when a component is called.  A bound routine leaves out its receiver, a class
shows the parameters of its initialiser, and a built-in function that keeps its parameters to itself
takes anything.  What cannot be called has no parameters.
-/

namespace CommandLine

def Builtin.signature : Builtin → Signature Value
  | .len => { args := ["obj"] }
  | .abs => { args := ["x"] }
  | .sorted =>
    { args := ["iterable"], flagParams := ["key", "reverse"],
      flagDefaults := [("key", .null), ("reverse", .bool false)] }
  | .divMod => { args := ["x", "y"] }
  | .isInstance => { args := ["obj", "class_or_tuple"] }
  | .max | .min | .member => anything

/-- what a type shows of its parameters: all but the first, with the defaults of all; types that can
be made in several ways show none -/
def Kind.signature : Kind → Signature Value
  | .float => { defaults := [.int 0] }
  | .list | .tuple => { defaults := [.tuple []] }
  | .complex => { args := ["imag"], defaults := [.int 0, .int 0] }
  | .path .posix => { more := some "args", moreNamed := some "kwargs" }
  | .path _ => { more := some "args" }
  | _ => {}

/-- the defaults of keyword parameters, in the order of the parameters -/
def Signature.orderedDefaults (s : Signature Value) : List (String × Value) :=
  s.flagParams.filterMap fun k => (s.flagDefaults.lookup k).map (k, ·)

/-- the initialiser of a class, its own or the nearest inherited one -/
def Class.initializer (c : Class) : Initializer :=
  (c.lineage.findSome? fun k => match k.init with
    | .inherited => none
    | i => some i).getD .inherited

def Initializer.signature : Initializer → Signature Value
  | .inherited => {}
  | .stores r => r.signature
  | .configures moreNamed => { moreNamed := some moreNamed }

def Routine.shownSignature (r : Routine) : Signature Value :=
  { r.signature with
    flagDefaults := r.signature.orderedDefaults
    moreNamed := r.announced.orElse fun _ => r.signature.moreNamed }

def Value.spec : Value → Signature Value
  | .routine r => { r.shownSignature with args := r.params }
  | .method _ r => r.shownSignature
  | .class c =>
    let s := c.initializer.signature
    { s with flagDefaults := s.orderedDefaults }
  | .kind k => k.signature
  | .builtin b => b.signature
  | .builtinMethod _ v name => methodSignature v.kindName name
  | _ => {}

end CommandLine
