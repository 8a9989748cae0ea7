import CommandLine.Component.Call

/-!
# Fields and their values

Values that come from outside, by name.  Only those named like a field are kept, and a text from a
file becomes a value of the same type as the field's current one.
-/

namespace CommandLine

/-- the entries whose key is the name of a field -/
def keepFields (fields : List String) (entries : List (Value × Value)) : List (Value × Value) :=
  entries.filter fun e => match e.1 with
    | .text s => fields.contains s
    | _ => false

def Class.ofValue (c : Class) (v : Value) : Except Error Value :=
  match c.initializer with
  | .stores r => do
    let values ← r.signature.assign (c.name ++ ".__init__") [v] []
    return .object c values
  | _ => .error (.type (c.name ++ "() takes no arguments"))

/-- a value cast to the type of another; the cast to the type of types asks for the type itself -/
def castLike (current v : Value) : Except Error Value :=
  match current with
  | .null => .error (.takesNothing "NoneType")
  | .ellipsis => .error (.takesNothing "EllipsisType")
  | .routine _ => .error (.type "function() missing required argument 'globals' (pos 2)")
  | .method .. => .error (.type "method expected 2 arguments, got 1")
  | .module .. =>
    match v with
    | .text name => .ok (.module name none [])
    | v => .error (.type ("module() argument 'name' must be str, not " ++ v.argumentName))
  | .kind _ | .class _ => .ok v.typeOf
  | .object c _ => c.ofValue v
  | w =>
    match w.typeOf with
    | .kind k => k.cast v
    | _ => .error (.type ("cannot create '" ++ w.kindName ++ "' instances"))

/-- the entries with every value cast to the type of the current one under its key -/
def castAllLike (current : String → Except Error Value) :
    List (Value × Value) → Except Error (List (Value × Value))
  | [] => .ok []
  | (k, v) :: es => do
    let c ← match k with
      | .text s => current s
      | k => throw (.type ("attribute name must be string, not '" ++ k.kindName ++ "'"))
    let w ← castLike c v
    let rest ← castAllLike current es
    return (k, w) :: rest

/-- the value under a name of a record without a type of its own -/
def recordField (fields : List (String × Value)) (name : String) : Except Error Value :=
  match fields.lookup name with
  | some v => .ok v
  | none => .error (.noAttribute "types.SimpleNamespace" name)

end CommandLine
