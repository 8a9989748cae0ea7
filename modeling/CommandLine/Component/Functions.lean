import CommandLine.Component.Members
import CommandLine.Number.Division
import CommandLine.Value.Order

/-!
# Built-in functions

What the functions that come with every program give for their arguments.
-/

namespace CommandLine

def expectedArguments (name count : String) (given : Nat) : Error :=
  .type (name ++ " expected " ++ count ++ ", got " ++ Number.natText given)

/-- whole quotient and remainder of integers; the remainder takes the divisor's sign -/
def divModInt (i j : Int) : Except Error Value :=
  if j = 0 then .error (.raised .zeroDivision "integer division or modulo by zero")
  else .ok (.tuple [.int (Int.fdiv i j), .int (Int.fmod i j)])

def divModFloat (x y : Float) : Except Error Value :=
  if y == 0.0 then .error (.raised .zeroDivision "float divmod()")
  else
    let (q, r) := Number.divMod x y
    .ok (.tuple [.float q, .float r])

def intAsFloat (i : Int) : Except Error Float :=
  match Number.ofInt? i with
  | some x => .ok x
  | none => .error .intTooLarge

def divModValue (v w : Value) : Except Error Value :=
  match v.asNumber, w.asNumber with
  | .int i, .int j => divModInt i j
  | .float x, .float y => divModFloat x y
  | .int i, .float y => do divModFloat (← intAsFloat i) y
  | .float x, .int j => do divModFloat x (← intAsFloat j)
  | _, _ =>
    .error (.type ("unsupported operand type(s) for divmod(): '" ++ v.kindName ++ "' and '" ++
      w.kindName ++ "'"))

/-- a key is a function of the values; a command line can give none, so only its absence is right -/
def checkKey (named : List (String × Value)) : Except Error Unit :=
  match named.lookup "key" with
  | none | some .null => .ok ()
  | some k => .error (.notCallable k.kindName)

/-- the greatest or the least of the arguments, or of the elements of a single one -/
def extremeOf (name : String) (beats : Value → Value → Except Error Bool)
    (positional : List Value) (named : List (String × Value)) : Except Error Value := do
  if positional.isEmpty then throw (expectedArguments name "at least 1 argument" 0)
  if 2 < named.length then
    throw (.type (name ++ "() takes at most 2 keyword arguments (" ++
      Number.natText named.length ++ " given)"))
  match named.find? fun p => p.1 ≠ "key" && p.1 ≠ "default" with
  | some p => throw (.type ("'" ++ p.1 ++ "' is an invalid keyword argument for " ++ name ++ "()"))
  | none => pure ()
  let single := positional.length = 1
  if !single && (named.lookup "default").isSome then
    throw (.type ("Cannot specify a default for " ++ name ++
      "() with multiple positional arguments"))
  let items ← match positional with
    | [v] => v.elements
    | vs => pure vs
  match items with
  | x :: xs => do
    checkKey named
    Value.extreme beats x xs
  | [] =>
    match named.lookup "default" with
    | some d => return d
    | none => throw (.value (name ++ "() arg is an empty sequence"))

/-- the elements in order, from the greatest on if `reverse` is given -/
def sortedElements (v : Value) (named : List (String × Value)) : Except Error Value := do
  let xs ← v.elements
  let reversed ← match ((named.lookup "reverse").getD (.bool false)).asNumber with
    | .int i =>
      if -Int.ofNat (Nat.pow 2 31) ≤ i ∧ i < Int.ofNat (Nat.pow 2 31) then pure (i != 0)
      else throw (.raised .overflow "Python int too large to convert to C int")
    | r => throw (.notAnInteger r.kindName)
  if !xs.isEmpty then checkKey named
  let sorted ← Value.sorted (if reversed then xs.reverse else xs)
  return .list (if reversed then sorted.reverse else sorted)

mutual

/-- a class to test against: a command line can give none, but tuples of them may be empty -/
def noInstance : Value → Except Error Value
  | .tuple vs => noInstances vs
  | _ => .error (.type "isinstance() arg 2 must be a type, a tuple of types, or a union")

def noInstances : List Value → Except Error Value
  | [] => .ok (.bool false)
  | v :: vs => do
    let _ ← noInstance v
    noInstances vs

end

/-- the member of a value under a name, or a value given for the case that there is none -/
def memberOf (arguments : List Value) : Except Error Value :=
  match arguments with
  | [v, .text name] => v.attribute name
  | [v, .text name, d] => .ok ((v.attribute? name).getD d)
  | [_, name] | [_, name, _] =>
    .error (.type ("attribute name must be string, not '" ++ name.kindName ++ "'"))
  | vs =>
    let count := if vs.length < 2 then "at least 2 arguments" else "at most 3 arguments"
    .error (expectedArguments "getattr" count vs.length)

def Builtin.call (b : Builtin) (positional : List Value) (named : List (String × Value)) :
    Except Error Value :=
  match b, positional with
  | .len, [v] =>
    match v.length? with
    | some n => .ok (.int n)
    | none => .error (.noLength v.kindName)
  | .abs, [v] =>
    match v.asNumber with
    | .int i => .ok (.int i.natAbs)
    | .float x => .ok (.float x.abs)
    | .complex a c => .ok (.float (Float.sqrt (a * a + c * c)))
    | v => .error (.badOperand "abs()" v.kindName)
  | .max, vs => extremeOf "max" Value.isGreater vs named
  | .min, vs => extremeOf "min" Value.isLess vs named
  | .sorted, [v] => sortedElements v named
  | .divMod, [v, w] => divModValue v w
  | .isInstance, [_, v] => noInstance v
  | .member, vs =>
    if named.isEmpty then memberOf vs else .error (.type "getattr() takes no keyword arguments")
  | b, vs =>
    .error (.type (b.name ++ "() takes exactly one argument (" ++ Number.natText vs.length ++
      " given)"))

end CommandLine
