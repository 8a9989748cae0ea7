import CommandLine.Value.Kind
import CommandLine.Number.Binary

/-!
# Equality of values

Numbers are equal by value, whatever their kind (`True`, `1` and `1.0` are one key); containers are
equal by their elements, sets and dictionaries regardless of order.  Routines, classes and objects
equal nothing but themselves, and two values given apart are never the same one.

Sets and dictionaries are built with `insert` and `put`, so that equal elements or keys appear once.
-/

namespace CommandLine

/-! ## numbers -/

def eqNumber : Value → Value → Bool
  | .int i, .int j => i = j
  | .int i, .float x => (Number.Binary.of x).eqInt i
  | .float x, .int i => (Number.Binary.of x).eqInt i
  | .float x, .float y => x == y
  | .complex a b, .complex c d => a == c && b == d
  | .complex a b, .int i => b == 0 && (Number.Binary.of a).eqInt i
  | .int i, .complex a b => b == 0 && (Number.Binary.of a).eqInt i
  | .complex a b, .float x => b == 0 && a == x
  | .float x, .complex a b => b == 0 && a == x
  | _, _ => false

/-- a truth value counts as a number -/
def Value.asNumber : Value → Value
  | .bool b => .int (if b then 1 else 0)
  | v => v

/-! ## all values -/

mutual

def Value.eqv : Value → Value → Bool
  | .null, .null => true
  | .ellipsis, .ellipsis => true
  | .text s, .text t => s = t
  | .bytes b, .bytes c => b == c
  | .bytes b, .byteArray c => b == c
  | .byteArray b, .bytes c => b == c
  | .byteArray b, .byteArray c => b == c
  | .list xs, .list ys => Value.eqvAll xs ys
  | .tuple xs, .tuple ys => Value.eqvAll xs ys
  | .set xs, .set ys => xs.length = ys.length && Value.within xs ys
  | .set xs, .frozenSet ys => xs.length = ys.length && Value.within xs ys
  | .frozenSet xs, .set ys => xs.length = ys.length && Value.within xs ys
  | .frozenSet xs, .frozenSet ys => xs.length = ys.length && Value.within xs ys
  | .dict es, .dict fs => es.length = fs.length && Value.entriesWithin es fs
  | .path p, .path q => p.same q
  | .kind k, .kind l => k = l
  | .builtin b, .builtin c => b = c
  | .bool a, w => eqNumber (Value.bool a).asNumber w.asNumber
  | .int i, w => eqNumber (.int i) w.asNumber
  | .float x, w => eqNumber (.float x) w.asNumber
  | .complex a b, w => eqNumber (.complex a b) w.asNumber
  | _, _ => false

def Value.eqvAll : List Value → List Value → Bool
  | [], [] => true
  | x :: xs, y :: ys => x.eqv y && Value.eqvAll xs ys
  | _, _ => false

/-- is every one of the values equal to one of `ys`? -/
def Value.within : List Value → List Value → Bool
  | [], _ => true
  | x :: xs, ys => ys.any (fun y => x.eqv y) && Value.within xs ys

def Value.entriesWithin : List (Value × Value) → List (Value × Value) → Bool
  | [], _ => true
  | e :: es, fs => fs.any (fun f => Value.entryEqv e f) && Value.entriesWithin es fs

def Value.entryEqv : Value × Value → Value × Value → Bool
  | (k, v), (l, w) => k.eqv l && v.eqv w

end

/-! ## keys -/

mutual

/-- the kind name of the part that keeps a value from being a key, if there is one -/
def Value.unhashable? : Value → Option String
  | .list _ => some "list"
  | .dict _ => some "dict"
  | .set _ => some "set"
  | .byteArray _ => some "bytearray"
  | .tuple xs => Value.unhashableIn xs
  | _ => none

def Value.unhashableIn : List Value → Option String
  | [] => none
  | x :: xs => match x.unhashable? with
    | some k => some k
    | none => Value.unhashableIn xs

end

def Value.insert (v : Value) (xs : List Value) : List Value :=
  if xs.any (·.eqv v) then xs else xs ++ [v]

/-- sets a key of a dictionary: an equal key keeps its place and takes the new value -/
def Value.put (k v : Value) : List (Value × Value) → List (Value × Value)
  | [] => [(k, v)]
  | (l, w) :: es => if l.eqv k then (l, v) :: es else (l, w) :: Value.put k v es

def Value.lookup (k : Value) (es : List (Value × Value)) : Option Value :=
  (es.find? fun e => e.1.eqv k).map (·.2)

def Value.distinct (xs : List Value) : List Value := xs.foldl (fun acc x => Value.insert x acc) []

def Value.putAll (acc es : List (Value × Value)) : List (Value × Value) :=
  es.foldl (fun acc e => Value.put e.1 e.2 acc) acc

/-! ## records: dictionaries under plain names -/

def putName {α : Type} (k : String) (v : α) : List (String × α) → List (String × α)
  | [] => [(k, v)]
  | (l, w) :: es => if l = k then (l, v) :: es else (l, w) :: putName k v es

end CommandLine
