import CommandLine.Error
import CommandLine.Value.Equal
import CommandLine.Value.Iterate

/-!
# The order of values

Numbers and texts have an order, and so have lists and tuples of such; a set is less than one that
holds it and more.  `sorted` and `extreme` stop at the first two values that have no order, so they
fix which values they compare, and in which order.
-/

namespace CommandLine
namespace Value

/-- is each of the first values among the second ones, and one of the second not among the first? -/
def properlyIn (xs ys : List Value) : Bool :=
  xs.length < ys.length && xs.all fun x => ys.any x.eqv

def less : Nat → Value → Value → Except Error Bool
  | 0, _, _ => .ok false
  | n + 1, a, b =>
    match a.asNumber, b.asNumber with
    | .int i, .int j => .ok (i < j)
    | .int i, .float x => .ok ((Number.Binary.of x).gtInt i)
    | .float x, .int i => .ok ((Number.Binary.of x).ltInt i)
    | .float x, .float y => .ok (x < y)
    | .text s, .text t => .ok (s < t)
    | .bytes s, .bytes t | .bytes s, .byteArray t | .byteArray s, .bytes t
    | .byteArray s, .byteArray t => .ok (s.map (·.toNat) < t.map (·.toNat))
    | .list xs, .list ys | .tuple xs, .tuple ys =>
      match (xs.zip ys).find? fun p => !(p.1.eqv p.2) with
      | some (x, y) => x.less n y
      | none => .ok (xs.length < ys.length)
    | .set xs, .set ys | .set xs, .frozenSet ys | .frozenSet xs, .set ys
    | .frozenSet xs, .frozenSet ys => .ok (properlyIn xs ys)
    | _, _ => .error (.compared "<" a.kindName b.kindName)

/-- how deep values are compared -/
def compareDepth : Nat := 1000

def isLess (a b : Value) : Except Error Bool := a.less compareDepth b

def isGreater (a b : Value) : Except Error Bool :=
  match b.less compareDepth a with
  | .error (.compared _ l r) => .error (.compared ">" r l)
  | r => r

/-- the first value that no other beats -/
def extreme (beats : Value → Value → Except Error Bool) : Value → List Value → Except Error Value
  | best, [] => .ok best
  | best, v :: vs => do
    if ← beats v best then extreme beats v vs else extreme beats best vs

/-! ## sorting -/

/-- the values that go on as a run does, each less than the one before or none so; and the rest -/
def takeRun (down : Bool) : Value → List Value → Except Error (List Value × List Value)
  | _, [] => .ok ([], [])
  | last, v :: vs => do
    if (← v.isLess last) = down then
      let (run, rest) ← takeRun down v vs
      return (v :: run, rest)
    else return ([], v :: vs)

/-- where a value goes among sorted ones, behind those it is not less than: the range from `lo` to
`hi` is halved until it is empty -/
def placeIn (sorted : List Value) (v : Value) : Nat → Nat → Nat → Except Error Nat
  | 0, lo, _ => .ok lo
  | n + 1, lo, hi =>
    if lo < hi then do
      let middle := lo + (hi - lo) / 2
      match sorted[middle]? with
      | none => return lo
      | some x =>
        if ← v.isLess x then placeIn sorted v n lo middle else placeIn sorted v n (middle + 1) hi
    else .ok lo

def insertAll : List Value → List Value → Except Error (List Value)
  | sorted, [] => .ok sorted
  | sorted, v :: vs => do
    let i ← placeIn sorted v (sorted.length + 1) 0 sorted.length
    insertAll (sorted.take i ++ v :: sorted.drop i) vs

/-- the values in order, equal ones as they came: the first run is taken as it is, turned round if
it goes down -/
def sorted : List Value → Except Error (List Value)
  | x :: y :: rest => do
    let down ← y.isLess x
    let (run, rest) ← takeRun down y rest
    insertAll (if down then (x :: y :: run).reverse else x :: y :: run) rest
  | xs => .ok xs

end Value
end CommandLine
