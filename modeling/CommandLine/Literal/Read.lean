import CommandLine.Error
import CommandLine.Literal.Source
import CommandLine.Literal.Template
import CommandLine.Value.Slots

/-!
# Reading an argument as a literal

An argument that spells a literal stands for its value; any other argument stands for its own text.
Bare words inside a literal are texts, so `[one, 2]` is a list of a text and a number.  A whole
argument that is a sum or another binary operation is never a literal: `1+1` stays text.

Elements of sets and keys of dictionaries have to be fit as keys.  They are tested in the order of
reading, each before the next one is evaluated, so a list as a key is an error only if nothing
before it was already refused.
-/

namespace CommandLine.Literal

/-- why an expression gives no value -/
inductive Refusal where
  /-- it is no literal -/
  | malformed
  /-- an element or key of this kind cannot be one -/
  | unhashable (kindName : String)
  /-- a whole number is too large to be added to a complex one -/
  | tooLarge

/-! ## numbers -/

def Expr.number? : Expr → Option Value
  | .constant (.int i) => some (.int i)
  | .constant (.float x) => some (.float x)
  | .constant (.complex a b) => some (.complex a b)
  | _ => none

def negateNumber : Value → Value
  | .int i => .int (-i)
  | .float x => .float (-x)
  | .complex a b => .complex (-a) (-b)
  | v => v

def Expr.signedNumber? : Expr → Option Value
  | .signed negative e => e.number?.map fun v => if negative then negateNumber v else v
  | e => e.number?

/-- a real number and a complex one, added or subtracted -/
def addComplex (minus : Bool) (l : Float) (re im : Float) : Value :=
  if minus then .complex (l - re) (0.0 - im) else .complex (l + re) (0.0 + im)

def sumValue (minus : Bool) (l r : Option Value) : Except Refusal Value :=
  match l, r with
  | some (.int i), some (.complex re im) =>
    match Number.ofInt? i with
    | some x => .ok (addComplex minus x re im)
    | none => .error .tooLarge
  | some (.float x), some (.complex re im) => .ok (addComplex minus x re im)
  | _, _ => .error .malformed

/-! ## evaluation -/

/-- refuses a value that cannot be a key -/
def asKey (v : Value) : Except Refusal Value :=
  match v.unhashable? with
  | some k => .error (.unhashable k)
  | none => .ok v

mutual

def Expr.value : Expr → Except Refusal Value
  | .constant v => .ok v
  | .word s => .ok (.text s)
  | .tuple es => (Expr.values es).map .tuple
  | .list es => (Expr.values es).map .list
  | .set es => (Expr.elements [] es).map fun xs => .set (slotOrder xs)
  | .dict es => (Expr.entries [] es).map .dict
  | .signed negative e =>
    match (Expr.signed negative e).signedNumber? with
    | some v => .ok v
    | none => .error .malformed
  | .sum minus l r => sumValue minus l.signedNumber? r.number?
  | .operation => .error .malformed
  | .compound => .error .malformed

def Expr.values : List Expr → Except Refusal (List Value)
  | [] => .ok []
  | e :: es => do
    let v ← e.value
    let vs ← Expr.values es
    return v :: vs

def Expr.elements : List Value → List Expr → Except Refusal (List Value)
  | acc, [] => .ok acc
  | acc, e :: es => do
    let v ← e.value
    let v ← asKey v
    Expr.elements (Value.insert v acc) es

def Expr.entries : List (Value × Value) → List (Expr × Expr) → Except Refusal (List (Value × Value))
  | acc, [] => .ok acc
  | acc, e :: es => do
    let (k, v) ← Expr.entry e
    let k ← asKey k
    Expr.entries (Value.put k v acc) es

def Expr.entry : Expr × Expr → Except Refusal (Value × Value)
  | (k, v) => do
    let k ← k.value
    let v ← v.value
    return (k, v)

end

/-! ## the reader -/

/-- a binary operation as a whole argument is no literal -/
def Expr.isOperation : Expr → Bool
  | .sum .. | .operation => true
  | _ => false

def valueOf (cs : List Char) : Except Refusal Value :=
  match parse? cs with
  | none => .error .malformed
  | some e => if e.isOperation then .error .malformed else e.value

/-- the value that `given`, with the characters `cs`, stands for -/
def readChars (given : Value) (cs : List Char) : Except Error Value :=
  match valueOf cs with
  | .ok v => .ok v
  | .error .malformed => .ok given
  | .error (.unhashable k) => .error (.unhashable k)
  | .error .tooLarge => .error .intTooLarge

/-- the value that an argument stands for; a zero character is refused even in a comment -/
def readText (s : String) : Except Error Value :=
  if s.toList.contains '\x00' then .ok (.text s) else readChars (.text s) s.toList

def readBytes (given : Value) (bs : List UInt8) : Except Error Value :=
  match sourceChars? bs with
  | some cs => readChars given cs
  | none => .ok given

def read : Value → Except Error Value
  | .text s => readText s
  | .bytes bs => readBytes (.bytes bs) bs
  | .byteArray bs => readBytes (.byteArray bs) bs
  | _ => .error .noSource

/-- what a bare word is replaced by: nothing for the words that are constants -/
def wordValue? (s : String) : Option String :=
  if s = "True" ∨ s = "False" ∨ s = "None" then none else some s

end CommandLine.Literal
