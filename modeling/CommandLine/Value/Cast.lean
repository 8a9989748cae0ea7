import CommandLine.Number.Parse
import CommandLine.Text.Basic
import CommandLine.Value.Iterate
import CommandLine.Value.Slots

/-!
# Casts

Turning a value into one of a declared type.  Every cast names the reason for which it fails.

A field declared as a list, a tuple or a set takes a single value as its only element: a text is
never taken apart into its characters (`Value.wrapped`).
-/

namespace CommandLine

/-- the digits of a written form that a message shows at most -/
def shortened (s : String) : String := Text.takeChars 200 s

/-- bytes read as ASCII characters; the others are no part of a number -/
def charsOfBytes (b : List UInt8) : String :=
  String.ofList (b.map fun x => if x < 0x80 then Char.ofNat x.toNat else '\ufffd')

/-- a whole number from a text; `shown` stands for the text in messages -/
def intOfText (shown s : String) : Except Error Int :=
  match Number.parseInt s with
  | .ok i => .ok i
  | .error .malformed => .error (.badInt (shortened shown))
  | .error (.tooLong n) => .error (.intTextTooLong n)

def castInt : Value → Except Error Value
  | .bool b => .ok (.int (if b then 1 else 0))
  | .int i => .ok (.int i)
  | .float x =>
    match Number.Binary.of x with
    | .notANumber => .error .intOfNan
    | .infinite _ => .error .intOfInfinity
    | b => .ok (.int (b.truncate?.getD 0))
  | .text s => (intOfText (Text.quoted s) s).map .int
  | .bytes b => (intOfText (Text.quotedBytes b) (charsOfBytes b)).map .int
  | .byteArray b => (intOfText (Text.quotedBytes b) (charsOfBytes b)).map .int
  | v => .error (.notInt v.kindName)

def floatOfInt (i : Int) : Except Error Float :=
  match Number.ofInt? i with
  | some x => .ok x
  | none => .error .intTooLarge

def floatOfText (shown s : String) : Except Error Value :=
  match Number.parseFloat? s with
  | some x => .ok (.float x)
  | none => .error (.badFloat (shortened shown))

def castFloat : Value → Except Error Value
  | .bool b => .ok (.float (if b then 1.0 else 0.0))
  | .int i => (floatOfInt i).map .float
  | .float x => .ok (.float x)
  | .text s => floatOfText (Text.quoted s) s
  | .bytes b => floatOfText (Text.quotedBytes b) (charsOfBytes b)
  | .byteArray b => floatOfText (Value.byteArray b).shown (charsOfBytes b)
  | v => .error (.notFloat v.kindName)

def castComplex : Value → Except Error Value
  | .bool b => .ok (.complex (if b then 1.0 else 0.0) 0.0)
  | .int i => (floatOfInt i).map fun x => .complex x 0.0
  | .float x => .ok (.complex x 0.0)
  | .complex a b => .ok (.complex a b)
  | .text s =>
    match Number.parseComplex? s with
    | some (a, b) => .ok (.complex a b)
    | none =>
      if Number.hasStrayUnderscore s then .error (.strayUnderscore (Text.quoted s))
      else .error .badComplex
  | v => .error (.notComplex v.kindName)

/-- the first element that cannot be a key is an error -/
def checkKeys : List Value → Except Error Unit
  | [] => .ok ()
  | x :: xs =>
    match x.unhashable? with
    | some k => .error (.unhashable k)
    | none => checkKeys xs

/-- the entry that an element of a sequence of pairs stands for -/
def entryOf (index : Nat) (v : Value) : Except Error (Value × Value) :=
  match v.elements? with
  | none => .error (.updateElementKind index)
  | some [k, w] =>
    match k.unhashable? with
    | some kind => .error (.unhashable kind)
    | none => .ok (k, w)
  | some xs => .error (.updateElementLength index xs.length)

def entriesOf : Nat → List (Value × Value) → List Value → Except Error (List (Value × Value))
  | _, acc, [] => .ok acc
  | i, acc, x :: xs => do
    let (k, v) ← entryOf i x
    entriesOf (i + 1) (Value.put k v acc) xs

def castDict : Value → Except Error Value
  | .dict es => .ok (.dict es)
  | v => do
    let xs ← v.elements
    let es ← entriesOf 0 [] xs
    return .dict es

/-- the bytes that a list of numbers stands for -/
def bytesOf (outOfRange : Error) : List Value → Except Error (List UInt8)
  | [] => .ok []
  | x :: xs =>
    match x.asNumber with
    | .int i =>
      if 0 ≤ i ∧ i < 256 then (bytesOf outOfRange xs).map (i.toNat.toUInt8 :: ·)
      else .error outOfRange
    | v => .error (.notAnInteger v.kindName)

/-- the bytes of a value: a number gives that many zeros -/
def castToBytes (outOfRange notBytes : Error) (v : Value) : Except Error (List UInt8) :=
  match v.asNumber with
  | .text _ => .error .noEncoding
  | .bytes b | .byteArray b => .ok b
  | .int i =>
    if i < -Int.ofNat (Nat.pow 2 63) ∨ Int.ofNat (Nat.pow 2 63) ≤ i then .error .sequenceIndexTooLarge
    else if i < 0 then .error .negativeCount
    else .ok (List.replicate i.toNat 0)
  | v =>
    match v.elements? with
    | some xs => bytesOf outOfRange xs
    | none => .error notBytes

def castBytes : Value → Except Error Value
  | .path p => .ok (.bytes p.text.toUTF8.toList)
  | v => (castToBytes .byteRange (.notBytes v.kindName) v).map .bytes

def castByteArray (v : Value) : Except Error Value :=
  (castToBytes .byteArrayRange
    (.type ("cannot convert '" ++ v.kindName ++ "' object to bytearray")) v).map .byteArray

/-- a path of another kind is read anew from its parts, and so is every drive path; reading does not
change a slash path -/
def castPath (k : PathKind) : Value → Except Error Value
  | .path p => .ok (.path (if p.kind = k ∧ k ≠ .pureWindows then p else Path.ofParts k p.parts))
  | .text s => .ok (.path (Path.ofText k s))
  | .bytes _ => .error (.notAPurePath "<class 'bytes'>")
  | v => .error (.notAPath v.kindName)

/-- the value as one of the type -/
def Kind.cast (k : Kind) (v : Value) : Except Error Value :=
  match k with
  | .int => castInt v
  | .text => v.writePlain.map .text
  | .float => castFloat v
  | .bool => .ok (.bool v.isTrue)
  | .list => v.elements.map .list
  | .tuple => v.elements.map .tuple
  | .set => do
    let xs ← v.elements
    checkKeys xs
    return .set (v.orderFrom xs)
  | .frozenSet =>
    match v with
    | .frozenSet xs => .ok (.frozenSet xs)
    | v => do
      let xs ← v.elements
      checkKeys xs
      return .frozenSet (v.orderFrom xs)
  | .dict => castDict v
  | .bytes => castBytes v
  | .byteArray => castByteArray v
  | .complex => castComplex v
  | .path k => castPath k v

/-- the value of the type that needs nothing given -/
def Kind.empty : Kind → Value
  | .int => .int 0
  | .text => .text ""
  | .float => .float 0.0
  | .bool => .bool false
  | .list => .list []
  | .tuple => .tuple []
  | .set => .set []
  | .frozenSet => .frozenSet []
  | .dict => .dict []
  | .bytes => .bytes []
  | .byteArray => .byteArray []
  | .complex => .complex 0.0 0.0
  | .path k => .path (Path.ofParts k [])

/-! ## single values for containers -/

/-- the types whose values hold elements one by one -/
def Kind.isContainer : Kind → Bool
  | .tuple | .list | .set => true
  | _ => false

/-- does a value hold elements, or is it such a type? -/
def Value.isContainer : Value → Bool
  | .tuple _ | .list _ | .set _ => true
  | .kind k => k.isContainer
  | _ => false

/-- is the value taken as the only element of a container? -/
def Value.isWrapped (v : Value) (k : Kind) : Bool := !v.isContainer && k.isContainer

/-- the value, or the list of it alone if the type asks for a container -/
def Value.wrapped (v : Value) (k : Kind) : Value := if v.isWrapped k then .list [v] else v

end CommandLine
