import CommandLine.Error
import CommandLine.Value.Equal

/-!
# Elements, length, truth and text

What a value yields when it is walked through, how long it is, whether it counts as true, and the
texts it is turned into.
-/

namespace CommandLine.Value

/-- the elements of a value, if it can be walked through: the characters of a text, the numbers of
a byte string, the keys of a dictionary -/
def elements? : Value → Option (List Value)
  | text s => some (s.toList.map fun c => text (String.singleton c))
  | bytes b | byteArray b => some (b.map fun x => int x.toNat)
  | list xs | tuple xs | set xs | frozenSet xs | generator xs => some xs
  | dict es => some (es.map (·.1))
  | _ => none

def elements (v : Value) : Except Error (List Value) :=
  match v.elements? with
  | some xs => .ok xs
  | none => .error (.notIterable v.kindName)

def length? : Value → Option Nat
  | text s => some s.length
  | bytes b | byteArray b => some b.length
  | list xs | tuple xs | set xs | frozenSet xs => some xs.length
  | dict es => some es.length
  | object c _ => c.length?
  | _ => none

/-- does the value count as true?  Zeros and what is empty do not. -/
def isTrue : Value → Bool
  | null => false
  | bool b => b
  | int i => i ≠ 0
  | float x => !(x == 0)
  | complex a b => !(a == 0 && b == 0)
  | v => match v.length? with
    | some n => n ≠ 0
    | none => true

def checkWritable (v : Value) : Except Error Unit :=
  if v.isWritable then .ok () else .error .intTooLongToWrite

/-- the text of a value for people, if it can be written -/
def writePlain (v : Value) : Except Error String := v.checkWritable.map fun _ => v.plain

def writeShown (v : Value) : Except Error String := v.checkWritable.map fun _ => v.shown

end CommandLine.Value
