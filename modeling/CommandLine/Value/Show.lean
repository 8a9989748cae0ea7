import CommandLine.Value.Kind
import CommandLine.Number.Text
import CommandLine.Text.Quoted

/-!
# Values as text

`Value.shown` is the written form of a value, from which plain data can be read back;
`Value.plain` is its text for people, where a text stands for itself.  A value is written only if
`Value.isWritable`: no whole number in its text has too many digits.
-/

namespace CommandLine

/-- text in brackets, with a comma behind a single element of a tuple -/
def tupleText : List String → String
  | [x] => "(" ++ x ++ ",)"
  | xs => "(" ++ Text.joinWith ", " xs ++ ")"

def bracketed (l r : String) (xs : List String) : String := l ++ Text.joinWith ", " xs ++ r

def Class.instanceText (c : Class) : String :=
  match c.shown? with
  | some s => s
  | none => "<" ++ c.fullName ++ " object at 0x>"

mutual

/-- the written form of a value -/
def Value.shown : Value → String
  | .null => "None"
  | .bool true => "True"
  | .bool false => "False"
  | .int i => Number.intText i
  | .float x => Number.floatText .value x
  | .complex re im => Number.complexText re im
  | .text s => Text.quoted s
  | .bytes b => Text.quotedBytes b
  | .byteArray b => "bytearray(" ++ Text.quotedBytes b ++ ")"
  | .list xs => bracketed "[" "]" (Value.shownAll xs)
  | .tuple xs => tupleText (Value.shownAll xs)
  | .set [] => "set()"
  | .set (x :: xs) => bracketed "\x7b" "\x7d" (x.shown :: Value.shownAll xs)
  | .frozenSet [] => "frozenset()"
  | .frozenSet (x :: xs) => bracketed "frozenset(\x7b" "\x7d)" (x.shown :: Value.shownAll xs)
  | .dict es => bracketed "\x7b" "\x7d" (Value.shownEntries es)
  | .ellipsis => "Ellipsis"
  | .path p => p.kind.name ++ "(" ++ Text.quoted p.slashText ++ ")"
  | .kind k => "<class '" ++ k.fullName ++ "'>"
  | .generator _ => "<generator object at 0x>"
  | .builtin b => "<built-in function " ++ b.name ++ ">"
  | .builtinMethod .operator r name =>
    "<method-wrapper '" ++ name ++ "' of " ++ r.kindName ++ " object at 0x>"
  | .builtinMethod .ofKind _ name => "<built-in method " ++ name ++ " of type object at 0x>"
  | .builtinMethod .ofValue r name =>
    "<built-in method " ++ name ++ " of " ++ r.kindName ++ " object at 0x>"
  | .routine r => "<function " ++ r.name ++ " at 0x>"
  | .method v r => "<bound method " ++ r.name ++ " of " ++ v.shown ++ ">"
  | .class c => "<class '" ++ c.fullName ++ "'>"
  | .object c _ => c.instanceText
  | .module name .. => "<module '" ++ name ++ "'>"

def Value.shownAll : List Value → List String
  | [] => []
  | x :: xs => x.shown :: Value.shownAll xs

def Value.shownEntries : List (Value × Value) → List String
  | [] => []
  | e :: es => Value.shownEntry e :: Value.shownEntries es

def Value.shownEntry : Value × Value → String
  | (k, v) => k.shown ++ ": " ++ v.shown

end

mutual

/-- has no whole number in the text of a value too many digits? -/
def Value.isWritable : Value → Bool
  | .int i => Number.isWritable i
  | .list xs | .tuple xs | .set xs | .frozenSet xs => Value.allWritable xs
  | .dict es => Value.entriesWritable es
  | .method v _ => v.isWritable
  | _ => true

def Value.allWritable : List Value → Bool
  | [] => true
  | x :: xs => x.isWritable && Value.allWritable xs

def Value.entriesWritable : List (Value × Value) → Bool
  | [] => true
  | e :: es => Value.entryWritable e && Value.entriesWritable es

def Value.entryWritable : Value × Value → Bool
  | (k, v) => k.isWritable && v.isWritable

end

/-- the text of a value for people -/
def Value.plain : Value → String
  | .text s => s
  | .path p => p.text
  | v => v.shown

end CommandLine
