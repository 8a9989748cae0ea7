import CommandLine.Value.Show

/-!
# Values as data text

The text of a value in the data notation of curly braces, square brackets and double quotes.  Only
plain data has one: texts, numbers, truth values, nothing, lists, tuples and dictionaries; keys that
are numbers, truth values or nothing are written as texts.
-/

namespace CommandLine

def jsonChar (c : Char) : List Char :=
  match c with
  | '"' => ['\\', '"']
  | '\\' => ['\\', '\\']
  | '\n' => ['\\', 'n']
  | '\r' => ['\\', 'r']
  | '\t' => ['\\', 't']
  | '\x0c' => ['\\', 'f']
  | '\x08' => ['\\', 'b']
  | c => if c.toNat < 0x20 then '\\' :: 'u' :: Text.hexPadded 4 c.toNat else [c]

def jsonText (s : String) : String :=
  String.ofList ('"' :: s.toList.flatMap jsonChar ++ ['"'])

def Value.jsonKey? : Value → Option String
  | .text s => some s
  | .int i => some (Number.intText i)
  | .float x => some (Number.floatText .data x)
  | .bool b => some (if b then "true" else "false")
  | .null => some "null"
  | _ => none

mutual

def Value.json? : Value → Option String
  | .null => some "null"
  | .bool b => some (if b then "true" else "false")
  | .int i => some (Number.intText i)
  | .float x => some (Number.floatText .data x)
  | .text s => some (jsonText s)
  | .list xs => (Value.jsonAll? xs).map (bracketed "[" "]")
  | .tuple xs => (Value.jsonAll? xs).map (bracketed "[" "]")
  | .dict es => (Value.jsonEntries? es).map (bracketed "\x7b" "\x7d")
  | _ => none

def Value.jsonAll? : List Value → Option (List String)
  | [] => some []
  | x :: xs => do
    let t ← x.json?
    let ts ← Value.jsonAll? xs
    return t :: ts

def Value.jsonEntries? : List (Value × Value) → Option (List String)
  | [] => some []
  | e :: es => do
    let t ← Value.jsonEntry? e
    let ts ← Value.jsonEntries? es
    return t :: ts

def Value.jsonEntry? : Value × Value → Option String
  | (k, v) => do
    let k ← k.jsonKey?
    let v ← v.json?
    return jsonText k ++ ": " ++ v

end

end CommandLine
