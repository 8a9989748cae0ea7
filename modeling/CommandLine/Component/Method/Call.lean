import CommandLine.Component.Functions
import CommandLine.Component.Method.Table
import CommandLine.Text.Search
import CommandLine.Value.Cast

/-!
# Calling the methods of the built-in types

A method that shows its parameters is never called with the right number of arguments, and its limit
words the refusal.  The methods that are open to anything are those of texts that search and
format, those of integers that round, and those of sets; a method that changes a set gives nothing.
-/

namespace CommandLine

def argumentCount (n : Nat) : String :=
  Number.natText n ++ (if n = 1 then " argument" else " arguments")

def Limit.message (limit : Limit) (kindName name : String) (given named : Nat) : String :=
  let got := ", got " ++ Number.natText given
  let count := " (" ++ Number.natText given ++ " given)"
  match limit with
  | .none | .free => kindName ++ "." ++ name ++ "() takes no arguments" ++ count
  | .one => kindName ++ "." ++ name ++ "() takes exactly one argument" ++ count
  | .most n => name ++ "() takes at most " ++ argumentCount n ++ count
  | .positional n all =>
    if all < given + named then
      name ++ "() takes at most " ++ argumentCount all ++ " (" ++
        Number.natText (given + named) ++ " given)"
    else if n = 0 then name ++ "() takes no positional arguments"
    else name ++ "() takes at most " ++ Number.natText n ++ " positional arguments" ++ count
  | .upTo n => name ++ " expected at most " ++ argumentCount n ++ got
  | .exactly n => name ++ " expected " ++ argumentCount n ++ got
  | .unnamed n => "expected " ++ argumentCount n ++ got
  | .blank n => " expected " ++ argumentCount n ++ got
  | .blankUpTo n => " expected at most " ++ argumentCount n ++ got

/-! ## texts -/

/-- a bound that a search is given -/
def searchBound : Value → Except Error (Option Int)
  | .null => .ok none
  | v => match v.asNumber with
    | .int i => .ok (some i)
    | _ => .error (.type
        "slice indices must be integers or None or have an __index__ method")

/-- what a search looks for, and the bounds of its stretch -/
def searchArguments (name : String) (args : List Value) :
    Except Error (Value × Option Int × Option Int) := do
  match args with
  | [] => throw (.type (name ++ "() takes at least 1 argument (0 given)"))
  | [v] => return (v, none, none)
  | [v, i] => return (v, ← searchBound i, none)
  | [v, i, j] =>
    let start ← searchBound i
    return (v, start, ← searchBound j)
  | vs => throw (.type (name ++ "() takes at most 3 arguments (" ++
      Number.natText vs.length ++ " given)"))

/-- does the stretch begin, or end, with the text or with one of the texts? -/
def hasEdge (name : String) (holds : String → Bool) : Value → Except Error Value
  | .text sub => .ok (.bool (holds sub))
  | .tuple vs => go vs
  | v => .error (.type (name ++ " first arg must be str or a tuple of str, not " ++ v.kindName))
where
  go : List Value → Except Error Value
    | [] => .ok (.bool false)
    | .text sub :: vs => if holds sub then .ok (.bool true) else go vs
    | v :: _ => .error (.type
        ("tuple for " ++ name ++ " must only contain str, not " ++ v.kindName))

def searchText (s name : String) (args : List Value) : Except Error Value := do
  let (v, start, stop) ← searchArguments name args
  match name, v with
  | "startswith", v => hasEdge name (fun sub => Text.stretchStarts sub s start stop) v
  | "endswith", v => hasEdge name (fun sub => Text.stretchEnds sub s start stop) v
  | "count", .text sub => return .int (Text.count sub s start stop)
  | _, .text sub =>
    let found := Text.places sub s start stop
    let place := if Text.startsWith "r" name then found.getLast? else found.head?
    match place, Text.endsWith "index" name with
    | some i, _ => return .int i
    | none, true => throw (.value "substring not found")
    | none, false => return .int (-1)
  | _, v => throw (.type ("must be str, not " ++ v.kindName))

/-- the code of a key of a table for replacing characters -/
def replacementKey : Value → Except Error Value
  | .int i => .ok (.int i)
  | .bool b => .ok (.bool b)
  | .text t => match t.toList with
    | [c] => .ok (.int c.toNat)
    | _ => .error (.value "string keys in translate table must be of length 1")
  | _ => .error (.type "keys in translate table must be strings or integers")

def tableTextError (i : Nat) (v : Value) : Error :=
  .type ("maketrans() argument " ++ Number.natText i ++ " must be str, not " ++ v.argumentName)

/-- a table that replaces the characters of one text by those of another, and drops others -/
def pairTable (v w : Value) (dropped : String) : Except Error Value :=
  match v, w with
  | .text a, .text b =>
    if a.length ≠ b.length then
      .error (.value "the first two maketrans arguments must have equal length")
    else
      let pairs := (a.toList.zip b.toList).map fun (c, d) =>
        (Value.int c.toNat, Value.int d.toNat)
      let drops := dropped.toList.map fun c => (Value.int c.toNat, Value.null)
      .ok (.dict (Value.putAll [] (pairs ++ drops)))
  | _, .text _ => .error (.type
      "first maketrans argument must be a string if there is a second argument")
  | _, w => .error (tableTextError 2 w)

/-- a table for replacing characters: from a dictionary, or from texts of one length -/
def replacementTable (args : List Value) : Except Error Value := do
  match args with
  | [] => throw (expectedArguments "maketrans" "at least 1 argument" 0)
  | [.dict es] =>
    let keyed ← es.mapM fun e => do
      let k ← replacementKey e.1
      return (k, e.2)
    return .dict (Value.putAll [] keyed)
  | [_] => throw (.type "if you give only one argument to maketrans it must be a dict")
  | [v, w] => pairTable v w ""
  | [v, .text b, .text dropped] => pairTable v (.text b) dropped
  | [_, .text _, x] => throw (tableTextError 3 x)
  | [_, w, _] => throw (tableTextError 2 w)
  | vs => throw (expectedArguments "maketrans" "at most 3 arguments" vs.length)

/-! ### filling in -/

/-- the value of a field of a pattern for texts; a pattern that is filled from a mapping has no
arguments by position -/
def fieldValue (args : Option (List Value)) (named : List (String × Value)) (next : Option Nat)
    (name : String) : Except Error (Value × Option Nat) := do
  let index := if name.isEmpty then next else name.toNat?
  match name.isEmpty, index, next with
  | true, none, _ => throw (.value
      "cannot switch from manual field specification to automatic field numbering")
  | false, some _, some (_ + 1) => throw (.value
      "cannot switch from automatic field numbering to manual field specification")
  | _, some i, _ =>
    let some args := args | throw (.value "Format string contains positional fields")
    match args[i]? with
    | some v => return (v, if name.isEmpty then some (i + 1) else none)
    | none => throw (.raised .index
        ("Replacement index " ++ Number.natText i ++ " out of range for positional args tuple"))
  | _, none, _ =>
    match named.lookup name with
    | some v => return (v, next)
    | none => throw (.missingKey (Text.quoted name))

/-- the text with its fields filled in: `next` is the number of the next field without a name, none
once fields have been numbered -/
def fillFields (args : Option (List Value)) (named : List (String × Value)) :
    Nat → Option Nat → List Char → Except Error String
  | 0, _, _ => .ok ""
  | _, _, [] => .ok ""
  | fuel + 1, next, c :: cs => do
    match c, cs with
    | '\x7b', '\x7b' :: rest => return "\x7b" ++ (← fillFields args named fuel next rest)
    | '\x7d', '\x7d' :: rest => return "\x7d" ++ (← fillFields args named fuel next rest)
    | '\x7d', _ => throw (.value "Single '\x7d' encountered in format string")
    | '\x7b', [] => throw (.value "Single '\x7b' encountered in format string")
    | '\x7b', _ =>
      match Text.cutChars '\x7d' cs with
      | none => throw (.value "expected '\x7d' before end of string")
      | some (field, rest) =>
        let (v, next) ← fieldValue args named next (String.ofList (field.takeWhile (· ≠ '!')))
        let shown ← match field.dropWhile (· ≠ '!') with
          | [] => v.writePlain
          | ['!', 's'] => v.writePlain
          | ['!', 'r'] => v.writeShown
          | _ :: x :: _ => throw (.value ("Unknown conversion specifier " ++ String.singleton x))
          | _ => throw (.value "end of string while looking for conversion specifier")
        return shown ++ (← fillFields args named fuel next rest)
    | c, rest => return String.singleton c ++ (← fillFields args named fuel next rest)

def fillText (s : String) (args : Option (List Value)) (named : List (String × Value)) :
    Except Error Value := do
  let filled ← fillFields args named (s.length + 1) (some 0) s.toList
  return .text filled

/-! ## sets -/

def keysOf (v : Value) : Except Error (List Value) := do
  let xs ← v.elements
  checkKeys xs
  return xs

/-- what stands for a value among the elements of a set: a set is sought by its elements -/
def soughtKey : Value → Except Error Value
  | .set xs => .ok (.frozenSet xs)
  | v => match v.unhashable? with
    | some k => .error (.unhashable k)
    | none => .ok v

def isAmong (xs : List Value) (v : Value) : Bool := xs.any (·.eqv v)

/-- none of the other elements is among those of the set; the first that is ends the search -/
def isDisjoint (xs : List Value) : List Value → Except Error Bool
  | [] => .ok true
  | y :: ys =>
    match y.unhashable? with
    | some k => .error (.unhashable k)
    | none => if isAmong xs y then .ok false else isDisjoint xs ys

/-- the elements of the set without, common with, or together with those of the others -/
def combineSets (name : String) : List Value → List Value → Except Error (List Value)
  | xs, [] => .ok xs
  | xs, v :: vs => do
    let ys ← keysOf v
    let zs := if Text.startsWith "difference" name then xs.filter fun x => !isAmong ys x
      else if Text.startsWith "intersection" name then
        slotOrder (Value.distinct (ys.filter (isAmong xs)))
      else slotOrder (ys.foldl (fun acc y => Value.insert y acc) xs)
    combineSets name zs vs

/-- the elements that are in one of two sets only -/
def oneSided (xs ys : List Value) : List Value :=
  slotOrder ((xs.filter fun x => !isAmong ys x) ++
    Value.distinct (ys.filter fun y => !isAmong xs y))

def setMethodOfOne? (rebuild : List Value → Value) (xs : List Value) (name : String) :
    Option (Value → Except Error Value) :=
  match name with
  | "add" => some fun v => do
    checkKeys [v]
    return .null
  | "discard" => some fun v => do
    let _ ← soughtKey v
    return .null
  | "remove" => some fun v => do
    let k ← soughtKey v
    if isAmong xs k then return .null else throw (.missingKey v.shown)
  | "__contains__" => some fun v => do
    let k ← soughtKey v
    return .bool (isAmong xs k)
  | "isdisjoint" => some fun v => do
    let ys ← v.elements
    let b ← isDisjoint xs ys
    return .bool b
  | "symmetric_difference" => some fun v => do
    let ys ← keysOf v
    return rebuild (oneSided xs ys)
  | "symmetric_difference_update" => some fun v => do
    let _ ← keysOf v
    return .null
  | _ => none

def setMethodOfNone? (rebuild : List Value → Value) (kind : Kind) (xs : List Value)
    (name : String) : Option (Except Error Value) :=
  match name with
  | "clear" => some (.ok .null)
  | "copy" => some (.ok (rebuild xs))
  | "pop" => some (match xs with
    | x :: _ => .ok x
    | [] => .error (.missingKey "'pop from an empty set'"))
  | "__reduce__" => some (.ok (.tuple [.kind kind, .tuple [.list xs], .null]))
  | _ => none

/-! ## integers -/

/-- an integer rounded to a multiple of a power of ten, a middle to the even neighbour -/
def roundInt (i : Int) (digits : Int) : Int :=
  if 0 ≤ digits then i
  else
    let unit := Int.ofNat (Nat.pow 10 (-digits).toNat)
    let q := Int.fdiv i unit
    let r := Int.fmod i unit
    let up := unit < 2 * r || (2 * r = unit && q % 2 = 1)
    (if up then q + 1 else q) * unit

def roundMethod (i : Int) (args : List Value) : Except Error Value :=
  match args with
  | [] => .ok (.int i)
  | [v] => match v.asNumber with
    | .int digits => .ok (.int (roundInt i digits))
    | v => .error (.notAnInteger v.kindName)
  | vs => .error (expectedArguments "__round__" "at most 1 argument" vs.length)

/-! ## all of them -/

def noNamedArguments (kindName name : String) : Error :=
  let bare := Text.words ("count find rfind index rindex startswith endswith difference" ++
    " difference_update intersection intersection_update union update")
  .type ((if bare.contains name then name else kindName ++ "." ++ name) ++
    "() takes no keyword arguments")

def callWithNone (v : Value) (name : String) (args : List Value) (result : Except Error Value) :
    Except Error Value :=
  match args with
  | [] => result
  | vs => .error (.type (Limit.none.message v.kindName name vs.length 0))

def callWithOne (v : Value) (name : String) (args : List Value)
    (result : Value → Except Error Value) : Except Error Value :=
  match args with
  | [w] => result w
  | vs => .error (.type (Limit.one.message v.kindName name vs.length 0))

def callSetMethod (v : Value) (rebuild : List Value → Value) (kind : Kind) (xs : List Value)
    (name : String) (args : List Value) : Except Error Value :=
  match setMethodOfNone? rebuild kind xs name, setMethodOfOne? rebuild xs name with
  | some result, _ => callWithNone v name args result
  | none, some result => callWithOne v name args result
  | none, none => do
    let zs ← combineSets name xs args
    return if Text.endsWith "update" name then .null else rebuild zs

/-- the call that fills a set anew -/
def refillSet (args : List Value) (named : List (String × Value)) : Except Error Value := do
  if !named.isEmpty then throw (.type "set() takes no keyword arguments")
  match args with
  | [] => return .null
  | [v] =>
    let _ ← keysOf v
    return .null
  | vs => throw (expectedArguments "set" "at most 1 argument" vs.length)

def callOpenMethod (v : Value) (name : String) (args : List Value)
    (named : List (String × Value)) : Except Error Value :=
  match v, name with
  | .object c _, "__init__" =>
    .error (.type (c.name ++ ".__init__() takes exactly one argument (the instance to initialize)"))
  | .set _, "__init__" => refillSet args named
  | _, "__init__" => .ok .null
  | v, "__new__" =>
    let owner := match v with
      | .object .. => "object"
      | v => v.kindName
    match args with
    | w :: _ => .error (.type
        (owner ++ ".__new__(X): X is not a type object (" ++ w.kindName ++ ")"))
    | [] => .error (.type (owner ++ ".__new__(): not enough arguments"))
  | .text s, "format" => fillText s (some args) named
  | v, name =>
    if !named.isEmpty then .error (noNamedArguments v.kindName name)
    else match v, name with
      | _, "__init_subclass__" => callWithNone v name args (.ok .null)
      | .text s, "format_map" => callWithOne v name args fun w => match w with
        | .dict es => fillText s none (es.filterMap fun e => match e.1 with
          | .text k => some (k, e.2)
          | _ => none)
        | _ => fillText s none []
      | .text _, "maketrans" => replacementTable args
      | .text s, "__getnewargs__" => callWithNone v name args (.ok (.tuple [.text s]))
      | .text s, name => searchText s name args
      | .set xs, name => callSetMethod v .set .set xs name args
      | .frozenSet xs, name => callSetMethod v .frozenSet .frozenSet xs name args
      | v, name =>
        match v.asNumber, name with
        | .int i, "__round__" => roundMethod i args
        | .int i, _ => callWithNone v name args (.ok (.int i))
        | _, _ => callWithNone v name args (.ok .null)

def callBuiltinMethod (v : Value) (name : String) (args : List Value)
    (named : List (String × Value)) : Except Error Value :=
  match methodLimit v.kindName name with
  | .free => callOpenMethod v name args named
  | limit => .error (.type (limit.message v.kindName name args.length named.length))

end CommandLine
