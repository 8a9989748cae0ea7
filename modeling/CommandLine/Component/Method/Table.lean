import CommandLine.Value.Basic
import CommandLine.Text.Basic

/-!
# The methods of the built-in types

Under which names the values of the built-in types have methods, what parameters such a method
shows, and how it counts the arguments of a call.  A method shows the value it is bound to as its
first parameter although a call must leave it out, so a call that fills every parameter has one
argument too many; only methods that keep their parameters to themselves, which are open to
anything, can be called.
-/

namespace CommandLine

/-- how a method words that a call has too many arguments -/
inductive Limit where
  | none
  | one
  /-- at most so many, by position or by name -/
  | most (n : Nat)
  /-- so many by position, out of so many in all -/
  | positional (n all : Nat)
  | upTo (n : Nat)
  | exactly (n : Nat)
  /-- the message does not begin with the name -/
  | unnamed (n : Nat)
  /-- the message has an empty name -/
  | blank (n : Nat)
  | blankUpTo (n : Nat)
  /-- a call is not refused for its number of arguments -/
  | free
  deriving DecidableEq, Repr

/-- methods that several types share; no types stand for all that have no row of their own -/
structure MethodRow where
  kinds : String
  names : String
  form : MethodForm
  signature : Signature Value
  limit : Limit

def anything : Signature Value := { more := some "vars", moreNamed := some "kwargs" }

def methodRows : List MethodRow :=
  [ ⟨"set frozenset", "__contains__", .ofValue, anything, .free⟩
  , ⟨"dict", "__contains__", .ofValue, { args := ["self", "key"] }, .one⟩
  , ⟨"list dict", "__getitem__", .ofValue, anything, .free⟩
  , ⟨"set frozenset ellipsis", "__reduce__", .ofValue, anything, .free⟩
  , ⟨"set frozenset dict", "__sizeof__", .ofValue, anything, .free⟩
  , ⟨"str", ("capitalize isalnum isalpha isascii isdigit islower isspace istitle isupper " ++
      "lower swapcase title upper"),
      .ofValue, { args := ["self"] }, .none⟩
  , ⟨"str bytes", "__getnewargs__", .ofValue, anything, .free⟩
  , ⟨"list tuple", "count", .ofValue, { args := ["self", "value"] }, .one⟩
  , ⟨"list tuple", "index",
      .ofValue,
      { args := ["self", "value", "start", "stop"],
        defaults := [.int 0, .int 9223372036854775807] }, .upTo 3⟩
  , ⟨"str", "maketrans", .ofKind, anything, .free⟩
  , ⟨"int bool float complex", "__mul__ __rmul__",
      .operator, { args := ["self", "value"] }, .unnamed 1⟩
  , ⟨"bytearray", "__reduce_ex__",
      .ofValue, { args := ["self", "proto"], defaults := [.int 0] }, .upTo 1⟩
  , ⟨"str", "center ljust rjust",
      .ofValue, { args := ["self", "width", "fillchar"], defaults := [.text " "] }, .upTo 2⟩
  , ⟨"str", "join", .ofValue, { args := ["self", "iterable"] }, .one⟩
  , ⟨"str", "lstrip rstrip strip",
      .ofValue, { args := ["self", "chars"], defaults := [.null] }, .upTo 1⟩
  , ⟨"str", "translate", .ofValue, { args := ["self", "table"] }, .one⟩
  , ⟨"float", "__ceil__ __floor__ __trunc__ hex", .ofValue, { args := ["self"] }, .none⟩
  , ⟨"float", "__round__",
      .ofValue, { args := ["self", "ndigits"], defaults := [.null] }, .upTo 1⟩
  , ⟨"float complex", "conjugate", .ofValue, { args := ["self"] }, .none⟩
  , ⟨"bytearray list", "clear copy", .ofValue, { args := ["self"] }, .none⟩
  , ⟨"bytearray list", "pop",
      .ofValue, { args := ["self", "index"], defaults := [.int (-1)] }, .upTo 1⟩
  , ⟨"set", "remove", .ofValue, anything, .free⟩
  , ⟨"list", "append", .ofValue, { args := ["self", "object"] }, .one⟩
  , ⟨"list", "extend", .ofValue, { args := ["self", "iterable"] }, .one⟩
  , ⟨"list", "insert", .ofValue, { args := ["self", "index", "object"] }, .exactly 2⟩
  , ⟨"", ("__add__ __eq__ __ge__ __gt__ __le__ __lt__ __mod__ __ne__ __rmod__ __and__ " ++
      "__divmod__ __floordiv__ __lshift__ __or__ __radd__ __rand__ __rdivmod__ " ++
      "__rfloordiv__ __rlshift__ __ror__ __rrshift__ __rshift__ __rsub__ __rtruediv__ " ++
      "__rxor__ __sub__ __truediv__ __xor__ __iand__ __ior__ __isub__ __ixor__ __iadd__"),
      .operator, { args := ["self", "value"] }, .unnamed 1⟩
  , ⟨"", "__contains__ __getitem__ __delitem__",
      .operator, { args := ["self", "key"] }, .unnamed 1⟩
  , ⟨"", "__delattr__ __getattribute__", .operator, { args := ["self", "name"] }, .unnamed 1⟩
  , ⟨"", ("__dir__ __getstate__ __reduce__ __sizeof__ casefold isdecimal isidentifier " ++
      "isnumeric isprintable __getnewargs__ as_integer_ratio bit_count bit_length " ++
      "is_integer __complex__ __bytes__ reverse __reversed__ popitem"),
      .ofValue, { args := ["self"] }, .none⟩
  , ⟨"", ("capitalize isalnum isalpha isascii isdigit islower isspace istitle isupper lower " ++
      "swapcase title upper count endswith find format format_map index rfind rindex " ++
      "startswith __ceil__ __floor__ __round__ __trunc__ conjugate hex add clear copy " ++
      "difference difference_update discard intersection intersection_update isdisjoint " ++
      "pop symmetric_difference symmetric_difference_update union update __alloc__ " ++
      "items keys values"),
      .ofValue, anything, .free⟩
  , ⟨"", "__format__", .ofValue, { args := ["self", "format_spec"] }, .one⟩
  , ⟨"", "maketrans", .ofKind, { args := ["frm", "to"] }, .free⟩
  , ⟨"", ("__hash__ __iter__ __len__ __repr__ __str__ __abs__ __bool__ __float__ __index__ " ++
      "__int__ __invert__ __neg__ __pos__"),
      .operator, { args := ["self"] }, .unnamed 0⟩
  , ⟨"", "__init__",
      .operator, { args := ["self"], more := some "args", moreNamed := some "kwargs" }, .free⟩
  , ⟨"", "__init_subclass__ __subclasshook__ __class_getitem__", .ofKind, anything, .free⟩
  , ⟨"", "__mul__ __rmul__ __imul__", .operator, { args := ["self", "value"] }, .blank 1⟩
  , ⟨"", "__new__",
      .ofKind, { args := ["type"], more := some "args", moreNamed := some "kwargs" }, .free⟩
  , ⟨"", "__reduce_ex__", .ofValue, { args := ["self", "protocol"] }, .one⟩
  , ⟨"", "__setattr__", .operator, { args := ["self", "name", "value"] }, .blank 2⟩
  , ⟨"", "center ljust rjust",
      .ofValue, { args := ["self", "width", "fillchar"], defaults := [.bytes [32]] }, .upTo 2⟩
  , ⟨"", "encode decode",
      .ofValue,
      { args := ["self", "encoding", "errors"],
        defaults := [.text "utf-8", .text "strict"] }, .most 2⟩
  , ⟨"", "expandtabs", .ofValue, { args := ["self", "tabsize"], defaults := [.int 8] }, .most 1⟩
  , ⟨"", "join", .ofValue, { args := ["self", "iterable_of_bytes"] }, .one⟩
  , ⟨"", "lstrip rstrip strip",
      .ofValue, { args := ["self", "bytes"], defaults := [.null] }, .upTo 1⟩
  , ⟨"", "partition rpartition", .ofValue, { args := ["self", "sep"] }, .one⟩
  , ⟨"", "removeprefix", .ofValue, { args := ["self", "prefix"] }, .one⟩
  , ⟨"", "removesuffix", .ofValue, { args := ["self", "suffix"] }, .one⟩
  , ⟨"", "replace",
      .ofValue, { args := ["self", "old", "new", "count"], defaults := [.int (-1)] }, .upTo 3⟩
  , ⟨"", "rsplit split",
      .ofValue, { args := ["self", "sep", "maxsplit"], defaults := [.null, .int (-1)] }, .most 2⟩
  , ⟨"", "splitlines",
      .ofValue, { args := ["self", "keepends"], defaults := [.bool false] }, .most 1⟩
  , ⟨"", "translate",
      .ofValue, { args := ["self", "table", "delete"], defaults := [.bytes []] }, .most 2⟩
  , ⟨"", "zfill", .ofValue, { args := ["self", "width"] }, .one⟩
  , ⟨"", "__pow__ __rpow__",
      .operator, { args := ["self", "value", "mod"], defaults := [.null] }, .blankUpTo 2⟩
  , ⟨"", "from_bytes",
      .ofKind,
      { args := ["type", "bytes", "byteorder"], defaults := [.text "big"],
        flagParams := ["signed"], flagDefaults := [("signed", .bool false)] }, .positional 2 3⟩
  , ⟨"", "to_bytes",
      .ofValue,
      { args := ["self", "length", "byteorder"], defaults := [.int 1, .text "big"],
        flagParams := ["signed"], flagDefaults := [("signed", .bool false)] }, .positional 2 3⟩
  , ⟨"", "__getformat__", .ofKind, { args := ["type", "typestr"] }, .one⟩
  , ⟨"", "fromhex", .ofKind, { args := ["type", "string"] }, .one⟩
  , ⟨"", "remove", .ofValue, { args := ["self", "value"] }, .one⟩
  , ⟨"", "issubset issuperset", .ofValue, { args := ["self", "other"] }, .one⟩
  , ⟨"", "__setitem__", .operator, { args := ["self", "key", "value"] }, .blank 2⟩
  , ⟨"", "append", .ofValue, { args := ["self", "item"] }, .one⟩
  , ⟨"", "extend", .ofValue, { args := ["self", "iterable_of_ints"] }, .one⟩
  , ⟨"", "insert", .ofValue, { args := ["self", "index", "item"] }, .exactly 2⟩
  , ⟨"", "sort",
      .ofValue,
      { args := ["self"],
        flagParams := ["key", "reverse"],
        flagDefaults := [("key", .null), ("reverse", .bool false)] }, .positional 0 2⟩
  , ⟨"", "fromkeys",
      .ofKind, { args := ["type", "iterable", "value"], defaults := [.null] }, .upTo 2⟩
  , ⟨"", "get setdefault",
      .ofValue, { args := ["self", "key", "default"], defaults := [.null] }, .upTo 2⟩ ]

/-- the row of a method: one for the type of the value, if there is one -/
def methodRow? (kindName name : String) : Option MethodRow :=
  let rows := methodRows.filter fun r => (Text.words r.names).contains name
  (rows.find? fun r => (Text.words r.kinds).contains kindName).orElse fun _ =>
    rows.find? fun r => r.kinds.isEmpty

def methodForm (kindName name : String) : MethodForm :=
  match methodRow? kindName name with
  | some r => r.form
  | none => .ofValue

def methodSignature (kindName name : String) : Signature Value :=
  match methodRow? kindName name with
  | some r => r.signature
  | none => anything

def methodLimit (kindName name : String) : Limit :=
  match methodRow? kindName name with
  | some r => r.limit
  | none => .free

end CommandLine
