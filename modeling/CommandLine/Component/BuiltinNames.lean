import CommandLine.Value.Kind
import CommandLine.Text.Document

/-!
# What the built-in kinds show of themselves

The documentation of the built-in types and functions, and the names under which their values have
members.  Names that start with an underscore are private: they are listed only on request.
-/

namespace CommandLine

/-! ## documentation -/

def Kind.document? : Kind → Option String
  | .int => some (Text.clean "int([x]) -> integer
    int(x, base=10) -> integer

    Convert a number or string to an integer, or return 0 if no arguments
    are given.  If x is a number, return x.__int__().  For floating point
    numbers, this truncates towards zero.

    If x is not a number or if base is given, then x must be a string,
    bytes, or bytearray instance representing an integer literal in the
    given base.  The literal can be preceded by '+' or '-' and be surrounded
    by whitespace.  The base defaults to 10.  Valid bases are 0 and 2-36.
    Base 0 means to interpret the base from the string as an integer literal.
    >>> int('0b100', base=0)
    4")
  | .text => some (Text.clean "str(object='') -> str
    str(bytes_or_buffer[, encoding[, errors]]) -> str

    Create a new string object from the given object. If encoding or
    errors is specified, then the object must expose a data buffer
    that will be decoded using the given encoding and error handler.
    Otherwise, returns the result of object.__str__() (if defined)
    or repr(object).
    encoding defaults to sys.getdefaultencoding().
    errors defaults to 'strict'.")
  | .float => some "Convert a string or number to a floating point number, if possible."
  | .bool => some (Text.clean "bool(x) -> bool

    Returns True when the argument x is true, False otherwise.
    The builtins True and False are the only two instances of the class bool.
    The class bool is a subclass of the class int, and cannot be subclassed.")
  | .list => some (Text.clean "Built-in mutable sequence.

    If no argument is given, the constructor creates a new empty list.
    The argument must be an iterable if specified.")
  | .tuple => some (Text.clean "Built-in immutable sequence.

    If no argument is given, the constructor returns an empty tuple.
    If iterable is specified the tuple is initialized from iterable's items.

    If the argument is a tuple, the return value is the same object.")
  | .set => some (Text.clean "set() -> new empty set object
    set(iterable) -> new set object

    Build an unordered collection of unique elements.")
  | .dict => some (Text.clean "dict() -> new empty dictionary
    dict(mapping) -> new dictionary initialized from a mapping object's
        (key, value) pairs
    dict(iterable) -> new dictionary initialized as if via:
        d = \x7b\x7d
        for k, v in iterable:
            d[k] = v
    dict(**kwargs) -> new dictionary initialized with the name=value pairs
        in the keyword argument list.  For example:  dict(one=1, two=2)")
  | .bytes => some (Text.clean "bytes(iterable_of_ints) -> bytes
    bytes(string, encoding[, errors]) -> bytes
    bytes(bytes_or_buffer) -> immutable copy of bytes_or_buffer
    bytes(int) -> bytes object of size given by the parameter initialized with null bytes
    bytes() -> empty bytes object

    Construct an immutable array of bytes from:
      - an iterable yielding integers in range(256)
      - a text string encoded using the specified encoding
      - any object implementing the buffer API.
      - an integer")
  | .byteArray => some (Text.clean "bytearray(iterable_of_ints) -> bytearray
    bytearray(string, encoding[, errors]) -> bytearray
    bytearray(bytes_or_buffer) -> mutable copy of bytes_or_buffer
    bytearray(int) -> bytes array of size given by the parameter initialized with null bytes
    bytearray() -> empty bytes array

    Construct a mutable bytearray object from:
      - an iterable yielding integers in range(256)
      - a text string encoded using the specified encoding
      - a bytes or a buffer object
      - any object implementing the buffer API.
      - an integer")
  | .complex => some (Text.clean "Create a complex number from a real part and an optional imaginary part.

    This is equivalent to (real + imag*1j) where imag defaults to 0.")
  | .frozenSet => some (Text.clean "frozenset() -> empty frozenset object
    frozenset(iterable) -> frozenset object

    Build an immutable unordered collection of unique elements.")
  | .path .posix => some (Text.clean "PurePath subclass that can make system calls.

    Path represents a filesystem path but unlike PurePath, also offers
    methods to do system calls on path objects. Depending on your system,
    instantiating a Path will return either a PosixPath or a WindowsPath
    object. You can also instantiate a PosixPath or WindowsPath directly,
    but cannot instantiate a WindowsPath on a POSIX system or vice versa.")
  | .path .purePosix => some (Text.clean "PurePath subclass for non-Windows systems.

    On a POSIX system, instantiating a PurePath should return this object.
    However, you can also instantiate it directly on any system.")
  | .path .pureWindows => some (Text.clean "PurePath subclass for Windows systems.

    On a Windows system, instantiating a PurePath should return this object.
    However, you can also instantiate it directly on any system.")

/-- the documentation that a path shows; the type that makes paths of this system has its own -/
def Path.document? (p : Path) : Option String :=
  match p.kind with
  | .posix => some (Text.clean "Path subclass for non-Windows systems.

    On a POSIX system, instantiating a Path should return this object.")
  | k => Kind.document? (.path k)

def Builtin.document : Builtin → String
  | .len => "Return the number of items in a container."
  | .abs => "Return the absolute value of the argument."
  | .max => Text.clean "max(iterable, *[, default=obj, key=func]) -> value
    max(arg1, arg2, *args, *[, key=func]) -> value

    With a single iterable argument, return its biggest item. The
    default keyword-only argument specifies an object to return if
    the provided iterable is empty.
    With two or more arguments, return the largest argument."
  | .min => Text.clean "min(iterable, *[, default=obj, key=func]) -> value
    min(arg1, arg2, *args, *[, key=func]) -> value

    With a single iterable argument, return its smallest item. The
    default keyword-only argument specifies an object to return if
    the provided iterable is empty.
    With two or more arguments, return the smallest argument."
  | .sorted => Text.clean "Return a new list containing all items from the iterable in ascending order.

    A custom key function can be supplied to customize the sort order, and the
    reverse flag can be set to request the result in descending order."
  | .divMod => "Return the tuple (x//y, x%y).  Invariant: div*y + mod == x."
  | .isInstance => Text.clean "Return whether an object is an instance of a class or of a subclass thereof.

    A tuple, as in ``isinstance(x, (A, B, ...))``, may be given as the target to
    check against. This is equivalent to ``isinstance(x, A) or isinstance(x, B)
    or ...`` etc."
  | .member => Text.clean "getattr(object, name[, default]) -> value

    Get a named attribute from an object; getattr(x, 'y') is equivalent to x.y.
    When a default argument is given, it is returned when the attribute doesn't
    exist; without it, an exception is raised in that case."

/-! ## members -/

/-- the public members of the values of each built-in kind, in order -/
def publicNames (kindName : String) : List String :=
  Text.words (match kindName with
  | "bool" =>
    "as_integer_ratio bit_count bit_length conjugate denominator from_bytes imag numerator" ++
    " real to_bytes"
  | "int" =>
    "as_integer_ratio bit_count bit_length conjugate denominator from_bytes imag numerator" ++
    " real to_bytes"
  | "float" => "as_integer_ratio conjugate fromhex hex imag is_integer real"
  | "complex" => "conjugate imag real"
  | "str" => "capitalize casefold center count encode endswith expandtabs find format format_map" ++
    " index isalnum isalpha isascii isdecimal isdigit isidentifier islower isnumeric" ++
    " isprintable isspace istitle isupper join ljust lower lstrip maketrans partition" ++
    " removeprefix removesuffix replace rfind rindex rjust rpartition rsplit rstrip split" ++
    " splitlines startswith strip swapcase title translate upper zfill"
  | "bytes" =>
    "capitalize center count decode endswith expandtabs find fromhex hex index isalnum" ++
    " isalpha isascii isdigit islower isspace istitle isupper join ljust lower lstrip" ++
    " maketrans partition removeprefix removesuffix replace rfind rindex rjust rpartition" ++
    " rsplit rstrip split splitlines startswith strip swapcase title translate upper zfill"
  | "bytearray" =>
    "append capitalize center clear copy count decode endswith expandtabs extend find" ++
    " fromhex hex index insert isalnum isalpha isascii isdigit islower isspace istitle" ++
    " isupper join ljust lower lstrip maketrans partition pop remove removeprefix" ++
    " removesuffix replace reverse rfind rindex rjust rpartition rsplit rstrip split" ++
    " splitlines startswith strip swapcase title translate upper zfill"
  | "list" => "append clear copy count extend index insert pop remove reverse sort"
  | "tuple" => "count index"
  | "set" =>
    "add clear copy difference difference_update discard intersection intersection_update" ++
    " isdisjoint issubset issuperset pop remove symmetric_difference" ++
    " symmetric_difference_update union update"
  | "frozenset" =>
    "copy difference intersection isdisjoint issubset issuperset symmetric_difference union"
  | "dict" => "clear copy fromkeys get items keys pop popitem setdefault update values"
  | "generator" => "close gi_code gi_frame gi_running gi_suspended gi_yieldfrom send throw"
  | "PosixPath" => "absolute anchor as_posix as_uri chmod cwd drive exists expanduser glob group" ++
    " hardlink_to home is_absolute is_block_device is_char_device is_dir is_fifo is_file" ++
    " is_mount is_relative_to is_reserved is_socket is_symlink iterdir joinpath lchmod" ++
    " link_to lstat match mkdir name open owner parent parents parts read_bytes read_text" ++
    " readlink relative_to rename replace resolve rglob rmdir root samefile stat stem suffix" ++
    " suffixes symlink_to touch unlink with_name with_stem with_suffix write_bytes" ++
    " write_text"
  | "PurePosixPath" =>
    "anchor as_posix as_uri drive is_absolute is_relative_to is_reserved joinpath match" ++
    " name parent parents parts relative_to root stem suffix suffixes with_name with_stem" ++
    " with_suffix"
  | "PureWindowsPath" =>
    "anchor as_posix as_uri drive is_absolute is_relative_to is_reserved joinpath match" ++
    " name parent parents parts relative_to root stem suffix suffixes with_name with_stem" ++
    " with_suffix"
  | _ => "")

/-- the private members of every declared class and of its instances -/
def objectNames : List String :=
  Text.words ("__class__ __delattr__ __dict__ __dir__ __doc__ __eq__ __format__ __ge__" ++
    " __getattribute__ __getstate__ __gt__ __hash__ __init__ __init_subclass__ __le__ __lt__" ++
    " __module__ __ne__ __new__ __reduce__ __reduce_ex__ __repr__ __setattr__ __sizeof__" ++
    " __str__ __subclasshook__ __weakref__")

/-- the private members of a module -/
def moduleNames : List String :=
  Text.words ("__doc__ __loader__ __name__ __package__ __spec__")

/-- the private members that all values have -/
def commonNames : List String :=
  Text.words ("__class__ __delattr__ __dir__ __doc__ __eq__ __format__ __ge__ __getattribute__" ++
    " __getstate__ __gt__ __hash__ __init__ __init_subclass__ __le__ __lt__ __ne__ __new__" ++
    " __reduce__ __reduce_ex__ __repr__ __setattr__ __sizeof__ __str__ __subclasshook__")

def extraNames (kindName : String) : List String :=
  Text.words (match kindName with
  | "NoneType" => "__bool__"
  | "bool" =>
    "__abs__ __add__ __and__ __bool__ __ceil__ __divmod__ __float__ __floor__ __floordiv__" ++
    " __getnewargs__ __index__ __int__ __invert__ __lshift__ __mod__ __mul__ __neg__ __or__" ++
    " __pos__ __pow__ __radd__ __rand__ __rdivmod__ __rfloordiv__ __rlshift__ __rmod__" ++
    " __rmul__ __ror__ __round__ __rpow__ __rrshift__ __rshift__ __rsub__ __rtruediv__" ++
    " __rxor__ __sub__ __truediv__ __trunc__ __xor__"
  | "int" =>
    "__abs__ __add__ __and__ __bool__ __ceil__ __divmod__ __float__ __floor__ __floordiv__" ++
    " __getnewargs__ __index__ __int__ __invert__ __lshift__ __mod__ __mul__ __neg__ __or__" ++
    " __pos__ __pow__ __radd__ __rand__ __rdivmod__ __rfloordiv__ __rlshift__ __rmod__" ++
    " __rmul__ __ror__ __round__ __rpow__ __rrshift__ __rshift__ __rsub__ __rtruediv__" ++
    " __rxor__ __sub__ __truediv__ __trunc__ __xor__"
  | "float" => "__abs__ __add__ __bool__ __ceil__ __divmod__ __float__ __floor__ __floordiv__" ++
    " __getformat__ __getnewargs__ __int__ __mod__ __mul__ __neg__ __pos__ __pow__ __radd__" ++
    " __rdivmod__ __rfloordiv__ __rmod__ __rmul__ __round__ __rpow__ __rsub__ __rtruediv__" ++
    " __sub__ __truediv__ __trunc__"
  | "complex" =>
    "__abs__ __add__ __bool__ __complex__ __getnewargs__ __mul__ __neg__ __pos__ __pow__" ++
    " __radd__ __rmul__ __rpow__ __rsub__ __rtruediv__ __sub__ __truediv__"
  | "str" => "__add__ __contains__ __getitem__ __getnewargs__ __iter__ __len__ __mod__ __mul__" ++
    " __rmod__ __rmul__"
  | "bytes" =>
    "__add__ __bytes__ __contains__ __getitem__ __getnewargs__ __iter__ __len__ __mod__" ++
    " __mul__ __rmod__ __rmul__"
  | "bytearray" =>
    "__add__ __alloc__ __contains__ __delitem__ __getitem__ __iadd__ __imul__ __iter__" ++
    " __len__ __mod__ __mul__ __rmod__ __rmul__ __setitem__"
  | "list" => "__add__ __class_getitem__ __contains__ __delitem__ __getitem__ __iadd__ __imul__" ++
    " __iter__ __len__ __mul__ __reversed__ __rmul__ __setitem__"
  | "tuple" =>
    "__add__ __class_getitem__ __contains__ __getitem__ __getnewargs__ __iter__ __len__" ++
    " __mul__ __rmul__"
  | "set" => "__and__ __class_getitem__ __contains__ __iand__ __ior__ __isub__ __iter__ __ixor__" ++
    " __len__ __or__ __rand__ __ror__ __rsub__ __rxor__ __sub__ __xor__"
  | "frozenset" =>
    "__and__ __class_getitem__ __contains__ __iter__ __len__ __or__ __rand__ __ror__" ++
    " __rsub__ __rxor__ __sub__ __xor__"
  | "dict" =>
    "__class_getitem__ __contains__ __delitem__ __getitem__ __ior__ __iter__ __len__ __or__" ++
    " __reversed__ __ror__ __setitem__"
  | "generator" => "__del__ __iter__ __name__ __next__ __qualname__"
  | "ellipsis" => ""
  | _ => "")

end CommandLine
