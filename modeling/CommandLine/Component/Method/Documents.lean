import CommandLine.Text.Document

/-!
# Documentation of the methods of the built-in types

What each method says of itself.  Types share the text of a method unless they have one of their
own.
-/

namespace CommandLine

/-- the text of some methods, with lines indented; no types stand for all that have no row of their own -/
structure MethodText where
  kinds : String
  names : String
  text : String

def methodTexts : List MethodText :=
  [ ⟨"set frozenset", "__contains__", "x.__contains__(y) <==> y in x."⟩
  , ⟨"str", "__format__", "Return a formatted version of the string as described by format_spec."⟩
  , ⟨"float", "__format__", "Formats the float according to format_spec."⟩
  , ⟨"complex", "__format__", "Convert to a string according to format_spec."⟩
  , ⟨"list", "__getitem__", "x.__getitem__(y) <==> x[y]"⟩
  , ⟨"set frozenset bytearray", "__reduce__", "Return state information for pickling."⟩
  , ⟨"bytearray", "__reduce_ex__", "Return state information for pickling."⟩
  , ⟨"int bool", "__sizeof__", "Returns size in memory, in bytes."⟩
  , ⟨"set frozenset", "__sizeof__", "S.__sizeof__() -> size of S in memory, in bytes"⟩
  , ⟨"str", "__sizeof__", "Return the size of the string in memory, in bytes."⟩
  , ⟨"bytearray", "__sizeof__", "Returns the size of the bytearray object in memory, in bytes."⟩
  , ⟨"list", "__sizeof__", "Return the size of the list in memory, in bytes."⟩
  , ⟨"str", "capitalize", "Return a capitalized version of the string.

  More specifically, make the first character have upper case and the rest lower
  case."⟩
  , ⟨"str", "center", "Return a centered string of length width.

  Padding is done using the specified fill character (default is a space)."⟩
  , ⟨"list tuple", "count", "Return number of occurrences of value."⟩
  , ⟨"str", "count", "S.count(sub[, start[, end]]) -> int

  Return the number of non-overlapping occurrences of substring sub in
  string S[start:end].  Optional arguments start and end are
  interpreted as in slice notation."⟩
  , ⟨"str", "endswith", "S.endswith(suffix[, start[, end]]) -> bool

  Return True if S ends with the specified suffix, False otherwise.
  With optional start, test S beginning at that position.
  With optional end, stop comparing S at that position.
  suffix can also be a tuple of strings to try."⟩
  , ⟨"str", "find", "S.find(sub[, start[, end]]) -> int

  Return the lowest index in S where substring sub is found,
  such that sub is contained within S[start:end].  Optional
  arguments start and end are interpreted as in slice notation.

  Return -1 on failure."⟩
  , ⟨"list tuple", "index", "Return first index of value.

  Raises ValueError if the value is not present."⟩
  , ⟨"str", "index", "S.index(sub[, start[, end]]) -> int

  Return the lowest index in S where substring sub is found,
  such that sub is contained within S[start:end].  Optional
  arguments start and end are interpreted as in slice notation.

  Raises ValueError when the substring is not found."⟩
  , ⟨"str", "isalnum", "Return True if the string is an alpha-numeric string, False otherwise.

  A string is alpha-numeric if all characters in the string are alpha-numeric and
  there is at least one character in the string."⟩
  , ⟨"str", "isalpha", "Return True if the string is an alphabetic string, False otherwise.

  A string is alphabetic if all characters in the string are alphabetic and there
  is at least one character in the string."⟩
  , ⟨"str", "isascii", "Return True if all characters in the string are ASCII, False otherwise.

  ASCII characters have code points in the range U+0000-U+007F.
  Empty string is ASCII too."⟩
  , ⟨"str", "isdigit", "Return True if the string is a digit string, False otherwise.

  A string is a digit string if all characters in the string are digits and there
  is at least one character in the string."⟩
  , ⟨"str", "islower", "Return True if the string is a lowercase string, False otherwise.

  A string is lowercase if all cased characters in the string are lowercase and
  there is at least one cased character in the string."⟩
  , ⟨"str", "isspace", "Return True if the string is a whitespace string, False otherwise.

  A string is whitespace if all characters in the string are whitespace and there
  is at least one character in the string."⟩
  , ⟨"str", "istitle", "Return True if the string is a title-cased string, False otherwise.

  In a title-cased string, upper- and title-case characters may only
  follow uncased characters and lowercase characters only cased ones."⟩
  , ⟨"str", "isupper", "Return True if the string is an uppercase string, False otherwise.

  A string is uppercase if all cased characters in the string are uppercase and
  there is at least one cased character in the string."⟩
  , ⟨"bytes", "join", "Concatenate any number of bytes objects.

  The bytes whose method is called is inserted in between each pair.

  The result is returned as a new bytes object.

  Example: b'.'.join([b'ab', b'pq', b'rs']) -> b'ab.pq.rs'."⟩
  , ⟨"bytearray", "join", "Concatenate any number of bytes/bytearray objects.

  The bytearray whose method is called is inserted in between each pair.

  The result is returned as a new bytearray object."⟩
  , ⟨"str", "ljust", "Return a left-justified string of length width.

  Padding is done using the specified fill character (default is a space)."⟩
  , ⟨"str", "lower", "Return a copy of the string converted to lowercase."⟩
  , ⟨"bytes", "lstrip", "Strip leading bytes contained in the argument.

  If the argument is omitted or None, strip leading  ASCII whitespace."⟩
  , ⟨"bytearray", "lstrip", "Strip leading bytes contained in the argument.

  If the argument is omitted or None, strip leading ASCII whitespace."⟩
  , ⟨"str", "maketrans", "Return a translation table usable for str.translate().

  If there is only one argument, it must be a dictionary mapping Unicode
  ordinals (integers) or characters to Unicode ordinals, strings or None.
  Character keys will be then converted to ordinals.
  If there are two arguments, they must be strings of equal length, and
  in the resulting dictionary, each character in x will be mapped to the
  character at the same position in y. If there is a third argument, it
  must be a string, whose characters will be mapped to None in the result."⟩
  , ⟨"bytes", "partition", "Partition the bytes into three parts using the given separator.

  This will search for the separator sep in the bytes. If the separator is found,
  returns a 3-tuple containing the part before the separator, the separator
  itself, and the part after it.

  If the separator is not found, returns a 3-tuple containing the original bytes
  object and two empty bytes objects."⟩
  , ⟨"bytearray", "partition", "Partition the bytearray into three parts using the given separator.

  This will search for the separator sep in the bytearray. If the separator is
  found, returns a 3-tuple containing the part before the separator, the
  separator itself, and the part after it as new bytearray objects.

  If the separator is not found, returns a 3-tuple containing the copy of the
  original bytearray object and two empty bytearray objects."⟩
  , ⟨"bytes", "removeprefix", "Return a bytes object with the given prefix string removed if present.

  If the bytes starts with the prefix string, return bytes[len(prefix):].
  Otherwise, return a copy of the original bytes."⟩
  , ⟨"bytearray", "removeprefix", "Return a bytearray with the given prefix string removed if present.

  If the bytearray starts with the prefix string, return
  bytearray[len(prefix):].  Otherwise, return a copy of the original
  bytearray."⟩
  , ⟨"bytes", "removesuffix", "Return a bytes object with the given suffix string removed if present.

  If the bytes ends with the suffix string and that suffix is not empty,
  return bytes[:-len(prefix)].  Otherwise, return a copy of the original
  bytes."⟩
  , ⟨"bytearray", "removesuffix", "Return a bytearray with the given suffix string removed if present.

  If the bytearray ends with the suffix string and that suffix is not
  empty, return bytearray[:-len(suffix)].  Otherwise, return a copy of
  the original bytearray."⟩
  , ⟨"str", "rfind", "S.rfind(sub[, start[, end]]) -> int

  Return the highest index in S where substring sub is found,
  such that sub is contained within S[start:end].  Optional
  arguments start and end are interpreted as in slice notation.

  Return -1 on failure."⟩
  , ⟨"str", "rindex", "S.rindex(sub[, start[, end]]) -> int

  Return the highest index in S where substring sub is found,
  such that sub is contained within S[start:end].  Optional
  arguments start and end are interpreted as in slice notation.

  Raises ValueError when the substring is not found."⟩
  , ⟨"str", "rjust", "Return a right-justified string of length width.

  Padding is done using the specified fill character (default is a space)."⟩
  , ⟨"bytes", "rpartition", "Partition the bytes into three parts using the given separator.

  This will search for the separator sep in the bytes, starting at the end. If
  the separator is found, returns a 3-tuple containing the part before the
  separator, the separator itself, and the part after it.

  If the separator is not found, returns a 3-tuple containing two empty bytes
  objects and the original bytes object."⟩
  , ⟨"bytearray", "rpartition", "Partition the bytearray into three parts using the given separator.

  This will search for the separator sep in the bytearray, starting at the end.
  If the separator is found, returns a 3-tuple containing the part before the
  separator, the separator itself, and the part after it as new bytearray
  objects.

  If the separator is not found, returns a 3-tuple containing two empty bytearray
  objects and the copy of the original bytearray object."⟩
  , ⟨"bytes", "rsplit", "Return a list of the sections in the bytes, using sep as the delimiter.

    sep
      The delimiter according which to split the bytes.
      None (the default value) means split on ASCII whitespace characters
      (space, tab, return, newline, formfeed, vertical tab).
    maxsplit
      Maximum number of splits to do.
      -1 (the default value) means no limit.

  Splitting is done starting at the end of the bytes and working to the front."⟩
  , ⟨"bytearray", "rsplit", "Return a list of the sections in the bytearray, using sep as the delimiter.

    sep
      The delimiter according which to split the bytearray.
      None (the default value) means split on ASCII whitespace characters
      (space, tab, return, newline, formfeed, vertical tab).
    maxsplit
      Maximum number of splits to do.
      -1 (the default value) means no limit.

  Splitting is done starting at the end of the bytearray and working to the front."⟩
  , ⟨"str", "rstrip", "Return a copy of the string with trailing whitespace removed.

  If chars is given and not None, remove characters in chars instead."⟩
  , ⟨"bytes", "split", "Return a list of the sections in the bytes, using sep as the delimiter.

  sep
    The delimiter according which to split the bytes.
    None (the default value) means split on ASCII whitespace characters
    (space, tab, return, newline, formfeed, vertical tab).
  maxsplit
    Maximum number of splits to do.
    -1 (the default value) means no limit."⟩
  , ⟨"bytearray", "split", "Return a list of the sections in the bytearray, using sep as the delimiter.

  sep
    The delimiter according which to split the bytearray.
    None (the default value) means split on ASCII whitespace characters
    (space, tab, return, newline, formfeed, vertical tab).
  maxsplit
    Maximum number of splits to do.
    -1 (the default value) means no limit."⟩
  , ⟨"bytes", "splitlines", "Return a list of the lines in the bytes, breaking at line boundaries.

  Line breaks are not included in the resulting list unless keepends is given and
  true."⟩
  , ⟨"bytearray", "splitlines", "Return a list of the lines in the bytearray, breaking at line boundaries.

  Line breaks are not included in the resulting list unless keepends is given and
  true."⟩
  , ⟨"str", "startswith", "S.startswith(prefix[, start[, end]]) -> bool

  Return True if S starts with the specified prefix, False otherwise.
  With optional start, test S beginning at that position.
  With optional end, stop comparing S at that position.
  prefix can also be a tuple of strings to try."⟩
  , ⟨"str", "strip", "Return a copy of the string with leading and trailing whitespace removed.

  If chars is given and not None, remove characters in chars instead."⟩
  , ⟨"str", "swapcase", "Convert uppercase characters to lowercase and lowercase characters to uppercase."⟩
  , ⟨"str", "title", "Return a version of the string where each word is titlecased.

  More specifically, words start with uppercased characters and all remaining
  cased characters have lower case."⟩
  , ⟨"str", "translate", "Replace each character in the string using the given translation table.

    table
      Translation table, which must be a mapping of Unicode ordinals to
      Unicode ordinals, strings, or None.

  The table must implement lookup/indexing via __getitem__, for instance a
  dictionary or list.  If this operation raises LookupError, the character is
  left untouched.  Characters mapped to None are deleted."⟩
  , ⟨"str", "upper", "Return a copy of the string converted to uppercase."⟩
  , ⟨"str", "zfill", "Pad a numeric string with zeros on the left, to fill a field of the given width.

  The string is never truncated."⟩
  , ⟨"float", "__ceil__", "Return the ceiling as an Integral."⟩
  , ⟨"float", "__floor__", "Return the floor as an Integral."⟩
  , ⟨"float", "__round__", "Return the Integral closest to x, rounding half toward even.

  When an argument is passed, work like built-in round(x, ndigits)."⟩
  , ⟨"float", "__trunc__", "Return the Integral closest to x between 0 and x."⟩
  , ⟨"float", "as_integer_ratio", "Return integer ratio.

  Return a pair of integers, whose ratio is exactly equal to the original float
  and with a positive denominator.

  Raise OverflowError on infinities and a ValueError on NaNs.

  >>> (10.0).as_integer_ratio()
  (10, 1)
  >>> (0.0).as_integer_ratio()
  (0, 1)
  >>> (-.25).as_integer_ratio()
  (-1, 4)"⟩
  , ⟨"float", "conjugate", "Return self, the complex conjugate of any float."⟩
  , ⟨"complex", "conjugate", "Return the complex conjugate of its argument. (3-4j).conjugate() == 3+4j."⟩
  , ⟨"bytes", "fromhex", "Create a bytes object from a string of hexadecimal numbers.

  Spaces between two numbers are accepted.
  Example: bytes.fromhex('B9 01EF') -> b'\\\\xb9\\\\x01\\\\xef'."⟩
  , ⟨"bytearray", "fromhex", "Create a bytearray object from a string of hexadecimal numbers.

  Spaces between two numbers are accepted.
  Example: bytearray.fromhex('B9 01EF') -> bytearray(b'\\\\xb9\\\\x01\\\\xef')"⟩
  , ⟨"bytes", "hex", "Create a string of hexadecimal numbers from a bytes object.

    sep
      An optional single character or byte to separate hex bytes.
    bytes_per_sep
      How many bytes between separators.  Positive values count from the
      right, negative values count from the left.

  Example:
  >>> value = b'\\xb9\\x01\\xef'
  >>> value.hex()
  'b901ef'
  >>> value.hex(':')
  'b9:01:ef'
  >>> value.hex(':', 2)
  'b9:01ef'
  >>> value.hex(':', -2)
  'b901:ef'"⟩
  , ⟨"bytearray", "hex", "Create a string of hexadecimal numbers from a bytearray object.

    sep
      An optional single character or byte to separate hex bytes.
    bytes_per_sep
      How many bytes between separators.  Positive values count from the
      right, negative values count from the left.

  Example:
  >>> value = bytearray([0xb9, 0x01, 0xef])
  >>> value.hex()
  'b901ef'
  >>> value.hex(':')
  'b9:01:ef'
  >>> value.hex(':', 2)
  'b9:01ef'
  >>> value.hex(':', -2)
  'b901:ef'"⟩
  , ⟨"bytearray", "clear", "Remove all items from the bytearray."⟩
  , ⟨"list", "clear", "Remove all items from list."⟩
  , ⟨"bytearray", "copy", "Return a copy of B."⟩
  , ⟨"list", "copy", "Return a shallow copy of the list."⟩
  , ⟨"bytearray", "pop", "Remove and return a single item from B.

    index
      The index from where to remove the item.
      -1 (the default value) means remove the last item.

  If no index argument is given, will pop the last item."⟩
  , ⟨"list", "pop", "Remove and return item at index (default last).

  Raises IndexError if list is empty or index is out of range."⟩
  , ⟨"bytearray", "remove", "Remove the first occurrence of a value in the bytearray.

  value
    The value to remove."⟩
  , ⟨"list", "remove", "Remove first occurrence of value.

  Raises ValueError if the value is not present."⟩
  , ⟨"bytearray", "decode", "Decode the bytearray using the codec registered for encoding.

  encoding
    The encoding with which to decode the bytearray.
  errors
    The error handling scheme to use for the handling of decoding errors.
    The default is 'strict' meaning that decoding errors raise a
    UnicodeDecodeError. Other possible values are 'ignore' and 'replace'
    as well as any other name registered with codecs.register_error that
    can handle UnicodeDecodeErrors."⟩
  , ⟨"list", "append", "Append object to the end of the list."⟩
  , ⟨"list", "extend", "Extend list by appending elements from the iterable."⟩
  , ⟨"list", "insert", "Insert object before index."⟩
  , ⟨"list", "reverse", "Reverse *IN PLACE*."⟩
  , ⟨"", "__add__", "Return self+value."⟩
  , ⟨"", "__contains__", "Return key in self."⟩
  , ⟨"", "__delattr__", "Implement delattr(self, name)."⟩
  , ⟨"", "__dir__", "Default dir() implementation."⟩
  , ⟨"", "__eq__", "Return self==value."⟩
  , ⟨"", "__format__", "Default object formatter."⟩
  , ⟨"", "__ge__", "Return self>=value."⟩
  , ⟨"", "__getattribute__", "Return getattr(self, name)."⟩
  , ⟨"", "__getitem__", "Return self[key]."⟩
  , ⟨"", "__getstate__ __reduce__ __reduce_ex__", "Helper for pickle."⟩
  , ⟨"", "__gt__", "Return self>value."⟩
  , ⟨"", "__hash__", "Return hash(self)."⟩
  , ⟨"", "__init__", "Initialize self.  See help(type(self)) for accurate signature."⟩
  , ⟨"", "__init_subclass__", "This method is called when a class is subclassed.

  The default implementation does nothing. It may be
  overridden to extend subclasses."⟩
  , ⟨"", "__iter__", "Implement iter(self)."⟩
  , ⟨"", "__le__", "Return self<=value."⟩
  , ⟨"", "__len__", "Return len(self)."⟩
  , ⟨"", "__lt__", "Return self<value."⟩
  , ⟨"", "__mod__", "Return self%value."⟩
  , ⟨"", "__mul__", "Return self*value."⟩
  , ⟨"", "__ne__", "Return self!=value."⟩
  , ⟨"", "__new__", "Create and return a new object.  See help(type) for accurate signature."⟩
  , ⟨"", "__repr__", "Return repr(self)."⟩
  , ⟨"", "__rmod__", "Return value%self."⟩
  , ⟨"", "__rmul__", "Return value*self."⟩
  , ⟨"", "__setattr__", "Implement setattr(self, name, value)."⟩
  , ⟨"", "__sizeof__", "Size of object in memory, in bytes."⟩
  , ⟨"", "__str__", "Return str(self)."⟩
  , ⟨"", "__subclasshook__", "Abstract classes can override this to customize issubclass().

  This is invoked early on by abc.ABCMeta.__subclasscheck__().
  It should return True, False or NotImplemented.  If it returns
  NotImplemented, the normal algorithm is used.  Otherwise, it
  overrides the normal algorithm (and the outcome is cached)."⟩
  , ⟨"", "capitalize", "B.capitalize() -> copy of B

  Return a copy of B with only its first character capitalized (ASCII)
  and the rest lower-cased."⟩
  , ⟨"", "casefold", "Return a version of the string suitable for caseless comparisons."⟩
  , ⟨"", "center", "Return a centered string of length width.

  Padding is done using the specified fill character."⟩
  , ⟨"", "count", "B.count(sub[, start[, end]]) -> int

  Return the number of non-overlapping occurrences of subsection sub in
  bytes B[start:end].  Optional arguments start and end are interpreted
  as in slice notation."⟩
  , ⟨"", "encode", "Encode the string using the codec registered for encoding.

  encoding
    The encoding in which to encode the string.
  errors
    The error handling scheme to use for encoding errors.
    The default is 'strict' meaning that encoding errors raise a
    UnicodeEncodeError.  Other possible values are 'ignore', 'replace' and
    'xmlcharrefreplace' as well as any other name registered with
    codecs.register_error that can handle UnicodeEncodeErrors."⟩
  , ⟨"", "endswith", "B.endswith(suffix[, start[, end]]) -> bool

  Return True if B ends with the specified suffix, False otherwise.
  With optional start, test B beginning at that position.
  With optional end, stop comparing B at that position.
  suffix can also be a tuple of bytes to try."⟩
  , ⟨"", "expandtabs", "Return a copy where all tab characters are expanded using spaces.

  If tabsize is not given, a tab size of 8 characters is assumed."⟩
  , ⟨"", "find", "B.find(sub[, start[, end]]) -> int

  Return the lowest index in B where subsection sub is found,
  such that sub is contained within B[start,end].  Optional
  arguments start and end are interpreted as in slice notation.

  Return -1 on failure."⟩
  , ⟨"", "format", "S.format(*args, **kwargs) -> str

  Return a formatted version of S, using substitutions from args and kwargs.
  The substitutions are identified by braces ('\x7b' and '\x7d')."⟩
  , ⟨"", "format_map", "S.format_map(mapping) -> str

  Return a formatted version of S, using substitutions from mapping.
  The substitutions are identified by braces ('\x7b' and '\x7d')."⟩
  , ⟨"", "index", "B.index(sub[, start[, end]]) -> int

  Return the lowest index in B where subsection sub is found,
  such that sub is contained within B[start,end].  Optional
  arguments start and end are interpreted as in slice notation.

  Raises ValueError when the subsection is not found."⟩
  , ⟨"", "isalnum", "B.isalnum() -> bool

  Return True if all characters in B are alphanumeric
  and there is at least one character in B, False otherwise."⟩
  , ⟨"", "isalpha", "B.isalpha() -> bool

  Return True if all characters in B are alphabetic
  and there is at least one character in B, False otherwise."⟩
  , ⟨"", "isascii", "B.isascii() -> bool

  Return True if B is empty or all characters in B are ASCII,
  False otherwise."⟩
  , ⟨"", "isdecimal", "Return True if the string is a decimal string, False otherwise.

  A string is a decimal string if all characters in the string are decimal and
  there is at least one character in the string."⟩
  , ⟨"", "isdigit", "B.isdigit() -> bool

  Return True if all characters in B are digits
  and there is at least one character in B, False otherwise."⟩
  , ⟨"", "isidentifier", "Return True if the string is a valid Python identifier, False otherwise.

  Call keyword.iskeyword(s) to test whether string s is a reserved identifier,
  such as \"def\" or \"class\"."⟩
  , ⟨"", "islower", "B.islower() -> bool

  Return True if all cased characters in B are lowercase and there is
  at least one cased character in B, False otherwise."⟩
  , ⟨"", "isnumeric", "Return True if the string is a numeric string, False otherwise.

  A string is numeric if all characters in the string are numeric and there is at
  least one character in the string."⟩
  , ⟨"", "isprintable", "Return True if the string is printable, False otherwise.

  A string is printable if all of its characters are considered printable in
  repr() or if it is empty."⟩
  , ⟨"", "isspace", "B.isspace() -> bool

  Return True if all characters in B are whitespace
  and there is at least one character in B, False otherwise."⟩
  , ⟨"", "istitle", "B.istitle() -> bool

  Return True if B is a titlecased string and there is at least one
  character in B, i.e. uppercase characters may only follow uncased
  characters and lowercase characters only cased ones. Return False
  otherwise."⟩
  , ⟨"", "isupper", "B.isupper() -> bool

  Return True if all cased characters in B are uppercase and there is
  at least one cased character in B, False otherwise."⟩
  , ⟨"", "join", "Concatenate any number of strings.

  The string whose method is called is inserted in between each given string.
  The result is returned as a new string.

  Example: '.'.join(['ab', 'pq', 'rs']) -> 'ab.pq.rs'"⟩
  , ⟨"", "ljust", "Return a left-justified string of length width.

  Padding is done using the specified fill character."⟩
  , ⟨"", "lower", "B.lower() -> copy of B

  Return a copy of B with all ASCII characters converted to lowercase."⟩
  , ⟨"", "lstrip", "Return a copy of the string with leading whitespace removed.

  If chars is given and not None, remove characters in chars instead."⟩
  , ⟨"", "maketrans", "Return a translation table useable for the bytes or bytearray translate method.

  The returned table will be one where each byte in frm is mapped to the byte at
  the same position in to.

  The bytes objects frm and to must be of the same length."⟩
  , ⟨"", "partition", "Partition the string into three parts using the given separator.

  This will search for the separator in the string.  If the separator is found,
  returns a 3-tuple containing the part before the separator, the separator
  itself, and the part after it.

  If the separator is not found, returns a 3-tuple containing the original string
  and two empty strings."⟩
  , ⟨"", "removeprefix", "Return a str with the given prefix string removed if present.

  If the string starts with the prefix string, return string[len(prefix):].
  Otherwise, return a copy of the original string."⟩
  , ⟨"", "removesuffix", "Return a str with the given suffix string removed if present.

  If the string ends with the suffix string and that suffix is not empty,
  return string[:-len(suffix)]. Otherwise, return a copy of the original
  string."⟩
  , ⟨"", "replace", "Return a copy with all occurrences of substring old replaced by new.

    count
      Maximum number of occurrences to replace.
      -1 (the default value) means replace all occurrences.

  If the optional argument count is given, only the first count occurrences are
  replaced."⟩
  , ⟨"", "rfind", "B.rfind(sub[, start[, end]]) -> int

  Return the highest index in B where subsection sub is found,
  such that sub is contained within B[start,end].  Optional
  arguments start and end are interpreted as in slice notation.

  Return -1 on failure."⟩
  , ⟨"", "rindex", "B.rindex(sub[, start[, end]]) -> int

  Return the highest index in B where subsection sub is found,
  such that sub is contained within B[start,end].  Optional
  arguments start and end are interpreted as in slice notation.

  Raise ValueError when the subsection is not found."⟩
  , ⟨"", "rjust", "Return a right-justified string of length width.

  Padding is done using the specified fill character."⟩
  , ⟨"", "rpartition", "Partition the string into three parts using the given separator.

  This will search for the separator in the string, starting at the end. If
  the separator is found, returns a 3-tuple containing the part before the
  separator, the separator itself, and the part after it.

  If the separator is not found, returns a 3-tuple containing two empty strings
  and the original string."⟩
  , ⟨"", "rsplit", "Return a list of the substrings in the string, using sep as the separator string.

    sep
      The separator used to split the string.

      When set to None (the default value), will split on any whitespace
      character (including \\n \\r \\t \\f and spaces) and will discard
      empty strings from the result.
    maxsplit
      Maximum number of splits.
      -1 (the default value) means no limit.

  Splitting starts at the end of the string and works to the front."⟩
  , ⟨"", "rstrip", "Strip trailing bytes contained in the argument.

  If the argument is omitted or None, strip trailing ASCII whitespace."⟩
  , ⟨"", "split", "Return a list of the substrings in the string, using sep as the separator string.

    sep
      The separator used to split the string.

      When set to None (the default value), will split on any whitespace
      character (including \\n \\r \\t \\f and spaces) and will discard
      empty strings from the result.
    maxsplit
      Maximum number of splits.
      -1 (the default value) means no limit.

  Splitting starts at the front of the string and works to the end.

  Note, str.split() is mainly useful for data that has been intentionally
  delimited.  With natural text that includes punctuation, consider using
  the regular expression module."⟩
  , ⟨"", "splitlines", "Return a list of the lines in the string, breaking at line boundaries.

  Line breaks are not included in the resulting list unless keepends is given and
  true."⟩
  , ⟨"", "startswith", "B.startswith(prefix[, start[, end]]) -> bool

  Return True if B starts with the specified prefix, False otherwise.
  With optional start, test B beginning at that position.
  With optional end, stop comparing B at that position.
  prefix can also be a tuple of bytes to try."⟩
  , ⟨"", "strip", "Strip leading and trailing bytes contained in the argument.

  If the argument is omitted or None, strip leading and trailing ASCII whitespace."⟩
  , ⟨"", "swapcase", "B.swapcase() -> copy of B

  Return a copy of B with uppercase ASCII characters converted
  to lowercase ASCII and vice versa."⟩
  , ⟨"", "title", "B.title() -> copy of B

  Return a titlecased version of B, i.e. ASCII words start with uppercase
  characters, all remaining cased characters have lowercase."⟩
  , ⟨"", "translate", "Return a copy with each character mapped by the given translation table.

    table
      Translation table, which must be a bytes object of length 256.

  All characters occurring in the optional argument delete are removed.
  The remaining characters are mapped through the given translation table."⟩
  , ⟨"", "upper", "B.upper() -> copy of B

  Return a copy of B with all ASCII characters converted to uppercase."⟩
  , ⟨"", "zfill", "Pad a numeric string with zeros on the left, to fill a field of the given width.

  The original string is never truncated."⟩
  , ⟨"", "__abs__", "abs(self)"⟩
  , ⟨"", "__and__", "Return self&value."⟩
  , ⟨"", "__bool__", "True if self else False"⟩
  , ⟨"", "__ceil__", "Ceiling of an Integral returns itself."⟩
  , ⟨"", "__divmod__", "Return divmod(self, value)."⟩
  , ⟨"", "__float__", "float(self)"⟩
  , ⟨"", "__floor__", "Flooring an Integral returns itself."⟩
  , ⟨"", "__floordiv__", "Return self//value."⟩
  , ⟨"", "__index__",
    "Return self converted to an integer, if self is suitable for use as an index into a list."⟩
  , ⟨"", "__int__", "int(self)"⟩
  , ⟨"", "__invert__", "~self"⟩
  , ⟨"", "__lshift__", "Return self<<value."⟩
  , ⟨"", "__neg__", "-self"⟩
  , ⟨"", "__or__", "Return self|value."⟩
  , ⟨"", "__pos__", "+self"⟩
  , ⟨"", "__pow__", "Return pow(self, value, mod)."⟩
  , ⟨"", "__radd__", "Return value+self."⟩
  , ⟨"", "__rand__", "Return value&self."⟩
  , ⟨"", "__rdivmod__", "Return divmod(value, self)."⟩
  , ⟨"", "__rfloordiv__", "Return value//self."⟩
  , ⟨"", "__rlshift__", "Return value<<self."⟩
  , ⟨"", "__ror__", "Return value|self."⟩
  , ⟨"", "__round__", "Rounding an Integral returns itself.

  Rounding with an ndigits argument also returns an integer."⟩
  , ⟨"", "__rpow__", "Return pow(value, self, mod)."⟩
  , ⟨"", "__rrshift__", "Return value>>self."⟩
  , ⟨"", "__rshift__", "Return self>>value."⟩
  , ⟨"", "__rsub__", "Return value-self."⟩
  , ⟨"", "__rtruediv__", "Return value/self."⟩
  , ⟨"", "__rxor__", "Return value^self."⟩
  , ⟨"", "__sub__", "Return self-value."⟩
  , ⟨"", "__truediv__", "Return self/value."⟩
  , ⟨"", "__trunc__", "Truncating an Integral returns itself."⟩
  , ⟨"", "__xor__", "Return self^value."⟩
  , ⟨"", "as_integer_ratio", "Return integer ratio.

  Return a pair of integers, whose ratio is exactly equal to the original int
  and with a positive denominator.

  >>> (10).as_integer_ratio()
  (10, 1)
  >>> (-10).as_integer_ratio()
  (-10, 1)
  >>> (0).as_integer_ratio()
  (0, 1)"⟩
  , ⟨"", "bit_count", "Number of ones in the binary representation of the absolute value of self.

  Also known as the population count.

  >>> bin(13)
  '0b1101'
  >>> (13).bit_count()
  3"⟩
  , ⟨"", "bit_length", "Number of bits necessary to represent self in binary.

  >>> bin(37)
  '0b100101'
  >>> (37).bit_length()
  6"⟩
  , ⟨"", "conjugate", "Returns self, the complex conjugate of any int."⟩
  , ⟨"", "from_bytes", "Return the integer represented by the given array of bytes.

  bytes
    Holds the array of bytes to convert.  The argument must either
    support the buffer protocol or be an iterable object producing bytes.
    Bytes and bytearray are examples of built-in objects that support the
    buffer protocol.
  byteorder
    The byte order used to represent the integer.  If byteorder is 'big',
    the most significant byte is at the beginning of the byte array.  If
    byteorder is 'little', the most significant byte is at the end of the
    byte array.  To request the native byte order of the host system, use
    `sys.byteorder' as the byte order value.  Default is to use 'big'.
  signed
    Indicates whether two's complement is used to represent the integer."⟩
  , ⟨"", "to_bytes", "Return an array of bytes representing an integer.

  length
    Length of bytes object to use.  An OverflowError is raised if the
    integer is not representable with the given number of bytes.  Default
    is length 1.
  byteorder
    The byte order used to represent the integer.  If byteorder is 'big',
    the most significant byte is at the beginning of the byte array.  If
    byteorder is 'little', the most significant byte is at the end of the
    byte array.  To request the native byte order of the host system, use
    `sys.byteorder' as the byte order value.  Default is to use 'big'.
  signed
    Determines whether two's complement is used to represent the integer.
    If signed is False and a negative integer is given, an OverflowError
    is raised."⟩
  , ⟨"", "__getformat__", "You probably don't want to use this function.

    typestr
      Must be 'double' or 'float'.

  It exists mainly to be used in Python's test suite.

  This function returns whichever of 'unknown', 'IEEE, big-endian' or 'IEEE,
  little-endian' best describes the format of floating point numbers used by the
  C type named by typestr."⟩
  , ⟨"", "fromhex", "Create a floating-point number from a hexadecimal string.

  >>> float.fromhex('0x1.ffffp10')
  2047.984375
  >>> float.fromhex('-0x1p-1074')
  -5e-324"⟩
  , ⟨"", "hex", "Return a hexadecimal representation of a floating-point number.

  >>> (-0.1).hex()
  '-0x1.999999999999ap-4'
  >>> 3.14159.hex()
  '0x1.921f9f01b866ep+1'"⟩
  , ⟨"", "is_integer", "Return True if the float is an integer."⟩
  , ⟨"", "__complex__", "Convert this value to exact type complex."⟩
  , ⟨"", "__class_getitem__", "See PEP 585"⟩
  , ⟨"", "__iand__", "Return self&=value."⟩
  , ⟨"", "__ior__", "Return self|=value."⟩
  , ⟨"", "__isub__", "Return self-=value."⟩
  , ⟨"", "__ixor__", "Return self^=value."⟩
  , ⟨"", "add", "Add an element to a set.

  This has no effect if the element is already present."⟩
  , ⟨"", "clear", "Remove all elements from this set."⟩
  , ⟨"", "copy", "Return a shallow copy of a set."⟩
  , ⟨"", "difference", "Return the difference of two or more sets as a new set.

  (i.e. all elements that are in this set but not the others.)"⟩
  , ⟨"", "difference_update", "Remove all elements of another set from this set."⟩
  , ⟨"", "discard", "Remove an element from a set if it is a member.

  Unlike set.remove(), the discard() method does not raise
  an exception when an element is missing from the set."⟩
  , ⟨"", "intersection", "Return the intersection of two sets as a new set.

  (i.e. all elements that are in both sets.)"⟩
  , ⟨"", "intersection_update", "Update a set with the intersection of itself and another."⟩
  , ⟨"", "isdisjoint", "Return True if two sets have a null intersection."⟩
  , ⟨"", "issubset", "Test whether every element in the set is in other."⟩
  , ⟨"", "issuperset", "Test whether every element in other is in the set."⟩
  , ⟨"", "pop", "Remove and return an arbitrary set element.
  Raises KeyError if the set is empty."⟩
  , ⟨"", "remove", "Remove an element from a set; it must be a member.

  If the element is not a member, raise a KeyError."⟩
  , ⟨"", "symmetric_difference", "Return the symmetric difference of two sets as a new set.

  (i.e. all elements that are in exactly one of the sets.)"⟩
  , ⟨"", "symmetric_difference_update", "Update a set with the symmetric difference of itself and another."⟩
  , ⟨"", "union", "Return the union of sets as a new set.

  (i.e. all elements that are in either set.)"⟩
  , ⟨"", "update", "Update a set with the union of itself and others."⟩
  , ⟨"", "__bytes__", "Convert this value to exact type bytes."⟩
  , ⟨"", "decode", "Decode the bytes using the codec registered for encoding.

  encoding
    The encoding with which to decode the bytes.
  errors
    The error handling scheme to use for the handling of decoding errors.
    The default is 'strict' meaning that decoding errors raise a
    UnicodeDecodeError. Other possible values are 'ignore' and 'replace'
    as well as any other name registered with codecs.register_error that
    can handle UnicodeDecodeErrors."⟩
  , ⟨"", "__alloc__", "B.__alloc__() -> int

  Return the number of bytes actually allocated."⟩
  , ⟨"", "__delitem__", "Delete self[key]."⟩
  , ⟨"", "__iadd__", "Implement self+=value."⟩
  , ⟨"", "__imul__", "Implement self*=value."⟩
  , ⟨"", "__setitem__", "Set self[key] to value."⟩
  , ⟨"", "append", "Append a single item to the end of the bytearray.

  item
    The item to be appended."⟩
  , ⟨"", "extend", "Append all the items from the iterator or sequence to the end of the bytearray.

  iterable_of_ints
    The iterable of items to append."⟩
  , ⟨"", "insert", "Insert a single item into the bytearray before the given index.

  index
    The index where the value is to be inserted.
  item
    The item to be inserted."⟩
  , ⟨"", "reverse", "Reverse the order of the values in B in place."⟩
  , ⟨"", "__reversed__", "Return a reverse iterator over the list."⟩
  , ⟨"", "sort", "Sort the list in ascending order and return None.

  The sort is in-place (i.e. the list itself is modified) and stable (i.e. the
  order of two equal elements is maintained).

  If a key function is given, apply it once to each list item and sort them,
  ascending or descending, according to their function values.

  The reverse flag can be set to sort in descending order."⟩ ]

def builtinDocument? (kindName name : String) : Option String :=
  let rows := methodTexts.filter fun r => (Text.words r.names).contains name
  ((rows.find? fun r => (Text.words r.kinds).contains kindName).orElse fun _ =>
    rows.find? fun r => r.kinds.isEmpty).map fun r => Text.clean r.text

end CommandLine
