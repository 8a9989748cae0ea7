import CommandLine.Value.Show

/-!
# Errors

Every way in which an operation ends without a value, by its cause.  `Error.kind` and
`Error.message` give the class and the wording of each.
-/

namespace CommandLine

def ErrorKind.name : ErrorKind → String
  | .value => "ValueError"
  | .type => "TypeError"
  | .key => "KeyError"
  | .runtime => "RuntimeError"
  | .attribute => "AttributeError"
  | .index => "IndexError"
  | .zeroDivision => "ZeroDivisionError"
  | .stopIteration => "StopIteration"
  | .notImplemented => "NotImplementedError"
  | .general => "Exception"
  | .exit => "SystemExit"
  | .interrupt => "KeyboardInterrupt"
  | .overflow => "OverflowError"
  | .unicodeDecode => "UnicodeDecodeError"
  | .lookup => "LookupError"
  | .assertion => "AssertionError"
  | .isADirectory => "IsADirectoryError"
  | .requiredParameter => "RequiredParameterException"
  | .missingSectionHeader => "MissingSectionHeaderError"
  | .duplicateSection => "DuplicateSectionError"
  | .duplicateOption => "DuplicateOptionError"
  | .parsing => "ParsingError"
  | .interpolationSyntax => "InterpolationSyntaxError"
  | .interpolationMissingOption => "InterpolationMissingOptionError"
  | .interpolationDepth => "InterpolationDepthError"

def ErrorKind.all : List ErrorKind :=
  [.value, .type, .key, .runtime, .attribute, .index, .zeroDivision, .stopIteration,
    .notImplemented, .general, .exit, .interrupt, .overflow, .unicodeDecode, .lookup, .assertion,
    .isADirectory, .requiredParameter, .missingSectionHeader, .duplicateSection, .duplicateOption,
    .parsing, .interpolationSyntax, .interpolationMissingOption, .interpolationDepth]

def ErrorKind.ofName? (s : String) : Option ErrorKind := ErrorKind.all.find? (·.name = s)

/-- is it caught where all ordinary errors are?  Leaving the program is not ordinary. -/
def ErrorKind.isOrdinary : ErrorKind → Bool
  | .exit | .interrupt => false
  | _ => true

inductive Error where
  /-- raised by a component's own code -/
  | raised (kind : ErrorKind) (message : String)
  /-- the program is left with a code -/
  | exit (code : Value)
  /-- a command is left with a code and its trace -/
  | commandExit (code : Nat) (trace : String)
  /-- the program never gets on: what stands for a run without end -/
  | endless
  | noSource
  | unhashable (kindName : String)
  | noClosingQuotation
  | noEscapedCharacter
  | badCommand
  | noCommandName
  | generatorRoutine
  | emptyMaximum
  | missingKey (shown : String)
  | noAttribute (kindName name : String)
  | noTypeAttribute (className name : String)
  | notSubscriptable (kindName : String)
  | classNotSubscriptable (className : String)
  | notCallable (kindName : String)
  | notIterable (kindName : String)
  | noLength (kindName : String)
  | indexOutOfRange (container : String)
  | badInt (shown : String)
  | badFloat (shown : String)
  | badComplex
  | strayUnderscore (shown : String)
  | notInt (kindName : String)
  | notFloat (kindName : String)
  | notComplex (kindName : String)
  | intOfNan
  | intOfInfinity
  | intTooLarge
  | intTextTooLong (digits : Nat)
  | intTooLongToWrite
  | noEncoding
  | notBytes (kindName : String)
  | notAnInteger (kindName : String)
  | byteRange
  | byteArrayRange
  | negativeCount
  | sequenceIndexTooLarge
  | updateElementLength (index length : Nat)
  | updateElementKind (index : Nat)
  | takesNothing (kindName : String)
  | notAPath (kindName : String)
  | notAPurePath (shownKind : String)
  | takesNone (name : String)
  | takesExactly (name : String) (expected given : Nat)
  | compared (op left right : String)
  | badOperand (op kindName : String)
  | requiredParameter (name : String)
  | notASchema
  | duplicateParameter (name : String)
  | type (message : String)
  | value (message : String)

namespace Error

def kind : Error → ErrorKind
  | raised k _ => k
  | exit _ | commandExit .. => .exit
  | endless => .interrupt
  | noSource | unhashable _ | notSubscriptable _ | classNotSubscriptable _ | notCallable _
  | notIterable _ | noLength _ | notInt _ | notFloat _ | notComplex _ | noEncoding
  | notBytes _ | notAnInteger _ | updateElementKind _ | takesNothing _ | notAPath _
  | notAPurePath _ | takesNone _ | takesExactly .. | compared .. | badOperand .. | notASchema
  | type _ => .type
  | noClosingQuotation | noEscapedCharacter | badCommand | noCommandName | emptyMaximum | badInt _
  | badFloat _ | badComplex | strayUnderscore _ | intOfNan | intTextTooLong _ | intTooLongToWrite | byteRange
  | byteArrayRange | negativeCount
  | updateElementLength .. | duplicateParameter _ | value _ => .value
  | generatorRoutine => .notImplemented
  | missingKey _ => .key
  | noAttribute .. | noTypeAttribute .. => .attribute
  | indexOutOfRange _ => .index
  | intOfInfinity | intTooLarge | sequenceIndexTooLarge => .overflow
  | requiredParameter _ => .requiredParameter

/-- a name in single quotes -/
def inQuotes (s : String) : String := "'" ++ s ++ "'"

def message : Error → String
  | raised .key m => Text.quoted m
  | raised _ m => m
  | exit code => code.plain
  | commandExit code _ => Number.natText code
  | endless => ""
  | noSource => "compile() arg 1 must be a string, bytes or AST object"
  | unhashable k => "unhashable type: " ++ inQuotes k
  | noClosingQuotation => "No closing quotation"
  | noEscapedCharacter => "No escaped character"
  | badCommand => "The command argument must be a string or a sequence of arguments."
  | noCommandName => "Cannot make completion script without command name"
  | generatorRoutine => ""
  | emptyMaximum => "max() arg is an empty sequence"
  | missingKey shown => shown
  | noAttribute k name => inQuotes k ++ " object has no attribute " ++ inQuotes name
  | noTypeAttribute c name => "type object " ++ inQuotes c ++ " has no attribute " ++ inQuotes name
  | notSubscriptable k => inQuotes k ++ " object is not subscriptable"
  | classNotSubscriptable c => "type " ++ inQuotes c ++ " is not subscriptable"
  | notCallable k => inQuotes k ++ " object is not callable"
  | notIterable k => inQuotes k ++ " object is not iterable"
  | noLength k => "object of type " ++ inQuotes k ++ " has no len()"
  | indexOutOfRange k => k ++ " index out of range"
  | badInt shown => "invalid literal for int() with base 10: " ++ shown
  | badFloat shown => "could not convert string to float: " ++ shown
  | badComplex => "complex() arg is a malformed string"
  | strayUnderscore shown => "could not convert string to complex: " ++ shown
  | notInt k =>
    "int() argument must be a string, a bytes-like object or a real number, not " ++ inQuotes k
  | notFloat k => "float() argument must be a string or a real number, not " ++ inQuotes k
  | notComplex k =>
    "complex() first argument must be a string or a number, not " ++ inQuotes k
  | intOfNan => "cannot convert float NaN to integer"
  | intOfInfinity => "cannot convert float infinity to integer"
  | intTooLarge => "int too large to convert to float"
  | intTextTooLong n =>
    "Exceeds the limit (4300 digits) for integer string conversion: value has " ++
      Number.natText n ++ " digits; use sys.set_int_max_str_digits() to increase the limit"
  | intTooLongToWrite =>
    "Exceeds the limit (4300 digits) for integer string conversion; " ++
      "use sys.set_int_max_str_digits() to increase the limit"
  | noEncoding => "string argument without an encoding"
  | notBytes k => "cannot convert " ++ inQuotes k ++ " object to bytes"
  | notAnInteger k => inQuotes k ++ " object cannot be interpreted as an integer"
  | byteRange => "bytes must be in range(0, 256)"
  | byteArrayRange => "byte must be in range(0, 256)"
  | negativeCount => "negative count"
  | sequenceIndexTooLarge => "cannot fit 'int' into an index-sized integer"
  | updateElementLength i n =>
    "dictionary update sequence element #" ++ Number.natText i ++ " has length " ++
      Number.natText n ++ "; 2 is required"
  | updateElementKind i =>
    "cannot convert dictionary update sequence element #" ++ Number.natText i ++ " to a sequence"
  | takesNothing k => k ++ " takes no arguments"
  | notAPath k => "expected str, bytes or os.PathLike object, not " ++ k
  | notAPurePath k =>
    "argument should be a str object or an os.PathLike object returning str, not " ++ k
  | takesNone name => name ++ " takes no arguments"
  | takesExactly name expected given =>
    name ++ " takes exactly " ++ Number.natText expected ++ " argument" ++
      (if expected = 1 then "" else "s") ++ " (" ++ Number.natText given ++ " given)"
  | compared op l r =>
    inQuotes op ++ " not supported between instances of " ++ inQuotes l ++ " and " ++ inQuotes r
  | badOperand op k => "bad operand type for " ++ op ++ ": " ++ inQuotes k
  | requiredParameter name => "Missing argument for \"" ++ name ++ "\""
  | notASchema => "The configuration should inherit Schema"
  | duplicateParameter name => "duplicate parameter name: " ++ inQuotes name
  | type m => m
  | value m => m

end Error

end CommandLine
