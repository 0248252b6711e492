import ElmPrerender.Json.Printer
import ElmPrerender.Text.Quoted

/-!
What can be wrong with a JSON text, and where. A fault knows how much of the text was still unread;
its line and column follow from the part that was read.
-/

namespace ElmPrerender.Json

/-- A value of the wrong kind, as it is named in a message. -/
inductive Found where
  | null
  | bool (value : Bool)
  | integer (value : Int)
  | float (value : Decimal.Binary64)
  | string (value : String)
  | array
  | object
  deriving DecidableEq, Repr

namespace Found

def ofNumber : Number → Found
  | .integer i => .integer i
  | .float x => .float x

def ofValue : Value → Found
  | .null => .null
  | .bool b => .bool b
  | .number n => ofNumber n
  | .string s => .string s
  | .array _ => .array
  | .object _ => .object

def text : Found → String
  | .null => "null"
  | .bool b => "boolean `" ++ String.ofList (boolText b) ++ "`"
  | .integer i => "integer `" ++ String.ofList (integerText i) ++ "`"
  | .float x => "floating point `" ++ String.ofList (floatLayout.finite x) ++ "`"
  | .string s => "string " ++ Text.quoted s
  | .array => "sequence"
  | .object => "map"

end Found

inductive Cause where
  | endInList
  | endInObject
  | endInString
  | endInValue
  | expectedColon
  | expectedListCommaOrEnd
  | expectedObjectCommaOrEnd
  | expectedKeyword
  | expectedValue
  | invalidEscape
  | invalidNumber
  | numberOutOfRange
  | invalidCodePoint
  | controlCharacter
  | keyMustBeString
  | loneSurrogate
  | trailingComma
  | trailingCharacters
  | unexpectedEndOfEscape
  | tooDeep
  | wrongKind (found : Found) (expected : String)
  | unknownField (name : String) (expected : List String)
  | duplicateField (name : String)
  | missingField (name : String)
  | wrongLength (length : Nat) (expected : String)
  deriving DecidableEq, Repr

namespace Cause

/-- Names set off by "or", each between backquotes. -/
def alternatives (names : List String) : String :=
  " or ".intercalate (names.map fun name => "`" ++ name ++ "`")

def message : Cause → String
  | .endInList => "EOF while parsing a list"
  | .endInObject => "EOF while parsing an object"
  | .endInString => "EOF while parsing a string"
  | .endInValue => "EOF while parsing a value"
  | .expectedColon => "expected `:`"
  | .expectedListCommaOrEnd => "expected `,` or `]`"
  | .expectedObjectCommaOrEnd => r"expected `,` or `}`"
  | .expectedKeyword => "expected ident"
  | .expectedValue => "expected value"
  | .invalidEscape => "invalid escape"
  | .invalidNumber => "invalid number"
  | .numberOutOfRange => "number out of range"
  | .invalidCodePoint => "invalid unicode code point"
  | .controlCharacter => "control character (\\u0000-\\u001F) found while parsing a string"
  | .keyMustBeString => "key must be a string"
  | .loneSurrogate => "lone leading surrogate in hex escape"
  | .trailingComma => "trailing comma"
  | .trailingCharacters => "trailing characters"
  | .unexpectedEndOfEscape => "unexpected end of hex escape"
  | .tooDeep => "recursion limit exceeded"
  | .wrongKind found expected => "invalid type: " ++ found.text ++ ", expected " ++ expected
  | .unknownField name expected =>
    "unknown field `" ++ name ++ "`, expected " ++ alternatives expected
  | .duplicateField name => "duplicate field `" ++ name ++ "`"
  | .missingField name => "missing field `" ++ name ++ "`"
  | .wrongLength length expected =>
    "invalid length " ++ toString length ++ ", expected " ++ expected

end Cause

/-- A cause, and how many bytes were unread where it was found. -/
structure Fault where
  cause : Cause
  unread : Nat
  deriving DecidableEq, Repr

/-- A place between two bytes: lines count from one, columns are the bytes since the line began. -/
structure Position where
  line : Nat
  column : Nat
  deriving DecidableEq, Repr

namespace Position

def start : Position := ⟨1, 0⟩

def lineFeed : UInt8 := 0x0A

def next (p : Position) (byte : UInt8) : Position :=
  if byte = lineFeed then ⟨p.line + 1, 0⟩ else ⟨p.line, p.column + 1⟩

/-- The place after some bytes. -/
def after (bytes : List UInt8) : Position := bytes.foldl next start

end Position

/-- A cause with its place in the text. -/
structure SyntaxError where
  cause : Cause
  position : Position
  deriving DecidableEq, Repr

def Fault.inText (fault : Fault) (text : List UInt8) : SyntaxError :=
  ⟨fault.cause, Position.after (text.take (text.length - fault.unread))⟩

def SyntaxError.message (e : SyntaxError) : String :=
  e.cause.message ++ " at line " ++ toString e.position.line ++ " column " ++
    toString e.position.column

end ElmPrerender.Json
