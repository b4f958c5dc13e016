import PluginGateway.Number.Binary64

/-!
# JSON values and what can be wrong with a JSON text

A value of the data format JSON. The fields of an object are kept in the order in which their keys
first appeared; putting a value under a key that is there already keeps the key's place. A number is
an integer as long as 64 bits hold it and a double otherwise.

A text that is no JSON document has a `Fault`, each kind with its wording. A `SyntaxError` says where
reading stopped: the line, counted from one, and the byte of that line.
-/

namespace PluginGateway

/-! ## Values -/

/-- A number of a JSON document. -/
inductive Json.Number where
  /-- A natural number below `2 ^ 64`. -/
  | natural (n : Nat)
  /-- The negative of a positive number up to `2 ^ 63`. -/
  | negative (n : Nat)
  /-- Any other number, rounded to a double. -/
  | double (x : Binary64)
  deriving DecidableEq, Repr

/-- A JSON value. -/
inductive Json where
  /-- The literal `null`. -/
  | null
  /-- A truth value. -/
  | bool (b : Bool)
  /-- A number. -/
  | number (n : Json.Number)
  /-- A string. -/
  | string (s : String)
  /-- A list of values. -/
  | array (items : List Json)
  /-- Fields in order of their first appearance. -/
  | object (fields : List (String × Json))
  deriving Repr

namespace Json

/-- The value under a key of an object, if the value is an object and has the key. -/
def get? (key : String) : Json → Option Json
  | object fields => fields.lookup key
  | _ => none

/-- The text of a string value. -/
def string? : Json → Option String
  | string s => some s
  | _ => none

/-- The value is an object. -/
def isObject : Json → Bool
  | object _ => true
  | _ => false

/-! ## Faults of a text -/

/-- A reason why a text is no JSON document. -/
inductive Fault where
  | endInValue
  | endInArray
  | endInObject
  | endInString
  | expectedValue
  | expectedLiteral
  | expectedColon
  | expectedCommaOrBracket
  | expectedCommaOrBrace
  | keyNotString
  | trailingComma
  | trailingCharacters
  | invalidNumber
  | numberOutOfRange
  | invalidEscape
  | endOfHexEscape
  | loneSurrogate
  | controlCharacter
  | invalidUnicode
  | tooDeep
  deriving DecidableEq, Repr

/-- The wording of a fault. -/
def Fault.message : Fault → String
  | endInValue => "EOF while parsing a value"
  | endInArray => "EOF while parsing a list"
  | endInObject => "EOF while parsing an object"
  | endInString => "EOF while parsing a string"
  | expectedValue => "expected value"
  | expectedLiteral => "expected ident"
  | expectedColon => "expected `:`"
  | expectedCommaOrBracket => "expected `,` or `]`"
  | expectedCommaOrBrace => "expected `,` or `\x7d`"
  | keyNotString => "key must be a string"
  | trailingComma => "trailing comma"
  | trailingCharacters => "trailing characters"
  | invalidNumber => "invalid number"
  | numberOutOfRange => "number out of range"
  | invalidEscape => "invalid escape"
  | endOfHexEscape => "unexpected end of hex escape"
  | loneSurrogate => "lone leading surrogate in hex escape"
  | controlCharacter => "control character (\\u0000-\\u001F) found while parsing a string"
  | invalidUnicode => "invalid unicode code point"
  | tooDeep => "recursion limit exceeded"

/-- A fault and the place where reading stopped. -/
structure SyntaxError where
  /-- What is wrong. -/
  fault : Fault
  /-- The line, from one. -/
  line : Nat
  /-- How many bytes of the line were looked at. -/
  column : Nat
  deriving DecidableEq, Repr

/-- The wording of a fault with its place. -/
def SyntaxError.message (e : SyntaxError) : String :=
  e.fault.message ++ " at line " ++ toString e.line ++ " column " ++ toString e.column

end Json

end PluginGateway
