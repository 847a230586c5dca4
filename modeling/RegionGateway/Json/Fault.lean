import RegionGateway.Number.Shortest
import RegionGateway.Text.Quoted

/-!
# Why a text cannot be read

The causes for which reading a JSON text, or a record from one, stops. `Fault.message` has their
wording.
-/

namespace RegionGateway

/-- What a reader was asked for. -/
inductive Expected where
  | text
  | flag
  | sequence
  | u16
  | u32
  | record (name : String)
  deriving DecidableEq

/-- The words for what was expected. -/
def Expected.words : Expected → String
  | .text => "a string"
  | .flag => "a boolean"
  | .sequence => "a sequence"
  | .u16 => "u16"
  | .u32 => "u32"
  | .record name => "struct " ++ name

/-- A value that is neither an array nor an object. -/
inductive Scalar where
  | null
  | bool (b : Bool)
  | int (i : Int)
  | float (x : Binary64)
  | str (s : String)
  deriving DecidableEq

/-- A value of another kind than the one asked for. -/
inductive Found where
  | scalar (value : Scalar)
  | sequence
  | map
  deriving DecidableEq

/-- The words for a value that was found. -/
def Found.words : Found → String
  | .scalar .null => "null"
  | .scalar (.bool b) => "boolean `" ++ (if b then "true" else "false") ++ "`"
  | .scalar (.int i) => "integer `" ++ String.ofList (decimalInt i) ++ "`"
  | .scalar (.float x) => "floating point `" ++ String.ofList x.text ++ "`"
  | .scalar (.str s) => "string " ++ Text.quoted s
  | .sequence => "sequence"
  | .map => "map"

/-- Why reading stopped. -/
inductive Fault where
  /-- The text ends where a value, or the rest of one, is due. -/
  | endInValue
  /-- The text ends inside an array. -/
  | endInList
  /-- The text ends inside an object. -/
  | endInObject
  /-- The text ends inside a string. -/
  | endInString
  /-- No value starts here. -/
  | valueExpected
  /-- A word that begins like a literal is none. -/
  | wordExpected
  /-- An element is followed by something else. -/
  | listEndExpected
  /-- A member is followed by something else. -/
  | objectEndExpected
  /-- A member's name is followed by something else. -/
  | colonExpected
  /-- A member does not start with a string. -/
  | keyExpected
  /-- A comma is followed by a closing bracket. -/
  | trailingComma
  /-- Something follows where the value is complete. -/
  | trailingCharacters
  /-- A raw control character stands inside a string. -/
  | controlInString
  /-- A backslash is followed by no known escape. -/
  | badEscape
  /-- The first half of a surrogate pair is not followed by an escape. -/
  | pairBroken
  /-- Half of a surrogate pair stands alone. -/
  | loneSurrogate
  /-- The bytes of a string are not UTF-8. -/
  | badUnicode
  /-- A number has a leading zero or lacks a digit. -/
  | badNumber
  /-- A number is too large. -/
  | numberRange
  /-- The value is nested too deeply. -/
  | tooDeep
  /-- A value is of another kind than the one asked for. -/
  | wrongType (found : Found) (expected : Expected)
  /-- An integer is outside the range asked for. -/
  | wrongValue (found : Int) (expected : Expected)
  /-- A record's field is given twice. -/
  | duplicateField (name : String)
  /-- A record's field is not given. -/
  | missingField (name : String)
  /-- An array has too few elements for a record of so many fields. -/
  | tooShort (length : Nat) (record : String) (fields : Nat)
  deriving DecidableEq

/-- The wording of a cause. -/
def Fault.message : Fault → String
  | .endInValue => "EOF while parsing a value"
  | .endInList => "EOF while parsing a list"
  | .endInObject => "EOF while parsing an object"
  | .endInString => "EOF while parsing a string"
  | .valueExpected => "expected value"
  | .wordExpected => "expected ident"
  | .listEndExpected => "expected `,` or `]`"
  | .objectEndExpected => "expected `,` or `\x7d`"
  | .colonExpected => "expected `:`"
  | .keyExpected => "key must be a string"
  | .trailingComma => "trailing comma"
  | .trailingCharacters => "trailing characters"
  | .controlInString => "control character (\\u0000-\\u001F) found while parsing a string"
  | .badEscape => "invalid escape"
  | .pairBroken => "unexpected end of hex escape"
  | .loneSurrogate => "lone leading surrogate in hex escape"
  | .badUnicode => "invalid unicode code point"
  | .badNumber => "invalid number"
  | .numberRange => "number out of range"
  | .tooDeep => "recursion limit exceeded"
  | .wrongType found expected => "invalid type: " ++ found.words ++ ", expected " ++ expected.words
  | .wrongValue found expected =>
    "invalid value: " ++ (Found.scalar (.int found)).words ++ ", expected " ++ expected.words
  | .duplicateField name => "duplicate field `" ++ name ++ "`"
  | .missingField name => "missing field `" ++ name ++ "`"
  | .tooShort length record fields =>
    "invalid length " ++ String.ofList (decimal length) ++ ", expected struct " ++ record ++ " with " ++
      String.ofList (decimal fields) ++ (if fields = 1 then " element" else " elements")

end RegionGateway
