import EventTables.Json.Value
import EventTables.Text.Quoted

/-!
# Reading Errors

What can be wrong with a JSON document, and the words for it.

A `Fault` is a place where the text stops being JSON. An `Error` is either such
a fault or a well-formed value that is not what the reader wanted.

## Main definitions

* `Fault`: The ways in which text fails to be JSON.
* `Found`: What a reader came upon in place of what it wanted.
* `Error`: Why a document was refused.
* `Error.message`: The error in words.
-/

namespace EventTables

namespace Json

/-- A way in which text fails to be JSON. -/
inductive Fault where
  /-- The text ends where a value, or the rest of one, is due. -/
  | endInValue
  /-- The text ends where an array goes on or closes. -/
  | endInArray
  /-- The text ends where an object goes on or closes. -/
  | endInObject
  /-- The text ends inside a string. -/
  | endInString
  /-- Something that begins no value stands where a value is due. -/
  | valueExpected
  /-- A word begins as one of the three words and goes on differently. -/
  | wordExpected
  | colonExpected
  | arraySeparatorExpected
  | objectSeparatorExpected
  | keyExpected
  /-- An array or object closes after a comma. -/
  | trailingComma
  /-- The document goes on after its value. -/
  | trailingText
  | badNumber
  | badEscape
  /-- The first half of a surrogate pair is not followed by an escape. -/
  | unpairedEscape
  /-- One half of a surrogate pair stands where the other half is due. -/
  | loneSurrogate
  /-- A kept string holds bytes that belong to no character. -/
  | notUnicode
  | controlCharacter
  /-- A double is beyond the largest finite one. -/
  | numberOutOfRange
  /-- More arrays and objects are open than may be. -/
  | tooDeep
deriving DecidableEq, Repr, Inhabited

/-- The fault in words. -/
def Fault.message : Fault → String
  | .endInValue => "EOF while parsing a value"
  | .endInArray => "EOF while parsing a list"
  | .endInObject => "EOF while parsing an object"
  | .endInString => "EOF while parsing a string"
  | .valueExpected => "expected value"
  | .wordExpected => "expected ident"
  | .colonExpected => "expected `:`"
  | .arraySeparatorExpected => "expected `,` or `]`"
  | .objectSeparatorExpected => "expected `,` or `\x7d`"
  | .keyExpected => "key must be a string"
  | .trailingComma => "trailing comma"
  | .trailingText => "trailing characters"
  | .badNumber => "invalid number"
  | .badEscape => "invalid escape"
  | .unpairedEscape => "unexpected end of hex escape"
  | .loneSurrogate => "lone leading surrogate in hex escape"
  | .notUnicode => "invalid unicode code point"
  | .controlCharacter => "control character (\\u0000-\\u001F) found while parsing a string"
  | .numberOutOfRange => "number out of range"
  | .tooDeep => "recursion limit exceeded"

/-- What a reader came upon. -/
inductive Found where
  | null
  | boolean (b : Bool)
  | number (n : Number)
  | string (s : String)
  | sequence
  | map
deriving Inhabited

/-- What was found, in words. -/
def Found.message : Found → String
  | .null => "null"
  | .boolean true => "boolean `true`"
  | .boolean false => "boolean `false`"
  | .number (.double x) => "floating point `" ++ String.ofList (Decimal.ofFloat x) ++ "`"
  | .number n => "integer `" ++ String.ofList n.digits ++ "`"
  | .string s => "string " ++ Text.quoteText s
  | .sequence => "sequence"
  | .map => "map"

/-- Why a document was refused. -/
inductive Error where
  /-- The text is not JSON. -/
  | malformed (fault : Fault)
  /-- A value is of another kind than the one wanted. -/
  | wrongKind (found : Found) (wanted : String)
  /-- A value is of the kind wanted and outside its range. -/
  | outOfRange (found : Found) (wanted : String)
  /-- An array has too few or too many items. -/
  | wrongLength (length : Nat) (wanted : String)
  /-- A member without a default is missing. -/
  | missingMember (name : String)
  /-- A known member is given twice. -/
  | repeatedMember (name : String)
deriving Inhabited

/-- The error in words. -/
def Error.message : Error → String
  | .malformed fault => fault.message
  | .wrongKind found wanted => "invalid type: " ++ found.message ++ ", expected " ++ wanted
  | .outOfRange found wanted => "invalid value: " ++ found.message ++ ", expected " ++ wanted
  | .wrongLength n wanted =>
    "invalid length " ++ String.ofList (Text.decimal n) ++ ", expected " ++ wanted
  | .missingMember name => "missing field `" ++ name ++ "`"
  | .repeatedMember name => "duplicate field `" ++ name ++ "`"

end Json

end EventTables
