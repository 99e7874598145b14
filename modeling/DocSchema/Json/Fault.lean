import DocSchema.Name
import DocSchema.Number.Shortest

/-!
# DocSchema.Json.Fault

What can be wrong with a JSON text that is read as a value of a known type: its form, or what it
says. Reading is one pass, and the first fault met is the one reported.
-/

namespace DocSchema.Json

/-- The kind of value met where another was wanted. -/
inductive Met where
  | null
  | bool (b : Bool)
  | integer (n : Int)
  | real (d : Binary64)
  | string (s : String)
  | sequence
  | map
deriving DecidableEq, Repr

/-- A fault of a JSON text. -/
inductive Fault where
  | endInValue
  | endInString
  | endInList
  | endInObject
  | expectedValue
  | expectedWord
  | expectedColon
  | expectedCommaOrBrace
  | expectedCommaOrBracket
  | keyNotString
  | trailingComma
  | trailingCharacters
  | invalidNumber
  | numberOutOfRange
  | invalidEscape
  | loneSurrogate
  | unpairedEscape
  | controlCharacter
  | missingField (name : String)
  | duplicateField (name : String)
  | unknownVariant (word : String)
  | wrongKind (met : Met) (wanted : String)
  | wrongLength (length : Nat) (wanted : String)
  /-- An object in the place of a variant has no key or several. -/
  | notOneKey
  | badName (e : NameError)
deriving DecidableEq, Repr

/-- How a message calls what was met. -/
def Met.text : Met → String
  | .null => "null"
  | .bool b => "boolean `" ++ (if b then "true" else "false") ++ "`"
  | .integer n => "integer `" ++ .ofList (Number.signedDigits n) ++ "`"
  | .real d => "floating point `" ++ Number.pointedText d ++ "`"
  | .string s => "string " ++ Text.quote s
  | .sequence => "sequence"
  | .map => "map"

/-- What a fault is answered with. -/
def Fault.message : Fault → String
  | .endInValue => "EOF while parsing a value"
  | .endInString => "EOF while parsing a string"
  | .endInList => "EOF while parsing a list"
  | .endInObject => "EOF while parsing an object"
  | .expectedValue => "expected value"
  | .expectedWord => "expected ident"
  | .expectedColon => "expected `:`"
  | .expectedCommaOrBrace => "expected `,` or `\x7d`"
  | .expectedCommaOrBracket => "expected `,` or `]`"
  | .keyNotString => "key must be a string"
  | .trailingComma => "trailing comma"
  | .trailingCharacters => "trailing characters"
  | .invalidNumber => "invalid number"
  | .numberOutOfRange => "number out of range"
  | .invalidEscape => "invalid escape"
  | .loneSurrogate => "lone leading surrogate in hex escape"
  | .unpairedEscape => "unexpected end of hex escape"
  | .controlCharacter => "control character (\\u0000-\\u001F) found while parsing a string"
  | .missingField name => "missing field `" ++ name ++ "`"
  | .duplicateField name => "duplicate field `" ++ name ++ "`"
  | .unknownVariant word => "unknown variant `" ++ word ++ "`, expected `null` or `absent`"
  | .wrongKind met wanted => "invalid type: " ++ met.text ++ ", expected " ++ wanted
  | .wrongLength length wanted =>
    "invalid length " ++ .ofList (Nat.toDigits 10 length) ++ ", expected " ++ wanted
  | .notOneKey => "invalid value: map, expected map with a single key"
  | .badName e => e.message

end DocSchema.Json
