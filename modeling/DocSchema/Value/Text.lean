import DocSchema.Value.Basic
import DocSchema.Text.Base16
import DocSchema.Text.Base64
import DocSchema.Calendar

/-!
# DocSchema.Value.Text

The text of values inside messages. Strings and names stand in double quotes as they are, without
escapes, so the text is for reading and not for reading back.
-/

namespace DocSchema

namespace Value

/-- Texts with a comma between them. -/
def commaSeparated (texts : List String) : String := ", ".intercalate texts

/-- Digits of an integer. -/
def intText (n : Int) : String := .ofList (Number.signedDigits n)

mutual

/-- The text of a value. -/
def text : Value → String
  | .null => "null"
  | .undefined => "undefined"
  | .minKey => "MinKey"
  | .maxKey => "MaxKey"
  | .bool b => if b then "true" else "false"
  | .int32 n => intText n.toInt
  | .int64 n => intText n.toInt
  | .double d => Number.plainText d
  | .string s => "\"" ++ s ++ "\""
  | .array items => "[" ++ commaSeparated (itemTexts items) ++ "]"
  | .document [] => "\x7b\x7d"
  | .document (f :: fields) =>
    "\x7b " ++ commaSeparated (fieldTexts (f :: fields)) ++ " \x7d"
  | .dateTime ms => "DateTime(\"" ++ Calendar.plainText ms.toInt ++ "\")"
  | .objectId bytes => "ObjectId(\"" ++ Text.hexBytes bytes ++ "\")"
  | .binary bytes => "Binary(0x0, " ++ Text.base64 bytes ++ ")"
  | .regex pattern options => "/" ++ pattern ++ "/" ++ options
  | .timestamp time increment =>
    "Timestamp(" ++ intText time.toNat ++ ", " ++ intText increment.toNat ++ ")"
  | .code source => source
  | .symbol name => "Symbol(\"" ++ name ++ "\")"

def itemTexts : List Value → List String
  | [] => []
  | v :: vs => text v :: itemTexts vs

def fieldTexts : List (String × Value) → List String
  | [] => []
  | (key, v) :: fields => ("\"" ++ key ++ "\": " ++ text v) :: fieldTexts fields

end

end Value

/-- The text of a document. -/
def Document.text (d : Document) : String := Value.text (.document d)

end DocSchema
