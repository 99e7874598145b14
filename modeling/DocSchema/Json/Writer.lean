import DocSchema.Json.Basic
import DocSchema.Number.Shortest

/-!
# DocSchema.Json.Writer

The two written forms of JSON documents, compact and indented.
-/

namespace DocSchema

namespace Json

/-- A character inside a string: the quote, the backslash and the controls are escaped, and all
else stands as it is. -/
def escapeChar (c : Char) : List Char :=
  if c = '"' ∨ c = '\\' then ['\\', c]
  else if c = '\x08' then ['\\', 'b']
  else if c = '\t' then ['\\', 't']
  else if c = '\n' then ['\\', 'n']
  else if c = '\x0c' then ['\\', 'f']
  else if c = '\r' then ['\\', 'r']
  else if c.toNat < 0x20 then
    ['\\', 'u', '0', '0', Nat.digitChar (c.toNat / 16), Nat.digitChar (c.toNat % 16)]
  else [c]

/-- A string with its quotes. -/
def stringChars (s : String) : List Char := '"' :: s.toList.flatMap escapeChar ++ ['"']

/-- The word for a truth value. -/
def boolChars (b : Bool) : List Char := (if b then "true" else "false").toList

/-- A double; only a finite one is a number of JSON. -/
def realChars (d : Binary64) : List Char :=
  if d.isNaN || d.isInfinite then "null".toList else (Number.pointedText d).toList

mutual

/-- The compact form, without a blank. -/
def compactChars : Json → List Char
  | .null => "null".toList
  | .bool b => boolChars b
  | .integer n => Number.signedDigits n
  | .real d => realChars d
  | .string s => stringChars s
  | .array items => '[' :: compactItems true items ++ [']']
  | .object fields => '\x7b' :: compactFields true fields ++ ['\x7d']

def compactItems (first : Bool) : List Json → List Char
  | [] => []
  | j :: js => (if first then [] else [',']) ++ compactChars j ++ compactItems false js

def compactFields (first : Bool) : List (String × Json) → List Char
  | [] => []
  | (key, j) :: fields =>
    (if first then [] else [',']) ++ stringChars key ++ ':' :: compactChars j ++
      compactFields false fields

end

/-- The beginning of a line at some depth: two blanks for every level. -/
def newline (depth : Nat) : List Char := '\n' :: List.replicate (2 * depth) ' '

mutual

/-- The indented form: every item and every field has a line of its own. -/
def indentedChars (depth : Nat) : Json → List Char
  | .null => "null".toList
  | .bool b => boolChars b
  | .integer n => Number.signedDigits n
  | .real d => realChars d
  | .string s => stringChars s
  | .array [] => ['[', ']']
  | .array (j :: js) =>
    '[' :: indentedItems (depth + 1) true (j :: js) ++ newline depth ++ [']']
  | .object [] => ['\x7b', '\x7d']
  | .object (f :: fs) =>
    '\x7b' :: indentedFields (depth + 1) true (f :: fs) ++ newline depth ++ ['\x7d']

def indentedItems (depth : Nat) (first : Bool) : List Json → List Char
  | [] => []
  | j :: js =>
    (if first then [] else [',']) ++ newline depth ++ indentedChars depth j ++
      indentedItems depth false js

def indentedFields (depth : Nat) (first : Bool) : List (String × Json) → List Char
  | [] => []
  | (key, j) :: fields =>
    (if first then [] else [',']) ++ newline depth ++ stringChars key ++ ':' :: ' ' ::
      indentedChars depth j ++ indentedFields depth false fields

end

/-- The compact text of a document. -/
def compact (j : Json) : String := .ofList (compactChars j)

/-- The indented text of a document. -/
def indented (j : Json) : String := .ofList (indentedChars 0 j)

end Json

end DocSchema
