import DocSchema.Json.Basic
import DocSchema.Json.Reader

/-!
# DocSchema.Json.Decoder

How values of a type are read, in two ways: from the tokens of a text, where its form is looked at
as it is read, and from a document, whose form is in order. Both accept the same values; they differ
in what they say about some of the others.
-/

namespace DocSchema.Json

/-- How values of one type are read: from the tokens of a text, and from a document. -/
structure Decoder (α : Type) where
  read : Reader α
  ofJson : Json → Except Fault α

/-- What a document is met as. -/
def met : Json → Met
  | .null => .null
  | .bool b => .bool b
  | .integer n => .integer n
  | .real d => .real d
  | .string s => .string s
  | .array _ => .sequence
  | .object _ => .map

/-- The fault of a document that is not of the kind that is wanted. -/
def mismatch (wanted : String) (j : Json) : Fault := .wrongKind j.met wanted

namespace Decoder

/-- Strings. -/
def text : Decoder String where
  read := readText
  ofJson
    | .string s => .ok s
    | j => .error (mismatch "a string" j)

/-- Truth values. -/
def bool : Decoder Bool where
  read := readBool
  ofJson
    | .bool b => .ok b
    | j => .error (mismatch "a boolean" j)

/-- What is made of the values of a decoder. -/
def map {α β : Type} (f : α → β) (d : Decoder α) : Decoder β where
  read ts := do
    let (a, ts) ← d.read ts
    .ok (f a, ts)
  ofJson j := do .ok (f (← d.ofJson j))

/-- Values that are then checked. -/
def checked {α β ε : Type} (check : α → Except ε β) (fault : ε → Fault) (d : Decoder α) :
    Decoder β where
  read ts := do
    let (a, ts) ← d.read ts
    .ok (← (check a).mapError fault, ts)
  ofJson j := do (check (← d.ofJson j)).mapError fault

/-- Values or null. In a text, whatever begins like null must be null. -/
def option {α : Type} (d : Decoder α) : Decoder (Option α) where
  read
    | .null :: ts => .ok (none, ts)
    | .spoilt .null asked _ :: _ => .error asked
    | ts => do
      let (a, ts) ← d.read ts
      .ok (some a, ts)
  ofJson
    | .null => .ok none
    | j => do .ok (some (← d.ofJson j))

/-- Lists of values. -/
def list {α : Type} (d : Decoder α) : Decoder (List α) where
  read := readList d.read
  ofJson
    | .array items => items.mapM d.ofJson
    | j => .error (mismatch "a sequence" j)

end Decoder

end DocSchema.Json
