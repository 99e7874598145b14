import DocSchema.Json.Decoder
import DocSchema.Json.Pass

/-!
# DocSchema.Json.Record

Records as values of JSON. A record may be written as an object, whose fields come in any order and
whose unknown fields are passed over, or as the list of its fields in order, where fields that may
be left out may be missing at the end. It is read field by field into a draft, which is then
finished.
-/

namespace DocSchema.Json

/-- A field of a record: how it is read into a draft. -/
structure Field (δ : Type) where
  name : String
  required : Bool
  decoder : δ → Decoder δ

/-- A field whose value is read by itself and then goes into the draft. -/
def Field.of {δ α : Type} (name : String) (required : Bool) (d : Decoder α) (set : δ → α → δ) :
    Field δ :=
  ⟨name, required, fun draft => d.map (set draft)⟩

/-- How records of one type are read. -/
structure Shape (δ α : Type) where
  title : String
  fields : List (Field δ)
  blank : δ
  finish : δ → Except Fault α

/-- A field of a draft that must be there when the draft is finished. -/
def requireField {α : Type} (name : String) : Option α → Except Fault α
  | some a => .ok a
  | none => .error (.missingField name)

/-- How a message calls a record with all its fields. -/
def Shape.withCount {δ α : Type} (shape : Shape δ α) : String :=
  shape.title ++ " with " ++ .ofList (Nat.toDigits 10 shape.fields.length) ++
    (if shape.fields.length = 1 then " element" else " elements")

/-! ## Records in texts -/

/-- The fields of an object up to its end. A known field may be given once. Every field has a
token, so the number of tokens is fuel enough. -/
def readFields {δ : Type} (fields : List (Field δ)) : Nat → Bool → List String → δ → Reader δ
  | 0, _, _, _, _ => .error .endInObject
  | fuel + 1, first, given, draft, ts => do
    match ← beforeKey first ts with
    | none => .ok (draft, ts.drop 1)
    | some (key, ts) =>
      match fields.find? fun f => f.name == key with
      | some field =>
        if given.contains key then .error (.duplicateField key)
        else
          let (draft, ts) ← (field.decoder draft).read (← readColon ts)
          readFields fields fuel false (key :: given) draft ts
      | none => readFields fields fuel false given draft (← pass (← readColon ts))

/-- The end of a record that is written as a list, after its last field. -/
def readListEnd : List Token → Except Fault (List Token)
  | .closeBracket :: ts => .ok ts
  | [] => .error .endInList
  | .comma :: .closeBracket :: _ => .error .trailingComma
  | _ => .error .trailingCharacters

/-- The fields of a record that is written as a list. Where the list ends early, the fields that are
missing must not be required. -/
def readFieldList {δ : Type} (wanted : String) :
    List (Field δ) → Nat → δ → Reader δ
  | [], _, draft, ts => do .ok (draft, ← readListEnd ts)
  | field :: fields, position, draft, ts => do
    match ← beforeItem (position == 0) ts with
    | none =>
      if field.required then .error (.wrongLength position wanted)
      else readFieldList wanted fields (position + 1) draft ts
    | some ts =>
      let (draft, ts) ← (field.decoder draft).read ts
      readFieldList wanted fields (position + 1) draft ts

/-- Reads a record from a text. -/
def Shape.read {δ α : Type} (shape : Shape δ α) : Reader α
  | .openBrace :: ts => do
    let (draft, ts) ← readFields shape.fields ts.length true [] shape.blank ts
    .ok (← shape.finish draft, ts)
  | .openBracket :: ts => do
    let (draft, ts) ← readFieldList shape.withCount shape.fields 0 shape.blank ts
    .ok (← shape.finish draft, ts)
  | ts => .error (refusal shape.title ts)

/-! ## Records in documents -/

/-- The fields of an object, which names each of them once. -/
def takeFields {δ : Type} (fields : List (Field δ)) (draft : δ) :
    List (String × Json) → Except Fault δ
  | [] => .ok draft
  | (key, j) :: rest =>
    match fields.find? fun f => f.name == key with
    | some field => do takeFields fields (← (field.decoder draft).ofJson j) rest
    | none => takeFields fields draft rest

/-- The fields of a record that is a list: no required one is missing, and nothing comes after the
last. -/
def takeItems {δ : Type} (wanted : String) :
    List (Field δ) → Nat → δ → List Json → Except Fault δ
  | [], _, draft, [] => .ok draft
  | [], position, _, rest =>
    .error (.wrongLength (position + rest.length) "fewer elements in array")
  | field :: fields, position, draft, [] =>
    if field.required then .error (.wrongLength position wanted)
    else takeItems wanted fields (position + 1) draft []
  | field :: fields, position, draft, j :: rest => do
    takeItems wanted fields (position + 1) (← (field.decoder draft).ofJson j) rest

/-- Reads a record from a document. -/
def Shape.ofJson {δ α : Type} (shape : Shape δ α) : Json → Except Fault α
  | .object fields => do shape.finish (← takeFields shape.fields shape.blank fields)
  | .array items => do
    shape.finish (← takeItems shape.withCount shape.fields 0 shape.blank items)
  | j => .error (mismatch shape.title j)

/-- How records are read as parts of other values. -/
def Shape.decoder {δ α : Type} (shape : Shape δ α) : Decoder α := ⟨shape.read, shape.ofJson⟩

end DocSchema.Json
