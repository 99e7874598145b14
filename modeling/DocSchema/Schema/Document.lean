import DocSchema.Json.Record
import DocSchema.Json.Writer
import DocSchema.Schema.Basic

/-!
# DocSchema.Schema.Document

Schemas as JSON documents: written with every field, and read with the defaults of those that are
left out. Names are checked as they are read.
-/

namespace DocSchema

open Json (Reader Decoder Field Shape Fault)

/-! ## Names and conventions -/

/-- How names of collections are read. -/
def CollectionName.decoder : Decoder CollectionName := Decoder.text.checked ofText .badName

/-- How names of fields are read. -/
def FieldName.decoder : Decoder FieldName := Decoder.text.checked ofText .badName

/-- The convention that is written with exactly this word. -/
def SoftDelete.ofWord (word : String) : Except Fault SoftDelete :=
  if word = "null" then .ok .null
  else if word = "absent" then .ok .absent
  else .error (.unknownVariant word)

/-- The end of a convention that is written as an object with null as its only value. -/
def SoftDelete.readNullField (convention : SoftDelete) : Reader SoftDelete
  | .null :: .closeBrace :: ts => .ok (convention, ts)
  | [.null] => .error .endInObject
  | .null :: _ => .error .expectedValue
  | ts => .error (Json.refusal "unit" ts)

/-- Reads a convention in a text: its word, or an object with the word as its only key. In an object
without a key the value is missed, and not the key. -/
def SoftDelete.read : Reader SoftDelete
  | .string word :: ts => do .ok (← ofWord word, ts)
  | .openBrace :: .string word :: ts => do readNullField (← ofWord word) (← Json.readColon ts)
  | .spoilt .string asked _ :: _ | .openBrace :: .spoilt .string asked _ :: _ => .error asked
  | [.openBrace] => .error .endInObject
  | .openBrace :: .closeBrace :: _ => .error .expectedValue
  | .openBrace :: _ => .error .keyNotString
  | [] => .error .endInValue
  | _ => .error .expectedValue

/-- The convention in a document. -/
def SoftDelete.ofJson : Json → Except Fault SoftDelete
  | .string word => ofWord word
  | .object [(word, j)] => do
    let convention ← ofWord word
    match j with
    | .null => .ok convention
    | j => .error (Json.mismatch "unit" j)
  | .object _ => .error .notOneKey
  | j => .error (Json.mismatch "string or map" j)

/-- How conventions are read. -/
def SoftDelete.decoder : Decoder SoftDelete := ⟨SoftDelete.read, SoftDelete.ofJson⟩

/-! ## Indexes -/

/-- An index of which some fields have been read. -/
structure IndexDraft where
  collection : Option CollectionName
  field : Option FieldName
  unique : Bool
  activeOnly : Option SoftDelete

/-- How declared indexes are read: they are unique and unrestricted unless they say otherwise. -/
def IndexSpec.shape : Shape IndexDraft IndexSpec where
  title := "struct IndexSpec"
  fields := [
    .of "collection" true CollectionName.decoder fun d c => { d with collection := some c },
    .of "field" true FieldName.decoder fun d f => { d with field := some f },
    .of "unique" false .bool fun d unique => { d with unique },
    .of "partial_filter" false SoftDelete.decoder.option fun d activeOnly => { d with activeOnly }]
  blank := { collection := none, field := none, unique := true, activeOnly := none }
  finish := fun d => do
    let collection ← Json.requireField "collection" d.collection
    let field ← Json.requireField "field" d.field
    .ok { collection, field, unique := d.unique, activeOnly := d.activeOnly }

/-- The fields of a declared index as a JSON document. -/
def IndexSpec.jsonFields (s : IndexSpec) : List (String × Json) :=
  [("collection", .string s.collection.text),
   ("field", .string s.field.text),
   ("unique", .bool s.unique),
   ("partial_filter", match s.activeOnly with
    | none => .null
    | some convention => .string convention.text)]

/-- A declared index as a JSON document. -/
def IndexSpec.toJson (s : IndexSpec) : Json := .object s.jsonFields

/-- Reads a declared index from a JSON text. -/
def IndexSpec.ofJsonText (s : String) : Except Fault IndexSpec := Json.readWhole shape.read s

/-- Reads a declared index from a JSON document. -/
def IndexSpec.ofJson (j : Json) : Except Fault IndexSpec := shape.ofJson j

/-! ## Schemas -/

/-- How collections are read. -/
def Schema.collectionShape : Shape (Option CollectionName) CollectionName where
  title := "struct CollectionSpec"
  fields := [
    .of "name" true CollectionName.decoder fun _ c => some c]
  blank := none
  finish := Json.requireField "name"

/-- A schema of which some fields have been read. -/
structure SchemaDraft where
  database : Option String
  collections : List CollectionName
  indexes : List IndexSpec

namespace Schema

/-- How schemas are read: no collections and no indexes unless they are given. -/
def shape : Shape SchemaDraft Schema where
  title := "struct SchemaSpec"
  fields := [
    .of "database" true .text fun d name => { d with database := some name },
    .of "collections" false collectionShape.decoder.list fun d collections =>
      { d with collections },
    .of "indexes" false IndexSpec.shape.decoder.list fun d indexes => { d with indexes }]
  blank := { database := none, collections := [], indexes := [] }
  finish := fun d => do
    let database ← Json.requireField "database" d.database
    .ok { database, collections := d.collections, indexes := d.indexes }

/-- A schema as a JSON document. -/
def toJson (s : Schema) : Json :=
  .object
    [("database", .string s.database),
     ("collections", .array (s.collections.map fun c => .object [("name", .string c.text)])),
     ("indexes", .array (s.indexes.map IndexSpec.toJson))]

/-- Reads a schema from a JSON text, without checking that it is consistent. -/
def ofJsonText (s : String) : Except Fault Schema := Json.readWhole shape.read s

/-- Reads a schema from a JSON document, without checking that it is consistent. -/
def ofJson (j : Json) : Except Fault Schema := shape.ofJson j

end Schema

end DocSchema
