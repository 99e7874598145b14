import DocSchema.Filter
import DocSchema.Index.Spec
import DocSchema.Value.Text

/-!
# DocSchema.Index.Definition

Indexes as a store describes them, and how a declared index stands to the indexes of its
collection: missing, there already, or in conflict with one that shares its name or its keys.
-/

namespace DocSchema

/-- An index as the store describes it. -/
structure IndexDefinition where
  name : String
  /-- The indexed fields and their directions, in order. -/
  keys : Document
  unique : Bool
  /-- The documents that the index covers; all of them without a filter. -/
  filter : Option Document

/-- The definition that a store holds once the declared index exists. -/
def IndexSpec.definition (s : IndexSpec) : IndexDefinition where
  name := s.name
  keys := [(s.field.text, .int32 1)]
  unique := s.unique
  filter := s.activeOnly.map SoftDelete.toFilter

namespace IndexDefinition

/-- A direction as an integer, so that a direction written as a double equals one written as an
integer. Text, hashed and geographic keys have direction 0, which no ascending key equals. -/
def direction : Value → Int
  | .int32 n => n.toInt
  | .int64 n => n.toInt
  | .double d => d.truncate
  | _ => 0

/-- The fields and their directions, in order. -/
def keyPattern (x : IndexDefinition) : List (String × Int) :=
  x.keys.map fun f => (f.1, direction f.2)

/-- The indexed fields, in order. -/
def fields (x : IndexDefinition) : List String := x.keys.map (·.1)

/-- Equality of filters, where one is given. -/
def sameFilter : Option Document → Option Document → Bool
  | none, none => true
  | some a, some b => Document.same a b
  | _, _ => false

/-- Whether two definitions describe the same index with the same options. -/
def agrees (x y : IndexDefinition) : Bool :=
  x.name == y.name && x.keyPattern == y.keyPattern && x.unique == y.unique &&
    sameFilter x.filter y.filter

/-- Equality of definitions field by field, directions by kind and value. -/
def same (x y : IndexDefinition) : Bool :=
  x.name == y.name && Document.same x.keys y.keys && x.unique == y.unique &&
    sameFilter x.filter y.filter

/-- Whether two definitions share their name or their key pattern. -/
def isRelated (x y : IndexDefinition) : Bool :=
  y.name == x.name || y.keyPattern == x.keyPattern

/-- The text of a definition. -/
def text (x : IndexDefinition) : String :=
  let restriction := match x.filter with
    | none => ""
    | some f => " partialFilterExpression=" ++ f.text
  x.name ++ " " ++ x.keys.text ++ " unique=" ++ (if x.unique then "true" else "false") ++
    restriction

/-- Whether the index covers a document. -/
def covers (x : IndexDefinition) (d : Document) : Bool :=
  match x.filter with
  | none => true
  | some f => Filter.accepts f d

/-- The key of a document: the values at the indexed paths, null where there is none. -/
def keyOf (x : IndexDefinition) (d : Document) : List Value :=
  x.fields.map fun path => (d.getPath? path).getD .null

end IndexDefinition

/-- How a declared index stands to the indexes of its collection. -/
inductive IndexState where
  /-- No index shares its name or its key pattern. -/
  | missing
  /-- The same index with the same options exists. -/
  | identical
  /-- This index shares its name or its key pattern and differs otherwise. -/
  | conflicting (existing : IndexDefinition)

/-- Looks at the related indexes alone: the first that does not agree is a conflict, and without
one any related index is the declared one. -/
def IndexDefinition.stateIn (declared : IndexDefinition) (existing : List IndexDefinition) :
    IndexState :=
  let related := existing.filter declared.isRelated
  match related.find? fun x => !declared.agrees x with
  | some x => .conflicting x
  | none => if related.isEmpty then .missing else .identical

end DocSchema
