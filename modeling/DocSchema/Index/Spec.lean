import DocSchema.Name
import DocSchema.SoftDelete

/-!
# DocSchema.Index.Spec

Declared indexes: one field of one collection, in ascending order.
-/

namespace DocSchema

/-- A declared index. -/
structure IndexSpec where
  collection : CollectionName
  field : FieldName
  /-- Whether no two covered documents may share a value. -/
  unique : Bool
  /-- Restricts the index to active documents. -/
  activeOnly : Option SoftDelete
deriving DecidableEq

namespace IndexSpec

/-- Declarations on one collection are the same when they are on one field with the same options. -/
theorem eq_iff {a b : IndexSpec} (h : a.collection = b.collection) :
    a = b ↔ a.field = b.field ∧ a.unique = b.unique ∧ a.activeOnly = b.activeOnly := by
  cases a
  cases b
  simp_all

/-- The store's default name for an ascending index on one field. -/
def name (s : IndexSpec) : String := s.field.text ++ "_1"

/-- The spec restricted to the documents that are active under a convention. -/
def restrict (s : IndexSpec) (convention : SoftDelete) : IndexSpec :=
  { s with activeOnly := some convention }

/-- The text of a declared index, such as `users.email (unique, deleted_at null)`. -/
def text (s : IndexSpec) : String :=
  let kind := if s.unique then "unique" else "non-unique"
  let restriction := match s.activeOnly with
    | none => ""
    | some convention => ", " ++ deletedAt ++ " " ++ convention.text
  s.collection.text ++ "." ++ s.field.text ++ " (" ++ kind ++ restriction ++ ")"

end IndexSpec

end DocSchema
