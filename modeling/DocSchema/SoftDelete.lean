import DocSchema.Text.Blank
import DocSchema.Text.Quoted
import DocSchema.Value.Basic

/-!
# DocSchema.SoftDelete

Documents are deleted softly, by setting `deleted_at`. Two conventions say which documents are
active. They differ on a field that is present and null: the convention `null` counts the document
as active, the convention `absent` does not.
-/

namespace DocSchema

/-- The field that marks a document as deleted. -/
def deletedAt : String := "deleted_at"

/-- A convention for which documents are active. -/
inductive SoftDelete where
  /-- The field is missing or null. -/
  | null
  /-- The field is missing. -/
  | absent
deriving DecidableEq, Repr

namespace SoftDelete

/-- The word for a convention. -/
def text : SoftDelete → String
  | .null => "null"
  | .absent => "absent"

/-- The convention as a filter document. -/
def toFilter : SoftDelete → Document
  | .null => [(deletedAt, .null)]
  | .absent => [(deletedAt, .document [("$exists", .bool false)])]

/-- Whether a document is active. -/
def isActive (convention : SoftDelete) (d : Document) : Bool :=
  match d.get? deletedAt, convention with
  | none, _ => true
  | some .null, .null => true
  | _, _ => false

/-- A word that names no convention, without its outer blanks and in lower case. -/
structure UnknownWord where
  word : String
deriving DecidableEq, Repr

def UnknownWord.message (e : UnknownWord) : String :=
  "unknown soft-delete filter " ++ Text.quote e.word ++ " (expected \"null\" or \"absent\")"

/-- The convention that a word names, whatever its case and outer blanks. -/
def ofText (s : String) : Except UnknownWord SoftDelete :=
  let word := Text.lowerAscii (Text.trim s)
  if word = "null" then .ok .null
  else if word = "absent" ∨ word = "exists-false" ∨ word = "exists_false" then .ok .absent
  else .error ⟨word⟩

example : ofText " Absent " = .ok .absent := rfl
example : ofText "deleted" = .error ⟨"deleted"⟩ := rfl

end SoftDelete

end DocSchema
