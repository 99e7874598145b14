import DocSchema.Text.Split
import DocSchema.Value.Basic

/-!
# DocSchema.Value.Path

Dotted paths into documents. A path names a field of the document, then a field of the embedded
document found there, and so on; it runs into nothing at a missing field and at any value that is
not a document, an array included.
-/

namespace DocSchema

/-- The names along a path, from the outside in. There is always at least one, and names may be
empty. -/
def Path.segments (path : String) : List String := (Text.splitAll '.' path.toList).map .ofList

example : Path.segments "profile.email" = ["profile", "email"] := by decide
example : Path.segments ".a." = ["", "a", ""] := by decide

namespace Document

/-- The value found by following names from a document inwards. -/
def follow? (d : Document) : List String → Option Value
  | [] => none
  | [key] => d.get? key
  | key :: rest =>
    match d.get? key with
    | some (.document inner) => follow? inner rest
    | _ => none

/-- The value at a dotted path. -/
def getPath? (d : Document) (path : String) : Option Value := follow? d (Path.segments path)

end Document

end DocSchema
