import DocSchema.Number.Binary64

/-!
# DocSchema.Json.Basic

JSON documents. A number is an integer or a double, as it was written; the fields of an object have
an order, and a field that is set again keeps its place.
-/

namespace DocSchema

/-- A JSON document. -/
inductive Json where
  | null
  | bool (b : Bool)
  | integer (n : Int)
  | real (d : Binary64)
  | string (s : String)
  | array (items : List Json)
  | object (fields : List (String × Json))
deriving Inhabited

namespace Json

/-- The fields of an object with one more, which takes the place of one with its name. -/
def insertField : List (String × Json) → String → Json → List (String × Json)
  | [], key, j => [(key, j)]
  | (key', j') :: fields, key, j =>
    if key' = key then (key, j) :: fields else (key', j') :: insertField fields key j

/-- The value of a field, if the document is an object that has it. -/
def field? : Json → String → Option Json
  | .object fields, key => fields.lookup key
  | _, _ => none

end Json

end DocSchema
