import DocSchema.Schema.Document

/-!
# DocSchema.Schema.Error

Loading a schema, and everything that can go wrong with it: its file, its text, a name, or its
consistency.
-/

namespace DocSchema

/-- Why a schema cannot be used. -/
inductive SchemaError where
  | invalidName (e : NameError)
  | emptyDatabase
  | duplicateCollection (collection : String)
  | unknownCollection (collection index : String)
  | duplicateIndex (collection index : String)
  /-- The file could not be read; the reason is the system's. -/
  | unreadable (path reason : String)
  | malformed (fault : Json.Fault)
deriving DecidableEq, Repr

namespace SchemaError

/-- What a refused schema is answered with. -/
def message : SchemaError → String
  | .invalidName e => "invalid name: " ++ e.message
  | .emptyDatabase => "database name must not be empty"
  | .duplicateCollection collection => "collection declared twice: " ++ collection
  | .unknownCollection collection index =>
    "index " ++ index ++ " refers to undeclared collection " ++ collection
  | .duplicateIndex collection index => "index declared twice: " ++ collection ++ "." ++ index
  | .unreadable path reason => "failed to read schema file " ++ path ++ ": " ++ reason
  | .malformed fault => "failed to parse schema: " ++ fault.message

/-- The error that reports a fault of a schema. -/
def ofFault : SchemaFault → SchemaError
  | .emptyDatabase => .emptyDatabase
  | .duplicateCollection c => .duplicateCollection c.text
  | .unknownCollection i => .unknownCollection i.collection.text i.name
  | .duplicateIndex i => .duplicateIndex i.collection.text i.name

end SchemaError

namespace Schema

/-- Accepts consistent schemas. -/
def validate (s : Schema) : Except SchemaError Unit :=
  match s.fault? with
  | none => .ok ()
  | some fault => .error (.ofFault fault)

/-- The consistent schema in a JSON text. -/
def load (text : String) : Except SchemaError Schema :=
  match ofJsonText text with
  | .error fault => .error (.malformed fault)
  | .ok s => do
    s.validate
    .ok s

end Schema

end DocSchema
