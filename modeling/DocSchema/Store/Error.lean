/-!
# DocSchema.Store.Error

What can go wrong when a store is asked something.
-/

namespace DocSchema

/-- Why a store did not do what it was asked. Texts are the store's own. -/
inductive StoreError where
  | connection (text : String)
  | unauthorized (text : String)
  /-- A unique index of the collection refuses a document. -/
  | duplicateKey (collection field text : String)
  /-- An index of this name exists with other options. -/
  | conflict (collection index text : String)
  | timeout (text : String)
  | database (text : String)
deriving DecidableEq, Repr

namespace StoreError

/-- What a failed request is answered with. -/
def message : StoreError → String
  | .connection text => "connection error: " ++ text
  | .unauthorized text => "unauthorized: " ++ text
  | .duplicateKey collection field text =>
    "duplicate key in " ++ collection ++ "." ++ field ++ ": " ++ text
  | .conflict collection index text =>
    "conflicting index " ++ collection ++ "." ++ index ++ ": " ++ text
  | .timeout text => "operation timed out: " ++ text
  | .database text => "database error: " ++ text

/-- Whether the store itself cannot be used. -/
def isConnection : StoreError → Bool
  | .connection _ | .timeout _ => true
  | _ => false

end StoreError

end DocSchema
