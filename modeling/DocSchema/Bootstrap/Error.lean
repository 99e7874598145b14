import DocSchema.Duration
import DocSchema.Schema.Error
import DocSchema.Store.Error

/-!
# DocSchema.Bootstrap.Error

What ends a bootstrap run early. Declarations that were applied before stay in place.
-/

namespace DocSchema

/-- Why a bootstrap run ended. -/
inductive BootstrapError where
  | connection (text : String)
  /-- Stored documents violate a unique index that is declared. -/
  | constraintViolation (collection field text : String)
  /-- An index of this name or key exists with other options. -/
  | conflictingDefinition (collection index text : String)
  | permissionDenied (text : String)
  /-- A declaration took longer than it may. -/
  | timeout (declaration : String) (after : Duration)
  | invalidConfig (text : String)
  | invalidSchema (e : SchemaError)
  | store (text : String)
deriving DecidableEq, Repr

namespace BootstrapError

/-- What a run that ended early is answered with. -/
def message : BootstrapError → String
  | .connection text => "connection error: " ++ text
  | .constraintViolation collection field text =>
    "existing documents in " ++ collection ++ " violate the unique index on " ++ field ++
      "; deduplicate existing documents before re-running (" ++ text ++ ")"
  | .conflictingDefinition collection index text =>
    "conflicting definition for index " ++ collection ++ "." ++ index ++ ": " ++ text
  | .permissionDenied text => "permission denied: " ++ text
  | .timeout declaration after => declaration ++ " did not complete within " ++ after.text
  | .invalidConfig text => "invalid configuration: " ++ text
  | .invalidSchema e => "invalid schema: " ++ e.message
  | .store text => "store error: " ++ text

/-- The exit code of the program. -/
def exitCode : BootstrapError → Nat
  | .invalidSchema _ | .invalidConfig _ => 2
  | .connection _ | .timeout _ _ => 3
  | .permissionDenied _ => 4
  | .constraintViolation _ _ _ | .conflictingDefinition _ _ _ => 5
  | .store _ => 1

/-- The error of a run whose request failed. -/
def ofStore : StoreError → BootstrapError
  | .connection text | .timeout text => .connection text
  | .unauthorized text => .permissionDenied text
  | .duplicateKey collection field text => .constraintViolation collection field text
  | .conflict collection index text => .conflictingDefinition collection index text
  | .database text => .store text

end BootstrapError

end DocSchema
