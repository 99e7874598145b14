import DocSchema.Index.Definition
import DocSchema.Store.Error

/-!
# DocSchema.Store.Request

The requests that a store answers, each with the type of its answer. A store is bound to one
database. Anything that answers requests one after the other can stand for a store: a catalog in
memory, or a server that is sent commands.
-/

namespace DocSchema

/-- Whether a request for a collection created it. -/
inductive Creation where
  | created
  | alreadyExists
deriving DecidableEq, Repr

/-- A request to a store. -/
inductive Request where
  /-- Is the store reachable? -/
  | ping
  | listCollections
  | createCollection (name : CollectionName)
  | listIndexes (collection : CollectionName)
  | createIndex (spec : IndexSpec)
  | insert (collection : CollectionName) (document : Document)
  /-- Deletes softly the active documents whose value at the field equals this one. -/
  | softDelete (collection : CollectionName) (field : FieldName) (value : Value)

namespace Request

/-- What a request is answered with when all goes well. -/
def Answer : Request → Type
  | .ping => Unit
  | .listCollections => List String
  | .createCollection _ => Creation
  | .listIndexes _ => List IndexDefinition
  | .createIndex _ => Unit
  | .insert _ _ => Unit
  | .softDelete _ _ _ => Nat

/-- The result of a request. -/
abbrev Result (r : Request) : Type := Except StoreError r.Answer

/-- Whether a request may change the store. -/
def isWrite : Request → Bool
  | .ping | .listCollections | .listIndexes _ => false
  | .createCollection _ | .createIndex _ | .insert _ _ | .softDelete _ _ _ => true

end Request

end DocSchema
