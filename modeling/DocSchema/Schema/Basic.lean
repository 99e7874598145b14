import DocSchema.Index.Spec

/-!
# DocSchema.Schema.Basic

The schema of one database: the collections and the indexes that must exist, each in the order of
their creation, and the check that a schema is consistent.
-/

namespace DocSchema

/-- A schema. -/
structure Schema where
  database : String
  collections : List CollectionName
  indexes : List IndexSpec
deriving DecidableEq

/-- Why a schema is refused. -/
inductive SchemaFault where
  | emptyDatabase
  | duplicateCollection (collection : CollectionName)
  /-- The collection of an index is not declared. -/
  | unknownCollection (index : IndexSpec)
  /-- Two indexes of one collection share a name. -/
  | duplicateIndex (index : IndexSpec)
deriving DecidableEq

namespace Schema

/-- The schema with another database as its target. -/
def withDatabase (s : Schema) (database : String) : Schema := { s with database }

/-- The indexes declared on a collection, in order. -/
def indexesOn (s : Schema) (collection : CollectionName) : List IndexSpec :=
  s.indexes.filter fun i => i.collection == collection

/-- The first name that stands in the list a second time, or is among those seen before. -/
def firstRepeated? (seen : List CollectionName) : List CollectionName → Option CollectionName
  | [] => none
  | c :: cs => if seen.contains c then some c else firstRepeated? (c :: seen) cs

/-- The first fault among the indexes, given the declared collections and the collection and name of
each index before. -/
def firstIndexFault? (declared : List CollectionName) (seen : List (CollectionName × String)) :
    List IndexSpec → Option SchemaFault
  | [] => none
  | i :: is =>
    if !declared.contains i.collection then some (.unknownCollection i)
    else if seen.contains (i.collection, i.name) then some (.duplicateIndex i)
    else firstIndexFault? declared ((i.collection, i.name) :: seen) is

/-- The first fault of a schema, if it has one: of its database, then of its collections, then of
its indexes. -/
def fault? (s : Schema) : Option SchemaFault :=
  if Text.isBlankText s.database then some .emptyDatabase
  else match firstRepeated? [] s.collections with
    | some c => some (.duplicateCollection c)
    | none => firstIndexFault? s.collections [] s.indexes

end Schema

end DocSchema
