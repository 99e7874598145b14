import DocSchema.Duration
import DocSchema.Store.Collections
import DocSchema.Store.Request

/-!
# DocSchema.Store.Memory

A store that is kept in memory. It enforces unique indexes on the documents they cover, where a
missing field counts as null, creates nothing twice, and never changes an index that exists.
-/

namespace DocSchema

/-- A failure that a catalog shows on every request. -/
inductive Failure where
  /-- No request reaches the store. -/
  | unreachable
  /-- Requests that may change the store are refused. -/
  | readOnly
  /-- Every request waits for this long first. -/
  | stalled (delay : Duration)
deriving DecidableEq, Repr

/-- Every request waits this many milliseconds first. -/
def Failure.stall (millis : Nat) : Failure := .stalled (.ofMillis millis)

/-- A store in memory, bound to one database. -/
structure Catalog where
  database : String
  failure : Option Failure
  collections : Collections

namespace Catalog

/-- A catalog without collections. -/
def empty (database : String) (failure : Option Failure) : Catalog :=
  ⟨database, failure, Collections.empty⟩

/-- The collection of a name; a collection that does not exist holds nothing. -/
def collection (c : Catalog) (name : CollectionName) : Collection :=
  (c.collections.get? name).getD .empty

/-- The catalog with another content of one collection. -/
def setCollection (c : Catalog) (name : CollectionName) (content : Collection) : Catalog :=
  { c with collections := c.collections.set name content }

/-- What a failing catalog answers. -/
def refusal? (c : Catalog) (isWrite : Bool) : Option StoreError :=
  match c.failure with
  | some .unreachable => some (.connection ("no reachable servers for database " ++ c.database))
  | some .readOnly =>
    if isWrite then
      some (.unauthorized ("not authorized on " ++ c.database ++ " to execute command"))
    else none
  | _ => none

/-- How long a request waits. -/
def delay (c : Catalog) : Duration :=
  match c.failure with
  | some (.stalled delay) => delay
  | _ => ⟨0⟩

/-! ## Indexes -/

/-- The first key that equals one before it. -/
def firstRepeated? (seen : List (List Value)) : List (List Value) → Option (List Value)
  | [] => none
  | key :: keys =>
    if seen.any (· == key) then some key else firstRepeated? (key :: seen) keys

/-- The first key that two covered documents share. -/
def sharedKey? (x : IndexDefinition) (documents : List Document) : Option (List Value) :=
  firstRepeated? [] ((documents.filter x.covers).map x.keyOf)

/-- The refusal of a key that is taken in a unique index. -/
def duplicateKey (c : Catalog) (collection : CollectionName) (x : IndexDefinition)
    (key : List Value) : StoreError :=
  .duplicateKey collection.text (",".intercalate x.fields)
    ("E11000 duplicate key error collection: " ++ c.database ++ "." ++ collection.text ++
      " index: " ++ x.name ++ " dup key: \x7b " ++
        Value.commaSeparated (key.map Value.text) ++ " \x7d")

/-- The refusal of an index where one of its name or keys exists with other options. -/
def conflict (collection : CollectionName) (existing requested : IndexDefinition) : StoreError :=
  .conflict collection.text existing.name
    ("an existing index has the same name or key with different options: existing [" ++
      existing.text ++ "], requested [" ++ requested.text ++ "]")

/-- Creates an index, and its collection with it. An index that is there already stays as it is. -/
def createIndex (c : Catalog) (s : IndexSpec) : Except StoreError Unit × Catalog :=
  let content := c.collection s.collection
  let declared := s.definition
  match declared.stateIn content.indexes with
  | .identical => (.ok (), c.setCollection s.collection content)
  | .conflicting existing =>
    (.error (conflict s.collection existing declared), c.setCollection s.collection content)
  | .missing =>
    match if declared.unique then sharedKey? declared content.documents else none with
    | some key =>
      (.error (c.duplicateKey s.collection declared key), c.setCollection s.collection content)
    | none =>
      (.ok (), c.setCollection s.collection
        { content with indexes := content.indexes ++ [declared] })

/-- Adds an index as it is, whatever indexes and documents there are. -/
def seedIndex (c : Catalog) (name : CollectionName) (x : IndexDefinition) : Catalog :=
  let content := c.collection name
  c.setCollection name { content with indexes := content.indexes ++ [x] }

/-! ## Documents -/

/-- Whether an index refuses a document next to the documents that are there. -/
def refuses (documents : List Document) (d : Document) (x : IndexDefinition) : Bool :=
  x.unique && x.covers d && documents.any fun e => x.covers e && x.keyOf e == x.keyOf d

/-- Adds a document, and its collection with it, unless a unique index refuses it. -/
def insert (c : Catalog) (name : CollectionName) (d : Document) :
    Except StoreError Unit × Catalog :=
  let content := c.collection name
  match content.indexes.find? (refuses content.documents d) with
  | some x => (.error (c.duplicateKey name x (x.keyOf d)), c.setCollection name content)
  | none => (.ok (), c.setCollection name { content with documents := content.documents ++ [d] })

/-- Whether a soft deletion by field and value selects a document: it is active and has the
value. -/
def selects (field : FieldName) (value : Value) (d : Document) : Bool :=
  ((d.getPath? field.text).any (· == value)) && SoftDelete.null.isActive d

/-- Marks the selected documents of a collection as deleted; the number of them. -/
def softDelete (now : Int64) (c : Catalog) (name : CollectionName) (field : FieldName)
    (value : Value) : Nat × Catalog :=
  match c.collections.get? name with
  | none => (0, c)
  | some content =>
    (content.documents.countP (selects field value),
      c.setCollection name
        { content with
          documents := content.documents.map fun d =>
            if selects field value d then d.insert deletedAt (.dateTime now) else d })

/-! ## Requests -/

/-- Does what is requested, at some time, on a catalog that does not fail. -/
def perform (now : Int64) (c : Catalog) : (r : Request) → r.Result × Catalog
  | .ping => (.ok (), c)
  | .listCollections => (.ok (c.collections.names.map (·.text)), c)
  | .createCollection name =>
    match c.collections.get? name with
    | some _ => (.ok .alreadyExists, c)
    | none => (.ok .created, c.setCollection name .empty)
  | .listIndexes name => (.ok (c.collection name).indexes, c)
  | .createIndex s => c.createIndex s
  | .insert name d => c.insert name d
  | .softDelete name field value =>
    let (count, c) := c.softDelete now name field value
    (.ok count, c)

/-- Answers a request at some time. -/
def answer (now : Int64) (c : Catalog) (r : Request) : r.Result × Catalog :=
  match c.refusal? r.isWrite with
  | some e => (.error e, c)
  | none => c.perform now r

end Catalog

end DocSchema
