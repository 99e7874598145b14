import DocSchema.Proofs.IndexStates
import DocSchema.Proofs.UniqueKeys

/-!
# DocSchema.Proofs.CatalogChanges

What a request can do to a catalog in memory, said once for all invariants of runs.

A refused request writes the content it found back to where it came from, so it changes nothing.
What is left are four changes, and `answer_change` says that a request makes one of them or none,
each under the condition that the catalog checks for it: a collection that did not exist, an index
that was missing and separates the documents, a document that clashes with none, or a soft deletion.
-/

namespace DocSchema.Catalog

variable (c : Catalog) (name other : CollectionName) (content : Collection)

/-! ## Contents -/

theorem get?_setCollection : (c.setCollection name content).collections.get? other =
    if name = other then some content else c.collections.get? other := by
  unfold setCollection
  split
  · next h => rw [h, Collections.get?_set_self]
  · next h => exact Collections.get?_set_of_ne _ _ h

@[simp] theorem collection_setCollection_self :
    (c.setCollection name content).collection name = content := by
  rw [collection, get?_setCollection, if_pos rfl, Option.getD_some]

theorem collection_setCollection_of_ne {name other : CollectionName} (h : name ≠ other) :
    (c.setCollection name content).collection other = c.collection other := by
  rw [collection, get?_setCollection, if_neg h, collection]

theorem collection_of_get?_eq_some {c : Catalog} {name : CollectionName} {content : Collection}
    (h : c.collections.get? name = some content) : c.collection name = content := by
  rw [collection, h, Option.getD_some]

theorem collection_of_get?_eq_none {c : Catalog} {name : CollectionName}
    (h : c.collections.get? name = none) : c.collection name = .empty := by
  rw [collection, h, Option.getD_none]

/-- Catalogs are determined by their database, their failure and what they hold under every name. -/
theorem ext_get? {a b : Catalog} (hdatabase : a.database = b.database)
    (hfailure : a.failure = b.failure)
    (h : ∀ name, a.collections.get? name = b.collections.get? name) : a = b := by
  have hcollections : a.collections = b.collections := Collections.ext h
  cases a
  cases b
  simp_all

/-- Writing back what was found changes nothing where the collection exists. -/
theorem setCollection_collection {c : Catalog} {name : CollectionName}
    (h : c.collection name ≠ .empty) : c.setCollection name (c.collection name) = c := by
  refine ext_get? rfl rfl fun other => ?_
  rw [get?_setCollection]
  split
  · next heq =>
    subst heq
    cases hget : c.collections.get? name with
    | none => exact absurd (collection_of_get?_eq_none hget) h
    | some content => rw [collection_of_get?_eq_some hget]
  · rfl

/-! ## Creating an index -/

/-- The key that keeps a declared index out of the catalog: two documents share it, where the index
is unique. -/
def violation? (s : IndexSpec) : Option (List Value) :=
  if s.unique then sharedKey? s.definition (c.collection s.collection).documents else none

/-- Nothing keeps a declared index out when it is not unique or separates the documents. -/
theorem violation?_eq_none_iff {c : Catalog} {s : IndexSpec} : c.violation? s = none ↔
    (s.unique = true → s.definition.Separates (c.collection s.collection).documents) := by
  unfold violation?
  split
  · next hu => simp only [sharedKey?_eq_none_iff, hu, true_implies]
  · next hu => simp only [hu, Bool.false_eq_true, false_implies]

/-- Creating an index changes the catalog only by adding an index that was missing and that nothing
keeps out. -/
theorem createIndex_eq (s : IndexSpec) : c.createIndex s =
    match s.definition.stateIn (c.collection s.collection).indexes with
    | .identical => (.ok (), c)
    | .conflicting existing => (.error (conflict s.collection existing s.definition), c)
    | .missing =>
      match c.violation? s with
      | some key => (.error (c.duplicateKey s.collection s.definition key), c)
      | none => (.ok (), c.seedIndex s.collection s.definition) := by
  have hviolation : (if s.definition.unique then
      sharedKey? s.definition (c.collection s.collection).documents else none) =
        c.violation? s := rfl
  simp only [createIndex, hviolation]
  cases hs : s.definition.stateIn (c.collection s.collection).indexes with
  | identical =>
      have hne : c.collection s.collection ≠ .empty := fun h =>
        IndexDefinition.ne_nil_of_stateIn_eq_identical hs (congrArg Collection.indexes h)
      simp only [setCollection_collection hne]
  | conflicting existing =>
      have hmem := IndexDefinition.mem_of_stateIn_eq_conflicting hs
      have hne : c.collection s.collection ≠ .empty := fun h =>
        List.ne_nil_of_mem hmem (congrArg Collection.indexes h)
      simp only [setCollection_collection hne]
  | missing =>
      cases hkey : c.violation? s with
      | none => rfl
      | some key =>
          have hne : c.collection s.collection ≠ .empty := fun h => by
            rw [violation?, h] at hkey
            split at hkey <;> contradiction
          simp only [setCollection_collection hne]

/-- Inserting changes the catalog only by adding a document that no unique index refuses. -/
theorem insert_eq (d : Document) : c.insert name d =
    match (c.collection name).indexes.find? (refuses (c.collection name).documents d) with
    | some x => (.error (c.duplicateKey name x (x.keyOf d)), c)
    | none => (.ok (), c.setCollection name
        { c.collection name with documents := (c.collection name).documents ++ [d] }) := by
  simp only [insert]
  cases hx : (c.collection name).indexes.find? (refuses (c.collection name).documents d) with
  | none => rfl
  | some x =>
      have hmem : x ∈ (c.collection name).indexes := List.mem_of_find?_eq_some hx
      have hne : c.collection name ≠ .empty := fun h =>
        List.ne_nil_of_mem hmem (congrArg Collection.indexes h)
      simp only [setCollection_collection hne]

/-! ## Changes -/

/-- A document after a soft deletion by field and value at some time. -/
def marked (now : Int64) (field : FieldName) (value : Value) (d : Document) : Document :=
  if selects field value d then d.insert deletedAt (.dateTime now) else d

/-- The changes that requests make, each with what the catalog has checked. -/
inductive Change (c : Catalog) : Catalog → Prop where
  | nothing : Change c c
  | collection (name : CollectionName) (hnew : c.collections.get? name = none) :
      Change c (c.setCollection name .empty)
  | index (s : IndexSpec)
      (hmissing : s.definition.stateIn (c.collection s.collection).indexes = .missing)
      (hunique : s.unique = true →
        s.definition.Separates (c.collection s.collection).documents) :
      Change c (c.seedIndex s.collection s.definition)
  | document (name : CollectionName) (d : Document)
      (hunique : ∀ x ∈ (c.collection name).indexes, x.unique = true →
        ∀ e ∈ (c.collection name).documents, x.clashes e d = false) :
      Change c (c.setCollection name
        { c.collection name with documents := (c.collection name).documents ++ [d] })
  | deletion (now : Int64) (name : CollectionName) (content : Collection)
      (hcontent : c.collections.get? name = some content) (field : FieldName) (value : Value) :
      Change c (c.setCollection name
        { content with documents := content.documents.map (marked now field value) })

/-- Creating an index changes a catalog in one way or not at all. -/
theorem createIndex_change (s : IndexSpec) : Change c (c.createIndex s).2 := by
  rw [createIndex_eq]
  cases hs : s.definition.stateIn (c.collection s.collection).indexes with
  | identical => exact .nothing
  | conflicting existing => exact .nothing
  | missing =>
      cases hkey : c.violation? s with
      | some key => exact .nothing
      | none => exact .index s hs (violation?_eq_none_iff.1 hkey)

/-- Inserting a document changes a catalog in one way or not at all. -/
theorem insert_change (d : Document) : Change c (c.insert name d).2 := by
  rw [insert_eq]
  cases hx : (c.collection name).indexes.find? (refuses (c.collection name).documents d) with
  | some x => exact .nothing
  | none =>
      refine .document name d fun x hx' => ?_
      have hrefuses := Bool.eq_false_iff.2 (List.find?_eq_none.1 hx x hx')
      exact refuses_eq_false_iff.1 hrefuses

/-- Deleting softly changes a catalog in one way or not at all. -/
theorem softDelete_change (now : Int64) (field : FieldName) (value : Value) :
    Change c (c.softDelete now name field value).2 := by
  unfold softDelete
  cases hget : c.collections.get? name with
  | none => exact .nothing
  | some content => exact .deletion now name content hget field value

/-- A refused request is answered with the refusal. -/
theorem answer_of_refusal {c : Catalog} {r : Request} {e : StoreError}
    (h : c.refusal? r.isWrite = some e) (now : Int64) : c.answer now r = (.error e, c) := by
  simp only [answer, h]

/-- A request that is not refused is done. -/
theorem answer_of_no_refusal {c : Catalog} {r : Request} (h : c.refusal? r.isWrite = none)
    (now : Int64) : c.answer now r = c.perform now r := by
  simp only [answer, h]

/-- A catalog without a failure refuses nothing. -/
theorem refusal?_of_no_failure {c : Catalog} (h : c.failure = none) (isWrite : Bool) :
    c.refusal? isWrite = none := by
  rw [refusal?, h]

/-- A catalog without a failure does what is requested. -/
theorem answer_of_no_failure {c : Catalog} (h : c.failure = none) (now : Int64) (r : Request) :
    c.answer now r = c.perform now r :=
  answer_of_no_refusal (refusal?_of_no_failure h r.isWrite) now

/-- Every request makes one of the changes, or none. -/
theorem answer_change (now : Int64) (r : Request) : Change c (c.answer now r).2 := by
  unfold answer
  cases c.refusal? r.isWrite with
  | some e => exact .nothing
  | none =>
      cases r with
      | ping => exact .nothing
      | listCollections => exact .nothing
      | createCollection name =>
          simp only [perform]
          cases hget : c.collections.get? name with
          | some content => exact .nothing
          | none => exact .collection name hget
      | listIndexes name => exact .nothing
      | createIndex s => exact createIndex_change c s
      | insert name d => exact insert_change c name d
      | softDelete name field value => exact softDelete_change c name now field value

/-- No change touches the name of the database or the failure. -/
theorem Change.frame {c c' : Catalog} (h : Change c c') :
    c'.database = c.database ∧ c'.failure = c.failure := by
  cases h <;> exact ⟨rfl, rfl⟩

end DocSchema.Catalog
