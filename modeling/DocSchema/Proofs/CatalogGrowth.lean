import DocSchema.Proofs.CatalogChanges
import DocSchema.Proofs.ConsistentSchemas

/-!
# DocSchema.Proofs.CatalogGrowth

A catalog with collections and declared indexes added to it, and what that leaves of the state of
another declaration.

Adding keeps every document and appends to the lists of indexes, so the content of a collection
afterwards is what it was, followed by the definitions on it. Declarations on different fields
do not notice each other: `stateOf_addIndexes` and `violation?_addIndexes` say that an index is
judged the same before and after the others are added, and `stateOf_addIndexes_self` that it is
there once it is among them.
-/

namespace DocSchema.Catalog

variable (c : Catalog)

/-! ## Adding collections -/

/-- The catalog with a collection, which is empty if it did not exist. -/
def addCollection (name : CollectionName) : Catalog :=
  match c.collections.get? name with
  | some _ => c
  | none => c.setCollection name .empty

/-- The catalog with some collections. -/
def addCollections (names : List CollectionName) : Catalog := names.foldl addCollection c

theorem get?_addCollection (name other : CollectionName) :
    (c.addCollection name).collections.get? other =
      if name = other then some (c.collection other) else c.collections.get? other := by
  unfold addCollection
  cases hget : c.collections.get? name with
  | some content =>
      dsimp only
      split
      · next h => rw [← h, hget, collection_of_get?_eq_some hget]
      · rfl
  | none =>
      dsimp only
      rw [get?_setCollection]
      split
      · next h => rw [← h, collection_of_get?_eq_none hget]
      · rfl

/-- A collection that is added holds what it held, or nothing. -/
theorem collection_addCollection (name other : CollectionName) :
    (c.addCollection name).collection other = c.collection other := by
  rw [collection, get?_addCollection]
  split
  · rfl
  · rfl

/-- The collections that are added exist, and the others are as they were. -/
theorem get?_addCollections (names : List CollectionName) (name : CollectionName) :
    (c.addCollections names).collections.get? name =
      if name ∈ names then some (c.collection name) else c.collections.get? name := by
  induction names generalizing c with
  | nil => rfl
  | cons n names ih =>
      change ((c.addCollection n).addCollections names).collections.get? name = _
      rw [ih, collection_addCollection, get?_addCollection]
      by_cases hmem : name ∈ names
      · rw [if_pos hmem, if_pos (List.mem_cons_of_mem _ hmem)]
      · simp only [hmem, if_false, List.mem_cons, or_false, eq_comm (a := name)]

/-- Adding collections changes the content of none. -/
theorem collection_addCollections (names : List CollectionName) (name : CollectionName) :
    (c.addCollections names).collection name = c.collection name := by
  rw [collection, get?_addCollections]
  split
  · rfl
  · rfl

theorem frame_addCollections (names : List CollectionName) :
    (c.addCollections names).database = c.database ∧
      (c.addCollections names).failure = c.failure := by
  induction names generalizing c with
  | nil => exact ⟨rfl, rfl⟩
  | cons n names ih =>
      obtain ⟨hdatabase, hfailure⟩ := ih (c.addCollection n)
      have hstep : (c.addCollection n).database = c.database ∧
          (c.addCollection n).failure = c.failure := by
        unfold addCollection
        split <;> exact ⟨rfl, rfl⟩
      exact ⟨hdatabase.trans hstep.1, hfailure.trans hstep.2⟩

/-! ## Adding indexes -/

/-- The catalog with the index of a declaration after those that exist. -/
def addIndex (s : IndexSpec) : Catalog := c.seedIndex s.collection s.definition

/-- The catalog with the indexes of some declarations, in their order. -/
def addIndexes (specs : List IndexSpec) : Catalog := specs.foldl addIndex c

/-- The definitions of the declarations on a collection, in order. -/
def definitionsOn (name : CollectionName) (specs : List IndexSpec) : List IndexDefinition :=
  (specs.filter fun s => s.collection == name).map IndexSpec.definition

theorem collection_addIndex (s : IndexSpec) (name : CollectionName) :
    (c.addIndex s).collection name =
      { c.collection name with
        indexes := (c.collection name).indexes ++ definitionsOn name [s] } := by
  unfold addIndex seedIndex definitionsOn
  by_cases h : s.collection = name
  · simp [h]
  · rw [collection_setCollection_of_ne _ _ h]
    simp [h]

/-- Adding indexes keeps the documents, and appends to the indexes of every collection those that
are declared on it. -/
theorem collection_addIndexes (specs : List IndexSpec) (name : CollectionName) :
    (c.addIndexes specs).collection name =
      { c.collection name with
        indexes := (c.collection name).indexes ++ definitionsOn name specs } := by
  induction specs generalizing c with
  | nil => simp [addIndexes, definitionsOn]
  | cons s specs ih =>
      have hcons : definitionsOn name (s :: specs) =
          definitionsOn name [s] ++ definitionsOn name specs := by
        simp only [definitionsOn, ← List.map_append, ← List.filter_append, List.singleton_append]
      change ((c.addIndex s).addIndexes specs).collection name = _
      rw [ih, collection_addIndex, hcons, List.append_assoc]

/-- A collection on which no added index is declared is as it was. -/
theorem get?_addIndexes_of_ne {specs : List IndexSpec} {name : CollectionName}
    (h : ∀ s ∈ specs, s.collection ≠ name) :
    (c.addIndexes specs).collections.get? name = c.collections.get? name := by
  induction specs generalizing c with
  | nil => rfl
  | cons s specs ih =>
      obtain ⟨hs, hspecs⟩ := List.forall_mem_cons.1 h
      change ((c.addIndex s).addIndexes specs).collections.get? name = _
      rw [ih _ hspecs, addIndex, seedIndex, get?_setCollection, if_neg hs]

/-- A collection that exists still does when indexes are added. -/
theorem exists_addIndexes {c : Catalog} {name : CollectionName}
    (h : c.collections.get? name ≠ none) (specs : List IndexSpec) :
    (c.addIndexes specs).collections.get? name ≠ none := by
  induction specs generalizing c with
  | nil => exact h
  | cons s specs ih =>
      refine ih ?_
      rw [addIndex, seedIndex, get?_setCollection]
      split
      · exact Option.some_ne_none _
      · exact h

theorem frame_addIndexes (specs : List IndexSpec) :
    (c.addIndexes specs).database = c.database ∧ (c.addIndexes specs).failure = c.failure := by
  induction specs generalizing c with
  | nil => exact ⟨rfl, rfl⟩
  | cons s specs ih => exact ih (c.addIndex s)

/-! ## How declarations see each other -/

/-- How a declared index stands to the indexes of its collection. -/
def stateOf (s : IndexSpec) : IndexState :=
  s.definition.stateIn (c.collection s.collection).indexes

open Schema (Overlap)

/-- Indexes on other fields do not change the state of a declared index. -/
theorem stateOf_addIndexes {specs : List IndexSpec} {s : IndexSpec}
    (h : ∀ t ∈ specs, ¬ Overlap t s) : (c.addIndexes specs).stateOf s = c.stateOf s := by
  rw [stateOf, collection_addIndexes]
  refine IndexDefinition.stateIn_append_of_unrelated fun x hx => ?_
  obtain ⟨t, ht, rfl⟩ := List.mem_map.1 hx
  obtain ⟨ht, hcollection⟩ := List.mem_filter.1 ht
  rw [Bool.eq_false_iff, ne_eq, IndexSpec.isRelated_definition_iff]
  exact fun hfield => h t ht ⟨eq_of_beq hcollection, hfield.symm⟩

/-- Adding indexes does not change which keys documents share. -/
theorem violation?_addIndexes (specs : List IndexSpec) (s : IndexSpec) :
    (c.addIndexes specs).violation? s = c.violation? s := by
  rw [violation?, collection_addIndexes, violation?]

/-- A declared index that was missing is there once it is added, whatever is added on other fields
before and after it. -/
theorem stateOf_addIndexes_self {c : Catalog} {specs : List IndexSpec} {s : IndexSpec}
    (hdistinct : specs.Pairwise fun t u => ¬ Overlap t u) (hs : s ∈ specs)
    (hmissing : c.stateOf s = .missing) : (c.addIndexes specs).stateOf s = .identical := by
  obtain ⟨before, after, rfl⟩ := List.append_of_mem hs
  obtain ⟨-, hcons, hbefore⟩ := List.pairwise_append.1 hdistinct
  obtain ⟨hafter, -⟩ := List.pairwise_cons.1 hcons
  have hsplit : c.addIndexes (before ++ s :: after) =
      ((c.addIndexes before).addIndex s).addIndexes after := by
    simp only [addIndexes, List.foldl_append, List.foldl_cons]
  have hmissing' : (c.addIndexes before).stateOf s = .missing := by
    rw [stateOf_addIndexes c fun t ht => hbefore t ht s List.mem_cons_self, hmissing]
  have hadded : ((c.addIndexes before).addIndex s).stateOf s = .identical := by
    rw [stateOf, collection_addIndex]
    have hself : definitionsOn s.collection [s] = [s.definition] := by
      simp [definitionsOn]
    rw [hself]
    exact IndexDefinition.stateIn_append_self s.agrees_definition hmissing'
  rw [hsplit, stateOf_addIndexes _ fun t ht hts => hafter t ht ⟨hts.1.symm, hts.2.symm⟩, hadded]

/-- Adding collections changes the state of no declared index. -/
theorem stateOf_addCollections (names : List CollectionName) (s : IndexSpec) :
    (c.addCollections names).stateOf s = c.stateOf s := by
  rw [stateOf, collection_addCollections, stateOf]

theorem violation?_addCollections (names : List CollectionName) (s : IndexSpec) :
    (c.addCollections names).violation? s = c.violation? s := by
  rw [violation?, collection_addCollections, violation?]

end DocSchema.Catalog
