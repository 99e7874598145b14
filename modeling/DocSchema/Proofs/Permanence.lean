import DocSchema.Proofs.CatalogGrowth
import Mathlib.Logic.Relation

/-!
# DocSchema.Proofs.Permanence

What stays in place whatever is requested of a catalog afterwards.

Collections are never removed and indexes never altered: a change appends at most one index to a
collection, and only one that was missing there (`Change.indexes`). An index of a declaration that
is there has taken its name, so no index on its field is missing any more, and it is there for good
(`Later.stateOf`). With the collections this makes a whole schema permanent (`Satisfies.later`).
-/

namespace DocSchema

/-- No declared index is missing on the field of one that is there. -/
theorem IndexDefinition.field_ne_of_missing {existing : List IndexDefinition} {i s : IndexSpec}
    (hi : i.definition.stateIn existing = .identical)
    (hs : s.definition.stateIn existing = .missing) : i.field ≠ s.field := by
  obtain ⟨⟨x, hx, hrelated⟩, hagrees⟩ := stateIn_eq_identical_iff.1 hi
  have hname : i.definition.name = x.name := (agrees_iff.1 (hagrees x hx hrelated)).1
  intro hfield
  have htaken : s.definition.name = x.name := (IndexSpec.name_eq_name_iff.2 hfield).symm.trans hname
  have hunrelated := stateIn_eq_missing_iff.1 hs x hx
  simp only [isRelated, htaken, beq_self_eq_true, Bool.true_or, Bool.true_eq_false] at hunrelated

namespace Catalog

variable {c c' : Catalog}

/-! ## One change -/

/-- New contents with the indexes of the old ones change no list of indexes. -/
theorem indexes_setCollection {other : CollectionName} {content : Collection}
    (h : content.indexes = (c.collection other).indexes) (name : CollectionName) :
    ((c.setCollection other content).collection name).indexes = (c.collection name).indexes := by
  by_cases hother : other = name
  · subst hother
    rw [collection_setCollection_self, h]
  · rw [collection_setCollection_of_ne _ _ hother]

/-- A change leaves the indexes of a collection alone, or appends one that is declared on it and was
missing. -/
theorem Change.indexes (h : Change c c') (name : CollectionName) :
    (c'.collection name).indexes = (c.collection name).indexes ∨
      ∃ s : IndexSpec, s.collection = name ∧
        s.definition.stateIn (c.collection name).indexes = .missing ∧
        (c'.collection name).indexes = (c.collection name).indexes ++ [s.definition] := by
  cases h with
  | nothing => exact .inl rfl
  | collection other hnew =>
      exact .inl (indexes_setCollection (by rw [collection_of_get?_eq_none hnew]) name)
  | document other d hunique =>
      refine .inl (indexes_setCollection ?_ name)
      rfl
  | deletion now other content hcontent field value =>
      exact .inl (indexes_setCollection (by rw [collection_of_get?_eq_some hcontent]) name)
  | index s hmissing hunique =>
      by_cases hs : s.collection = name
      · subst hs
        exact .inr ⟨s, rfl, hmissing, by rw [seedIndex, collection_setCollection_self]⟩
      · exact .inl (by rw [seedIndex, collection_setCollection_of_ne _ _ hs])

/-- A collection that exists still does after a change. -/
theorem Change.get?_ne_none (h : Change c c') {name : CollectionName}
    (hname : c.collections.get? name ≠ none) : c'.collections.get? name ≠ none := by
  have hset : ∀ (other : CollectionName) (content : Collection),
      (c.setCollection other content).collections.get? name ≠ none := fun other content => by
    rw [get?_setCollection]
    split
    · exact Option.some_ne_none content
    · exact hname
  cases h with
  | nothing => exact hname
  | collection other hnew => exact hset other .empty
  | index s hmissing hunique => exact hset s.collection _
  | document other d hunique => exact hset other _
  | deletion now other content hcontent field value => exact hset other _

/-- A declared index that is there still is after a change. -/
theorem Change.stateOf (h : Change c c') {i : IndexSpec} (hi : c.stateOf i = .identical) :
    c'.stateOf i = .identical := by
  unfold Catalog.stateOf at hi ⊢
  rcases h.indexes i.collection with hsame | ⟨s, -, hmissing, happended⟩
  · rw [hsame, hi]
  · have hfield := IndexDefinition.field_ne_of_missing hi hmissing
    rw [happended, IndexDefinition.stateIn_append_of_unrelated, hi]
    intro x hx
    rw [List.mem_singleton.1 hx, Bool.eq_false_iff, ne_eq, IndexSpec.isRelated_definition_iff]
    exact hfield

/-! ## Any number of changes -/

/-- Whether changes lead from one catalog to another. -/
def Later : Catalog → Catalog → Prop := Relation.ReflTransGen Change

theorem Later.refl (c : Catalog) : c.Later c := Relation.ReflTransGen.refl

theorem Later.trans {c'' : Catalog} (h : c.Later c') (h' : c'.Later c'') : c.Later c'' :=
  Relation.ReflTransGen.trans h h'

/-- A request leads to a later catalog. -/
theorem later_answer (c : Catalog) (now : Int64) (r : Request) : c.Later (c.answer now r).2 :=
  .single (answer_change c now r)

/-- The indexes of a collection are the first of those that it has later. -/
theorem Later.indexes_prefix (h : c.Later c') (name : CollectionName) :
    (c.collection name).indexes <+: (c'.collection name).indexes := by
  induction h with
  | refl => exact List.prefix_rfl
  | tail _ hchange ih =>
      refine ih.trans ?_
      rcases hchange.indexes name with hsame | ⟨s, -, -, happended⟩
      · exact hsame ▸ List.prefix_rfl
      · rw [happended]
        exact List.prefix_append _ _

theorem Later.get?_ne_none (h : c.Later c') {name : CollectionName}
    (hname : c.collections.get? name ≠ none) : c'.collections.get? name ≠ none := by
  induction h with
  | refl => exact hname
  | tail _ hchange ih => exact hchange.get?_ne_none ih

theorem Later.stateOf (h : c.Later c') {i : IndexSpec} (hi : c.stateOf i = .identical) :
    c'.stateOf i = .identical := by
  induction h with
  | refl => exact hi
  | tail _ hchange ih => exact hchange.stateOf ih

/-- A declared index that is not missing never will be. -/
theorem Later.stateOf_ne_missing (h : c.Later c') {i : IndexSpec} (hi : c.stateOf i ≠ .missing) :
    c'.stateOf i ≠ .missing := by
  refine fun hmissing => hi (IndexDefinition.stateIn_eq_missing_iff.2 fun x hx => ?_)
  have hlater : x ∈ (c'.collection i.collection).indexes :=
    (h.indexes_prefix i.collection).subset hx
  exact IndexDefinition.stateIn_eq_missing_iff.1 hmissing x hlater

/-! ## Schemas -/

/-- Whether all that a schema declares is there: its collections exist, and its indexes are among
those of their collections, as declared. -/
structure Satisfies (c : Catalog) (s : Schema) : Prop where
  collections : ∀ name ∈ s.collections, c.collections.get? name ≠ none
  indexes : ∀ i ∈ s.indexes,
    i.definition.stateIn (c.collection i.collection).indexes = .identical

/-- What is declared stays there. -/
theorem Satisfies.later {s : Schema} (h : c.Satisfies s) (hlater : c.Later c') :
    c'.Satisfies s where
  collections name hname := hlater.get?_ne_none (h.collections name hname)
  indexes i hi := hlater.stateOf (h.indexes i hi)

end Catalog

end DocSchema
