import DocSchema.Proofs.Permanence
import DocSchema.Proofs.PlanRuns

/-!
# DocSchema.Proofs.AppliedCatalogs

The catalog that applying a consistent schema leaves, and how it judges the schema again.

An index that was created is there now, and every other index is judged as before, since no two
declarations are on one field. So the obstacles are those of the catalog at the start, nothing that
was reached is missing any more, and another run changes nothing.
-/

namespace DocSchema

namespace Catalog

/-- Collections that exist already change nothing when they are added. -/
theorem addCollections_of_exists {c : Catalog} {names : List CollectionName}
    (h : ∀ name ∈ names, c.collections.get? name ≠ none) : c.addCollections names = c := by
  refine ext_get? (c.frame_addCollections names).1 (c.frame_addCollections names).2 fun name => ?_
  rw [get?_addCollections]
  split
  · next hname =>
    cases hget : c.collections.get? name with
    | none => exact absurd hget (h name hname)
    | some content => rw [collection_of_get?_eq_some hget]
  · rfl

end Catalog

namespace Bootstrap

variable {limit : Duration} {c : Catalog} {s : Schema}

/-! ## What is there afterwards -/

theorem frame_applied (limit : Duration) (c : Catalog) (s : Schema) :
    (applied limit c s).database = c.database ∧ (applied limit c s).failure = c.failure := by
  obtain ⟨hdatabase, hfailure⟩ := c.frame_addCollections s.collections
  obtain ⟨hdatabase', hfailure'⟩ :=
    (c.addCollections s.collections).frame_addIndexes (created limit c s.indexes)
  exact ⟨hdatabase'.trans hdatabase, hfailure'.trans hfailure⟩

/-- A collection has its documents and, after its indexes, those that were created on it. -/
theorem collection_applied (limit : Duration) (c : Catalog) (s : Schema) (name : CollectionName) :
    (applied limit c s).collection name =
      { c.collection name with
        indexes := (c.collection name).indexes ++
          Catalog.definitionsOn name (created limit c s.indexes) } := by
  rw [applied, Catalog.collection_addIndexes, Catalog.collection_addCollections]

/-- The declared collections exist. -/
theorem exists_applied (limit : Duration) (c : Catalog) {name : CollectionName}
    (h : name ∈ s.collections) : (applied limit c s).collections.get? name ≠ none := by
  refine Catalog.exists_addIndexes ?_ _
  rw [Catalog.get?_addCollections, if_pos h]
  exact Option.some_ne_none _

/-- Everything that is found under a name afterwards. -/
theorem get?_applied (hs : s.Consistent) (limit : Duration) (c : Catalog) (name : CollectionName) :
    (applied limit c s).collections.get? name =
      if name ∈ s.collections then
        some { c.collection name with
          indexes := (c.collection name).indexes ++
            Catalog.definitionsOn name (created limit c s.indexes) }
      else c.collections.get? name := by
  split
  · next hname =>
    rw [← collection_applied]
    cases hget : (applied limit c s).collections.get? name with
    | none => exact absurd hget (exists_applied limit c hname)
    | some content => rw [Catalog.collection_of_get?_eq_some hget]
  · next hname =>
    have hother : ∀ i ∈ created limit c s.indexes, i.collection ≠ name := fun i hi heq =>
      hname (heq ▸ hs.declared i ((created_sublist s.indexes).subset hi))
    rw [applied, Catalog.get?_addIndexes_of_ne _ hother, Catalog.get?_addCollections,
      if_neg hname]

/-! ## Judging again -/

/-- Where the missing ones of some declared indexes are added, those with nothing in their way are
there, whether they were added or found. -/
theorem stateOf_grown_of_no_obstacle (hs : s.Consistent) (names : List CollectionName)
    {specs : List IndexSpec} (hspecs : specs.Sublist s.indexes) {i : IndexSpec} (hi : i ∈ specs)
    (hfree : obstacle? limit c i = none) :
    ((c.addCollections names).addIndexes (specs.filter (lacks c))).stateOf i = .identical := by
  have hdistinct : (specs.filter (lacks c)).Pairwise fun t u => ¬ Schema.Overlap t u :=
    hs.distinct.sublist (List.filter_sublist.trans hspecs)
  by_cases hmissing : c.stateOf i = .missing
  · exact stateOf_grown names hdistinct
      (List.mem_filter.2 ⟨hi, lacks_eq_true_iff.2 hmissing⟩) hmissing
  · have hother : ∀ j ∈ specs.filter (lacks c), ¬ Schema.Overlap j i := by
      intro j hj hoverlap
      obtain ⟨hj, hlacks⟩ := List.mem_filter.1 hj
      rw [hs.eq_of_overlap (hspecs.subset hj) (hspecs.subset hi) hoverlap] at hlacks
      exact hmissing (lacks_eq_true_iff.1 hlacks)
    rw [(alike_grown c names hother).state]
    exact stateOf_of_no_obstacle hfree hmissing

/-- An index that was reached is there. -/
theorem stateOf_applied_of_reached (hs : s.Consistent) {i : IndexSpec}
    (hi : i ∈ reached limit c s.indexes) : (applied limit c s).stateOf i = .identical :=
  stateOf_grown_of_no_obstacle hs s.collections (reached_sublist s.indexes) hi
    (obstacle?_of_reached hi)

/-- An index that was not created is judged as before. -/
theorem alike_applied (hs : s.Consistent) {i : IndexSpec} (hi : i ∈ s.indexes)
    (hnew : i ∉ created limit c s.indexes) : Alike c (applied limit c s) i := by
  have hother : ∀ j ∈ created limit c s.indexes, ¬ Schema.Overlap j i := fun j hj hoverlap =>
    hnew (hs.eq_of_overlap ((created_sublist s.indexes).subset hj) hi hoverlap ▸ hj)
  exact alike_grown c s.collections hother

/-- The obstacles are those of the catalog at the start. -/
theorem obstacle?_applied (hs : s.Consistent) {i : IndexSpec} (hi : i ∈ s.indexes) :
    obstacle? limit (applied limit c s) i = obstacle? limit c i := by
  -- An index that was created had no obstacle, and now it is there; the others are judged alike.
  by_cases hnew : i ∈ created limit c s.indexes
  · have hreached := (mem_created.1 hnew).1
    rw [obstacle?_of_reached hreached, obstacle?, stateOf_applied_of_reached hs hreached]
  · exact (alike_applied hs hi hnew).obstacle?

/-- No index that was reached is missing. -/
theorem lacks_applied (hs : s.Consistent) {i : IndexSpec} (hi : i ∈ reached limit c s.indexes) :
    lacks (applied limit c s) i = false := by
  rw [lacks, stateOf_applied_of_reached hs hi]

/-- A run without an error reached every index. -/
theorem reached_of_result {outcomes : List Outcome} (h : result limit c s = .ok outcomes) :
    reached limit c s.indexes = s.indexes := by
  rcases exists_first_obstacle limit c s.indexes with
    hnone | ⟨before, i, after, e, hsplit, hbefore, hi⟩
  · exact reached_of_no_obstacle hnone
  · rw [result_of_obstacle hsplit hbefore hi] at h
    contradiction

/-- After a run without an error, all that is declared is there. -/
theorem satisfies_applied (hs : s.Consistent) {outcomes : List Outcome}
    (h : result limit c s = .ok outcomes) : (applied limit c s).Satisfies s where
  collections _ hname := exists_applied limit c hname
  indexes _ hi := stateOf_applied_of_reached hs ((reached_of_result h).symm ▸ hi)

/-- Nothing is left to create. -/
theorem created_applied (hs : s.Consistent) :
    created limit (applied limit c s) s.indexes = [] := by
  have hreached : reached limit (applied limit c s) s.indexes = reached limit c s.indexes :=
    reached_congr fun i hi => obstacle?_applied hs hi
  refine List.filter_eq_nil_iff.2 fun i hi => ?_
  rw [hreached] at hi
  rw [lacks_applied hs hi]
  exact Bool.false_ne_true

/-- Another run changes nothing. -/
theorem applied_applied (hs : s.Consistent) :
    applied limit (applied limit c s) s = applied limit c s := by
  rw [applied, created_applied hs,
    Catalog.addCollections_of_exists fun name hname => exists_applied limit c hname]
  rfl

end Bootstrap

end DocSchema
