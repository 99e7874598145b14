import DocSchema.Proofs.IndexStates
import DocSchema.Schema.Error

/-!
# DocSchema.Proofs.ConsistentSchemas

What the check of a schema accepts, said of the schema as a whole: its collections are distinct,
its indexes are on declared collections, and no two of them are on one field of one collection.
-/

namespace DocSchema.Schema

/-- Whether two declared indexes are on one field of one collection. -/
def Overlap (i j : IndexSpec) : Prop := i.collection = j.collection ∧ i.field = j.field

/-- What a schema declares without a fault. -/
structure Consistent (s : Schema) : Prop where
  database : Text.isBlankText s.database = false
  collections : s.collections.Nodup
  declared : ∀ i ∈ s.indexes, i.collection ∈ s.collections
  distinct : s.indexes.Pairwise fun i j => ¬ Overlap i j

/-- In a consistent schema, one field of one collection has one index. -/
theorem Consistent.eq_of_overlap {s : Schema} (h : s.Consistent) {i j : IndexSpec}
    (hi : i ∈ s.indexes) (hj : j ∈ s.indexes) (hoverlap : Overlap i j) : i = j := by
  have hforward : s.indexes.Pairwise fun i j => Overlap i j → i = j :=
    h.distinct.imp fun hij hoverlap => absurd hoverlap hij
  have hbackward : s.indexes.Pairwise fun i j => Overlap j i → j = i :=
    h.distinct.imp fun hij hoverlap => absurd ⟨hoverlap.1.symm, hoverlap.2.symm⟩ hij
  exact hforward.forall_of_forall_of_flip (fun _ _ _ => rfl) hbackward hi hj hoverlap

/-- No name stands twice in a list, nor among those seen before. -/
theorem firstRepeated?_eq_none_iff {seen names : List CollectionName} :
    firstRepeated? seen names = none ↔ (∀ c ∈ names, c ∉ seen) ∧ names.Nodup := by
  induction names generalizing seen with
  | nil => simp [firstRepeated?]
  | cons c cs ih =>
      simp only [firstRepeated?, List.contains_iff_mem]
      by_cases hc : c ∈ seen
      · simp [hc]
      · rw [if_neg hc, ih]
        simp only [List.forall_mem_cons, List.nodup_cons]
        simp only [List.mem_cons, not_or]
        constructor
        · rintro ⟨hseen, hnodup⟩
          exact ⟨⟨hc, fun d hd => (hseen d hd).2⟩, fun hcs => (hseen c hcs).1 rfl, hnodup⟩
        · rintro ⟨⟨-, hseen⟩, hcs, hnodup⟩
          exact ⟨fun d hd => ⟨fun h => hcs (h ▸ hd), hseen d hd⟩, hnodup⟩

/-- Indexes without a fault are on declared collections, and neither repeat one seen before nor
one another. -/
theorem firstIndexFault?_eq_none_iff {declared : List CollectionName}
    {seen : List (CollectionName × String)} {indexes : List IndexSpec} :
    firstIndexFault? declared seen indexes = none ↔
      (∀ i ∈ indexes, i.collection ∈ declared ∧ (i.collection, i.name) ∉ seen) ∧
        indexes.Pairwise fun i j => ¬ Overlap i j := by
  induction indexes generalizing seen with
  | nil => simp [firstIndexFault?]
  | cons i is ih =>
      have hkey : ∀ j : IndexSpec,
          (j.collection, j.name) = (i.collection, i.name) ↔ Overlap i j := fun j => by
        rw [Prod.mk.injEq, IndexSpec.name_eq_name_iff, eq_comm, eq_comm (a := j.field)]
        rfl
      simp only [firstIndexFault?]
      by_cases hdeclared : i.collection ∈ declared
      · by_cases hseen : (i.collection, i.name) ∈ seen
        · simp [hdeclared, hseen]
        · rw [if_neg (by simpa using hdeclared), if_neg (by simpa using hseen), ih]
          simp only [List.forall_mem_cons, List.pairwise_cons]
          simp only [List.mem_cons, not_or, hkey]
          constructor
          · rintro ⟨hrest, hpairwise⟩
            exact ⟨⟨⟨hdeclared, hseen⟩, fun j hj => ⟨(hrest j hj).1, (hrest j hj).2.2⟩⟩,
              fun j hj => (hrest j hj).2.1, hpairwise⟩
          · rintro ⟨⟨-, hrest⟩, hi, hpairwise⟩
            exact ⟨fun j hj => ⟨(hrest j hj).1, hi j hj, (hrest j hj).2⟩, hpairwise⟩
      · simp [hdeclared]

/-- The check accepts exactly the consistent schemas. -/
theorem fault?_eq_none_iff {s : Schema} : s.fault? = none ↔ s.Consistent := by
  have hparts : s.fault? = none ↔ Text.isBlankText s.database = false ∧
      firstRepeated? [] s.collections = none ∧
        firstIndexFault? s.collections [] s.indexes = none := by
    unfold fault?
    cases Text.isBlankText s.database with
    | true => simp
    | false => cases firstRepeated? [] s.collections <;> simp
  rw [hparts, firstRepeated?_eq_none_iff, firstIndexFault?_eq_none_iff]
  constructor
  · rintro ⟨hdatabase, ⟨-, hcollections⟩, hindexes, hdistinct⟩
    exact ⟨hdatabase, hcollections, fun i hi => (hindexes i hi).1, hdistinct⟩
  · rintro ⟨hdatabase, hcollections, hdeclared, hdistinct⟩
    exact ⟨hdatabase, ⟨fun _ _ => List.not_mem_nil, hcollections⟩,
      fun i hi => ⟨hdeclared i hi, List.not_mem_nil⟩, hdistinct⟩

/-- A schema that is accepted is consistent. -/
theorem validate_eq_ok_iff {s : Schema} : s.validate = .ok () ↔ s.Consistent := by
  rw [← fault?_eq_none_iff]
  unfold validate
  cases s.fault? <;> simp

end DocSchema.Schema
