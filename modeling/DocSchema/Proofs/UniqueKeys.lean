import DocSchema.Proofs.Coverage
import DocSchema.Proofs.ValueEquality
import DocSchema.Store.Memory

/-!
# DocSchema.Proofs.UniqueKeys

What a unique index promises about the documents of its collection, and how each change of the
documents keeps the promise.

Two documents clash in an index that covers both of them under equal keys. An index separates
documents when no two of them clash. The catalog looks for clashes in two ways, over all documents
when it creates an index and next to one document when it inserts; `sharedKey?_eq_none_iff` and
`refuses_eq_false_iff` say that both look for the same thing. Marking documents as deleted is
not checked at all: `Separates.map` names what a rewriting of documents must respect.
-/

namespace DocSchema

namespace IndexDefinition

variable (x : IndexDefinition)

/-- Whether an index covers both documents under equal keys. -/
def clashes (d e : Document) : Bool := x.covers d && x.covers e && x.keyOf d == x.keyOf e

/-- No two of the documents clash. -/
def Separates (documents : List Document) : Prop :=
  documents.Pairwise fun d e => x.clashes d e = false

theorem clashes_comm (d e : Document) : x.clashes d e = x.clashes e d := by
  unfold clashes
  rw [Value.keys_beq_comm (x.keyOf d), Bool.and_comm (x.covers d)]

theorem clashes_eq_true_iff {d e : Document} :
    x.clashes d e = true ↔
      x.covers d = true ∧ x.covers e = true ∧ (x.keyOf d == x.keyOf e) = true := by
  simp only [clashes, Bool.and_eq_true, and_assoc]

theorem clashes_eq_false_iff {d e : Document} :
    x.clashes d e = false ↔
      (x.covers d = true → x.covers e = true → (x.keyOf d == x.keyOf e) = false) := by
  rw [Bool.eq_false_iff, ne_eq, clashes_eq_true_iff]
  simp only [not_and, Bool.not_eq_true]

variable {x}

/-- Documents that are separated do not clash at different positions, in either order. -/
theorem Separates.clashes_eq_false {documents : List Document} (h : x.Separates documents)
    {i j : Nat} {d e : Document} (hij : i ≠ j) (hi : documents[i]? = some d)
    (hj : documents[j]? = some e) : x.clashes d e = false := by
  obtain ⟨hil, rfl⟩ := List.getElem?_eq_some_iff.1 hi
  obtain ⟨hjl, rfl⟩ := List.getElem?_eq_some_iff.1 hj
  rcases Nat.lt_or_gt_of_ne hij with hlt | hgt
  · exact List.pairwise_iff_getElem.1 h i j hil hjl hlt
  · rw [clashes_comm]
    exact List.pairwise_iff_getElem.1 h j i hjl hil hgt

/-- A document joins separated documents when it clashes with none of them. -/
theorem separates_append_singleton {documents : List Document} {d : Document} :
    x.Separates (documents ++ [d]) ↔
      x.Separates documents ∧ ∀ e ∈ documents, x.clashes e d = false := by
  simp only [Separates, List.pairwise_append, List.pairwise_singleton, true_and,
    List.mem_singleton, forall_eq]

/-- Documents stay separated when they are rewritten so that none enters the index and none in the
index changes its key. -/
theorem Separates.map {documents : List Document} (h : x.Separates documents)
    {f : Document → Document}
    (hf : ∀ d ∈ documents, x.covers (f d) = true →
      x.covers d = true ∧ x.keyOf (f d) = x.keyOf d) :
    x.Separates (documents.map f) := by
  refine List.pairwise_map.2 (List.Pairwise.imp_of_mem ?_ h)
  intro d e hd he hde
  rw [clashes_eq_false_iff] at hde ⊢
  intro hfd hfe
  obtain ⟨hcd, hkd⟩ := hf d hd hfd
  obtain ⟨hce, hke⟩ := hf e he hfe
  rw [hkd, hke]
  exact hde hcd hce

end IndexDefinition

namespace Catalog

open IndexDefinition

/-- Keys have no repetition when they differ from those seen before and from one another. -/
theorem firstRepeated?_eq_none_iff {seen keys : List (List Value)} :
    firstRepeated? seen keys = none ↔
      (∀ key ∈ keys, ∀ k ∈ seen, (k == key) = false) ∧
        keys.Pairwise fun k key => (k == key) = false := by
  induction keys generalizing seen with
  | nil => simp [firstRepeated?]
  | cons key keys ih =>
      simp only [firstRepeated?]
      by_cases hseen : (seen.any (· == key)) = true
      · have hrepeated : ¬ ∀ k ∈ seen, (k == key) = false := by
          obtain ⟨k, hk, heq⟩ := List.any_eq_true.1 hseen
          exact fun h => by rw [h k hk] at heq; contradiction
        rw [if_pos hseen]
        simp only [reduceCtorEq, List.forall_mem_cons, hrepeated, false_and]
      · have hfresh : ∀ k ∈ seen, (k == key) = false := by
          simpa [List.any_eq_true] using hseen
        rw [if_neg hseen, ih]
        simp only [List.forall_mem_cons, List.pairwise_cons, forall_and]
        constructor
        · rintro ⟨⟨hkey, hkeys⟩, hpairwise⟩
          exact ⟨⟨hfresh, hkeys⟩, hkey, hpairwise⟩
        · rintro ⟨⟨-, hkeys⟩, hkey, hpairwise⟩
          exact ⟨⟨hkey, hkeys⟩, hpairwise⟩

/-- A repeated key stands after one that it equals, or equals one seen before. -/
theorem firstRepeated?_eq_some {seen keys : List (List Value)} {key : List Value}
    (h : firstRepeated? seen keys = some key) :
    ∃ before after k, keys = before ++ key :: after ∧ (k ∈ seen ∨ k ∈ before) ∧
      (k == key) = true := by
  induction keys generalizing seen with
  | nil => contradiction
  | cons first keys ih =>
      rw [firstRepeated?] at h
      split at h
      · next hseen =>
        obtain ⟨k, hk, heq⟩ := List.any_eq_true.1 hseen
        rw [Option.some.inj h] at heq ⊢
        exact ⟨[], keys, k, rfl, .inl hk, heq⟩
      · obtain ⟨before, after, k, hkeys, hk, heq⟩ := ih h
        refine ⟨first :: before, after, k, by rw [hkeys, List.cons_append], ?_, heq⟩
        rcases hk with hk | hk
        · rcases List.mem_cons.1 hk with rfl | hk
          · exact .inr List.mem_cons_self
          · exact .inl hk
        · exact .inr (List.mem_cons_of_mem _ hk)

/-- A shared key is that of a document which clashes with one before it. -/
theorem exists_clash_of_sharedKey? {x : IndexDefinition} {documents : List Document}
    {key : List Value} (h : sharedKey? x documents = some key) :
    ∃ (i j : Nat) (d e : Document), i < j ∧ documents[i]? = some d ∧ documents[j]? = some e ∧
      x.clashes d e = true ∧ x.keyOf e = key := by
  obtain ⟨before, after, k, hkeys, hk, heq⟩ := firstRepeated?_eq_some h
  have hk : k ∈ before := hk.resolve_left List.not_mem_nil
  -- The keys split at `key`, so the covered documents do, and then so do all documents.
  obtain ⟨front, back, hcovered, rfl, hback⟩ := List.map_eq_append_iff.1 hkeys
  obtain ⟨e, rest, rfl, rfl, hrest⟩ := List.map_eq_cons_iff.1 hback
  obtain ⟨earlier, later, rfl, rfl, hlater⟩ := List.filter_eq_append_iff.1 hcovered
  obtain ⟨skipped, others, rfl, hskipped, he, hothers⟩ := List.filter_eq_cons_iff.1 hlater
  obtain ⟨d, hd, rfl⟩ := List.mem_map.1 hk
  obtain ⟨hd, hcovers⟩ := List.mem_filter.1 hd
  obtain ⟨i, hi, hget⟩ := List.mem_iff_getElem.1 hd
  refine ⟨i, (earlier ++ skipped).length, d, e, ?_, ?_, ?_, ?_, rfl⟩
  · rw [List.length_append]
    exact Nat.lt_add_right _ hi
  · rw [List.getElem?_append_left hi, List.getElem?_eq_getElem hi, hget]
  · rw [← List.append_assoc, List.getElem?_append_right (Nat.le_refl _), Nat.sub_self,
      List.getElem?_cons_zero]
  · exact (clashes_eq_true_iff x).2 ⟨hcovers, he, heq⟩

/-- No covered documents share a key exactly when the index separates the documents. -/
theorem sharedKey?_eq_none_iff {x : IndexDefinition} {documents : List Document} :
    sharedKey? x documents = none ↔ x.Separates documents := by
  simp only [sharedKey?, firstRepeated?_eq_none_iff, List.not_mem_nil, false_implies,
    implies_true, true_and, List.pairwise_map, List.pairwise_filter, Separates]
  exact List.Pairwise.iff fun d e => (clashes_eq_false_iff x).symm

/-- An index refuses a document when it is unique and the document clashes with a stored one. -/
theorem refuses_eq_false_iff {x : IndexDefinition} {documents : List Document} {d : Document} :
    refuses documents d x = false ↔
      (x.unique = true → ∀ e ∈ documents, x.clashes e d = false) := by
  have hclash : refuses documents d x =
      (x.unique && documents.any fun e => x.clashes e d) := by
    unfold refuses clashes
    cases x.covers d with
    | true => simp only [Bool.and_true]
    | false => simp
  rw [hclash, Bool.and_eq_false_imp, List.any_eq_false]
  simp only [Bool.not_eq_true]

end Catalog

end DocSchema
