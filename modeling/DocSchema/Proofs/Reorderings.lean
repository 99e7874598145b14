import DocSchema.Proofs.ValueEquality
import Mathlib.Data.List.Forall2
import Mathlib.Data.List.Nodup

/-!
# DocSchema.Proofs.Reorderings

Values that differ in the order of fields alone, at whatever depth, are equal.

A document with distinct names is looked up alike in whatever order its fields stand, so each of two
reorderings answers the other. The values inside are compared along the reordering, from the
innermost documents outwards.
-/

namespace DocSchema.Value

variable {a b c : Document} {v w : Value}

mutual

/-- A value and the same with the fields of its documents in another order. -/
inductive Reordered : Value → Value → Prop where
  | refl (v : Value) : Reordered v v
  | array {as bs : List Value} (hitems : ItemsReordered as bs) :
      Reordered (.array as) (.array bs)
  | document {a b c : Document} (hnames : a.keys.Nodup) (hfields : FieldsReordered a b)
      (horder : b.Perm c) : Reordered (.document a) (.document c)

/-- The items of a list, with the documents inside reordered. -/
inductive ItemsReordered : List Value → List Value → Prop where
  | nil : ItemsReordered [] []
  | cons {v w : Value} {as bs : List Value} (hvalue : Reordered v w)
      (hitems : ItemsReordered as bs) : ItemsReordered (v :: as) (w :: bs)

/-- The fields of a document, with the documents inside reordered. -/
inductive FieldsReordered : Document → Document → Prop where
  | nil : FieldsReordered [] []
  | cons (key : String) {v w : Value} {a b : Document} (hvalue : Reordered v w)
      (hfields : FieldsReordered a b) : FieldsReordered ((key, v) :: a) ((key, w) :: b)

end

/-- Where the names are distinct, every field is found under its name. -/
theorem lookup_of_mem (hnames : a.keys.Nodup) {key : String} (h : (key, v) ∈ a) :
    a.lookup key = some v := by
  induction a with
  | nil => exact absurd h List.not_mem_nil
  | cons f a ih =>
      obtain ⟨key', v'⟩ := f
      obtain ⟨hkey, hrest⟩ := List.nodup_cons.1 hnames
      rcases List.mem_cons.1 h with heq | h
      · obtain ⟨rfl, rfl⟩ := Prod.mk.inj heq
        exact List.lookup_cons_self
      · have hmem : key ∈ a.map Prod.fst := List.mem_map_of_mem (f := Prod.fst) h
        have hne : key ≠ key' := fun heq => hkey (heq ▸ hmem)
        rw [List.lookup_cons, beq_false_of_ne hne]
        exact ih hrest h

/-- Where a document equals itself and its names are distinct, all its values equal themselves. -/
theorem test_self_of_mem (hnames : a.keys.Nodup)
    (h : test (.document a) (.document a) = true) : ∀ f ∈ a, test f.2 f.2 = true := by
  intro f hf
  have hanswer := ((test_document a a).1 h).1 f hf
  rw [lookup_of_mem hnames hf] at hanswer
  exact hanswer

/-- Every element of the first list is related to one of the second. -/
theorem exists_of_forall₂ {R : String × Value → String × Value → Prop} (h : List.Forall₂ R a b) :
    ∀ f ∈ a, ∃ g ∈ b, R f g := by
  induction h with
  | nil => exact List.forall_mem_nil _
  | @cons f g a b hfg _ ih =>
      refine List.forall_mem_cons.2 ⟨⟨g, List.mem_cons_self, hfg⟩, fun f hf => ?_⟩
      obtain ⟨g, hg, hfg⟩ := ih f hf
      exact ⟨g, List.mem_cons_of_mem _ hg, hfg⟩

/-- Whether two fields have one name and equal values. -/
def FieldsEqual (f g : String × Value) : Prop := f.1 = g.1 ∧ test f.2 g.2 = true

theorem keys_of_fieldsEqual (h : List.Forall₂ FieldsEqual a b) : a.keys = b.keys := by
  induction h with
  | nil => rfl
  | cons hfield _ ih => exact congrArg₂ List.cons hfield.1 ih

/-- Documents with distinct names are equal when their fields are, in whatever order. -/
theorem test_document_of_perm (hnames : a.keys.Nodup) (hfields : List.Forall₂ FieldsEqual a b)
    (horder : b.Perm c) : test (.document a) (.document c) = true := by
  have hnames' : c.keys.Nodup := by
    have hb : b.keys.Nodup := keys_of_fieldsEqual hfields ▸ hnames
    exact (horder.map Prod.fst).nodup_iff.1 hb
  rw [test_document]
  constructor
  · intro f hf
    obtain ⟨g, hg, hkey, htest⟩ := exists_of_forall₂ hfields f hf
    rw [hkey, lookup_of_mem hnames' (horder.subset hg)]
    exact htest
  · intro g hg
    obtain ⟨f, hf, hkey, htest⟩ := exists_of_forall₂ hfields.flip g (horder.symm.subset hg)
    rw [← hkey, lookup_of_mem hnames hf]
    exact htest

mutual

/-- A value that equals itself equals its reorderings. -/
theorem test_of_reordered : {v w : Value} → Reordered v w → test v v = true → test v w = true
  | _, _, .refl _, h => h
  | _, _, .array hitems, h => testItems_of_reordered hitems h
  | _, _, .document hnames hfields horder, h =>
      test_document_of_perm hnames
        (fieldsEqual_of_reordered hfields (test_self_of_mem hnames h)) horder

/-- Lists that equal themselves equal their reorderings. -/
theorem testItems_of_reordered : {as bs : List Value} → ItemsReordered as bs →
    testItems as as = true → testItems as bs = true
  | _, _, .nil, h => h
  | _, _, .cons hvalue hitems, h => by
      rw [testItems, Bool.and_eq_true] at h ⊢
      exact ⟨test_of_reordered hvalue h.1, testItems_of_reordered hitems h.2⟩

/-- Fields whose values equal themselves equal their reorderings. -/
theorem fieldsEqual_of_reordered : {a b : Document} → FieldsReordered a b →
    (∀ f ∈ a, test f.2 f.2 = true) → List.Forall₂ FieldsEqual a b
  | _, _, .nil, _ => .nil
  | _, _, .cons _ hvalue hfields, h =>
      have ⟨hfirst, hrest⟩ := List.forall_mem_cons.1 h
      .cons ⟨rfl, test_of_reordered hvalue hfirst⟩ (fieldsEqual_of_reordered hfields hrest)

end

end DocSchema.Value
