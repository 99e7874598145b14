import DocSchema.Index.Definition

/-!
# DocSchema.Proofs.ValueEquality

Equality of values is symmetric and transitive, and so is that of the keys made of them. It is not
reflexive, since a NaN differs from itself, so whatever compares two documents in either order rests
on the symmetry alone.

Two documents are equal when each answers the fields of the other. That condition reads the same
from both sides once the values inside are compared symmetrically, and it is passed on from answer
to answer, so both proofs follow the nesting of values.
-/

namespace DocSchema.Value

/-! ## Documents -/

/-- Every field of the first document is answered by a related value of the second. -/
def Answers (related : Value → Value → Bool) (a b : Document) : Prop :=
  ∀ f ∈ a, (b.lookup f.1).any (related f.2) = true

/-- The tests of the fields, one by one. -/
theorem testFields_eq_map (fields : Document) :
    testFields fields = fields.map fun f => (f.1, test f.2) := by
  induction fields with
  | nil => rfl
  | cons f fields ih =>
      obtain ⟨key, v⟩ := f
      simp only [testFields, List.map_cons, ih]

/-- The test that belongs to a name is that of the first field with this name. -/
theorem lookup_testFields (fields : Document) (key : String) :
    (testFields fields).lookup key = (fields.lookup key).map test := by
  induction fields with
  | nil => rfl
  | cons f fields ih =>
      obtain ⟨key', v⟩ := f
      simp only [testFields, List.lookup_cons, ih]
      split <;> rfl

/-- Documents are equal when each answers the other. -/
theorem test_document (a b : Document) :
    test (.document a) (.document b) = true ↔
      Answers test a b ∧ Answers (fun w v => test v w) b a := by
  simp only [test, lookup_testFields, Option.any_map, Bool.and_eq_true, List.all_eq_true]
  simp only [testFields_eq_map, List.forall_mem_map]
  rfl

/-- A value that is found in a document is that of one of its fields. -/
theorem mem_of_lookup {d : Document} {key : String} {v : Value} (h : d.lookup key = some v) :
    (key, v) ∈ d := by
  obtain ⟨before, after, hd, -⟩ := List.lookup_eq_some_iff.1 h
  rw [hd]
  exact List.mem_append_right _ List.mem_cons_self

/-- Only the values of the two documents matter to the answers. -/
theorem Answers.congr {r r' : Value → Value → Bool} {a b : Document}
    (h : ∀ f ∈ a, ∀ g ∈ b, r f.2 g.2 = r' f.2 g.2) : Answers r a b ↔ Answers r' a b := by
  refine forall₂_congr fun f hf => ?_
  cases hb : b.lookup f.1 with
  | none => rfl
  | some v =>
      have hv : r f.2 v = r' f.2 v := h f hf (f.1, v) (mem_of_lookup hb)
      simp only [Option.any_some, hv]

/-- Documents are compared symmetrically when the values of one of them are. -/
theorem test_document_comm {a : Document} (h : ∀ f ∈ a, ∀ v, test f.2 v = test v f.2)
    (b : Document) : test (.document a) (.document b) = test (.document b) (.document a) := by
  have hab : Answers test a b ↔ Answers (fun w v => test v w) a b :=
    Answers.congr fun f hf g _ => h f hf g.2
  have hba : Answers (fun w v => test v w) b a ↔ Answers test b a :=
    Answers.congr fun f _ g hg => h g hg f.2
  rw [Bool.eq_iff_iff, test_document, test_document, hab, hba, and_comm]

/-- Equality is passed on from document to document when it is from the values of the first. -/
theorem test_document_trans {a b c : Document}
    (h : ∀ f ∈ a, ∀ w u, test f.2 w = true → test w u = true → test f.2 u = true)
    (hab : test (.document a) (.document b) = true)
    (hbc : test (.document b) (.document c) = true) :
    test (.document a) (.document c) = true := by
  obtain ⟨hab, hba⟩ := (test_document a b).1 hab
  obtain ⟨hbc, hcb⟩ := (test_document b c).1 hbc
  refine (test_document a c).2 ⟨fun f hf => ?_, fun g hg => ?_⟩
  · obtain ⟨w, hw, hfw⟩ := (Option.any_eq_true _ _).1 (hab f hf)
    obtain ⟨u, hu, hwu⟩ := (Option.any_eq_true _ _).1 (hbc (f.1, w) (mem_of_lookup hw))
    exact (Option.any_eq_true _ _).2 ⟨u, hu, h f hf w u hfw hwu⟩
  · obtain ⟨w, hw, hwg⟩ := (Option.any_eq_true _ _).1 (hcb g hg)
    obtain ⟨v, hv, hvw⟩ := (Option.any_eq_true _ _).1 (hba (g.1, w) (mem_of_lookup hw))
    exact (Option.any_eq_true _ _).2 ⟨v, hv, h (g.1, v) (mem_of_lookup hv) w g.2 hvw hwg⟩

/-! ## Values -/

mutual

/-- Equality of values is symmetric. -/
theorem test_comm : (a b : Value) → test a b = test b a
  | .array a, b => by
      cases b with
      | array b => exact testItems_comm a b
      | _ => rfl
  | .document a, b => by
      cases b with
      | document b => exact test_document_comm (test_comm_of_mem a) b
      | _ => rfl
  | .double a, b => by
      cases b with
      | double b => exact Binary64.same_comm a b
      | _ => rfl
  | .null, b | .undefined, b | .minKey, b | .maxKey, b => by cases b <;> rfl
  | .bool a, b | .int32 a, b | .int64 a, b | .string a, b | .dateTime a, b | .objectId a, b
  | .binary a, b | .regex a c, b | .timestamp a c, b | .code a, b | .symbol a, b => by
      cases b <;> simp only [test, BEq.comm]

/-- Equality item by item is symmetric. -/
theorem testItems_comm : (as bs : List Value) → testItems as bs = testItems bs as
  | [], bs => by cases bs <;> rfl
  | a :: as, bs => by
      cases bs with
      | nil => rfl
      | cons b bs => simp only [testItems, test_comm a b, testItems_comm as bs]

/-- The values in a document are compared symmetrically. -/
theorem test_comm_of_mem : (fields : List (String × Value)) →
    ∀ f ∈ fields, ∀ v, test f.2 v = test v f.2
  | [], _, hf, _ => absurd hf List.not_mem_nil
  | (_, w) :: fields, f, hf, v => by
      rcases List.mem_cons.1 hf with rfl | hf
      · exact test_comm w v
      · exact test_comm_of_mem fields f hf v

end

mutual

/-- Equality of values is transitive. -/
theorem test_trans : (a b c : Value) → test a b = true → test b c = true → test a c = true
  | .array a, b, c, hab, hbc => by
      cases b with
      | array b =>
          cases c with
          | array c => exact testItems_trans a b c hab hbc
          | _ => contradiction
      | _ => contradiction
  | .document a, b, c, hab, hbc => by
      cases b with
      | document b =>
          cases c with
          | document c => exact test_document_trans (test_trans_of_mem a) hab hbc
          | _ => contradiction
      | _ => contradiction
  | .double a, b, c, hab, hbc => by
      cases b with
      | double b =>
          cases c with
          | double c => exact Binary64.same_trans hab hbc
          | _ => contradiction
      | _ => contradiction
  | .null, b, _, hab, hbc | .undefined, b, _, hab, hbc | .minKey, b, _, hab, hbc
  | .maxKey, b, _, hab, hbc => by
      cases b <;> first | exact hbc | contradiction
  | .bool a, b, _, hab, hbc | .int32 a, b, _, hab, hbc | .int64 a, b, _, hab, hbc
  | .string a, b, _, hab, hbc | .dateTime a, b, _, hab, hbc | .objectId a, b, _, hab, hbc
  | .binary a, b, _, hab, hbc | .code a, b, _, hab, hbc | .symbol a, b, _, hab, hbc => by
      cases b <;> first | contradiction | (obtain rfl := eq_of_beq hab; exact hbc)
  | .regex a d, b, _, hab, hbc | .timestamp a d, b, _, hab, hbc => by
      cases b <;> first
        | contradiction
        | (obtain ⟨h, h'⟩ := Bool.and_eq_true_iff.1 hab
           obtain rfl := eq_of_beq h
           obtain rfl := eq_of_beq h'
           exact hbc)

/-- Equality item by item is transitive. -/
theorem testItems_trans : (as bs cs : List Value) → testItems as bs = true →
    testItems bs cs = true → testItems as cs = true
  | [], bs, cs, hab, hbc => by
      cases bs with
      | nil => exact hbc
      | cons b bs => contradiction
  | a :: as, bs, cs, hab, hbc => by
      cases bs with
      | nil => contradiction
      | cons b bs =>
          cases cs with
          | nil => contradiction
          | cons c cs =>
              rw [testItems, Bool.and_eq_true] at hab hbc ⊢
              exact ⟨test_trans a b c hab.1 hbc.1, testItems_trans as bs cs hab.2 hbc.2⟩

/-- Equality is passed on from the values in a document. -/
theorem test_trans_of_mem : (fields : List (String × Value)) →
    ∀ f ∈ fields, ∀ w u, test f.2 w = true → test w u = true → test f.2 u = true
  | [], _, hf, _, _, _, _ => absurd hf List.not_mem_nil
  | (_, v) :: fields, f, hf, w, u, hvw, hwu => by
      rcases List.mem_cons.1 hf with rfl | hf
      · exact test_trans v w u hvw hwu
      · exact test_trans_of_mem fields f hf w u hvw hwu

end

theorem beq_comm (a b : Value) : (a == b) = (b == a) := test_comm a b

/-- Equal values equal the same values. -/
theorem beq_congr {a b : Value} (h : (a == b) = true) (c : Value) : (a == c) = (b == c) := by
  have hba : (b == a) = true := beq_comm a b ▸ h
  rw [Bool.eq_iff_iff]
  exact ⟨test_trans b a c hba, test_trans a b c h⟩

/-! ## Keys -/

/-- Equality of keys is symmetric. -/
theorem keys_beq_comm (as bs : List Value) : (as == bs) = (bs == as) := by
  induction as generalizing bs with
  | nil => cases bs <;> rfl
  | cons a as ih =>
      cases bs with
      | nil => rfl
      | cons b bs => simp only [List.cons_beq_cons, beq_comm a b, ih bs]

/-- Equality of keys is transitive. -/
theorem keys_beq_trans {as bs cs : List Value} (hab : (as == bs) = true)
    (hbc : (bs == cs) = true) : (as == cs) = true := by
  induction as generalizing bs cs with
  | nil =>
      cases bs with
      | nil => exact hbc
      | cons b bs => contradiction
  | cons a as ih =>
      cases bs with
      | nil => contradiction
      | cons b bs =>
          cases cs with
          | nil => contradiction
          | cons c cs =>
              rw [List.cons_beq_cons, Bool.and_eq_true] at hab hbc ⊢
              exact ⟨test_trans a b c hab.1 hbc.1, ih hab.2 hbc.2⟩

/-- Equal keys are equal value by value. -/
theorem beq_of_keys_beq {f g : String → Value} {paths : List String}
    (h : (paths.map f == paths.map g) = true) {path : String} (hpath : path ∈ paths) :
    (f path == g path) = true := by
  induction paths with
  | nil => exact absurd hpath List.not_mem_nil
  | cons first paths ih =>
      rw [List.map_cons, List.map_cons, List.cons_beq_cons, Bool.and_eq_true] at h
      rcases List.mem_cons.1 hpath with rfl | hpath
      · exact h.1
      · exact ih h.2 hpath

end DocSchema.Value

namespace DocSchema.Document

variable {a b c : Document}

theorem same_comm (a b : Document) : same a b = same b a :=
  Value.beq_comm (.document a) (.document b)

theorem same_trans (hab : same a b = true) (hbc : same b c = true) : same a c = true :=
  Value.test_trans (.document a) (.document b) (.document c) hab hbc

end DocSchema.Document
