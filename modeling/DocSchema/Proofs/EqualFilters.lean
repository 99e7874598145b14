import DocSchema.Proofs.IndexStates
import DocSchema.Store.Memory

/-!
# DocSchema.Proofs.EqualFilters

Filters that are equal as values accept the same documents, and equal documents are accepted by the
same filters, whatever the order of the fields at any depth. An index that agrees with another one
therefore does the same with documents (`agreement_is_sound`).

Values are not equal to themselves when there is a NaN in them, so the two halves do not follow from
one statement about both at once: what a condition says of a value is shown to depend on the
condition up to equality (`conditionAccepts_of_beq`), and on the value that was found up to equality
(`conditionAccepts_of_alike`).
-/

namespace DocSchema

/-- Whether two look-ups find equal values, or nothing both. -/
def Value.Alike : Option Value → Option Value → Prop := Option.Rel fun v w => (v == w) = true

namespace Value

variable {v w : Value} {x y : Option Value}

/-- What equals a document is one. -/
theorem exists_eq_document_of_beq {d : Document} (h : (document d == w) = true) :
    ∃ d', w = document d' ∧ Document.same d d' = true := by
  cases w with
  | document d' => exact ⟨d', rfl, h⟩
  | _ => contradiction

theorem Alike.symm (h : Alike x y) : Alike y x := by
  cases h with
  | none => exact .none
  | some hvw => exact .some (beq_comm _ _ ▸ hvw)

theorem Alike.exists_of_some (h : Alike (some v) y) : ∃ w, y = some w ∧ (v == w) = true := by
  cases h with
  | some hvw => exact ⟨_, rfl, hvw⟩

end Value

namespace Document

variable {a b : Document}

/-! ## Equal documents -/

/-- Equal documents have equal values under every name. -/
theorem get?_of_same (h : same a b = true) (key : String) :
    Value.Alike (a.get? key) (b.get? key) := by
  obtain ⟨hab, hba⟩ := (Value.test_document a b).1 h
  unfold get?
  cases hv : a.lookup key with
  | some v =>
      obtain ⟨w, hw, hvw⟩ := (Option.any_eq_true _ _).1 (hab (key, v) (Value.mem_of_lookup hv))
      rw [hw]
      exact .some hvw
  | none =>
      cases hw : b.lookup key with
      | none => exact .none
      | some w =>
          obtain ⟨v, hv', -⟩ := (Option.any_eq_true _ _).1 (hba (key, w) (Value.mem_of_lookup hw))
          rw [hv] at hv'
          contradiction

/-- Equal documents have equal values along every path. -/
theorem follow?_of_same (h : same a b = true) (path : List String) :
    Value.Alike (a.follow? path) (b.follow? path) := by
  induction path generalizing a b with
  | nil => exact .none
  | cons key rest ih =>
      cases rest with
      | nil => exact get?_of_same h key
      | cons next rest =>
          have hkey := get?_of_same h key
          -- a path goes on inside of documents only, and what equals a document is one
          simp only [follow?]
          split
          · next inner hv =>
            rw [hv] at hkey
            obtain ⟨w, hw, hvw⟩ := hkey.exists_of_some
            obtain ⟨inner', rfl, hinner⟩ := Value.exists_eq_document_of_beq hvw
            rw [hw]
            exact ih hinner
          · next hv =>
            split
            · next inner' hw =>
              rw [hw] at hkey
              obtain ⟨v, hv', hwv⟩ := hkey.symm.exists_of_some
              obtain ⟨inner, rfl, -⟩ := Value.exists_eq_document_of_beq hwv
              exact absurd hv' (hv inner)
            · exact .none

/-- Equal documents have equal values at every dotted path. -/
theorem getPath?_of_same (h : same a b = true) (path : String) :
    Value.Alike (a.getPath? path) (b.getPath? path) :=
  follow?_of_same h (Path.segments path)

/-- What all fields of a document pass, all fields of an equal one pass, if the test tells neither
equal values nor the order apart. -/
theorem all_of_same {p : String × Value → Bool}
    (hp : ∀ key v w, (v == w) = true → p (key, v) = p (key, w)) (h : same a b = true)
    (ha : a.all p = true) : b.all p = true := by
  rw [List.all_eq_true] at ha ⊢
  intro g hg
  obtain ⟨v, hv, hvg⟩ :=
    (Option.any_eq_true _ _).1 (((Value.test_document a b).1 h).2 g hg)
  rw [← hp g.1 v g.2 hvg]
  exact ha (g.1, v) (Value.mem_of_lookup hv)

/-- Whether all fields of a document pass a test depends on it up to equality only. -/
theorem all_congr_of_same {p : String × Value → Bool}
    (hp : ∀ key v w, (v == w) = true → p (key, v) = p (key, w)) (h : same a b = true) :
    a.all p = b.all p :=
  Bool.eq_iff_iff.2 ⟨all_of_same hp h, all_of_same hp (same_comm a b ▸ h)⟩

/-- Equal documents have the same names. -/
theorem any_name_of_same (p : String → Bool) (h : same a b = true) :
    (a.any fun f => p f.1) = b.any fun f => p f.1 := by
  have hall : (a.all fun f => !p f.1) = b.all fun f => !p f.1 :=
    all_congr_of_same (fun _ _ _ _ => rfl) h
  rw [List.any_eq_not_all_not, List.any_eq_not_all_not, hall]

end Document

/-! ## Conditions -/

namespace Filter

open Value

variable {expected expected' : Value} {found found' : Option Value}

/-- Equal operands are both true or both not. A zero equals the negative zero, and neither is. -/
theorem isTruthy_of_test : (v w : Value) → test v w = true → isTruthy v = isTruthy w
  | .bool b, w, h | .int32 b, w, h | .int64 b, w, h => by
      cases w <;> first | contradiction | (obtain rfl := eq_of_beq h; rfl)
  | .double d, w, h => by
      cases w with
      | double e => exact Binary64.isTruthy_of_same h
      | _ => contradiction
  | .null, w, h | .undefined, w, h | .minKey, w, h | .maxKey, w, h | .string _, w, h
  | .array _, w, h | .document _, w, h | .dateTime _, w, h | .objectId _, w, h | .binary _, w, h
  | .regex _ _, w, h | .timestamp _ _, w, h | .code _, w, h | .symbol _, w, h => by
      cases w <;> first | rfl | contradiction

theorem equals_some (v expected : Value) : equals (some v) expected = (v == expected) := by
  unfold equals
  split
  · contradiction
  · next hv => cases hv; rfl
  · next hv _ => cases hv; rfl
  · contradiction

theorem equals_none (expected : Value) : equals none expected = (expected == .null) := by
  cases expected <;> rfl

/-- Equality with what was found depends on the expected value up to equality only. -/
theorem equals_of_beq (h : (expected == expected') = true) (found : Option Value) :
    equals found expected = equals found expected' := by
  cases found with
  | none => rw [equals_none, equals_none, beq_congr h]
  | some v => rw [equals_some, equals_some, beq_comm v, beq_comm v, beq_congr h]

/-- Equality depends on what was found up to equality only. -/
theorem equals_of_alike (h : Alike found found') (expected : Value) :
    equals found expected = equals found' expected := by
  cases h with
  | none => rfl
  | some hvw => rw [equals_some, equals_some, beq_congr hvw]

/-- An operator depends on its operand up to equality only. -/
theorem operatorAccepts_of_beq (h : (expected == expected') = true) (found : Option Value)
    (op : String) : operatorAccepts found op expected = operatorAccepts found op expected' := by
  simp only [operatorAccepts, isTruthy_of_test expected expected' h, equals_of_beq h found]

/-- An operator depends on what was found up to equality only. -/
theorem operatorAccepts_of_alike (h : Alike found found') (op : String) (operand : Value) :
    operatorAccepts found op operand = operatorAccepts found' op operand := by
  have hsome : found.isSome = found'.isSome := by cases h <;> rfl
  simp only [operatorAccepts, hsome, equals_of_alike h operand]

/-- A condition that is no document is one of equality. -/
theorem conditionAccepts_eq_equals (h : ∀ ops, expected ≠ .document ops) (found : Option Value) :
    conditionAccepts found expected = equals found expected := by
  cases expected with
  | document ops => exact absurd rfl (h ops)
  | _ => rfl

/-- Equal conditions accept the same, in whichever order their operators are. -/
theorem conditionAccepts_of_beq (h : (expected == expected') = true) (found : Option Value) :
    conditionAccepts found expected = conditionAccepts found expected' := by
  by_cases hdocument : ∃ ops, expected = .document ops
  · obtain ⟨ops, rfl⟩ := hdocument
    obtain ⟨ops', rfl, hops⟩ := exists_eq_document_of_beq h
    have hall : (ops.all fun o => operatorAccepts found o.1 o.2) =
        ops'.all fun o => operatorAccepts found o.1 o.2 :=
      Document.all_congr_of_same (fun op _ _ h => operatorAccepts_of_beq h found op) hops
    simp only [conditionAccepts, Document.any_name_of_same isOperator hops, hall,
      equals_of_beq h found]
  · have hother : ∀ ops, expected' ≠ .document ops := by
      rintro ops rfl
      obtain ⟨ops', hops', -⟩ := exists_eq_document_of_beq (beq_comm _ _ ▸ h)
      exact hdocument ⟨ops', hops'⟩
    rw [conditionAccepts_eq_equals (fun ops heq => hdocument ⟨ops, heq⟩),
      conditionAccepts_eq_equals hother, equals_of_beq h]

/-- A condition accepts equal values alike. -/
theorem conditionAccepts_of_alike (h : Alike found found') (condition : Value) :
    conditionAccepts found condition = conditionAccepts found' condition := by
  cases condition with
  | document ops =>
      simp only [conditionAccepts, equals_of_alike h, operatorAccepts_of_alike h]
  | _ => exact equals_of_alike h _

/-! ## Filters -/

/-- Equal filters accept the same documents. -/
theorem accepts_of_same {filter filter' : Document} (h : Document.same filter filter' = true)
    (d : Document) : accepts filter d = accepts filter' d :=
  Document.all_congr_of_same (fun _ _ _ hvw => conditionAccepts_of_beq hvw _) h

/-- A filter accepts equal documents alike. -/
theorem accepts_of_same_document {d d' : Document} (h : Document.same d d' = true)
    (filter : Document) : accepts filter d = accepts filter d' := by
  simp only [accepts, conditionAccepts_of_alike (Document.getPath?_of_same h _)]

end Filter

namespace IndexDefinition

variable {x y : IndexDefinition}

/-! ## Agreeing indexes -/

theorem fields_eq_map_keyPattern (x : IndexDefinition) : x.fields = x.keyPattern.map Prod.fst := by
  rw [keyPattern, List.map_map]
  rfl

/-- Indexes that agree are on the same fields. -/
theorem fields_of_agrees (h : x.agrees y = true) : x.fields = y.fields := by
  rw [fields_eq_map_keyPattern, fields_eq_map_keyPattern, (agrees_iff.1 h).2.1]

/-- Indexes that agree give a document the same key. -/
theorem keyOf_of_agrees (h : x.agrees y = true) (d : Document) : x.keyOf d = y.keyOf d := by
  rw [keyOf, keyOf, fields_of_agrees h]

/-- Indexes that agree cover the same documents. -/
theorem covers_of_agrees (h : x.agrees y = true) (d : Document) : x.covers d = y.covers d := by
  obtain ⟨-, -, -, hfilter⟩ := agrees_iff.1 h
  unfold covers
  cases hx : x.filter with
  | none =>
      cases hy : y.filter with
      | none => rfl
      | some filter' =>
          rw [hx, hy] at hfilter
          contradiction
  | some filter =>
      cases hy : y.filter with
      | none =>
          rw [hx, hy] at hfilter
          contradiction
      | some filter' =>
          rw [hx, hy] at hfilter
          exact Filter.accepts_of_same hfilter d

/-- Indexes that agree enforce the same: they are both unique or both not, on the same fields in the
same order, cover the same documents and give them the same keys, so that the store refuses the same
documents and finds the same keys shared. What carries this is that a filter may be replaced by an
equal one, and that a filter tells no equal documents apart. -/
theorem agreement_is_sound :
    (∀ x y : IndexDefinition, x.agrees y = true →
      x.unique = y.unique ∧ x.fields = y.fields ∧
      (∀ d, x.covers d = y.covers d ∧ x.keyOf d = y.keyOf d) ∧
      ∀ documents, Catalog.sharedKey? x documents = Catalog.sharedKey? y documents ∧
        ∀ d, Catalog.refuses documents d x = Catalog.refuses documents d y) ∧
    (∀ filter filter' d, Document.same filter filter' = true →
      Filter.accepts filter d = Filter.accepts filter' d) ∧
    (∀ filter d d', Document.same d d' = true →
      Filter.accepts filter d = Filter.accepts filter d') := by
  refine ⟨fun x y h => ?_, fun _ _ d h => Filter.accepts_of_same h d,
    fun filter _ _ h => Filter.accepts_of_same_document h filter⟩
  have hunique : x.unique = y.unique := (agrees_iff.1 h).2.2.1
  have hcovers : x.covers = y.covers := funext (covers_of_agrees h)
  have hkey : x.keyOf = y.keyOf := funext (keyOf_of_agrees h)
  refine ⟨hunique, fields_of_agrees h, fun d => ⟨congrFun hcovers d, congrFun hkey d⟩,
    fun documents => ⟨?_, fun d => ?_⟩⟩
  · rw [Catalog.sharedKey?, Catalog.sharedKey?, hcovers, hkey]
  · rw [Catalog.refuses, Catalog.refuses, hunique, hcovers, hkey]

/-- An index that was written with other kinds of directions, its conditions and their operators in
another order and a negative zero for a zero, on a document with a field and on one without. -/
theorem agreement_is_sound_reordered :
    let one : Value := .int32 1
    let two : Value := .int32 2
    let filter : Document :=
      [("a.b", .document [("$exists", .double ⟨0⟩), ("$eq", .null)]),
        ("c", .document [("p", one), ("q", two)])]
    let filter' : Document :=
      [("c", .document [("q", two), ("p", one)]),
        ("a.b", .document [("$eq", .null), ("$exists", .double ⟨0x8000000000000000⟩)])]
    let x : IndexDefinition := ⟨"c.p_1", [("c.p", one)], true, some filter⟩
    let y : IndexDefinition :=
      ⟨"c.p_1", [("c.p", .double ⟨0x3FF0000000000000⟩)], true, some filter'⟩
    let d : Document := [("c", .document [("p", one), ("q", two)]), ("a", .document [])]
    let d' : Document := [("a", .document []), ("c", .document [("q", two), ("p", one)])]
    x.agrees y = true ∧ x.covers d = y.covers d ∧ y.covers d = true ∧
      Catalog.refuses [d'] d x = Catalog.refuses [d'] d y ∧ Catalog.refuses [d'] d y = true ∧
      Document.same filter filter' = true ∧
      Filter.accepts filter d = Filter.accepts filter' d ∧
      Document.same d d' = true ∧ Filter.accepts filter d = Filter.accepts filter d' := by
  intro one two filter filter' x y d d'
  have hagrees : x.agrees y = true := by decide
  have hfilter : Document.same filter filter' = true := by decide
  have hd : Document.same d d' = true := by decide
  obtain ⟨-, -, hdocuments, hstore⟩ := agreement_is_sound.1 x y hagrees
  exact ⟨hagrees, (hdocuments d).1, by decide, (hstore [d']).2 d, by decide, hfilter,
    agreement_is_sound.2.1 filter filter' d hfilter, hd,
    agreement_is_sound.2.2 filter d d' hd⟩

end IndexDefinition

end DocSchema
