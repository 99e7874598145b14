import DocSchema.Index.Definition
import DocSchema.Proofs.ValueEquality

/-!
# DocSchema.Proofs.IndexStates

How a declared index stands to a list of indexes, and what is left of that when indexes are added.

The state looks at the related indexes alone. The indexes of two declarations are related exactly
when they are on one field, so indexes of other fields may be added at will, and a declared index
that was missing is there once its own definition is added.
-/

namespace DocSchema

namespace IndexDefinition

variable {x y z : IndexDefinition}

theorem agrees_iff : x.agrees y = true ↔ x.name = y.name ∧ x.keyPattern = y.keyPattern ∧
    x.unique = y.unique ∧ sameFilter x.filter y.filter = true := by
  simp only [agrees, Bool.and_eq_true, beq_iff_eq, and_assoc]

/-- Indexes are related by their names or by their key patterns. -/
theorem isRelated_iff : x.isRelated y = true ↔ y.name = x.name ∨ y.keyPattern = x.keyPattern := by
  simp only [isRelated, Bool.or_eq_true, beq_iff_eq]

/-- Two filters that equal a third one are equal. -/
theorem sameFilter_of_sameFilter {a b c : Option Document} (ha : sameFilter a c = true)
    (hb : sameFilter b c = true) : sameFilter a b = true := by
  cases a with
  | none =>
      cases b with
      | none => rfl
      | some b => cases c <;> contradiction
  | some a =>
      cases b with
      | none => cases c <;> contradiction
      | some b =>
          cases c with
          | none => contradiction
          | some c => exact Document.same_trans ha (Document.same_comm b c ▸ hb)

/-- Two indexes that agree with a third one agree. -/
theorem agrees_of_agrees (hx : x.agrees z = true) (hy : y.agrees z = true) :
    x.agrees y = true := by
  obtain ⟨hname, hpattern, hunique, hfilter⟩ := agrees_iff.1 hx
  obtain ⟨hname', hpattern', hunique', hfilter'⟩ := agrees_iff.1 hy
  exact agrees_iff.2 ⟨hname.trans hname'.symm, hpattern.trans hpattern'.symm,
    hunique.trans hunique'.symm, sameFilter_of_sameFilter hfilter hfilter'⟩

end IndexDefinition

namespace IndexSpec

/-- The names of declared indexes tell their fields apart. -/
theorem name_eq_name_iff {s t : IndexSpec} : s.name = t.name ↔ s.field = t.field := by
  unfold name
  rw [String.append_left_inj]
  exact ⟨FieldName.ext, congrArg FieldName.text⟩

theorem keyPattern_definition (s : IndexSpec) : s.definition.keyPattern = [(s.field.text, 1)] := by
  have hdirection : IndexDefinition.direction (.int32 1) = 1 := by decide
  simp only [IndexDefinition.keyPattern, definition, List.map_cons, List.map_nil, hdirection]

/-- The key patterns of declared indexes tell their fields apart. -/
theorem keyPattern_eq_keyPattern_iff {s t : IndexSpec} :
    s.definition.keyPattern = t.definition.keyPattern ↔ s.field = t.field := by
  simp only [keyPattern_definition, List.cons.injEq, Prod.mk.injEq, and_true]
  exact ⟨FieldName.ext, congrArg FieldName.text⟩

/-- The indexes of two declarations are related exactly when they are on one field. -/
theorem isRelated_definition_iff {s t : IndexSpec} :
    s.definition.isRelated t.definition = true ↔ s.field = t.field := by
  have hname : t.definition.name = s.definition.name ↔ t.field = s.field := name_eq_name_iff
  rw [IndexDefinition.isRelated_iff, hname, keyPattern_eq_keyPattern_iff, or_self, eq_comm]

/-- The filter of a convention equals itself; it holds no NaN. -/
theorem same_toFilter (convention : SoftDelete) :
    Document.same convention.toFilter convention.toFilter = true := by
  cases convention <;> decide

/-- A declared index describes itself. -/
theorem agrees_definition (s : IndexSpec) : s.definition.agrees s.definition = true := by
  have hfilter : IndexDefinition.sameFilter s.definition.filter s.definition.filter = true := by
    unfold definition
    cases s.activeOnly with
    | none => rfl
    | some convention => exact same_toFilter convention
  simp only [IndexDefinition.agrees, beq_self_eq_true, hfilter, Bool.and_self]

/-- The filters of two conventions are equal as values only if the conventions are the same. -/
theorem sameFilter_toFilter_iff {a b : Option SoftDelete} :
    IndexDefinition.sameFilter (a.map SoftDelete.toFilter) (b.map SoftDelete.toFilter) = true ↔
      a = b := by
  constructor
  · intro h
    cases a with
    | none =>
        cases b with
        | none => rfl
        | some convention => contradiction
    | some convention =>
        cases b with
        | none => contradiction
        | some convention' =>
            have hfilters : Document.same convention.toFilter convention'.toFilter = true := h
            cases convention <;> cases convention' <;>
              first | rfl | exact absurd hfilters (by decide)
  · rintro rfl
    cases a with
    | none => rfl
    | some convention => exact same_toFilter convention

/-- Two declared indexes agree when they are on one field with the same options. -/
theorem agrees_definition_iff {s t : IndexSpec} : s.definition.agrees t.definition = true ↔
    s.field = t.field ∧ s.unique = t.unique ∧ s.activeOnly = t.activeOnly := by
  have hname : s.definition.name = t.definition.name ↔ s.field = t.field := name_eq_name_iff
  have hpattern (h : s.field = t.field) : s.definition.keyPattern = t.definition.keyPattern := by
    rw [keyPattern_definition, keyPattern_definition, h]
  have hfilter : IndexDefinition.sameFilter s.definition.filter t.definition.filter = true ↔
      s.activeOnly = t.activeOnly := sameFilter_toFilter_iff
  rw [IndexDefinition.agrees_iff, hname, hfilter]
  exact ⟨fun h => ⟨h.1, h.2.2.1, h.2.2.2⟩, fun h => ⟨h.1, hpattern h.1, h.2.1, h.2.2⟩⟩

/-- On one collection, a declared index agrees with itself alone. -/
theorem agrees_definition_iff_eq {s t : IndexSpec} (h : s.collection = t.collection) :
    s.definition.agrees t.definition = true ↔ s = t :=
  agrees_definition_iff.trans (eq_iff h).symm

end IndexSpec

namespace IndexDefinition

variable {declared : IndexDefinition} {existing more before middle after : List IndexDefinition}

/-- Only the related indexes matter to the state of a declared index. -/
theorem stateIn_congr (h : existing.filter declared.isRelated = more.filter declared.isRelated) :
    declared.stateIn existing = declared.stateIn more := by
  unfold stateIn
  rw [h]

/-- Indexes that are not related to a declared one may stand anywhere. -/
theorem stateIn_insert_of_unrelated (h : ∀ x ∈ middle, declared.isRelated x = false) :
    declared.stateIn (before ++ middle ++ after) = declared.stateIn (before ++ after) := by
  have hmiddle : middle.filter declared.isRelated = [] :=
    List.filter_eq_nil_iff.2 fun x hx => Bool.eq_false_iff.1 (h x hx)
  refine stateIn_congr ?_
  rw [List.filter_append, List.filter_append, hmiddle, List.append_nil, List.filter_append]

/-- Indexes that are not related to a declared one may be added without changing its state. -/
theorem stateIn_append_of_unrelated (h : ∀ x ∈ more, declared.isRelated x = false) :
    declared.stateIn (existing ++ more) = declared.stateIn existing := by
  have hinsert : declared.stateIn (existing ++ more ++ []) = declared.stateIn (existing ++ []) :=
    stateIn_insert_of_unrelated h
  rwa [List.append_nil, List.append_nil] at hinsert

/-- A declared index is missing when no index is related to it. -/
theorem stateIn_eq_missing_iff :
    declared.stateIn existing = .missing ↔ ∀ x ∈ existing, declared.isRelated x = false := by
  have hnil : existing.filter declared.isRelated = [] ↔
      ∀ x ∈ existing, declared.isRelated x = false := by
    simp only [List.filter_eq_nil_iff, Bool.not_eq_true]
  rw [← hnil]
  simp only [stateIn]
  split
  · next x hx =>
    have hmem : x ∈ existing.filter declared.isRelated := List.mem_of_find?_eq_some hx
    have hne : existing.filter declared.isRelated ≠ [] := List.ne_nil_of_mem hmem
    simp only [reduceCtorEq, hne]
  · split
    · next h => simpa only [List.isEmpty_iff, true_iff] using h
    · next h => simpa only [List.isEmpty_iff, reduceCtorEq, false_iff] using h

/-- A missing index is there once its own definition is added. -/
theorem stateIn_append_self (hself : declared.agrees declared = true)
    (h : declared.stateIn existing = .missing) :
    declared.stateIn (existing ++ [declared]) = .identical := by
  have hnone : existing.filter declared.isRelated = [] :=
    List.filter_eq_nil_iff.2 fun x hx => Bool.eq_false_iff.1 (stateIn_eq_missing_iff.1 h x hx)
  have hrelated : declared.isRelated declared = true := by
    simp only [isRelated, beq_self_eq_true, Bool.true_or]
  unfold stateIn
  simp only [List.filter_append, hnone, List.nil_append, List.filter_cons, hrelated, if_true,
    List.filter_nil, List.find?_cons, hself, Bool.not_true, List.find?_nil, List.isEmpty_cons]
  rfl

/-- The index in conflict is one of those that exist. -/
theorem mem_of_stateIn_eq_conflicting {x : IndexDefinition}
    (h : declared.stateIn existing = .conflicting x) : x ∈ existing := by
  simp only [stateIn] at h
  split at h
  · next y hy =>
    have hxy : y = x := IndexState.conflicting.inj h
    rw [← hxy]
    exact (List.mem_filter.1 (List.mem_of_find?_eq_some hy)).1
  · split at h <;> contradiction

/-- An index that is there is among those that exist. -/
theorem ne_nil_of_stateIn_eq_identical (h : declared.stateIn existing = .identical) :
    existing ≠ [] := by
  rintro rfl
  contradiction

/-- An index is there when some index is related to it and all that are agree with it. -/
theorem stateIn_eq_identical_iff : declared.stateIn existing = .identical ↔
    (∃ x ∈ existing, declared.isRelated x = true) ∧
      ∀ x ∈ existing, declared.isRelated x = true → declared.agrees x = true := by
  have hsome : (existing.filter declared.isRelated).isEmpty = false ↔
      ∃ x ∈ existing, declared.isRelated x = true := by
    simp only [List.isEmpty_eq_false_iff_exists_mem, List.mem_filter]
  have hall : (existing.filter declared.isRelated).find? (fun x => !declared.agrees x) = none ↔
      ∀ x ∈ existing, declared.isRelated x = true → declared.agrees x = true := by
    simp only [List.find?_eq_none, List.mem_filter, Bool.not_eq_true', Bool.not_eq_false, and_imp]
  rw [← hsome, ← hall]
  simp only [stateIn]
  split
  · next x hx => simp only [reduceCtorEq, hx, and_false]
  · next hnone =>
    cases (existing.filter declared.isRelated).isEmpty <;> simp [hnone]

/-- A declared index is in conflict when some index that is related to it does not agree with it. -/
theorem exists_stateIn_eq_conflicting_iff :
    (∃ x, declared.stateIn existing = .conflicting x) ↔
      ∃ x ∈ existing, declared.isRelated x = true ∧ declared.agrees x = false := by
  have hsome : (∃ x, (existing.filter declared.isRelated).find? (fun x => !declared.agrees x) =
      some x) ↔ ∃ x ∈ existing, declared.isRelated x = true ∧ declared.agrees x = false := by
    rw [← Option.isSome_iff_exists, List.find?_isSome]
    simp only [List.mem_filter, Bool.not_eq_true', and_assoc]
  rw [← hsome]
  simp only [stateIn]
  split
  · next x hx => simp only [IndexState.conflicting.injEq, exists_eq', hx, Option.some.injEq]
  · next hnone =>
    cases (existing.filter declared.isRelated).isEmpty <;> simp [hnone]

end IndexDefinition

end DocSchema
