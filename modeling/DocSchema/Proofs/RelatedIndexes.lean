import DocSchema.Proofs.IndexStates

/-!
# DocSchema.Proofs.RelatedIndexes

How a declared index stands to the indexes of its collection, said of each of the three states, and
which of these indexes it depends on.

The conflict is the first index in the list that shares the name or the key pattern and does not
agree (`stateIn_eq_conflicting_iff`). The order matters to which one that is and to nothing else, so
reordered lists lead to states of one kind, and indexes that are not related may come and go.
An index on the same field is not related when it has another name and is not ascending, as no other
keys have the direction of a declared one (`direction_ne_one`).
-/

namespace DocSchema

/-- Whether two states are the same but for the index in conflict. -/
def IndexState.SameKind : IndexState → IndexState → Prop
  | .missing, .missing => True
  | .identical, .identical => True
  | .conflicting _, .conflicting _ => True
  | _, _ => False

/-- Whether a key is none in ascending order: its direction is a negative number, or the word for a
text, hashed or geographic key. -/
inductive NotAscending : Value → Prop where
  | int32 {n : Int32} (h : n < 0) : NotAscending (.int32 n)
  | int64 {n : Int64} (h : n < 0) : NotAscending (.int64 n)
  | double {d : Binary64} (h : d.isNegative = true) : NotAscending (.double d)
  | word (kind : String) : NotAscending (.string kind)

/-- The whole part of a negative double is not positive. -/
theorem Binary64.truncate_nonpos {d : Binary64} (h : d.isNegative = true) : d.truncate ≤ 0 := by
  have hrange (whole : Nat) : max minInt64 (min maxInt64 (-(whole : Int))) ≤ 0 := by
    have hmin : minInt64 ≤ 0 := by decide
    omega
  simp only [truncate, h, if_true]
  split
  · exact Int.le_refl 0
  · exact hrange _

namespace IndexDefinition

variable {declared x : IndexDefinition} {existing more : List IndexDefinition}

/-- No key but an ascending one has the direction of a declared index. -/
theorem direction_ne_one {v : Value} (h : NotAscending v) : direction v ≠ 1 := by
  cases h with
  | int32 h =>
      have hneg : _ < (0 : Int) := Int32.lt_iff_toInt_lt.1 h
      exact fun hone => by simp only [direction] at hone; omega
  | int64 h =>
      have hneg : _ < (0 : Int) := Int64.lt_iff_toInt_lt.1 h
      exact fun hone => by simp only [direction] at hone; omega
  | double h =>
      have hnonpos := Binary64.truncate_nonpos h
      exact fun hone => by simp only [direction] at hone; omega
  | word kind => exact Int.zero_ne_one

theorem isRelated_eq_false_iff : declared.isRelated x = false ↔
    ¬ (x.name = declared.name ∨ x.keyPattern = declared.keyPattern) := by
  rw [← isRelated_iff, Bool.not_eq_true]

/-- An index that agrees with a declared one has its name. -/
theorem isRelated_of_agrees (h : declared.agrees x = true) : declared.isRelated x = true :=
  isRelated_iff.2 (.inl (agrees_iff.1 h).1.symm)

/-! ## The three states -/

/-- The index in conflict is the first that is related and does not agree. -/
theorem stateIn_eq_conflicting_iff : declared.stateIn existing = .conflicting x ↔
    ∃ before after, existing = before ++ x :: after ∧ declared.isRelated x = true ∧
      declared.agrees x = false ∧
        ∀ y ∈ before, declared.isRelated y = true → declared.agrees y = true := by
  have hfirst : declared.stateIn existing = .conflicting x ↔
      (existing.filter declared.isRelated).find? (fun y => !declared.agrees y) = some x := by
    simp only [stateIn]
    split
    · next y hy => rw [hy, IndexState.conflicting.injEq, Option.some.injEq]
    · next hnone =>
      rw [hnone]
      split <;> simp
  rw [hfirst, List.find?_filter, List.find?_eq_some_iff_append]
  simp only [decide_eq_true_eq, Bool.not_eq_true', decide_eq_false_iff_not, not_and,
    Bool.not_eq_false]
  constructor
  · rintro ⟨⟨hrelated, hdiffers⟩, before, after, hsplit, hbefore⟩
    exact ⟨before, after, hsplit, hrelated, hdiffers, hbefore⟩
  · rintro ⟨before, after, hsplit, hrelated, hdiffers, hbefore⟩
    exact ⟨⟨hrelated, hdiffers⟩, before, after, hsplit, hbefore⟩

/-- A declared index is there when some index agrees with it and no related one does not. -/
theorem stateIn_eq_identical_iff_agrees : declared.stateIn existing = .identical ↔
    (∃ x ∈ existing, declared.agrees x = true) ∧
      ∀ x ∈ existing, declared.isRelated x = true → declared.agrees x = true := by
  rw [stateIn_eq_identical_iff]
  refine and_congr_left fun hagrees => ?_
  constructor
  · rintro ⟨x, hx, hrelated⟩
    exact ⟨x, hx, hagrees x hx hrelated⟩
  · rintro ⟨x, hx, hagrees⟩
    exact ⟨x, hx, isRelated_of_agrees hagrees⟩

/-- The order of the indexes does not change the kind of a state. -/
theorem sameKind_stateIn_of_perm (h : existing.Perm more) :
    (declared.stateIn existing).SameKind (declared.stateIn more) := by
  cases hstate : declared.stateIn existing with
  | missing =>
      have hunrelated := stateIn_eq_missing_iff.1 hstate
      rw [stateIn_eq_missing_iff.2 fun x hx => hunrelated x (h.mem_iff.2 hx)]
      trivial
  | identical =>
      obtain ⟨⟨x, hx, hrelated⟩, hagrees⟩ := stateIn_eq_identical_iff.1 hstate
      rw [stateIn_eq_identical_iff.2
        ⟨⟨x, h.mem_iff.1 hx, hrelated⟩, fun y hy => hagrees y (h.mem_iff.2 hy)⟩]
      trivial
  | conflicting x =>
      obtain ⟨y, hy, hdiffers⟩ := exists_stateIn_eq_conflicting_iff.1 ⟨x, hstate⟩
      obtain ⟨z, hz⟩ := exists_stateIn_eq_conflicting_iff.2 ⟨y, h.mem_iff.1 hy, hdiffers⟩
      rw [hz]
      trivial

/-- An index under another name whose only key is on the declared field and not ascending is not
related. -/
theorem isRelated_eq_false_of_notAscending {s : IndexSpec} {v : Value} (hname : x.name ≠ s.name)
    (hkeys : x.keys = [(s.field.text, v)]) (hv : NotAscending v) :
    s.definition.isRelated x = false := by
  have hpattern : x.keyPattern ≠ s.definition.keyPattern := by
    rw [IndexSpec.keyPattern_definition, keyPattern, hkeys]
    intro h
    exact direction_ne_one hv (Prod.mk.inj (List.cons.inj h).1).2
  exact isRelated_eq_false_iff.2 (not_or.2 ⟨hname, hpattern⟩)

/-- A declared index is missing exactly if no index shares its name or its key pattern; it is in
conflict with the first that does and does not agree; it is there exactly if an index agrees and
all that share its name or its key pattern do. So indexes that share neither may be removed and
inserted anywhere without changing the state, the order of the indexes does not change its kind, and
an index under another name with one key on the declared field that is not ascending never
counts. -/
theorem state_depends_on_related (declared : IndexDefinition) (existing : List IndexDefinition) :
    let Related (x : IndexDefinition) : Prop :=
      x.name = declared.name ∨ x.keyPattern = declared.keyPattern
    (declared.stateIn existing = .missing ↔ ∀ x ∈ existing, ¬ Related x) ∧
      (∀ x, declared.stateIn existing = .conflicting x ↔
        ∃ before after, existing = before ++ x :: after ∧ Related x ∧
          declared.agrees x = false ∧ ∀ y ∈ before, Related y → declared.agrees y = true) ∧
      (declared.stateIn existing = .identical ↔
        (∃ x ∈ existing, declared.agrees x = true) ∧
          ∀ x ∈ existing, Related x → declared.agrees x = true) ∧
      (∀ before middle after, existing = before ++ middle ++ after →
        (∀ x ∈ middle, ¬ Related x) →
          declared.stateIn existing = declared.stateIn (before ++ after)) ∧
      (∀ more, existing.Perm more →
        (declared.stateIn existing).SameKind (declared.stateIn more)) ∧
      ∀ (s : IndexSpec) (x : IndexDefinition) (v : Value), declared = s.definition →
        x.name ≠ s.name → x.keys = [(s.field.text, v)] → NotAscending v →
          ¬ Related x ∧ declared.stateIn existing ≠ .conflicting x := by
  intro Related
  have hrelated (x : IndexDefinition) : Related x ↔ declared.isRelated x = true :=
    isRelated_iff.symm
  simp only [hrelated, Bool.not_eq_true]
  refine ⟨stateIn_eq_missing_iff, fun _ => stateIn_eq_conflicting_iff,
    stateIn_eq_identical_iff_agrees, ?_, fun _ => sameKind_stateIn_of_perm, ?_⟩
  · rintro before middle after rfl hmiddle
    exact stateIn_insert_of_unrelated hmiddle
  · rintro s x v rfl hname hkeys hv
    have hx := isRelated_eq_false_of_notAscending hname hkeys hv
    refine ⟨hx, fun hstate => ?_⟩
    obtain ⟨-, -, -, hconflict, -⟩ := stateIn_eq_conflicting_iff.1 hstate
    rw [hx] at hconflict
    contradiction

/-- A declared index on the serial numbers of vouchers that are in use. -/
def serial : IndexSpec := ⟨⟨"vouchers", by decide⟩, ⟨"serial", by decide⟩, true, some .null⟩

/-- An index on the numbers in descending order. -/
def descending : IndexDefinition :=
  ⟨"serial_-1", [("serial", .double ⟨0xBFF0000000000000⟩)], true, none⟩

/-- The declared index with its direction as a double. -/
def fromShell : IndexDefinition :=
  ⟨"serial_1", [("serial", .double ⟨0x3FF0000000000000⟩)], true, some [("deleted_at", .null)]⟩

/-- An index on the numbers under another name. -/
def renamed : IndexDefinition :=
  ⟨"serials", [("serial", .int64 1)], true, some [("deleted_at", .null)]⟩

/-- The declared index is there next to the one in descending order, which may as well be left out.
An index under another name after both is the conflict, and in whatever order there is one. -/
theorem state_depends_on_related_serials :
    let declared := serial.definition
    declared.stateIn [descending, fromShell] = .identical ∧
      declared.stateIn [descending, fromShell, renamed] = .conflicting renamed ∧
      declared.stateIn [descending, fromShell, renamed] = declared.stateIn [fromShell, renamed] ∧
      (declared.stateIn [descending, fromShell, renamed]).SameKind
        (declared.stateIn [renamed, fromShell, descending]) ∧
      declared.stateIn [descending, fromShell, renamed] ≠ .conflicting descending := by
  intro declared
  have hdescending : NotAscending (.double ⟨0xBFF0000000000000⟩) := .double (by decide)
  have hshell : declared.agrees fromShell = true := by decide
  have hrenamed : declared.agrees renamed = false := by decide
  obtain ⟨-, -, hidentical, -⟩ := state_depends_on_related declared [descending, fromShell]
  obtain ⟨-, hconflict, -, hremove, hperm, hnever⟩ :=
    state_depends_on_related declared [descending, fromShell, renamed]
  obtain ⟨hunrelated, hnot⟩ := hnever serial descending _ rfl (by decide) rfl hdescending
  have hbefore : ∀ x ∈ [descending, fromShell],
      x.name = declared.name ∨ x.keyPattern = declared.keyPattern → declared.agrees x = true :=
    List.forall_mem_cons.2
      ⟨fun h => absurd h hunrelated, List.forall_mem_singleton.2 fun _ => hshell⟩
  refine ⟨hidentical.2 ⟨⟨fromShell, by simp, hshell⟩, hbefore⟩,
    (hconflict renamed).2 ⟨[descending, fromShell], [], rfl, .inr (by decide), hrenamed, hbefore⟩,
    hremove [] [descending] [fromShell, renamed] rfl (List.forall_mem_singleton.2 hunrelated),
    hperm _ (List.reverse_perm _).symm, hnot⟩

end IndexDefinition

end DocSchema
