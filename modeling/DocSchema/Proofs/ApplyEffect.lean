import DocSchema.Proofs.AppliedCatalogs
import DocSchema.Schema.Builtin

/-!
# DocSchema.Proofs.ApplyEffect

What applying a valid schema changes on a catalog that does not fail, in terms of the catalog
before.

A declared index is blocked when the catalog holds an index in conflict with it, or when it is
missing and unique and two documents share a key in it. The first blocked index ends the run. Up to
it the missing indexes are added, and nothing else about the catalog changes.
-/

namespace DocSchema.Bootstrap

variable {limit : Duration} {c : Catalog} {s : Schema} {i : IndexSpec} {e : BootstrapError}

/-! ## Blocked indexes -/

/-- What blocks a declared index on a catalog, with the error that says so. -/
inductive Blocked (c : Catalog) (i : IndexSpec) : BootstrapError → Prop where
  /-- An index of its name or its keys exists with other options. -/
  | conflicting (existing : IndexDefinition)
      (hstate : i.definition.stateIn (c.collection i.collection).indexes = .conflicting existing) :
      Blocked c i (.conflictingDefinition i.collection.text existing.name
        (difference existing i.definition))
  /-- It is missing and unique, and two documents are covered by it under one key. -/
  | shared (m n : Nat) (d e : Document) (text : String)
      (hstate : i.definition.stateIn (c.collection i.collection).indexes = .missing)
      (hunique : i.unique = true) (hmn : m < n)
      (hm : (c.collection i.collection).documents[m]? = some d)
      (hn : (c.collection i.collection).documents[n]? = some e)
      (hclash : i.definition.clashes d e = true)
      (htext : c.duplicateKey i.collection i.definition (i.definition.keyOf e) =
        .duplicateKey i.collection.text i.field.text text) :
      Blocked c i (.constraintViolation i.collection.text i.field.text text)

/-- On a catalog without a failure, what stands in the way of an index blocks it. -/
theorem blocked_of_obstacle (hfailure : c.failure = none) (h : obstacle? limit c i = some e) :
    Blocked c i e := by
  rcases obstacle_cases h with ⟨existing, hs, rfl⟩ | ⟨-, hlate, -⟩ | ⟨hs, -, key, hkey, rfl⟩
  · exact .conflicting existing hs
  · rw [requestTime_of_no_failure hfailure] at hlate
    exact absurd hlate (Nat.not_lt_zero _)
  · rw [Catalog.violation?] at hkey
    split at hkey
    · next hunique =>
      obtain ⟨m, n, d, e, hmn, hm, hn, hclash, rfl⟩ :=
        Catalog.exists_clash_of_sharedKey? hkey
      exact .shared m n d e _ hs hunique hmn hm hn hclash rfl
    · contradiction

/-- An index with nothing in its way is not blocked. -/
theorem not_blocked_of_no_obstacle (h : obstacle? limit c i = none) (e : BootstrapError) :
    ¬ Blocked c i e := by
  unfold obstacle? Catalog.stateOf at h
  rintro (⟨existing, hstate⟩ | ⟨m, n, d, e, text, hstate, hunique, hmn, hm, hn, hclash, htext⟩)
  · rw [hstate] at h
    contradiction
  · rw [hstate] at h
    dsimp only at h
    split at h
    · contradiction
    · rw [Option.map_eq_none_iff, Catalog.violation?_eq_none_iff] at h
      rw [(h hunique).clashes_eq_false (Nat.ne_of_lt hmn) hm hn] at hclash
      contradiction

/-! ## The effect of a run -/

/-- How a catalog differs from the one before a run that went through the indexes `before` and
not through `rest`. -/
structure Effect (c : Catalog) (s : Schema) (before rest : List IndexSpec) (c' : Catalog) :
    Prop where
  database : c'.database = c.database
  failure : c'.failure = c.failure
  /-- Declared collections exist and have the indexes of `before` that were missing, in order, after
  those they had; the others are as they were. -/
  content : ∀ name, c'.collections.get? name =
    if name ∈ s.collections then
      some { c.collection name with
        indexes := (c.collection name).indexes ++
          Catalog.definitionsOn name (before.filter (lacks c)) }
    else c.collections.get? name
  documents : ∀ name, (c'.collection name).documents = (c.collection name).documents
  indexes : ∀ name, (c.collection name).indexes <+: (c'.collection name).indexes
  /-- The indexes of `rest` are as present or missing as they were. -/
  pending : ∀ i ∈ rest, i.definition.stateIn (c'.collection i.collection).indexes =
    i.definition.stateIn (c.collection i.collection).indexes

/-- The catalog that a run leaves has the effect of the indexes it went through. -/
theorem effect_applied (hs : s.Consistent) {before rest : List IndexSpec}
    (hsplit : s.indexes = before ++ rest) (hreached : reached limit c s.indexes = before) :
    Effect c s before rest (applied limit c s) where
  database := (frame_applied limit c s).1
  failure := (frame_applied limit c s).2
  content name := by
    rw [get?_applied hs, created, hreached]
  documents name := by rw [collection_applied]
  indexes name := by
    rw [collection_applied]
    exact List.prefix_append _ _
  pending i hi := by
    have hmem : i ∈ s.indexes := hsplit ▸ List.mem_append_right before hi
    -- What was created stands before `rest`, on other fields.
    have hnew : i ∉ created limit c s.indexes := fun hcreated => by
      have hbefore : i ∈ before := hreached ▸ (mem_created.1 hcreated).1
      have hdistinct := hs.distinct
      rw [hsplit] at hdistinct
      exact (List.pairwise_append.1 hdistinct).2.2 i hbefore i hi ⟨rfl, rfl⟩
    exact (alike_applied hs hmem hnew).state

/-- Applying a valid schema to a catalog without a failure succeeds exactly if no declared index is
blocked, and otherwise ends with the error of the first that is; the catalog has the effect of the
indexes before it. -/
theorem apply_effect (limit : Duration) (s : Schema) (state : ClockedCatalog)
    (hfailure : state.catalog.failure = none) (hvalid : s.validate = .ok ()) :
    let run := reportOn limit .apply s state
    ((∃ r, run.1 = .ok r) ↔ ∀ i ∈ s.indexes, ∀ e, ¬ Blocked state.catalog i e) ∧
      ∃ before rest, s.indexes = before ++ rest ∧
        (∀ i ∈ before, ∀ e, ¬ Blocked state.catalog i e) ∧
        (match rest with
          | [] => ∃ r, run.1 = .ok r
          | i :: _ => ∃ e, Blocked state.catalog i e ∧ run.1 = .error e) ∧
        Effect state.catalog s before rest run.2.catalog := by
  intro run
  have hs : s.Consistent := Schema.validate_eq_ok_iff.1 hvalid
  have hrun := run_apply hvalid (writable_of_no_failure hfailure limit) .zero
  rcases exists_first_obstacle limit state.catalog s.indexes with
    hnone | ⟨before, i, after, e, hsplit, hbefore, hi⟩
  · have hfree : ∀ i ∈ s.indexes, ∀ e, ¬ Blocked state.catalog i e := fun i hi =>
      not_blocked_of_no_obstacle (hnone i hi)
    have heffect := effect_applied hs (List.append_nil s.indexes).symm
      (reached_of_no_obstacle hnone)
    rw [result_of_no_obstacle hnone] at hrun
    have hreport : (∃ r, run.1 = .ok r ∧ r.outcomes = _) ∧ run.2.catalog = _ :=
      exists_reportOn_of_run hrun
    obtain ⟨⟨r, hr, -⟩, hcatalog⟩ := hreport
    exact ⟨⟨fun _ => hfree, fun _ => ⟨r, hr⟩⟩, s.indexes, [], (List.append_nil _).symm, hfree,
      ⟨r, hr⟩, hcatalog ▸ heffect⟩
  · have hblocked : Blocked state.catalog i e := blocked_of_obstacle hfailure hi
    have hreached : reached limit state.catalog s.indexes = before := by
      rw [hsplit, reached_of_obstacle hbefore hi]
    have heffect := effect_applied hs hsplit hreached
    rw [result_of_obstacle hsplit hbefore hi] at hrun
    have hreport : run.1 = .error e ∧ run.2.catalog = _ := reportOn_of_run hrun
    obtain ⟨herror, hcatalog⟩ := hreport
    have hmem : i ∈ s.indexes := hsplit ▸ List.mem_append_right before List.mem_cons_self
    refine ⟨⟨fun ⟨r, hr⟩ => ?_, fun hfree => absurd hblocked (hfree i hmem e)⟩, before, i :: after,
      hsplit, fun j hj => not_blocked_of_no_obstacle (hbefore j hj), ⟨e, hblocked, herror⟩,
      hcatalog ▸ heffect⟩
    rw [herror] at hr
    contradiction

/-- A catalog in which two users have one phone number. -/
def twins : ClockedCatalog :=
  ⟨(Catalog.empty "autosrt" none).setCollection Schema.users
    ⟨[], [[("email", .string "ada"), ("phone_number", .string "1")],
      [("email", .string "eve"), ("phone_number", .string "1")]]⟩, 0⟩

/-- One phone number for two users blocks the index on phone numbers; the index on addresses, which
comes before it, is added, and no other is. -/
theorem apply_effect_twins :
    let run := reportOn defaultLimit .apply (.builtin .null) twins
    twins.catalog.failure = none ∧ (Schema.builtin .null).validate = .ok () ∧
      (¬ ∃ r, run.1 = .ok r) ∧
      (run.2.catalog.collection Schema.users).indexes.map IndexDefinition.name = ["email_1"] := by
  intro run
  let phone : IndexSpec := ⟨Schema.users, ⟨"phone_number", by decide⟩, true, some .null⟩
  have hvalid : (Schema.builtin .null).validate = .ok () := by decide
  have hphone : phone ∈ (Schema.builtin .null).indexes := by decide
  have hblocked : Blocked twins.catalog phone (.constraintViolation "users" "phone_number" _) :=
    .shared 0 1 _ _ _ rfl rfl Nat.one_pos rfl rfl (by decide) rfl
  obtain ⟨hiff, -⟩ := apply_effect defaultLimit (.builtin .null) twins rfl hvalid
  exact ⟨rfl, hvalid, fun hok => hiff.1 hok phone hphone _ hblocked, by decide +kernel⟩

end DocSchema.Bootstrap
