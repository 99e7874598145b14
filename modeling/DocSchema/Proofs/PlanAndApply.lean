import DocSchema.Proofs.ApplyEffect

/-!
# DocSchema.Proofs.PlanAndApply

What planning says about applying, on a catalog that does not fail.

Planning looks at every declaration on one catalog, and applying looks at each after it has changed
the catalog for those before. In a valid schema both see the same, with one exception: planning does
not look at documents, so two of them that share a key of a unique index come as a surprise.
-/

namespace DocSchema

/-- The outcome of applying what would be created. -/
def Outcome.carriedOut (o : Outcome) : Outcome :=
  { o with action := if o.action = .wouldCreate then .created else o.action }

namespace Bootstrap

variable {limit : Duration} {c : Catalog} {s : Schema} {i : IndexSpec} {e : BootstrapError}

/-- The ways in which applying turns out on a catalog, given the outcomes of planning. -/
inductive Predicted (c : Catalog) (planned : List Outcome) :
    Except BootstrapError Report → Prop where
  /-- No conflict was planned, and what would be created is created. -/
  | success (r : Report) (hclear : ∀ o ∈ planned, o.action.isConflict = false)
      (houtcomes : r.outcomes = planned.map Outcome.carriedOut) : Predicted c planned (.ok r)
  /-- The first conflict that was planned is the error, with its text. -/
  | conflict (before after : List Outcome) (i : IndexSpec) (existing : IndexDefinition)
      (text : String) (hplanned : planned = before ++ ⟨.index i, .conflict text⟩ :: after)
      (hbefore : ∀ o ∈ before, o.action.isConflict = false)
      (hexisting : existing ∈ (c.collection i.collection).indexes) :
      Predicted c planned
        (.error (.conflictingDefinition i.collection.text existing.name text))
  /-- A unique index would be created, no conflict was planned before it, and two documents share
  a key in it. -/
  | violation (before after : List Outcome) (i : IndexSpec) (m n : Nat) (d e : Document)
      (text : String) (hplanned : planned = before ++ ⟨.index i, .wouldCreate⟩ :: after)
      (hbefore : ∀ o ∈ before, o.action.isConflict = false) (hunique : i.unique = true)
      (hmn : m < n) (hm : (c.collection i.collection).documents[m]? = some d)
      (hn : (c.collection i.collection).documents[n]? = some e)
      (hclash : i.definition.clashes d e = true) :
      Predicted c planned (.error (.constraintViolation i.collection.text i.field.text text))

/-- Where a conflict was planned, applying ends with its exit code. -/
theorem Predicted.exitCode {planned : List Outcome} {answer : Except BootstrapError Report}
    (h : Predicted c planned answer) (hconflict : ∃ o ∈ planned, o.action.isConflict = true) :
    ∃ e, answer = .error e ∧ e.exitCode = 5 := by
  cases h with
  | success r hclear houtcomes =>
      obtain ⟨o, ho, hconflict⟩ := hconflict
      rw [hclear o ho] at hconflict
      contradiction
  | conflict before after i existing text hplanned hbefore hexisting => exact ⟨_, rfl, rfl⟩
  | violation before after i m n d e text hplanned hbefore hunique hmn hm hn hclash =>
      exact ⟨_, rfl, rfl⟩

/-! ## Outcomes -/

theorem isConflict_collectionPlan (c : Catalog) (name : CollectionName) :
    (collectionPlan c name).action.isConflict = false := by
  unfold collectionPlan
  split <;> rfl

theorem carriedOut_collectionPlan (c : Catalog) (name : CollectionName) :
    (collectionPlan c name).carriedOut = collectionOutcome c name := by
  unfold collectionPlan collectionOutcome
  split <;> rfl

/-- No conflict is planned for an index with nothing in its way. -/
theorem isConflict_indexPlan (h : obstacle? limit c i = none) :
    (indexPlan c i).action.isConflict = false := by
  unfold obstacle? at h
  unfold indexPlan
  cases hstate : c.stateOf i with
  | identical => rfl
  | missing => rfl
  | conflicting existing =>
      rw [hstate] at h
      contradiction

theorem carriedOut_indexPlan (h : obstacle? limit c i = none) :
    (indexPlan c i).carriedOut = indexOutcome c i := by
  unfold obstacle? at h
  unfold indexPlan indexOutcome lacks
  cases hstate : c.stateOf i with
  | identical => rfl
  | missing => rfl
  | conflicting existing =>
      rw [hstate] at h
      contradiction

/-- Up to an index with something in its way, no conflict is planned. -/
theorem isConflict_outlook {before : List IndexSpec} (names : List CollectionName)
    (h : ∀ j ∈ before, obstacle? limit c j = none) :
    ∀ o ∈ names.map (collectionPlan c) ++ before.map (indexPlan c),
      o.action.isConflict = false := by
  intro o ho
  rcases List.mem_append.1 ho with ho | ho
  · obtain ⟨name, -, rfl⟩ := List.mem_map.1 ho
    exact isConflict_collectionPlan c name
  · obtain ⟨j, hj, rfl⟩ := List.mem_map.1 ho
    exact isConflict_indexPlan (h j hj)

/-- With nothing in the way, all that would be created is. -/
theorem carriedOut_outlook (h : ∀ i ∈ s.indexes, obstacle? limit c i = none) :
    (outlook c s).map Outcome.carriedOut =
      s.collections.map (collectionOutcome c) ++ s.indexes.map (indexOutcome c) := by
  rw [outlook, List.map_append, List.map_map, List.map_map]
  congr 1
  · exact List.map_congr_left fun name _ => carriedOut_collectionPlan c name
  · exact List.map_congr_left fun i hi => carriedOut_indexPlan (h i hi)

/-- The first index with something in its way is where applying ends, as was predicted. -/
theorem predicted_of_obstacle {before after : List IndexSpec} (hfailure : c.failure = none)
    (hsplit : s.indexes = before ++ i :: after)
    (hbefore : ∀ j ∈ before, obstacle? limit c j = none) (hi : obstacle? limit c i = some e) :
    Predicted c (outlook c s) (.error e) := by
  have hclear := isConflict_outlook s.collections hbefore
  have houtlook : outlook c s = (s.collections.map (collectionPlan c) ++
      before.map (indexPlan c)) ++ indexPlan c i :: after.map (indexPlan c) := by
    rw [outlook, hsplit, List.map_append, List.map_cons, List.append_assoc]
  have hplan : indexPlan c i = ⟨.index i, plannedAction i (c.stateOf i)⟩ := rfl
  cases blocked_of_obstacle hfailure hi with
  | conflicting existing hstate =>
      rw [hplan, Catalog.stateOf, hstate] at houtlook
      exact .conflict _ _ i existing _ houtlook hclear
        (IndexDefinition.mem_of_stateIn_eq_conflicting hstate)
  | shared m n d e text hstate hunique hmn hm hn hclash htext =>
      rw [hplan, Catalog.stateOf, hstate] at houtlook
      exact .violation _ _ i m n d e text houtlook hclear hunique hmn hm hn hclash

/-- Applying a valid schema turns out in one of the predicted ways. -/
theorem predicted_apply (limit : Duration) {state : ClockedCatalog}
    (hfailure : state.catalog.failure = none) (hvalid : s.validate = .ok ()) :
    Predicted state.catalog (outlook state.catalog s) (reportOn limit .apply s state).1 := by
  have hrun := run_apply hvalid (writable_of_no_failure hfailure limit) .zero
  rcases exists_first_obstacle limit state.catalog s.indexes with
    hnone | ⟨before, i, after, e, hsplit, hbefore, hi⟩
  · have hclear := isConflict_outlook s.collections hnone
    rw [result_of_no_obstacle hnone] at hrun
    have hreport : (∃ r, (reportOn limit .apply s state).1 = .ok r ∧ r.outcomes = _) ∧ _ :=
      exists_reportOn_of_run hrun
    obtain ⟨⟨r, hr, houtcomes⟩, -⟩ := hreport
    rw [hr]
    exact .success r hclear (houtcomes.trans (carriedOut_outlook hnone).symm)
  · rw [result_of_obstacle hsplit hbefore hi] at hrun
    have hreport : (reportOn limit .apply s state).1 = .error e ∧ _ := reportOn_of_run hrun
    rw [hreport.1]
    exact predicted_of_obstacle hfailure hsplit hbefore hi

/-- On a catalog without a failure, planning and applying refuse the schema alike, or planning
changes nothing, says something of every declaration in order, and predicts how applying turns
out; if it finds a conflict, applying ends with exit code 5. -/
theorem plan_predicts_apply (limit limit' : Duration) (s : Schema) (state : ClockedCatalog)
    (hfailure : state.catalog.failure = none) :
    let planned := reportOn limit .plan s state
    let applied := reportOn limit' .apply s state
    planned.2.catalog = state.catalog ∧
      ((∃ e, s.validate = .error e ∧ planned.1 = .error (.invalidSchema e) ∧
          applied.1 = .error (.invalidSchema e)) ∨
        ∃ p, planned.1 = .ok p ∧ p.outcomes.map Outcome.declaration = s.declarations ∧
          Predicted state.catalog p.outcomes applied.1 ∧
          (p.conflicts ≠ [] → ∃ e, applied.1 = .error e ∧ e.exitCode = 5)) := by
  intro planned applied
  cases hvalid : s.validate with
  | error e =>
      have hplanned : planned.1 = .error (.invalidSchema e) ∧
          planned.2.catalog = state.catalog := reportOn_of_invalid hvalid
      have happlied : applied.1 = .error (.invalidSchema e) ∧
          applied.2.catalog = state.catalog := reportOn_of_invalid hvalid
      exact ⟨hplanned.2, .inl ⟨e, rfl, hplanned.1, happlied.1⟩⟩
  | ok =>
      have hplan := run_plan hvalid (writable_of_no_failure hfailure limit).toReadable .zero
      have hplanned : (∃ p, planned.1 = .ok p ∧ p.outcomes = outlook state.catalog s) ∧
          planned.2.catalog = state.catalog := exists_reportOn_of_run hplan
      obtain ⟨⟨p, hp, houtcomes⟩, hcatalog⟩ := hplanned
      have hpredicted := predicted_apply limit' hfailure hvalid
      rw [← houtcomes] at hpredicted
      refine ⟨hcatalog, .inr ⟨p, hp, ?_, hpredicted, fun hconflicts => hpredicted.exitCode ?_⟩⟩
      · rw [houtcomes, declarations_outlook]
      · obtain ⟨o, ho⟩ := List.exists_mem_of_ne_nil _ hconflicts
        exact ⟨o, List.mem_filter.1 ho⟩

/-- A catalog with an index on the addresses of users that is not unique. -/
def crossed : ClockedCatalog :=
  ⟨(Catalog.empty "autosrt" none).seedIndex Schema.users
    { name := "email_1", keys := [("email", .int32 1)], unique := false, filter := none }, 0⟩

/-- The index is planned as a conflict, and applying ends there. -/
theorem plan_predicts_apply_crossed :
    crossed.catalog.failure = none ∧
      ∃ p e, (reportOn defaultLimit .plan (.builtin .null) crossed).1 = .ok p ∧
        p.conflicts.length = 1 ∧
        (reportOn defaultLimit .apply (.builtin .null) crossed).1 = .error e ∧
        e.exitCode = 5 := by
  have hvalid : (Schema.builtin .null).validate = .ok () := by decide
  have hcount : (reportOn defaultLimit .plan (.builtin .null) crossed).1.toOption.map
      (fun p => p.conflicts.length) = some 1 := by decide +kernel
  obtain ⟨-, ⟨e, he, -⟩ | ⟨p, hp, -, -, hexit⟩⟩ :=
    plan_predicts_apply defaultLimit defaultLimit (.builtin .null) crossed rfl
  · rw [hvalid] at he
    contradiction
  · rw [hp] at hcount
    have hlength : p.conflicts.length = 1 := Option.some.inj hcount
    have hconflicts : p.conflicts ≠ [] := List.ne_nil_of_length_pos (hlength ▸ Nat.one_pos)
    obtain ⟨e, herror, hcode⟩ := hexit hconflicts
    exact ⟨rfl, p, e, hp, hlength, herror, hcode⟩

end Bootstrap

end DocSchema
