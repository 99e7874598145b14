import DocSchema.Proofs.AppliedCatalogs
import DocSchema.Schema.Builtin

/-!
# DocSchema.Proofs.DeclarationOrder

The order of the declarations of a schema does not matter to what becomes of them.

In a consistent schema every declaration is judged on the catalog at the start, whatever stands
before it. A schema with its declarations in another order is consistent too, so it meets the same
obstacles, every declaration has the same action, and the same indexes are added, in the order in
which they are declared.
-/

namespace DocSchema

namespace Schema

variable {s s' : Schema}

/-- Whether two schemas of one database declare the same, in whatever order. -/
structure Rearranged (s s' : Schema) : Prop where
  database : s'.database = s.database
  collections : s.collections.Perm s'.collections
  indexes : s.indexes.Perm s'.indexes

/-- A consistent schema is consistent in every order. -/
theorem Consistent.rearranged (hs : s.Consistent) (h : s.Rearranged s') : s'.Consistent where
  database := h.database ▸ hs.database
  collections := h.collections.nodup_iff.1 hs.collections
  declared i hi := h.collections.subset (hs.declared i (h.indexes.symm.subset hi))
  distinct := by
    have hsymm : ∀ {i j : IndexSpec}, ¬ Overlap i j → ¬ Overlap j i := fun hij hji =>
      hij ⟨hji.1.symm, hji.2.symm⟩
    exact (h.indexes.pairwise_iff hsymm).1 hs.distinct

theorem validate_of_rearranged (hvalid : s.validate = .ok ()) (h : s.Rearranged s') :
    s'.validate = .ok () :=
  validate_eq_ok_iff.2 ((validate_eq_ok_iff.1 hvalid).rearranged h)

end Schema

namespace Bootstrap

variable {limit : Duration} {c : Catalog} {s s' : Schema} {state : ClockedCatalog}

/-! ## Actions -/

/-- The outcomes of a schema, given what happens to every declaration. -/
def outcomesOf (s : Schema) (action : Declaration → Action) : List Outcome :=
  s.declarations.map fun d => ⟨d, action d⟩

/-- Whether two reports give every declaration of their schemas the same action. -/
def SameActions (s s' : Schema) (r r' : Report) : Prop :=
  ∃ action, r.outcomes = outcomesOf s action ∧ r'.outcomes = outcomesOf s' action

/-- What happens to a declaration with nothing in its way. -/
def freeAction (c : Catalog) : Declaration → Action
  | .collection name => (collectionOutcome c name).action
  | .index i => (indexOutcome c i).action

/-- What planning says of a declaration. -/
def foreseenAction (c : Catalog) : Declaration → Action
  | .collection name => (collectionPlan c name).action
  | .index i => (indexPlan c i).action

theorem outcomesOf_freeAction (c : Catalog) (s : Schema) : outcomesOf s (freeAction c) =
    s.collections.map (collectionOutcome c) ++ s.indexes.map (indexOutcome c) := by
  rw [outcomesOf, Schema.declarations, List.map_append, List.map_map, List.map_map]
  rfl

theorem outcomesOf_foreseenAction (c : Catalog) (s : Schema) :
    outcomesOf s (foreseenAction c) = outlook c s := by
  rw [outcomesOf, Schema.declarations, List.map_append, List.map_map, List.map_map]
  rfl

/-! ## Applying -/

/-- Applying succeeds where nothing stands in the way. -/
theorem exists_report_of_no_obstacle (hvalid : s.validate = .ok ())
    (hw : Writable limit state.catalog)
    (hnone : ∀ i ∈ s.indexes, obstacle? limit state.catalog i = none) :
    (∃ r, (reportOn limit .apply s state).1 = .ok r ∧
        r.outcomes = outcomesOf s (freeAction state.catalog)) ∧
      (reportOn limit .apply s state).2.catalog = applied limit state.catalog s := by
  have hrun := run_apply hvalid hw .zero
  rw [result_of_no_obstacle hnone, ← outcomesOf_freeAction] at hrun
  exact exists_reportOn_of_run hrun

/-- Applying succeeds only where nothing stands in the way. -/
theorem no_obstacle_of_report (hvalid : s.validate = .ok ()) (hw : Writable limit state.catalog)
    {r : Report} (h : (reportOn limit .apply s state).1 = .ok r) :
    ∀ i ∈ s.indexes, obstacle? limit state.catalog i = none := by
  rcases exists_first_obstacle limit state.catalog s.indexes with
    hnone | ⟨before, i, after, e, hsplit, hbefore, hi⟩
  · exact hnone
  · have hrun := run_apply hvalid hw .zero
    rw [result_of_obstacle hsplit hbefore hi] at hrun
    have herror : (reportOn limit .apply s state).1 = .error e := (reportOn_of_run hrun).1
    rw [herror] at h
    contradiction

/-- Whether two catalogs that have grown out of one differ in the order of their new indexes at
most. -/
structure SameUpToOrder (before after after' : Catalog) : Prop where
  database : after.database = after'.database
  failure : after.failure = after'.failure
  collections : ∀ name, name ∈ after.collections.names ↔ name ∈ after'.collections.names
  documents : ∀ name, (after.collection name).documents = (after'.collection name).documents
  indexes : ∀ name, ∃ added added',
    (after.collection name).indexes = (before.collection name).indexes ++ added ∧
      (after'.collection name).indexes = (before.collection name).indexes ++ added' ∧
      added.Perm added'

/-- Schemas that declare the same leave the same, up to the order of the indexes. -/
theorem sameUpToOrder_applied (hs : s.Consistent) (h : s.Rearranged s')
    (hnone : ∀ i ∈ s.indexes, obstacle? limit c i = none) :
    SameUpToOrder c (applied limit c s) (applied limit c s') where
  database := (frame_applied limit c s).1.trans (frame_applied limit c s').1.symm
  failure := (frame_applied limit c s).2.trans (frame_applied limit c s').2.symm
  collections name := by
    have hmem : name ∈ s.collections ↔ name ∈ s'.collections := h.collections.mem_iff
    rw [Collections.mem_names_iff, Collections.mem_names_iff, get?_applied hs,
      get?_applied (hs.rearranged h)]
    simp only [hmem]
    split <;> rfl
  documents name := by rw [collection_applied, collection_applied]
  indexes name := by
    have hnone' : ∀ i ∈ s'.indexes, obstacle? limit c i = none := fun i hi =>
      hnone i (h.indexes.symm.subset hi)
    have hcreated : (created limit c s.indexes).Perm (created limit c s'.indexes) := by
      rw [created, created, reached_of_no_obstacle hnone, reached_of_no_obstacle hnone']
      exact h.indexes.filter _
    rw [collection_applied, collection_applied]
    exact ⟨_, _, rfl, rfl, (hcreated.filter _).map _⟩

/-- Planning reports what is foreseen of every declaration. -/
theorem exists_plan_report (hvalid : s.validate = .ok ()) (hr : Readable limit state.catalog) :
    ∃ r, (reportOn limit .plan s state).1 = .ok r ∧
      r.outcomes = outcomesOf s (foreseenAction state.catalog) := by
  have hrun := run_plan hvalid hr .zero
  rw [← outcomesOf_foreseenAction] at hrun
  have hreport : (∃ r, (reportOn limit .plan s state).1 = .ok r ∧ r.outcomes = _) ∧ _ :=
    exists_reportOn_of_run hrun
  exact hreport.1

/-! ## The order of declarations -/

/-- Whatever a catalog without a failure holds, a schema is valid in every order of its declarations
if it is in one. Then applying it succeeds in every order or in none, with the same action for every
declaration and the same catalog up to the order of new indexes, and planning foresees the same. -/
theorem declarations_independent_of_order (limit : Duration) (state : ClockedCatalog)
    (hfailure : state.catalog.failure = none) (hvalid : s.validate = .ok ())
    (h : s.Rearranged s') :
    let run command schema := reportOn limit command schema state
    s'.validate = .ok () ∧
      ((∃ r, (run .apply s).1 = .ok r) ↔ ∃ r, (run .apply s').1 = .ok r) ∧
      (∀ r r', (run .apply s).1 = .ok r → (run .apply s').1 = .ok r' →
        SameActions s s' r r' ∧
          SameUpToOrder state.catalog (run .apply s).2.catalog (run .apply s').2.catalog) ∧
      ∃ p p', (run .plan s).1 = .ok p ∧ (run .plan s').1 = .ok p' ∧ SameActions s s' p p' := by
  intro run
  have hw := writable_of_no_failure hfailure limit
  have hvalid' := Schema.validate_of_rearranged hvalid h
  refine ⟨hvalid', ⟨?_, ?_⟩, fun r r' hr hr' => ?_, ?_⟩
  · rintro ⟨r, hr⟩
    have hnone := no_obstacle_of_report hvalid hw hr
    obtain ⟨⟨r', hr', -⟩, -⟩ := exists_report_of_no_obstacle hvalid' hw fun i hi =>
      hnone i (h.indexes.symm.subset hi)
    exact ⟨r', hr'⟩
  · rintro ⟨r', hr'⟩
    have hnone := no_obstacle_of_report hvalid' hw hr'
    obtain ⟨⟨r, hr, -⟩, -⟩ := exists_report_of_no_obstacle hvalid hw fun i hi =>
      hnone i (h.indexes.subset hi)
    exact ⟨r, hr⟩
  · have hnone := no_obstacle_of_report hvalid hw hr
    have hnone' := no_obstacle_of_report hvalid' hw hr'
    obtain ⟨⟨_, heq, houtcomes⟩, hcatalog⟩ := exists_report_of_no_obstacle hvalid hw hnone
    obtain ⟨⟨_, heq', houtcomes'⟩, hcatalog'⟩ := exists_report_of_no_obstacle hvalid' hw hnone'
    obtain rfl := Except.ok.inj (hr.symm.trans heq)
    obtain rfl := Except.ok.inj (hr'.symm.trans heq')
    refine ⟨⟨_, houtcomes, houtcomes'⟩, ?_⟩
    have hsame := sameUpToOrder_applied (Schema.validate_eq_ok_iff.1 hvalid) h hnone
    rw [← hcatalog, ← hcatalog'] at hsame
    exact hsame
  · obtain ⟨p, hp, houtcomes⟩ := exists_plan_report hvalid hw.toReadable
    obtain ⟨p', hp', houtcomes'⟩ := exists_plan_report hvalid' hw.toReadable
    exact ⟨p, p', hp, hp', _, houtcomes, houtcomes'⟩

/-- The built-in schema, backwards. -/
def backwards : Schema where
  database := "autosrt"
  collections := (Schema.builtin .null).collections.reverse
  indexes := (Schema.builtin .null).indexes.reverse

/-- A catalog with a user and with an index that is not declared. -/
def membership : ClockedCatalog where
  catalog := ((Catalog.empty "autosrt" none).setCollection Schema.users
    ⟨[], [[("email", .string "ada")]]⟩).seedIndex Schema.users
      { name := "age_-1", keys := [("age", .int32 (-1))], unique := false, filter := none }
  clock := 0

/-- The names of the indexes on users after a schema was applied to it. -/
def userIndexes (schema : Schema) : List String :=
  ((reportOn defaultLimit .apply schema membership).2.catalog.collection
    Schema.users).indexes.map fun x => x.name

/-- Backwards, the two indexes on users are added in the opposite order, after the one that was
there. -/
theorem declarations_independent_of_order_backwards :
    membership.catalog.failure = none ∧
      (Schema.builtin .null).validate = .ok () ∧
      (Schema.builtin .null).Rearranged backwards ∧
      (∃ r r', (reportOn defaultLimit .apply (.builtin .null) membership).1 = .ok r ∧
        (reportOn defaultLimit .apply backwards membership).1 = .ok r' ∧
        SameActions (.builtin .null) backwards r r') ∧
      userIndexes (.builtin .null) = ["age_-1", "email_1", "phone_number_1"] ∧
      userIndexes backwards = ["age_-1", "phone_number_1", "email_1"] := by
  have hvalid : (Schema.builtin .null).validate = .ok () := by decide
  have horder : (Schema.builtin .null).Rearranged backwards :=
    ⟨rfl, (List.reverse_perm _).symm, (List.reverse_perm _).symm⟩
  have hnone : ∀ i ∈ (Schema.builtin .null).indexes,
      obstacle? defaultLimit membership.catalog i = none := by decide +kernel
  have hw : Writable defaultLimit membership.catalog := writable_of_no_failure rfl defaultLimit
  obtain ⟨-, hiff, hsame, -⟩ :=
    declarations_independent_of_order defaultLimit membership rfl hvalid horder
  obtain ⟨⟨r, hr, -⟩, -⟩ := exists_report_of_no_obstacle hvalid hw hnone
  obtain ⟨r', hr'⟩ := hiff.1 ⟨r, hr⟩
  obtain ⟨hactions, -⟩ := hsame r r' hr hr'
  exact ⟨rfl, hvalid, horder, ⟨r, r', hr, hr', hactions⟩, by decide +kernel, by decide +kernel⟩

end Bootstrap

end DocSchema
