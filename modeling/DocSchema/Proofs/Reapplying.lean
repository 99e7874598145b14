import DocSchema.Proofs.AppliedCatalogs

/-!
# DocSchema.Proofs.Reapplying

Applying a schema twice is applying it once, also where the first run fails.

Where the catalog takes changes in time, the second run meets the catalog that the first one left,
and that judges every declaration as the first run found it or created it (`result_applied`). In
all other cases the first run changed nothing, and the second is the same run again.
-/

namespace DocSchema

/-- A report in which nothing happened is clean. -/
theorem Report.clean_of_unchanged {r : Report} {declarations : List Declaration}
    (h : r.outcomes = declarations.map fun d => ⟨d, .unchanged⟩) :
    r.created = 0 ∧ r.isClean = true := by
  constructor
  · rw [created, List.countP_eq_zero, h]
    intro o ho
    obtain ⟨d, -, rfl⟩ := List.mem_map.1 ho
    exact Bool.false_ne_true
  · rw [isClean, List.all_eq_true, h]
    intro o ho
    obtain ⟨d, -, rfl⟩ := List.mem_map.1 ho
    rfl

namespace Bootstrap

variable {limit : Duration} {c : Catalog} {s : Schema}

/-- The outcomes of a schema that is there already. -/
def settled (s : Schema) : List Outcome := s.declarations.map fun d => ⟨d, .unchanged⟩

theorem settled_eq (s : Schema) : settled s =
    s.collections.map (fun name => ⟨.collection name, .unchanged⟩) ++
      s.indexes.map (fun i => ⟨.index i, .unchanged⟩) := by
  rw [settled, Schema.declarations, List.map_append, List.map_map, List.map_map]
  rfl

/-- The collections of a schema that was applied are there already. -/
theorem collections_applied (limit : Duration) (c : Catalog) {name : CollectionName}
    (h : name ∈ s.collections) :
    ((applied limit c s).collections.get? name).isSome = true :=
  Option.isSome_iff_ne_none.2 (exists_applied limit c h)

/-- Applied again, a schema fails as it did, or nothing happens. -/
theorem result_applied (hs : s.Consistent) :
    result limit (applied limit c s) s = (result limit c s).map fun _ => settled s := by
  have hcollections : s.collections.map (collectionOutcome (applied limit c s)) =
      s.collections.map fun name => ⟨.collection name, .unchanged⟩ :=
    List.map_congr_left fun name hname => by
      rw [collectionOutcome, if_pos (collections_applied limit c hname)]
  have hobstacle : ∀ i ∈ s.indexes,
      obstacle? limit (applied limit c s) i = obstacle? limit c i := fun i hi =>
    obstacle?_applied hs hi
  rcases exists_first_obstacle limit c s.indexes with
    hnone | ⟨before, i, after, e, hsplit, hbefore, hi⟩
  · have hnone' : ∀ i ∈ s.indexes, obstacle? limit (applied limit c s) i = none := fun i hi =>
      (hobstacle i hi).trans (hnone i hi)
    have hindexes : s.indexes.map (indexOutcome (applied limit c s)) =
        s.indexes.map fun i => ⟨.index i, .unchanged⟩ :=
      List.map_congr_left fun i hi => by
        have hreached : i ∈ reached limit c s.indexes := (reached_of_no_obstacle hnone).symm ▸ hi
        rw [indexOutcome, lacks_applied hs hreached, if_neg Bool.false_ne_true]
    rw [result_of_no_obstacle hnone', result_of_no_obstacle hnone, hcollections, hindexes,
      Except.map, settled_eq]
  · rw [hsplit] at hobstacle
    have hbefore' : ∀ j ∈ before, obstacle? limit (applied limit c s) j = none := fun j hj =>
      (hobstacle j (List.mem_append_left _ hj)).trans (hbefore j hj)
    have hi' : obstacle? limit (applied limit c s) i = some e :=
      (hobstacle i (List.mem_append_right _ List.mem_cons_self)).trans hi
    rw [result_of_obstacle hsplit hbefore' hi', result_of_obstacle hsplit hbefore hi, Except.map]

/-- Once a schema was applied without an error, planning finds nothing to do. -/
theorem outlook_applied (hs : s.Consistent) {outcomes : List Outcome}
    (h : result limit c s = .ok outcomes) : outlook (applied limit c s) s = settled s := by
  have hsatisfies := satisfies_applied hs h
  have hcollections : s.collections.map (collectionPlan (applied limit c s)) =
      s.collections.map fun name => ⟨.collection name, .unchanged⟩ :=
    List.map_congr_left fun name hname => by
      rw [collectionPlan, if_pos (collections_applied limit c hname)]
  have hindexes : s.indexes.map (indexPlan (applied limit c s)) =
      s.indexes.map fun i => ⟨.index i, .unchanged⟩ :=
    List.map_congr_left fun i hi => by
      rw [indexPlan, Catalog.stateOf, hsatisfies.indexes i hi, plannedAction]
  rw [outlook, hcollections, hindexes, settled_eq]

/-! ## Two runs in a row -/

/-- A second run leaves what the first one left, and fails as it did or finds nothing to do. -/
theorem run_apply_again (limit : Duration) (c : Catalog) (s : Schema)
    {outcome : Except BootstrapError (List Outcome)} {after : Catalog}
    (h : (apply s).run Catalog.host limit .zero c = (outcome, after)) :
    (apply s).run Catalog.host limit .zero after = (outcome.map fun _ => settled s, after) ∧
      (∀ outcomes, outcome = .ok outcomes →
        (plan s).run Catalog.host limit .zero after = (.ok (settled s), after)) := by
  -- Only a catalog that takes changes in time can differ from the one before the first run.
  by_cases hwritable : Writable limit c
  · cases hvalid : s.validate with
    | error e =>
        rw [apply_of_invalid hvalid] at h ⊢
        obtain ⟨rfl, rfl⟩ := Prod.mk.inj h
        exact ⟨rfl, fun outcomes houtcomes => nomatch houtcomes⟩
    | ok =>
        have hs : s.Consistent := Schema.validate_eq_ok_iff.1 hvalid
        rw [run_apply hvalid hwritable] at h
        obtain ⟨rfl, rfl⟩ := Prod.mk.inj h
        obtain ⟨hdatabase, hfailure⟩ := frame_applied limit c s
        have hwritable' := hwritable.congr hdatabase hfailure
        rw [run_apply hvalid hwritable', result_applied hs, applied_applied hs,
          run_plan hvalid hwritable'.toReadable]
        exact ⟨rfl, fun outcomes houtcomes => by rw [outlook_applied hs houtcomes]⟩
  · rcases run_apply_of_not_writable s hwritable .zero with
      ⟨e, hrun⟩ | ⟨hvalid, hreadable, hcollections, hindexes, hrun⟩
    · obtain ⟨rfl, rfl⟩ := Prod.mk.inj (hrun.symm.trans h)
      exact ⟨hrun, fun outcomes houtcomes => nomatch houtcomes⟩
    · obtain ⟨rfl, rfl⟩ := Prod.mk.inj (hrun.symm.trans h)
      have hsettled : settled s = [] := by
        rw [settled_eq, hcollections, hindexes]
        rfl
      rw [run_plan hvalid hreadable, outlook, hcollections, hindexes, hsettled]
      exact ⟨hrun, fun _ _ => rfl⟩

/-- A second run leaves the catalog as the first one left it, on every catalog and with every
failure. If the first run succeeds, so does the second, which creates nothing and is clean, and so
is a plan after it. If the first run fails, the second fails with the same error. -/
theorem apply_idempotent (limit : Duration) (s : Schema) (state : ClockedCatalog) :
    let first := reportOn limit .apply s state
    let second := reportOn limit .apply s first.2
    let planned := reportOn limit .plan s second.2
    second.2.catalog = first.2.catalog ∧
      match first.1 with
      | .ok _ => ∃ r p, second.1 = .ok r ∧ r.created = 0 ∧ r.isClean = true ∧
        planned.1 = .ok p ∧ p.isClean = true
      | .error e => second.1 = .error e := by
  intro first second planned
  cases hfirst : (apply s).run Catalog.host limit .zero state.catalog with
  | mk outcome after =>
      obtain ⟨hsecond, hplanned⟩ := run_apply_again limit state.catalog s hfirst
      cases outcome with
      | error e =>
          have hfirst' : first.1 = .error e ∧ first.2.catalog = after := reportOn_of_run hfirst
          rw [← hfirst'.2] at hsecond
          have hsecond' : second.1 = .error e ∧ second.2.catalog = first.2.catalog :=
            reportOn_of_run hsecond
          rw [hfirst'.1]
          exact ⟨hsecond'.2, hsecond'.1⟩
      | ok outcomes =>
          have hfirst' : (∃ r, first.1 = .ok r ∧ r.outcomes = outcomes) ∧
              first.2.catalog = after := exists_reportOn_of_run hfirst
          obtain ⟨⟨r, hr, -⟩, hafter⟩ := hfirst'
          rw [← hafter] at hsecond hplanned
          have hsecond' : (∃ r, second.1 = .ok r ∧ r.outcomes = settled s) ∧
              second.2.catalog = first.2.catalog := exists_reportOn_of_run hsecond
          obtain ⟨⟨r', hr', hsettled⟩, hcatalog⟩ := hsecond'
          have hplanned' := hplanned outcomes rfl
          rw [← hcatalog] at hplanned'
          have hplan : (∃ p, planned.1 = .ok p ∧ p.outcomes = settled s) ∧
              planned.2.catalog = second.2.catalog := exists_reportOn_of_run hplanned'
          obtain ⟨⟨p, hp, hpsettled⟩, -⟩ := hplan
          obtain ⟨hcreated, hclean⟩ := Report.clean_of_unchanged hsettled
          rw [hr]
          exact ⟨hcatalog, r', p, hr', hcreated, hclean, hp,
            (Report.clean_of_unchanged hpsettled).2⟩

end Bootstrap

end DocSchema
