import DocSchema.Proofs.Reapplying
import DocSchema.Schema.Builtin

/-!
# DocSchema.Proofs.StalledRuns

Both commands on a catalog that lets every request wait.

The time limit is for one declaration, and a declaration is one request or two: a missing index is
looked for and then created. So a limit is too short for any request, or it suffices for one request
but not for two, or it suffices for both. In the first case the check of the connection ends the
run. In the second everything is done except that no index can be created, so the run ends at the
first missing index unless a conflict ends it before. In the third case, and for planning in the
second too, waiting makes no difference to the result: `obstacle?_recovered` says that an index has
the obstacle that it would have without waiting.
-/

namespace DocSchema

/-- The catalog once it does not fail any more. -/
def Catalog.recovered (c : Catalog) : Catalog := { c with failure := none }

/-- The catalog once it does not fail any more, at the same time. -/
def ClockedCatalog.recovered (state : ClockedCatalog) : ClockedCatalog :=
  { state with catalog := state.catalog.recovered }

/-- A report without its times. -/
def Report.untimed (r : Report) : Report := { r with startedAt := 0, finishedAt := 0 }

namespace Bootstrap

variable {limit limit' earlier : Duration} {c : Catalog} {s : Schema} {i : IndexSpec}

/-! ## Catalogs that stall -/

theorem requestTime_of_stalled {delay : Duration} (h : c.failure = some (.stalled delay)) :
    requestTime c = delay.nanoseconds := by
  rw [requestTime, Catalog.delay, h]

/-- A catalog that stalls refuses nothing, so it takes changes where one request is in time. -/
theorem writable_of_stalled {delay : Duration} (h : c.failure = some (.stalled delay))
    (htime : requestTime c ≤ limit.nanoseconds) : Writable limit c := by
  have hrefusal : ∀ isWrite, c.refusal? isWrite = none := fun isWrite => by
    rw [Catalog.refusal?, h]
  exact ⟨⟨hrefusal false, htime⟩, hrefusal true⟩

theorem writable_recovered (limit : Duration) (c : Catalog) : Writable limit c.recovered :=
  writable_of_no_failure rfl limit

/-! ## Obstacles -/

/-- Whether the limit suffices for a declared index, which takes a second request if it is
missing. -/
def Suffices (limit : Duration) (c : Catalog) (i : IndexSpec) : Prop :=
  c.stateOf i = .missing → 2 * requestTime c ≤ limit.nanoseconds

/-- In time, an index has the obstacle that it would have without waiting. -/
theorem obstacle?_recovered (h : Suffices limit c i) :
    obstacle? limit' c.recovered i = obstacle? limit c i := by
  have htime : ¬ limit'.nanoseconds < 2 * requestTime c.recovered := by
    rw [requestTime_of_no_failure rfl]
    exact Nat.not_lt_zero _
  have hstate : c.recovered.stateOf i = c.stateOf i := rfl
  unfold obstacle?
  rw [hstate]
  cases hi : c.stateOf i with
  | identical => rfl
  | conflicting existing => rfl
  | missing =>
      dsimp only
      rw [if_neg htime, if_neg (Nat.not_lt.2 (h hi))]
      rfl

/-- Two limits within which an index is in time make no difference to it. -/
theorem obstacle?_of_suffices (h : Suffices limit c i) (h' : Suffices limit' c i) :
    obstacle? limit c i = obstacle? limit' c i := by
  have hfree : obstacle? limit c.recovered i = obstacle? limit c i := obstacle?_recovered h
  have hfree' : obstacle? limit c.recovered i = obstacle? limit' c i := obstacle?_recovered h'
  exact hfree.symm.trans hfree'

/-- Without time for a second request, a missing index cannot be created. -/
theorem obstacle?_of_late (hlate : limit.nanoseconds < 2 * requestTime c)
    (h : c.stateOf i = .missing) :
    obstacle? limit c i = some (.timeout (Declaration.index i).text limit) := by
  simp only [obstacle?, h, if_pos hlate]

/-- A timeout that stands in the way of an index is that of the limit. -/
theorem eq_of_obstacle?_eq_timeout {declaration : String} {after : Duration}
    (h : obstacle? limit c i = some (.timeout declaration after)) : after = limit := by
  rcases obstacle_cases h with ⟨existing, -, he⟩ | ⟨-, -, he⟩ | ⟨-, -, key, -, he⟩
  · nomatch he
  · exact (BootstrapError.timeout.inj he).2
  · nomatch he

/-! ## Results and catalogs -/

/-- In time, a schema comes to what it would come to without waiting. -/
theorem result_recovered (h : ∀ i ∈ s.indexes, Suffices limit c i) :
    result limit c s = result limit c.recovered s := by
  have hindexes : indexResult limit c.recovered s.indexes = indexResult limit c s.indexes :=
    indexResult_congr_of_obstacles (fun i hi => obstacle?_recovered (h i hi)) fun _ _ => rfl
  rw [result, result, hindexes]
  rfl

/-- In time, a schema leaves what it would leave without waiting. -/
theorem applied_recovered (hs : s.Consistent) (h : ∀ i ∈ s.indexes, Suffices limit c i) :
    (applied limit c s).recovered = applied limit c.recovered s := by
  have hcreated : created limit c.recovered s.indexes = created limit c s.indexes :=
    created_congr_of_obstacles (fun i hi => obstacle?_recovered (h i hi)) fun _ _ => rfl
  obtain ⟨hdatabase, -⟩ := frame_applied limit c s
  obtain ⟨hdatabase', hfailure'⟩ := frame_applied limit c.recovered s
  refine Catalog.ext_get? (hdatabase.trans hdatabase'.symm) hfailure'.symm fun name => ?_
  change (applied limit c s).collections.get? name = _
  rw [get?_applied hs, get?_applied hs, hcreated]
  rfl

/-- Without time for a second request, no index is created. -/
theorem applied_of_late (s : Schema) (hlate : limit.nanoseconds < 2 * requestTime c) :
    applied limit c s = c.addCollections s.collections := by
  have hcreated : created limit c s.indexes = [] := by
    refine List.eq_nil_iff_forall_not_mem.2 fun i hi => ?_
    obtain ⟨hreached, hlacks⟩ := mem_created.1 hi
    have hobstacle := obstacle?_of_late hlate (lacks_eq_true_iff.1 hlacks)
    rw [obstacle?_of_reached hreached] at hobstacle
    contradiction
  rw [applied, hcreated]
  rfl

/-- An index with an obstacle hides those after it. -/
theorem indexResult_append_of_obstacle {e : BootstrapError} (h : obstacle? limit c i = some e)
    (before after : List IndexSpec) :
    indexResult limit c (before ++ i :: after) = indexResult limit c (before ++ [i]) := by
  induction before with
  | nil => simp only [List.nil_append, indexResult_cons, h]
  | cons j before ih => simp only [List.cons_append, indexResult_cons, ih]

/-- Whether no declared index is missing, or the first one in conflict comes before every missing
one. -/
def ConflictFirst (c : Catalog) (s : Schema) : Prop :=
  (∀ i ∈ s.indexes, c.stateOf i ≠ .missing) ∨
    ∃ before i after existing, s.indexes = before ++ i :: after ∧
      c.stateOf i = .conflicting existing ∧ ∀ j ∈ before, c.stateOf j ≠ .missing

/-- A conflict before all missing indexes is met as without waiting. -/
theorem result_of_conflictFirst (h : ConflictFirst c s) :
    result limit c s = result limit c.recovered s := by
  rcases h with hnone | ⟨before, i, after, existing, hsplit, hi, hbefore⟩
  · exact result_recovered fun i hi hmissing => absurd hmissing (hnone i hi)
  · have hall : ∀ j ∈ before ++ [i], Suffices limit c j := by
      intro j hj hmissing
      rcases List.mem_append.1 hj with hj | hj
      · exact absurd hmissing (hbefore j hj)
      · rw [List.mem_singleton.1 hj, hi] at hmissing
        contradiction
    have hobstacle : obstacle? limit c i = some (.conflictingDefinition i.collection.text
        existing.name (difference existing i.definition)) := by
      simp only [obstacle?, hi]
    have hobstacle' : obstacle? limit c.recovered i = _ :=
      (obstacle?_recovered (hall i (List.mem_append_right _ List.mem_cons_self))).trans hobstacle
    have hindexes : indexResult limit c.recovered (before ++ [i]) =
        indexResult limit c (before ++ [i]) :=
      indexResult_congr_of_obstacles (fun j hj => obstacle?_recovered (hall j hj)) fun _ _ => rfl
    rw [result, result, hsplit, indexResult_append_of_obstacle hobstacle,
      indexResult_append_of_obstacle hobstacle', hindexes]
    rfl

/-- Otherwise the first missing index is where the time is over. -/
theorem result_of_not_conflictFirst (hlate : limit.nanoseconds < 2 * requestTime c)
    (h : ¬ ConflictFirst c s) : ∃ before i after, s.indexes = before ++ i :: after ∧
      (∀ j ∈ before, c.stateOf j ≠ .missing) ∧ c.stateOf i = .missing ∧
      result limit c s = .error (.timeout (Declaration.index i).text limit) := by
  have hfound : ∀ j, obstacle? limit c j = none → c.stateOf j ≠ .missing := by
    intro j hj hmissing
    rw [obstacle?_of_late hlate hmissing] at hj
    contradiction
  rcases exists_first_obstacle limit c s.indexes with
    hnone | ⟨before, i, after, e, hsplit, hbefore, hi⟩
  · exact absurd (.inl fun i hi => hfound i (hnone i hi)) h
  · have hbefore' : ∀ j ∈ before, c.stateOf j ≠ .missing := fun j hj => hfound j (hbefore j hj)
    rcases obstacle_cases hi with
      ⟨existing, hconflict, -⟩ | ⟨hmissing, -, rfl⟩ | ⟨-, htime, -⟩
    · exact absurd (.inr ⟨before, i, after, existing, hsplit, hconflict, hbefore'⟩) h
    · exact ⟨before, i, after, hsplit, hbefore', hmissing, result_of_obstacle hsplit hbefore hi⟩
    · exact absurd htime (Nat.not_le.2 hlate)

/-- A timeout that a schema comes to is that of the limit. -/
theorem eq_of_result_eq_timeout {declaration : String} {after : Duration}
    (h : result limit c s = .error (.timeout declaration after)) : after = limit := by
  rcases exists_first_obstacle limit c s.indexes with
    hnone | ⟨before, i, rest, e, hsplit, hbefore, hi⟩
  · rw [result_of_no_obstacle hnone] at h
    contradiction
  · rw [result_of_obstacle hsplit hbefore hi] at h
    obtain rfl := Except.error.inj h
    exact eq_of_obstacle?_eq_timeout hi

/-- Two limits within which every index is in time make no difference to what is left. -/
theorem applied_of_suffices (h : ∀ i ∈ s.indexes, Suffices limit c i)
    (h' : ∀ i ∈ s.indexes, Suffices limit' c i) : applied limit c s = applied limit' c s := by
  have hcreated : created limit c s.indexes = created limit' c s.indexes :=
    created_congr_of_obstacles (fun i hi => obstacle?_of_suffices (h i hi) (h' i hi)) fun _ _ => rfl
  rw [applied, hcreated, applied]

/-- What an application with less time leaves is judged as the catalog before it, up to what was
done already. -/
theorem applied_of_earlier (hs : s.Consistent)
    (hlimits : earlier.nanoseconds ≤ limit.nanoseconds) :
    applied limit (applied earlier c s) s = applied limit c s ∧
      (result limit (applied earlier c s) s).map (fun _ => ()) =
        (result limit c s).map fun _ => () := by
  by_cases hlate : earlier.nanoseconds < 2 * requestTime c
  · -- the earlier one has added collections only
    rw [applied_of_late s hlate]
    have halike : ∀ i ∈ s.indexes, Alike c (c.addCollections s.collections) i := fun i _ =>
      alike_addCollections c s.collections i
    have hexists : ∀ name ∈ s.collections,
        (c.addCollections s.collections).collections.get? name ≠ none := by
      intro name hname
      rw [Catalog.get?_addCollections, if_pos hname]
      exact Option.some_ne_none _
    constructor
    · rw [applied, created_congr halike, Catalog.addCollections_of_exists hexists, applied]
    · rw [result, indexResult_congr halike, result]
      cases indexResult limit c s.indexes <;> rfl
  · -- the earlier one is not told from one with the whole time
    have hearlier : ∀ i ∈ s.indexes, Suffices earlier c i := fun _ _ _ => Nat.not_lt.1 hlate
    have hlimit : ∀ i ∈ s.indexes, Suffices limit c i := fun _ _ _ =>
      (Nat.not_lt.1 hlate).trans hlimits
    rw [applied_of_suffices hearlier hlimit, applied_applied hs, result_applied hs]
    refine ⟨rfl, ?_⟩
    cases result limit c s <;> rfl

/-! ## Runs -/

/-- Where no request is in time, the check of the connection ends either command. -/
theorem run_of_no_time (command : Command) (hvalid : s.validate = .ok ())
    (htime : limit.nanoseconds < requestTime c) (timer : Task.Timer) :
    (command.task s).run Catalog.host limit timer c =
      (.error (.timeout "connection check" limit), c) := by
  have hcheck : checkConnection.run Catalog.host limit timer c =
      (.error (.timeout "connection check" limit), c) := by
    rw [run_checkConnection, if_pos htime]
  rw [task_of_valid command hvalid]
  exact Task.run_bind_of_error (fun _ => begins_work command s) hcheck

/-! ## Reports -/

/-- Whether two runs end with the same error, or with reports that differ in their times only. -/
def EndsLike (a b : Except BootstrapError Report) : Prop :=
  a.map Report.untimed = b.map Report.untimed

section

variable {state : ClockedCatalog}

/-- Without its times, a report is made of the run on the bare catalog. -/
theorem untimed_reportOn (limit : Duration) (command : Command) (s : Schema)
    (state : ClockedCatalog) : (reportOn limit command s state).1.map Report.untimed =
      ((command.task s).run Catalog.host limit .zero state.catalog).1.map fun outcomes =>
        ⟨state.catalog.database, command == .plan, 0, 0, outcomes⟩ := by
  rw [(reportOn_eq limit command s state).1]
  cases ((command.task s).run Catalog.host limit .zero state.catalog).1 <;> rfl

/-- Runs with the same result are reported alike, with waiting and without. -/
theorem endsLike_recovered (command : Command)
    (h : ((command.task s).run Catalog.host limit .zero state.catalog).1 =
      ((command.task s).run Catalog.host limit .zero state.recovered.catalog).1) :
    EndsLike (reportOn limit command s state).1 (reportOn limit command s state.recovered).1 := by
  rw [EndsLike, untimed_reportOn, untimed_reportOn, h]
  rfl

/-- Applying is reported alike where it comes to the same. -/
theorem endsLike_of_result (hvalid : s.validate = .ok ()) (h : Writable limit state.catalog)
    (hresult : result limit state.catalog s = result limit state.catalog.recovered s) :
    EndsLike (reportOn limit .apply s state).1 (reportOn limit .apply s state.recovered).1 := by
  refine endsLike_recovered .apply ?_
  change ((apply s).run _ _ _ state.catalog).1 = ((apply s).run _ _ _ state.catalog.recovered).1
  rw [run_apply hvalid h, run_apply hvalid (writable_recovered limit state.catalog), hresult]

/-- What applying leaves on a catalog that takes changes in time. -/
theorem catalog_reportOn_apply (hvalid : s.validate = .ok ()) (h : Writable limit state.catalog) :
    (reportOn limit .apply s state).2.catalog = applied limit state.catalog s := by
  rw [(reportOn_eq limit .apply s state).2]
  exact congrArg Prod.snd (run_apply hvalid h .zero)

/-- Whether applying succeeds, and with which error it fails otherwise, on a catalog that takes
changes in time. -/
theorem map_reportOn_apply (hvalid : s.validate = .ok ()) (h : Writable limit state.catalog) :
    (reportOn limit .apply s state).1.map (fun _ => ()) =
      (result limit state.catalog s).map fun _ => () := by
  rw [(reportOn_eq limit .apply s state).1]
  change (((apply s).run _ _ _ state.catalog).1.map _).map _ = _
  rw [run_apply hvalid h]
  cases result limit state.catalog s <;> rfl

/-- Planning succeeds where one request is in time, as it would without waiting. -/
theorem reportOn_plan_of_readable (hvalid : s.validate = .ok ())
    (h : Readable limit state.catalog) :
    (∃ r, (reportOn limit .plan s state).1 = .ok r) ∧
      EndsLike (reportOn limit .plan s state).1 (reportOn limit .plan s state.recovered).1 ∧
      (reportOn limit .plan s state).2.catalog = state.catalog := by
  have hrun := run_plan hvalid h .zero
  have hrun' := run_plan hvalid (writable_recovered limit state.catalog).toReadable .zero
  have hreport : (∃ r, (reportOn limit .plan s state).1 = .ok r ∧ r.outcomes = _) ∧ _ :=
    exists_reportOn_of_run hrun
  obtain ⟨⟨r, hr, -⟩, hcatalog⟩ := hreport
  refine ⟨⟨r, hr⟩, endsLike_recovered .plan ?_, hcatalog⟩
  change ((plan s).run _ _ _ state.catalog).1 = ((plan s).run _ _ _ state.catalog.recovered).1
  rw [hrun, hrun']
  rfl

/-- A timeout that either command ends with is that of the limit. -/
theorem eq_of_reportOn_eq_timeout {delay after : Duration} {command : Command}
    {declaration : String} (hvalid : s.validate = .ok ())
    (hfailure : state.catalog.failure = some (.stalled delay))
    (h : (reportOn limit command s state).1 = .error (.timeout declaration after)) :
    after = limit := by
  by_cases htime : limit.nanoseconds < requestTime state.catalog
  · obtain ⟨herror, -⟩ := reportOn_of_run (run_of_no_time command hvalid htime .zero)
    rw [h] at herror
    exact (BootstrapError.timeout.inj (Except.error.inj herror)).2
  · have hwritable := writable_of_stalled hfailure (Nat.not_lt.1 htime)
    cases command with
    | plan =>
        obtain ⟨⟨r, hr⟩, -⟩ := reportOn_plan_of_readable hvalid hwritable.toReadable
        rw [hr] at h
        contradiction
    | apply =>
        have hmap := map_reportOn_apply hvalid hwritable
        rw [h] at hmap
        cases hresult : result limit state.catalog s with
        | ok outcomes =>
            rw [hresult] at hmap
            contradiction
        | error e =>
            rw [hresult] at hmap
            obtain rfl := Except.error.inj hmap
            exact eq_of_result_eq_timeout hresult

/-- What applying leaves, and whether it succeeds, does not depend on the clock. -/
theorem reportOn_apply_congr {state' : ClockedCatalog} (h : state'.catalog = state.catalog) :
    (reportOn limit .apply s state').2.catalog = (reportOn limit .apply s state).2.catalog ∧
      (reportOn limit .apply s state').1.map (fun _ => ()) =
        (reportOn limit .apply s state).1.map fun _ => () := by
  obtain ⟨hresult, hcatalog⟩ := reportOn_eq limit .apply s state
  obtain ⟨hresult', hcatalog'⟩ := reportOn_eq limit .apply s state'
  rw [hresult, hcatalog, hresult', hcatalog', h]
  refine ⟨rfl, ?_⟩
  cases ((Command.apply.task s).run Catalog.host limit .zero state.catalog).1 <;> rfl

/-- Applying with less time first makes no difference to applying with more. -/
theorem reportOn_apply_of_earlier {delay : Duration} (hvalid : s.validate = .ok ())
    (hfailure : state.catalog.failure = some (.stalled delay))
    (hlimits : earlier.nanoseconds ≤ limit.nanoseconds) :
    let first := reportOn earlier .apply s state
    (reportOn limit .apply s first.2).2.catalog = (reportOn limit .apply s state).2.catalog ∧
      (reportOn limit .apply s first.2).1.map (fun _ => ()) =
        (reportOn limit .apply s state).1.map fun _ => () := by
  intro first
  by_cases htime : earlier.nanoseconds < requestTime state.catalog
  · have hfirst : first.1 = .error (.timeout "connection check" earlier) ∧
        first.2.catalog = state.catalog :=
      reportOn_of_run (run_of_no_time .apply hvalid htime .zero)
    exact reportOn_apply_congr hfirst.2
  · have hs : s.Consistent := Schema.validate_eq_ok_iff.1 hvalid
    have hearlier := Nat.not_lt.1 htime
    have hwritable : Writable limit state.catalog :=
      writable_of_stalled hfailure (hearlier.trans hlimits)
    have hfirst : first.2.catalog = applied earlier state.catalog s :=
      catalog_reportOn_apply hvalid (writable_of_stalled hfailure hearlier)
    obtain ⟨hdatabase, hfailure'⟩ := frame_applied earlier state.catalog s
    have hwritable' : Writable limit first.2.catalog :=
      hfirst ▸ hwritable.congr hdatabase hfailure'
    obtain ⟨happlied, hresult⟩ := applied_of_earlier (c := state.catalog) hs hlimits
    rw [catalog_reportOn_apply hvalid hwritable', map_reportOn_apply hvalid hwritable',
      catalog_reportOn_apply hvalid hwritable, map_reportOn_apply hvalid hwritable, hfirst]
    exact ⟨happlied, hresult⟩

/-- With time for one request only, applying adds the missing collections and no index. A conflict
before all missing indexes is reported as without waiting; otherwise the first missing index is
where the time is over, and it is still missing. -/
theorem reportOn_apply_of_late (hvalid : s.validate = .ok ()) (h : Writable limit state.catalog)
    (hlate : limit.nanoseconds < 2 * requestTime state.catalog) :
    (reportOn limit .apply s state).2.catalog = state.catalog.addCollections s.collections ∧
      (ConflictFirst state.catalog s →
        EndsLike (reportOn limit .apply s state).1 (reportOn limit .apply s state.recovered).1) ∧
      (¬ ConflictFirst state.catalog s → ∃ before i after, s.indexes = before ++ i :: after ∧
        (∀ j ∈ before, state.catalog.stateOf j ≠ .missing) ∧ state.catalog.stateOf i = .missing ∧
        (reportOn limit .apply s state).1 = .error (.timeout (Declaration.index i).text limit) ∧
        (reportOn limit .apply s state).2.catalog.stateOf i = .missing) := by
  have hcatalog : (reportOn limit .apply s state).2.catalog =
      state.catalog.addCollections s.collections := by
    rw [catalog_reportOn_apply hvalid h, applied_of_late s hlate]
  refine ⟨hcatalog, fun hconflict => ?_, fun hmissing => ?_⟩
  · exact endsLike_of_result hvalid h (result_of_conflictFirst hconflict)
  · obtain ⟨before, i, after, hsplit, hbefore, hi, hresult⟩ :=
      result_of_not_conflictFirst hlate hmissing
    have hrun := run_apply hvalid h .zero
    rw [hresult] at hrun
    have hreport : (reportOn limit .apply s state).1 =
        .error (.timeout (Declaration.index i).text limit) ∧ _ := reportOn_of_run hrun
    refine ⟨before, i, after, hsplit, hbefore, hi, hreport.1, ?_⟩
    rw [hcatalog, Catalog.stateOf_addCollections, hi]

end

/-- Both commands with a valid schema on a catalog in which every request waits.

If the limit is too short for one request, both end at the check of the connection and change
nothing. Otherwise planning goes as without waiting. If the limit suffices for one request but not
for two, applying adds the missing collections and no index: it ends as without waiting if no index
is missing or the first conflict comes before every missing one, and otherwise with a timeout at the
first missing index. If the limit suffices for two requests, applying ends as without waiting and
leaves the same. Every timeout is that of the limit, and applying with less time first changes
neither what applying with more time leaves nor how it ends. -/
theorem stalled_runs (delay limit : Duration) (s : Schema) (state : ClockedCatalog)
    (hfailure : state.catalog.failure = some (.stalled delay)) (hvalid : s.validate = .ok ()) :
    let time := delay.nanoseconds
    let applied := reportOn limit .apply s state
    let planned := reportOn limit .plan s state
    let appliedFreely := reportOn limit .apply s state.recovered
    let plannedFreely := reportOn limit .plan s state.recovered
    (limit.nanoseconds < time →
      (applied.1 = .error (.timeout "connection check" limit) ∧
        applied.2.catalog = state.catalog) ∧
      planned.1 = .error (.timeout "connection check" limit) ∧
        planned.2.catalog = state.catalog) ∧
    (time ≤ limit.nanoseconds →
      (∃ r, planned.1 = .ok r) ∧ EndsLike planned.1 plannedFreely.1 ∧
        planned.2.catalog = state.catalog) ∧
    (time ≤ limit.nanoseconds → limit.nanoseconds < 2 * time →
      applied.2.catalog = state.catalog.addCollections s.collections ∧
      (ConflictFirst state.catalog s → EndsLike applied.1 appliedFreely.1) ∧
      (¬ ConflictFirst state.catalog s → ∃ before i after, s.indexes = before ++ i :: after ∧
        (∀ j ∈ before, state.catalog.stateOf j ≠ .missing) ∧ state.catalog.stateOf i = .missing ∧
        applied.1 = .error (.timeout (Declaration.index i).text limit) ∧
        applied.2.catalog.stateOf i = .missing)) ∧
    (2 * time ≤ limit.nanoseconds →
      EndsLike applied.1 appliedFreely.1 ∧
        applied.2.catalog.recovered = appliedFreely.2.catalog) ∧
    (∀ command declaration after,
      (reportOn limit command s state).1 = .error (.timeout declaration after) → after = limit) ∧
    ∀ earlier : Duration, earlier.nanoseconds ≤ limit.nanoseconds →
      let first := reportOn earlier .apply s state
      let second := reportOn limit .apply s first.2
      second.2.catalog = applied.2.catalog ∧
        second.1.map (fun _ => ()) = applied.1.map fun _ => () := by
  have htime := requestTime_of_stalled hfailure
  have hs : s.Consistent := Schema.validate_eq_ok_iff.1 hvalid
  intro time applied planned appliedFreely plannedFreely
  rw [show time = requestTime state.catalog from htime.symm]
  refine ⟨fun hshort => ?_, fun hone => ?_, fun hone hlate => ?_, fun htwo => ?_,
    fun command declaration after => eq_of_reportOn_eq_timeout hvalid hfailure,
    fun earlier => reportOn_apply_of_earlier hvalid hfailure⟩
  · exact ⟨reportOn_of_run (run_of_no_time .apply hvalid hshort .zero),
      reportOn_of_run (run_of_no_time .plan hvalid hshort .zero)⟩
  · exact reportOn_plan_of_readable hvalid (writable_of_stalled hfailure hone).toReadable
  · exact reportOn_apply_of_late hvalid (writable_of_stalled hfailure hone) hlate
  · have hone : requestTime state.catalog ≤ limit.nanoseconds := by omega
    have hwritable := writable_of_stalled hfailure hone
    have hall : ∀ i ∈ s.indexes, Suffices limit state.catalog i := fun _ _ _ => htwo
    refine ⟨endsLike_of_result hvalid hwritable (result_recovered hall), ?_⟩
    have hfree : appliedFreely.2.catalog = Bootstrap.applied limit state.catalog.recovered s :=
      catalog_reportOn_apply hvalid (writable_recovered limit state.catalog)
    have happlied : applied.2.catalog = Bootstrap.applied limit state.catalog s :=
      catalog_reportOn_apply hvalid hwritable
    rw [hfree, happlied, applied_recovered hs hall]

/-- A catalog in which every request waits for 20 ms, with some indexes of users. -/
def sluggish (indexes : List IndexDefinition) : ClockedCatalog :=
  ⟨(Catalog.empty "autosrt" (some (.stall 20))).setCollection Schema.users ⟨indexes, []⟩, 0⟩

/-- With 10 ms there is no time for anything. With 30 ms the built-in schema can be planned, its
first index cannot be created, and an index in conflict with that one is reported as it always is.
With 50 ms everything is created, after an attempt with 30 ms as without it. -/
theorem stalled_runs_sluggish :
    let s := Schema.builtin .null
    let bare := sluggish []
    let crossed := sluggish
      [{ name := "email_1", keys := [("email", .int32 1)], unique := false, filter := none }]
    let run (millis : Nat) := reportOn (.ofMillis millis) .apply s
    bare.catalog.failure = some (.stall 20) ∧ crossed.catalog.failure = some (.stall 20) ∧
      s.validate = .ok () ∧
      (run 10 bare).1 = .error (.timeout "connection check" (.ofMillis 10)) ∧
      (∃ r, (reportOn (.ofMillis 30) .plan s bare).1 = .ok r) ∧
      (∃ i ∈ s.indexes, (run 30 bare).1 =
        .error (.timeout (Declaration.index i).text (.ofMillis 30))) ∧
      ConflictFirst crossed.catalog s ∧ EndsLike (run 30 crossed).1 (run 30 crossed.recovered).1 ∧
      EndsLike (run 50 bare).1 (run 50 bare.recovered).1 ∧
      (run 50 (run 30 bare).2).2.catalog = (run 50 bare).2.catalog := by
  intro s bare crossed run
  have hvalid : s.validate = .ok () := by decide
  have hlacks : ∀ i ∈ s.indexes, lacks bare.catalog i = true := by decide
  have hmissing : ∀ i ∈ s.indexes, bare.catalog.stateOf i = .missing := fun i hi =>
    lacks_eq_true_iff.1 (hlacks i hi)
  have hlate : ¬ ConflictFirst bare.catalog s := by
    rintro (hnone | ⟨before, i, after, existing, hsplit, hi, -⟩)
    · have hfirst : s.indexes[0] ∈ s.indexes := List.getElem_mem _
      exact hnone _ hfirst (hmissing _ hfirst)
    · have hmem : i ∈ s.indexes := hsplit ▸ List.mem_append_right _ List.mem_cons_self
      rw [hmissing i hmem] at hi
      contradiction
  have hconflict : ConflictFirst crossed.catalog s := by
    have hfirst : ∃ existing, crossed.catalog.stateOf s.indexes[0] = .conflicting existing := by
      refine IndexDefinition.exists_stateIn_eq_conflicting_iff.2 ⟨_, List.mem_singleton_self _, ?_⟩
      decide
    obtain ⟨existing, hexisting⟩ := hfirst
    exact .inr ⟨[], _, _, existing, rfl, hexisting, nofun⟩
  have hruns (limit : Duration) := stalled_runs (.ofMillis 20) limit s bare rfl hvalid
  obtain ⟨hnone, -⟩ := hruns (.ofMillis 10)
  obtain ⟨-, hplan, hone, -⟩ := hruns (.ofMillis 30)
  obtain ⟨-, -, hcrossed, -⟩ := stalled_runs (.ofMillis 20) (.ofMillis 30) s crossed rfl hvalid
  obtain ⟨-, -, -, htwo, -, hearlier⟩ := hruns (.ofMillis 50)
  obtain ⟨before, i, after, hsplit, -, -, htimeout, -⟩ := (hone (by decide) (by decide)).2.2 hlate
  have hi : i ∈ s.indexes := hsplit ▸ List.mem_append_right _ List.mem_cons_self
  exact ⟨rfl, rfl, hvalid, (hnone (by decide)).1.1, (hplan (by decide)).1, ⟨i, hi, htimeout⟩,
    hconflict, (hcrossed (by decide) (by decide)).2.1 hconflict, (htwo (by decide)).1,
    (hearlier (.ofMillis 30) (by decide)).1⟩

end Bootstrap

end DocSchema
