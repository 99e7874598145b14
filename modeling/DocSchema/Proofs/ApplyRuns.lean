import DocSchema.Proofs.Judgement
import DocSchema.Proofs.TaskRuns

/-!
# DocSchema.Proofs.ApplyRuns

What applying a schema does to a catalog in memory.

Each declaration is one or two requests, and a catalog that takes changes in time does with them
what the judgement says. `run_apply` puts the declarations together: the outcomes are those judged
on the catalog at the start, and the catalog has the declared collections and then the created
indexes.
-/

namespace DocSchema.Bootstrap

variable {limit : Duration} {c : Catalog}

/-! ## The requests of a declaration -/

/-- A collection is one request. -/
theorem ensureCollection_eq (name : CollectionName) : ensureCollection name =
    .ask (some (Declaration.collection name).text) (.createCollection name) fun
      | .ok .created => .done (.ok ⟨.collection name, .created⟩)
      | .ok .alreadyExists => .done (.ok ⟨.collection name, .unchanged⟩)
      | .error e => .done (.error (.ofStore e)) := by
  refine congrArg (Task.ask _ _) (funext fun result => ?_)
  match result with
  | .ok .created => rfl
  | .ok .alreadyExists => rfl
  | .error e => rfl

/-- What is left of a declared index once its state is known: a second request if it is missing. -/
def finishIndex (s : IndexSpec) : IndexState → Task Outcome
  | .identical => .done (.ok ⟨.index s, .unchanged⟩)
  | .conflicting existing =>
    .done (.error (.conflictingDefinition s.collection.text existing.name
      (difference existing s.definition)))
  | .missing => .ask none (.createIndex s) fun
      | .ok () => .done (.ok ⟨.index s, .created⟩)
      | .error e => .done (.error (.ofStore e))

/-- An index is a look at the indexes of its collection, and what that leaves to do. -/
theorem ensureIndex_eq (s : IndexSpec) : ensureIndex s =
    .ask (some (Declaration.index s).text) (.listIndexes s.collection) fun
      | .ok existing => finishIndex s (s.definition.stateIn existing)
      | .error e => .done (.error (.ofStore e)) := by
  refine congrArg (Task.ask _ _) (funext fun result => ?_)
  match result with
  | .error e => rfl
  | .ok existing =>
      change Task.bind (.done (.ok (s.definition.stateIn existing))) _ =
        finishIndex s (s.definition.stateIn existing)
      cases s.definition.stateIn existing with
      | identical => rfl
      | conflicting x => rfl
      | missing =>
          refine congrArg (Task.ask _ _) (funext fun result => ?_)
          cases result <;> rfl

/-! ## Single declarations -/

/-- Whether a catalog answers what changes nothing, and in time. -/
structure Readable (limit : Duration) (c : Catalog) : Prop where
  reads : c.refusal? false = none
  inTime : requestTime c ≤ limit.nanoseconds

/-- Whether a catalog takes changes too. -/
structure Writable (limit : Duration) (c : Catalog) : Prop extends Readable limit c where
  writes : c.refusal? true = none

/-- A catalog without a failure takes changes within any time. -/
theorem writable_of_no_failure (h : c.failure = none) (limit : Duration) : Writable limit c := by
  have hrefusal := Catalog.refusal?_of_no_failure h
  have htime : requestTime c ≤ limit.nanoseconds := by
    rw [requestTime_of_no_failure h]
    exact Nat.zero_le _
  exact ⟨⟨hrefusal false, htime⟩, hrefusal true⟩

/-- A catalog that does not refuse a request does it. -/
theorem answer_of_refusal?_eq_none {r : Request} (h : c.refusal? r.isWrite = none) :
    Catalog.host.answer c r = c.perform 0 r :=
  Catalog.answer_of_no_refusal h 0

/-- Every request takes the same time. -/
theorem delay_host (c : Catalog) (r : Request) :
    (Catalog.host.delay c r).nanoseconds = requestTime c := rfl

/-- The first request of a declaration is answered where it is in time. -/
theorem run_first {α : Type} (limit : Duration) (c : Catalog) (declaration : String) (r : Request)
    (next : r.Result → Task α) (timer : Task.Timer) :
    (Task.ask (some declaration) r next).run Catalog.host limit timer c =
      if limit.nanoseconds < requestTime c then (.error (.timeout declaration limit), c)
      else (next (c.answer 0 r).1).run Catalog.host limit ⟨declaration, requestTime c⟩
        (c.answer 0 r).2 := by
  rw [Task.run_ask]
  simp only [Task.Timer.at, delay_host, Nat.zero_add]
  rfl

/-- The first request of a declaration is done where the catalog takes it in time. -/
theorem run_begin {α : Type} {r : Request} (hanswer : c.refusal? r.isWrite = none)
    (htime : requestTime c ≤ limit.nanoseconds) (declaration : String)
    (next : r.Result → Task α) (timer : Task.Timer) :
    (Task.ask (some declaration) r next).run Catalog.host limit timer c =
      (next (c.perform 0 r).1).run Catalog.host limit ⟨declaration, requestTime c⟩
        (c.perform 0 r).2 := by
  rw [run_first, if_neg (Nat.not_lt.2 htime), ← answer_of_refusal?_eq_none hanswer]
  rfl

/-- A further request of a declaration is done where the time that is left suffices. -/
theorem run_further {α : Type} {r : Request} (hanswer : c.refusal? r.isWrite = none)
    (next : r.Result → Task α) (declaration : String) (spent : Nat) :
    (Task.ask none r next).run Catalog.host limit ⟨declaration, spent⟩ c =
      if limit.nanoseconds < spent + requestTime c then (.error (.timeout declaration limit), c)
      else (next (c.perform 0 r).1).run Catalog.host limit ⟨declaration, spent + requestTime c⟩
        (c.perform 0 r).2 := by
  rw [Task.run_ask, answer_of_refusal?_eq_none hanswer, delay_host]
  rfl

theorem perform_createCollection (c : Catalog) (name : CollectionName) :
    c.perform 0 (.createCollection name) =
      (.ok (if (c.collections.get? name).isSome then .alreadyExists else .created),
        c.addCollection name) := by
  simp only [Catalog.perform, Catalog.addCollection]
  cases c.collections.get? name <;> rfl

/-- A collection is created unless it exists. -/
theorem run_ensureCollection (h : Writable limit c) (name : CollectionName)
    (timer : Task.Timer) :
    (ensureCollection name).run Catalog.host limit timer c =
      (.ok (collectionOutcome c name), c.addCollection name) := by
  rw [ensureCollection_eq, run_begin h.writes h.inTime, perform_createCollection]
  unfold collectionOutcome
  cases (c.collections.get? name).isSome <;> rfl

/-- An index that is there already is not created again. -/
theorem perform_createIndex_of_identical {s : IndexSpec} (h : c.stateOf s = .identical) :
    c.perform 0 (.createIndex s) = (.ok (), c) := by
  unfold Catalog.stateOf at h
  change c.createIndex s = _
  rw [Catalog.createIndex_eq, h]
  rfl

/-- A missing index is created unless documents share a key in it. -/
theorem perform_createIndex_of_missing {s : IndexSpec} (h : c.stateOf s = .missing) :
    c.perform 0 (.createIndex s) =
      match c.violation? s with
      | some key => (.error (c.duplicateKey s.collection s.definition key), c)
      | none => (.ok (), c.addIndex s) := by
  unfold Catalog.stateOf at h
  change c.createIndex s = _
  rw [Catalog.createIndex_eq, h]
  rfl

/-- A declared index is created where it is missing, unless something stands in its way. -/
theorem run_ensureIndex (h : Writable limit c) (s : IndexSpec) (timer : Task.Timer) :
    (ensureIndex s).run Catalog.host limit timer c =
      match obstacle? limit c s with
      | some e => (.error e, c)
      | none => (.ok (indexOutcome c s), c.addIndexes ([s].filter (lacks c))) := by
  have hlist : c.perform 0 (.listIndexes s.collection) =
      (.ok (c.collection s.collection).indexes, c) := rfl
  have hadded : c.addIndexes ([s].filter (lacks c)) = if lacks c s then c.addIndex s else c := by
    rw [List.filter_cons, List.filter_nil]
    split <;> rfl
  rw [ensureIndex_eq, run_begin h.reads h.inTime, hlist, hadded]
  change Task.run _ _ (finishIndex s (c.stateOf s)) _ c = _
  unfold obstacle? indexOutcome lacks
  cases hs : c.stateOf s with
  | identical => rfl
  | conflicting existing => rfl
  | missing =>
      rw [finishIndex, run_further (r := .createIndex s) h.writes,
        perform_createIndex_of_missing hs, Nat.two_mul]
      split
      · rfl
      · cases c.violation? s <;> rfl

/-! ## Lists of declarations -/

/-- Whether a catalog takes changes in time depends on its database and its failure alone. -/
theorem Writable.congr {c' : Catalog} (h : Writable limit c) (hdatabase : c'.database = c.database)
    (hfailure : c'.failure = c.failure) : Writable limit c' := by
  have hrefusal : ∀ isWrite, c'.refusal? isWrite = c.refusal? isWrite := fun isWrite => by
    rw [Catalog.refusal?, hdatabase, hfailure, Catalog.refusal?]
  have htime : requestTime c' ≤ limit.nanoseconds := by
    rw [requestTime_congr hfailure]
    exact h.inTime
  exact ⟨⟨(hrefusal false).trans h.reads, htime⟩, (hrefusal true).trans h.writes⟩

theorem Writable.addCollections (h : Writable limit c) (names : List CollectionName) :
    Writable limit (c.addCollections names) :=
  h.congr (c.frame_addCollections names).1 (c.frame_addCollections names).2

theorem Writable.addIndexes (h : Writable limit c) (specs : List IndexSpec) :
    Writable limit (c.addIndexes specs) :=
  h.congr (c.frame_addIndexes specs).1 (c.frame_addIndexes specs).2

/-- Distinct collections are created where they do not exist. -/
theorem run_each_ensureCollection {names : List CollectionName} (hnames : names.Nodup)
    (h : Writable limit c) (timer : Task.Timer) :
    (Task.each ensureCollection names).run Catalog.host limit timer c =
      (.ok (names.map (collectionOutcome c)), c.addCollections names) := by
  induction names generalizing c timer with
  | nil => rfl
  | cons n names ih =>
      obtain ⟨hn, hnames⟩ := List.nodup_cons.1 hnames
      -- The first collection is not among the others, so it is not there for them to find.
      have hsame : names.map (collectionOutcome (c.addCollection n)) =
          names.map (collectionOutcome c) := by
        refine List.map_congr_left fun m hm => ?_
        have hne : n ≠ m := fun heq => hn (heq ▸ hm)
        rw [collectionOutcome, Catalog.get?_addCollection, if_neg hne, collectionOutcome]
      have hnext : Writable limit (c.addCollection n) := h.addCollections [n]
      rw [Task.run_each_cons Catalog.host limit begins_ensureCollection, run_ensureCollection h]
      dsimp only
      rw [ih hnames hnext, hsame]
      rfl

/-- Indexes on distinct fields are created where they are missing, up to the first with an
obstacle. -/
theorem run_each_ensureIndex {specs : List IndexSpec}
    (hspecs : specs.Pairwise fun s t => ¬ Schema.Overlap s t) (h : Writable limit c)
    (timer : Task.Timer) :
    (Task.each ensureIndex specs).run Catalog.host limit timer c =
      (indexResult limit c specs, c.addIndexes (created limit c specs)) := by
  induction specs generalizing c timer with
  | nil => rfl
  | cons s specs ih =>
      obtain ⟨hs, hspecs⟩ := List.pairwise_cons.1 hspecs
      rw [Task.run_each_cons Catalog.host limit begins_ensureIndex, run_ensureIndex h,
        indexResult_cons]
      cases hobstacle : obstacle? limit c s with
      | some e =>
          rw [created_cons_of_obstacle hobstacle]
          rfl
      | none =>
          -- The rest of the list meets a catalog with one index more, and judges it the same.
          have halike : ∀ t ∈ specs, Alike c (c.addIndexes ([s].filter (lacks c))) t :=
            fun t ht => alike_addIndexes fun u hu => by
              rw [List.mem_singleton.1 (List.mem_filter.1 hu).1]
              exact hs t ht
          dsimp only
          rw [ih hspecs (h.addIndexes _), indexResult_congr halike, created_congr halike,
            created_cons_of_no_obstacle hobstacle]
          simp only [Catalog.addIndexes, List.foldl_append]

/-! ## Whole schemas -/

/-- The store is checked with a request of its own. -/
theorem run_checkConnection (limit : Duration) (c : Catalog) (timer : Task.Timer) :
    checkConnection.run Catalog.host limit timer c =
      if limit.nanoseconds < requestTime c then (.error (.timeout "connection check" limit), c)
      else match c.refusal? false with
        | some e => (.error (.connection e.message), c)
        | none => (.ok (), c) := by
  have hping : c.answer 0 .ping =
      match c.refusal? false with
      | some e => (.error e, c)
      | none => (.ok (), c) := rfl
  rw [checkConnection, run_first, hping]
  cases c.refusal? false <;> rfl

/-- Where the store answers in time, the check changes nothing. -/
theorem run_checkConnection_of_readable (h : Readable limit c) (timer : Task.Timer) :
    checkConnection.run Catalog.host limit timer c = (.ok (), c) := by
  rw [run_checkConnection, if_neg (Nat.not_lt.2 h.inTime), h.reads]

/-- Where the store does not answer, or not in time, the check ends the run. -/
theorem exists_error_of_not_readable (h : ¬ Readable limit c) (timer : Task.Timer) :
    ∃ e, checkConnection.run Catalog.host limit timer c = (.error e, c) := by
  rw [run_checkConnection]
  split
  · exact ⟨_, rfl⟩
  · next htime =>
    cases hrefusal : c.refusal? false with
    | some e => exact ⟨_, rfl⟩
    | none => exact absurd ⟨hrefusal, Nat.not_lt.1 htime⟩ h

variable {s : Schema}

/-- A schema with a fault is not applied. -/
theorem apply_of_invalid {e : SchemaError} (h : s.validate = .error e) :
    apply s = .done (.error (.invalidSchema e)) :=
  task_of_invalid .apply h

/-- A schema without a fault is applied to a store that can be reached. -/
theorem apply_of_valid (h : s.validate = .ok ()) : apply s = (do
    checkConnection
    ensureAll s) :=
  task_of_valid .apply h

/-- The result of a whole schema, judged on one catalog. -/
def result (limit : Duration) (c : Catalog) (s : Schema) : Except BootstrapError (List Outcome) :=
  (indexResult limit c s.indexes).map (s.collections.map (collectionOutcome c) ++ ·)

/-- Without an obstacle every declaration has an outcome. -/
theorem result_of_no_obstacle (h : ∀ i ∈ s.indexes, obstacle? limit c i = none) :
    result limit c s =
      .ok (s.collections.map (collectionOutcome c) ++ s.indexes.map (indexOutcome c)) := by
  rw [result, indexResult_of_no_obstacle h]
  rfl

/-- The first obstacle is the error. -/
theorem result_of_obstacle {before after : List IndexSpec} {i : IndexSpec} {e : BootstrapError}
    (hsplit : s.indexes = before ++ i :: after)
    (hbefore : ∀ j ∈ before, obstacle? limit c j = none) (hi : obstacle? limit c i = some e) :
    result limit c s = .error e := by
  rw [result, hsplit, indexResult_of_obstacle hbefore hi]
  rfl

/-- The catalog after a whole schema. -/
def applied (limit : Duration) (c : Catalog) (s : Schema) : Catalog :=
  (c.addCollections s.collections).addIndexes (created limit c s.indexes)

/-- Applying a schema to a catalog that takes changes in time. -/
theorem run_apply (hvalid : s.validate = .ok ()) (h : Writable limit c) (timer : Task.Timer) :
    (apply s).run Catalog.host limit timer c = (result limit c s, applied limit c s) := by
  have hs : s.Consistent := Schema.validate_eq_ok_iff.1 hvalid
  have halike : ∀ i ∈ s.indexes, Alike c (c.addCollections s.collections) i := fun i _ =>
    alike_addCollections c s.collections i
  have hconnection := run_checkConnection_of_readable h.toReadable timer
  have hcollections := run_each_ensureCollection hs.collections h .zero
  have hindexes := run_each_ensureIndex hs.distinct (h.addCollections s.collections) .zero
  rw [indexResult_congr halike, created_congr halike] at hindexes
  rw [apply_of_valid hvalid,
    Task.run_bind_of_ok (fun _ => begins_ensureAll s) hconnection, ensureAll,
    Task.run_bind_of_ok (begins_indexes s.indexes) hcollections,
    Task.run_bind_pure, hindexes, result, applied]

/-- A catalog that refuses changes refuses the first declared collection. -/
theorem exists_error_of_refused {e : StoreError} (h : c.refusal? true = some e)
    (name : CollectionName) (names : List CollectionName) (timer : Task.Timer) :
    ∃ e, (Task.each ensureCollection (name :: names)).run Catalog.host limit timer c =
      (.error e, c) := by
  have hanswer : c.answer 0 (.createCollection name) = (.error e, c) :=
    Catalog.answer_of_refusal h 0
  have hfirst : ∃ e, (ensureCollection name).run Catalog.host limit timer c = (.error e, c) := by
    rw [ensureCollection_eq, run_first, hanswer]
    split
    · exact ⟨_, rfl⟩
    · exact ⟨_, rfl⟩
  obtain ⟨e, hrun⟩ := hfirst
  refine ⟨e, ?_⟩
  rw [Task.run_each_cons Catalog.host limit begins_ensureCollection, hrun]

/-- On a catalog that does not take changes in time, applying changes nothing, and it succeeds only
where nothing is declared. -/
theorem run_apply_of_not_writable (s : Schema) (h : ¬ Writable limit c) (timer : Task.Timer) :
    (∃ e, (apply s).run Catalog.host limit timer c = (.error e, c)) ∨
      (s.validate = .ok () ∧ Readable limit c ∧ s.collections = [] ∧ s.indexes = [] ∧
        (apply s).run Catalog.host limit timer c = (.ok [], c)) := by
  cases hvalid : s.validate with
  | error e =>
      rw [apply_of_invalid hvalid]
      exact .inl ⟨_, rfl⟩
  | ok =>
      have hs : s.Consistent := Schema.validate_eq_ok_iff.1 hvalid
      rw [apply_of_valid hvalid]
      by_cases hreadable : Readable limit c
      · have hconnection := run_checkConnection_of_readable hreadable timer
        cases hrefusal : c.refusal? true with
        | none => exact absurd ⟨hreadable, hrefusal⟩ h
        | some e =>
            rw [Task.run_bind_of_ok (fun _ => begins_ensureAll s) hconnection, ensureAll]
            cases hcollections : s.collections with
            | nil =>
                have hindexes : s.indexes = [] := List.eq_nil_iff_forall_not_mem.2 fun i hi =>
                  List.not_mem_nil (hcollections ▸ hs.declared i hi)
                rw [hindexes]
                exact .inr ⟨rfl, hreadable, rfl, rfl, rfl⟩
            | cons name names =>
                obtain ⟨e, hrun⟩ := exists_error_of_refused hrefusal name names .zero
                exact .inl ⟨e, Task.run_bind_of_error (begins_indexes s.indexes) hrun⟩
      · obtain ⟨e, hrun⟩ := exists_error_of_not_readable hreadable timer
        exact .inl ⟨e, Task.run_bind_of_error (fun _ => begins_ensureAll s) hrun⟩

end DocSchema.Bootstrap
