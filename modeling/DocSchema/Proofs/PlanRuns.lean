import DocSchema.Proofs.ApplyRuns

/-!
# DocSchema.Proofs.PlanRuns

What planning a schema comes to on a catalog in memory, and the reports of both commands.

Planning asks for the collections and for the indexes of each declaration and changes nothing, so
its outcomes are read off the catalog at the start (`outlook`). The clock of a catalog only stamps
the reports: `reportOn_eq` reduces a report to the run on the bare catalog.
-/

namespace DocSchema

/-- The names of the collections are the names that something is found under. -/
theorem Collections.mem_names_iff {cs : Collections} {name : CollectionName} :
    name ∈ cs.names ↔ (cs.get? name).isSome = true := by
  obtain ⟨entries, ascending⟩ := cs
  change name ∈ entries.map Prod.fst ↔ (find? name entries).isSome = true
  clear ascending
  induction entries with
  | nil => simp [find?]
  | cons entry entries ih =>
      obtain ⟨n, content⟩ := entry
      rw [List.map_cons, List.mem_cons, ih, find?]
      by_cases h : n = name
      · simp [h]
      · simp [h, Ne.symm h]

/-- The declarations of a schema, in the order they are applied. -/
def Schema.declarations (s : Schema) : List Declaration :=
  s.collections.map .collection ++ s.indexes.map .index

namespace Bootstrap

variable {limit : Duration} {c : Catalog} {s : Schema}

/-! ## The outlook -/

/-- What planning says of a declared index in some state. -/
def plannedAction (s : IndexSpec) : IndexState → Action
  | .missing => .wouldCreate
  | .identical => .unchanged
  | .conflicting existing => .conflict (difference existing s.definition)

/-- What planning says of a declared index. -/
def indexPlan (c : Catalog) (s : IndexSpec) : Outcome := ⟨.index s, plannedAction s (c.stateOf s)⟩

/-- What planning says of a declared collection. -/
def collectionPlan (c : Catalog) (name : CollectionName) : Outcome :=
  ⟨.collection name, if (c.collections.get? name).isSome then .unchanged else .wouldCreate⟩

/-- What planning says of a schema. -/
def outlook (c : Catalog) (s : Schema) : List Outcome :=
  s.collections.map (collectionPlan c) ++ s.indexes.map (indexPlan c)

theorem declarations_outlook (c : Catalog) (s : Schema) :
    (outlook c s).map Outcome.declaration = s.declarations := by
  rw [outlook, List.map_append, List.map_map, List.map_map]
  rfl

/-! ## Planning -/

/-- An index is planned with one look at the indexes of its collection. -/
theorem planIndex_eq (s : IndexSpec) : planIndex s =
    .ask (some (Declaration.index s).text) (.listIndexes s.collection) fun
      | .ok existing => .done (.ok ⟨.index s, plannedAction s (s.definition.stateIn existing)⟩)
      | .error e => .done (.error (.ofStore e)) := by
  refine congrArg (Task.ask _ _) (funext fun result => ?_)
  match result with
  | .error e => rfl
  | .ok existing =>
      change Task.bind (.done (.ok (s.definition.stateIn existing))) _ =
        Task.done (.ok (Outcome.mk (.index s) (plannedAction s (s.definition.stateIn existing))))
      cases s.definition.stateIn existing with
      | missing => rfl
      | identical => rfl
      | conflicting x => rfl

theorem run_planIndex (h : Readable limit c) (s : IndexSpec) (timer : Task.Timer) :
    (planIndex s).run Catalog.host limit timer c = (.ok (indexPlan c s), c) := by
  have hlist : c.perform 0 (.listIndexes s.collection) =
      (.ok (c.collection s.collection).indexes, c) := rfl
  rw [planIndex_eq, run_begin h.reads h.inTime, hlist]
  rfl

/-- Every index is planned on the same catalog. -/
theorem run_each_planIndex (h : Readable limit c) (specs : List IndexSpec) (timer : Task.Timer) :
    (Task.each planIndex specs).run Catalog.host limit timer c =
      (.ok (specs.map (indexPlan c)), c) := by
  induction specs generalizing timer with
  | nil => rfl
  | cons s specs ih =>
      rw [Task.run_each_cons Catalog.host limit begins_planIndex, run_planIndex h]
      dsimp only
      rw [ih]
      rfl

/-- The existing collections are told from the missing ones by the texts of their names. -/
theorem planCollection_names (c : Catalog) :
    planCollection (c.collections.names.map fun name => name.text) = collectionPlan c := by
  funext name
  have hnames : (c.collections.names.map fun name => name.text).contains name.text =
      (c.collections.get? name).isSome := by
    rw [Bool.eq_iff_iff, List.contains_iff_mem, List.mem_map, ← Collections.mem_names_iff]
    constructor
    · rintro ⟨other, hother, htext⟩
      exact CollectionName.ext htext ▸ hother
    · exact fun hname => ⟨name, hname, rfl⟩
  rw [planCollection, hnames, collectionPlan]

/-- A schema without a fault is planned on a store that can be reached. -/
theorem plan_of_valid (h : s.validate = .ok ()) : plan s = (do
    checkConnection
    planAll s) :=
  task_of_valid .plan h

/-- Planning a schema on a catalog that answers in time. -/
theorem run_plan (hvalid : s.validate = .ok ()) (h : Readable limit c) (timer : Task.Timer) :
    (plan s).run Catalog.host limit timer c = (.ok (outlook c s), c) := by
  have hlist : ∀ timer, (Task.request (some "list collections") .listCollections).run
      Catalog.host limit timer c = (.ok (c.collections.names.map fun name => name.text), c) :=
    fun timer => by
      rw [Task.request, run_begin h.reads h.inTime]
      rfl
  have hlast : ∀ existing : List String, Task.Begins (do
      let indexes ← Task.each planIndex s.indexes
      pure (s.collections.map (planCollection existing) ++ indexes)) := fun existing =>
    Task.begins_bind (Task.begins_each begins_planIndex s.indexes) fun _ => trivial
  rw [plan_of_valid hvalid,
    Task.run_bind_of_ok (fun _ => begins_planAll s) (run_checkConnection_of_readable h timer),
    planAll, Task.run_bind_of_ok hlast (hlist .zero), Task.run_bind_pure, run_each_planIndex h,
    planCollection_names]
  rfl

/-! ## Reports -/

theorem asks_checkConnection : checkConnection.Asks Request.Timeless :=
  ⟨trivial, fun _ => trivial⟩

theorem asks_indexState (s : IndexSpec) : (indexState s).Asks Request.Timeless :=
  Task.asks_bind (Task.asks_request trivial) fun _ => trivial

theorem asks_ensureCollection (name : CollectionName) :
    (ensureCollection name).Asks Request.Timeless :=
  Task.asks_bind (Task.asks_request trivial) fun _ => trivial

theorem asks_ensureIndex (s : IndexSpec) : (ensureIndex s).Asks Request.Timeless :=
  Task.asks_bind (asks_indexState s) fun state =>
    match state with
    | .identical => trivial
    | .conflicting _ => trivial
    | .missing => Task.asks_bind (Task.asks_request trivial) fun _ => trivial

theorem asks_planIndex (s : IndexSpec) : (planIndex s).Asks Request.Timeless :=
  Task.asks_bind (asks_indexState s) fun _ => trivial

theorem asks_check (s : Schema) : (check s).Asks Request.Timeless :=
  Task.asks_bind (t := checkSchema s) trivial fun _ => asks_checkConnection

theorem asks_work (command : Command) (s : Schema) :
    (command.work s).Asks Request.Timeless := by
  cases command with
  | apply =>
      refine Task.asks_bind (Task.asks_each asks_ensureCollection s.collections) fun _ => ?_
      exact Task.asks_bind (Task.asks_each asks_ensureIndex s.indexes) fun _ => trivial
  | plan =>
      refine Task.asks_bind (Task.asks_request trivial) fun _ => ?_
      exact Task.asks_bind (Task.asks_each asks_planIndex s.indexes) fun _ => trivial

/-- Neither command deletes anything. -/
theorem asks_task (command : Command) (s : Schema) :
    (command.task s).Asks Request.Timeless := by
  rw [task_eq]
  exact Task.asks_bind (asks_check s) fun _ => asks_work command s

/-- A report on a catalog in memory is made of a run on the bare catalog and of the clock after the
checks and at the end. -/
theorem reportOn_eq (limit : Duration) (command : Command) (s : Schema) (state : ClockedCatalog) :
    (reportOn limit command s state).1 =
        ((command.task s).run Catalog.host limit .zero state.catalog).1.map (fun outcomes =>
          { database := state.catalog.database
            dryRun := command == .plan
            startedAt := ((check s).run ClockedCatalog.host limit .zero state).2.clock
            finishedAt := (reportOn limit command s state).2.clock
            outcomes }) ∧
      (reportOn limit command s state).2.catalog =
        ((command.task s).run Catalog.host limit .zero state.catalog).2 := by
  obtain ⟨hresult, hcatalog⟩ := Task.run_clocked (asks_task command s) limit .zero state
  rw [reportOn, report_eq, ← hresult]
  exact ⟨rfl, hcatalog⟩

variable {command : Command} {state : ClockedCatalog}

/-- A run that succeeds is reported with its outcomes. -/
theorem exists_reportOn_of_run {outcomes : List Outcome} {after : Catalog}
    (h : (command.task s).run Catalog.host limit .zero state.catalog = (.ok outcomes, after)) :
    (∃ r, (reportOn limit command s state).1 = .ok r ∧ r.outcomes = outcomes) ∧
      (reportOn limit command s state).2.catalog = after := by
  obtain ⟨hresult, hcatalog⟩ := reportOn_eq limit command s state
  rw [h] at hresult hcatalog
  exact ⟨⟨_, hresult, rfl⟩, hcatalog⟩

/-- A run that fails is answered with its error. -/
theorem reportOn_of_run {e : BootstrapError} {after : Catalog}
    (h : (command.task s).run Catalog.host limit .zero state.catalog = (.error e, after)) :
    (reportOn limit command s state).1 = .error e ∧
      (reportOn limit command s state).2.catalog = after := by
  obtain ⟨hresult, hcatalog⟩ := reportOn_eq limit command s state
  rw [h] at hresult hcatalog
  exact ⟨hresult, hcatalog⟩

/-- A schema with a fault ends either command before anything is requested. -/
theorem reportOn_of_invalid {e : SchemaError} (h : s.validate = .error e) :
    (reportOn limit command s state).1 = .error (.invalidSchema e) ∧
      (reportOn limit command s state).2.catalog = state.catalog :=
  reportOn_of_run (by rw [task_of_invalid command h]; rfl)

end Bootstrap

end DocSchema
