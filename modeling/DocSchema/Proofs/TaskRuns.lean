import DocSchema.Bootstrap.Run
import DocSchema.Proofs.CatalogChanges

/-!
# DocSchema.Proofs.TaskRuns

How the run of a task is put together from the runs of its parts.

The time of a declaration starts with its first request, so a task that begins a declaration runs
alike under every timer, and the parts of a sequence of declarations run one after the other as if
each were alone: `run_bind` and `run_each_cons`. The clock of a catalog matters to soft deletions
only; a task without them runs on the bare catalog, which `run_clocked` makes precise. A report cuts
the run of its command in two, after the checks; `report_eq` puts it together again.
-/

namespace DocSchema

namespace Task

variable {σ α β : Type} (host : Host σ) (limit : Duration)

/-- A request takes its time and is answered, unless the time of its declaration is over. -/
theorem run_ask (starts : Option String) (r : Request) (next : r.Result → Task α)
    (timer : Timer) (s : σ) : (ask starts r next).run host limit timer s =
      if limit.nanoseconds < (timer.at starts).spent + (host.delay s r).nanoseconds then
        (.error (.timeout (timer.at starts).declaration limit), s)
      else (next (host.answer s r).1).run host limit
        { timer.at starts with
          spent := (timer.at starts).spent + (host.delay s r).nanoseconds }
        (host.answer s r).2 := rfl

variable {host limit} in
/-- What every answer of a host preserves, a run preserves. -/
theorem run_invariant {P : σ → Prop} (hanswer : ∀ s r, P s → P (host.answer s r).2) (t : Task α)
    (timer : Timer) {s : σ} (h : P s) : P (t.run host limit timer s).2 := by
  induction t generalizing timer s with
  | done result => exact h
  | ask starts r next ih =>
      rw [run_ask]
      split
      · exact h
      · exact ih _ _ (hanswer s r h)

/-! ## Sequences of declarations -/

/-- Whether the first request of a task, if it makes one, begins a declaration. -/
def Begins : Task α → Prop
  | .ask none _ _ => False
  | .ask (some _) _ _ => True
  | .done _ => True

/-- A task that begins a declaration runs alike whatever time was spent before. -/
theorem run_timer {t : Task α} (h : t.Begins) (timer timer' : Timer) (s : σ) :
    t.run host limit timer s = t.run host limit timer' s := by
  match t, h with
  | .done result, _ => rfl
  | .ask (some declaration) request next, _ => rfl

/-- No time has been spent yet. -/
def Timer.zero : Timer := ⟨"", 0⟩

/-- A run goes on with the result of the first part, where it has one. -/
theorem run_bind (t : Task α) {f : α → Task β} (hf : ∀ a, (f a).Begins) (timer : Timer) (s : σ) :
    (t >>= f).run host limit timer s =
      match t.run host limit timer s with
      | (.ok a, s') => (f a).run host limit .zero s'
      | (.error e, s') => (.error e, s') := by
  change (t.bind f).run host limit timer s = _
  induction t generalizing timer s with
  | done result =>
      cases result with
      | error e => rfl
      | ok a => exact run_timer host limit (hf a) timer .zero s
  | ask starts request next ih =>
      simp only [bind, run]
      split
      · rfl
      · exact ih _ _ _

variable {host limit} in
/-- A part with a result hands its state on. -/
theorem run_bind_of_ok {t : Task α} {f : α → Task β} (hf : ∀ a, (f a).Begins) {timer : Timer}
    {s s' : σ} {a : α} (h : t.run host limit timer s = (.ok a, s')) :
    (t >>= f).run host limit timer s = (f a).run host limit .zero s' := by
  rw [run_bind host limit t hf, h]

variable {host limit} in
/-- A part with an error ends the run. -/
theorem run_bind_of_error {t : Task α} {f : α → Task β} (hf : ∀ a, (f a).Begins) {timer : Timer}
    {s s' : σ} {e : BootstrapError} (h : t.run host limit timer s = (.error e, s')) :
    (t >>= f).run host limit timer s = (.error e, s') := by
  rw [run_bind host limit t hf, h]

/-- The result of a run is passed on to a function. -/
theorem run_bind_pure (t : Task α) (f : α → β) (timer : Timer) (s : σ) :
    (t >>= fun a => pure (f a)).run host limit timer s =
      ((t.run host limit timer s).1.map f, (t.run host limit timer s).2) := by
  rw [run_bind host limit t (f := fun a => pure (f a)) fun a => trivial]
  cases t.run host limit timer s with
  | mk result s' => cases result <;> rfl

theorem begins_bind {t : Task α} {f : α → Task β} (ht : t.Begins) (hf : ∀ a, (f a).Begins) :
    (t >>= f).Begins := by
  change (t.bind f).Begins
  match t, ht with
  | .done (.ok a), _ => exact hf a
  | .done (.error e), _ => trivial
  | .ask (some declaration) request next, _ => trivial

theorem begins_each {f : α → Task β} (hf : ∀ a, (f a).Begins) (as : List α) :
    (each f as).Begins := by
  induction as with
  | nil => trivial
  | cons a as ih => exact begins_bind (hf a) fun b => begins_bind ih fun bs => trivial

/-- A run over a list goes on with the rest of the list as long as there is no error. -/
theorem run_each_cons {f : α → Task β} (hf : ∀ a, (f a).Begins) (a : α) (as : List α)
    (timer : Timer) (s : σ) :
    (each f (a :: as)).run host limit timer s =
      match (f a).run host limit timer s with
      | (.ok b, s') =>
        let (bs, s'') := (each f as).run host limit .zero s'
        (bs.map (b :: ·), s'')
      | (.error e, s') => (.error e, s') := by
  have hrest : ∀ b : β, (each f as >>= fun bs => pure (b :: bs)).Begins := fun b =>
    begins_bind (begins_each hf as) fun bs => trivial
  rw [each, run_bind host limit (f a) hrest]
  split
  · exact run_bind_pure host limit _ _ _ _
  · rfl

/-! ## Runs that do not look at the clock -/

/-- Whether every request that a task may make has a property. -/
def Asks (p : Request → Prop) : Task α → Prop
  | .done _ => True
  | .ask _ request next => p request ∧ ∀ result, (next result).Asks p

theorem asks_bind {p : Request → Prop} {t : Task α} {f : α → Task β} (ht : t.Asks p)
    (hf : ∀ a, (f a).Asks p) : (t >>= f).Asks p := by
  change (t.bind f).Asks p
  induction t with
  | done result =>
      cases result with
      | error e => trivial
      | ok a => exact hf a
  | ask starts request next ih => exact ⟨ht.1, fun result => ih result (ht.2 result)⟩

theorem asks_request {p : Request → Prop} {starts : Option String} {r : Request} (hr : p r) :
    (request starts r).Asks p := ⟨hr, fun _ => trivial⟩

theorem asks_each {p : Request → Prop} {f : α → Task β} (hf : ∀ a, (f a).Asks p)
    (as : List α) : (each f as).Asks p := by
  induction as with
  | nil => trivial
  | cons a as ih => exact asks_bind (hf a) fun b => asks_bind ih fun bs => trivial

end Task

/-- Whether the answer to a request does not depend on the clock. -/
def Request.Timeless : Request → Prop
  | .softDelete _ _ _ => False
  | _ => True

/-- A catalog in memory as a host whose clock stands still. -/
def Catalog.host : Host Catalog where
  delay c _ := c.delay
  answer c r := c.answer 0 r

theorem Catalog.answer_timeless (now : Int64) (c : Catalog) {r : Request} (hr : r.Timeless) :
    c.answer now r = c.answer 0 r := by
  cases r with
  | softDelete name field value => exact hr.elim
  | _ => rfl

/-- A task that deletes nothing runs on the bare catalog. -/
theorem Task.run_clocked {α : Type} {t : Task α} (ht : t.Asks Request.Timeless)
    (limit : Duration) (timer : Timer) (s : ClockedCatalog) :
    (t.run ClockedCatalog.host limit timer s).1 = (t.run Catalog.host limit timer s.catalog).1 ∧
      (t.run ClockedCatalog.host limit timer s).2.catalog =
        (t.run Catalog.host limit timer s.catalog).2 := by
  induction t generalizing timer s with
  | done result => exact ⟨rfl, rfl⟩
  | ask starts request next ih =>
      have hdelay : ClockedCatalog.host.delay s request =
          Catalog.host.delay s.catalog request := rfl
      have hanswer := Catalog.answer_timeless
        (ClockedCatalog.now ⟨s.catalog, s.clock + s.catalog.delay.millis⟩) s.catalog ht.1
      have hresult : (ClockedCatalog.host.answer s request).1 =
          (Catalog.host.answer s.catalog request).1 := congrArg Prod.fst hanswer
      have hstate : (ClockedCatalog.host.answer s request).2.catalog =
          (Catalog.host.answer s.catalog request).2 := congrArg Prod.snd hanswer
      rw [run_ask, run_ask, hdelay]
      split
      · exact ⟨rfl, rfl⟩
      · rw [hresult, ← hstate]
        exact ih _ (ht.2 _) _ _

/-! ## Commands and their reports -/

namespace Bootstrap

theorem begins_ensureCollection (name : CollectionName) : (ensureCollection name).Begins := trivial

theorem begins_ensureIndex (s : IndexSpec) : (ensureIndex s).Begins := trivial

theorem begins_indexes (specs : List IndexSpec) (collections : List Outcome) : Task.Begins (do
    let indexes ← Task.each ensureIndex specs
    pure (collections ++ indexes)) :=
  Task.begins_bind (Task.begins_each begins_ensureIndex specs) fun _ => trivial

theorem begins_ensureAll (s : Schema) : (ensureAll s).Begins :=
  Task.begins_bind (Task.begins_each begins_ensureCollection s.collections)
    (begins_indexes s.indexes)

theorem begins_planIndex (s : IndexSpec) : (planIndex s).Begins := trivial

theorem begins_planAll (s : Schema) : (planAll s).Begins := trivial

theorem begins_work (command : Command) (s : Schema) : (command.work s).Begins := by
  cases command with
  | apply => exact begins_ensureAll s
  | plan => exact begins_planAll s

/-- The checks come first, and then the work. -/
theorem task_eq (command : Command) (s : Schema) : command.task s = (do
    check s
    command.work s) := by
  cases command <;> rfl

/-- A schema with a fault ends either command before any request. -/
theorem task_of_invalid (command : Command) {s : Schema} {e : SchemaError}
    (h : s.validate = .error e) : command.task s = .done (.error (.invalidSchema e)) := by
  rw [task_eq, check, checkSchema, h]
  rfl

/-- A schema without a fault is worked on if the store can be reached. -/
theorem task_of_valid (command : Command) {s : Schema} (h : s.validate = .ok ()) :
    command.task s = (do
      checkConnection
      command.work s) := by
  rw [task_eq, check, checkSchema, h]
  rfl

/-- A report is made of one run of the whole command, and of the clock after the checks and at the
end: the work begins with a declaration of its own, so the run may be cut there. -/
theorem report_eq {σ : Type} (host : Host σ) (clock : σ → Int) (database : String)
    (limit : Duration) (command : Command) (s : Schema) (state : σ) :
    report host clock database limit command s state =
      (((command.task s).run host limit .zero state).1.map (fun outcomes =>
        { database
          dryRun := command == .plan
          startedAt := clock ((check s).run host limit .zero state).2
          finishedAt := clock ((command.task s).run host limit .zero state).2
          outcomes }),
        ((command.task s).run host limit .zero state).2) := by
  rw [task_eq, Task.run_bind host limit (check s) fun _ => begins_work command s, report,
    ← Task.Timer.zero]
  obtain ⟨result, checked⟩ := (check s).run host limit .zero state
  cases result <;> rfl

end Bootstrap

end DocSchema
