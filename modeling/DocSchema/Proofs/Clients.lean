import DocSchema.Proofs.TaskRuns

/-!
# DocSchema.Proofs.Clients

Any number of clients that share one catalog in memory.

A client asks the catalog for single things, or works on a task such as applying a schema. The
catalog answers one request at a time, so a run is a list of events, and between two requests of
a task anything may happen. A task may also be given up between requests, as it is when its time
is over. A run keeps whatever single changes of the catalog keep:

* `run_induction`: properties of catalogs along runs in which no index is seeded.
-/

namespace DocSchema

/-- A catalog and the tasks of its clients, each at the point it has come to. -/
structure Clients where
  catalog : Catalog
  tasks : List (Task (List Outcome))

namespace Clients

/-- What may happen next. The readings of the clock are arbitrary. -/
inductive Event where
  /-- A client asks the catalog for something. -/
  | request (now : Int64) (r : Request)
  /-- A client runs a command to its end while the others wait. -/
  | command (limit : Duration) (command : Bootstrap.Command) (s : Schema) (clock : Nat)
  /-- A client starts a command. -/
  | start (command : Bootstrap.Command) (s : Schema)
  /-- The task at this position makes its next request. -/
  | advance (task : Nat) (now : Int64)
  /-- The task at this position is given up. -/
  | abandon (task : Nat) (e : BootstrapError)
  /-- An index is put into a collection without any check. -/
  | seed (name : CollectionName) (x : IndexDefinition)

/-- Whether an index is put into a collection without any check. -/
def Event.isSeed : Event → Bool
  | .seed _ _ => true
  | _ => false

/-- A task and the catalog after its next request. A task that has ended makes none. -/
def advance (now : Int64) (c : Catalog) :
    Task (List Outcome) → Task (List Outcome) × Catalog
  | .done result => (.done result, c)
  | .ask _ request next =>
    let (result, c) := c.answer now request
    (next result, c)

/-- What an event does. -/
def step (w : Clients) : Event → Clients
  | .request now r => { w with catalog := (w.catalog.answer now r).2 }
  | .command limit command s clock =>
    { w with catalog := (Bootstrap.reportOn limit command s ⟨w.catalog, clock⟩).2.catalog }
  | .start command s => { w with tasks := w.tasks ++ [command.task s] }
  | .advance task now =>
    match w.tasks[task]? with
    | none => w
    | some t =>
      let (t, catalog) := advance now w.catalog t
      { catalog, tasks := w.tasks.set task t }
  | .abandon task e => { w with tasks := w.tasks.set task (.done (.error e)) }
  | .seed name x => { w with catalog := w.catalog.seedIndex name x }

/-- A task that there is makes its next request. -/
theorem step_advance {w : Clients} {i : Nat} {t : Task (List Outcome)} (h : w.tasks[i]? = some t)
    (now : Int64) : w.step (.advance i now) =
      ⟨(advance now w.catalog t).2, w.tasks.set i (advance now w.catalog t).1⟩ := by
  simp only [step, h]

/-- A task that there is not makes no request. -/
theorem step_advance_of_none {w : Clients} {i : Nat} (h : w.tasks[i]? = none) (now : Int64) :
    w.step (.advance i now) = w := by
  simp only [step, h]

/-- What a list of events does, one after the other. -/
def run (w : Clients) (events : List Event) : Clients := events.foldl step w

/-! ## What runs keep -/

variable {P : Catalog → Prop}

/-- A task that is run alone keeps what every change keeps. -/
theorem task_run_induction (hchange : ∀ c c', Catalog.Change c c' → P c → P c') {α : Type}
    (limit : Duration) (t : Task α) (timer : Task.Timer) (s : ClockedCatalog)
    (hs : P s.catalog) : P (t.run ClockedCatalog.host limit timer s).2.catalog :=
  Task.run_invariant (P := fun s : ClockedCatalog => P s.catalog)
    (fun _ _ => hchange _ _ (Catalog.answer_change _ _ _)) t timer hs

/-- An event that seeds no index keeps what every change keeps. -/
theorem step_induction (hchange : ∀ c c', Catalog.Change c c' → P c → P c') (w : Clients)
    {e : Event} (he : e.isSeed = false) (hw : P w.catalog) : P (w.step e).catalog := by
  cases e with
  | request now r => exact hchange _ _ (Catalog.answer_change _ now r) hw
  | command limit command s clock =>
      rw [step, Bootstrap.reportOn, Bootstrap.report_eq]
      exact task_run_induction hchange limit (command.task s) .zero ⟨w.catalog, clock⟩ hw
  | start command s => exact hw
  | advance task now =>
      simp only [step]
      cases w.tasks[task]? with
      | none => exact hw
      | some t =>
          cases t with
          | done result => exact hw
          | ask starts request next => exact hchange _ _ (Catalog.answer_change _ now request) hw
  | abandon task e => exact hw
  | seed name x => contradiction

/-- A run in which no index is seeded keeps what every change keeps. -/
theorem run_induction (hchange : ∀ c c', Catalog.Change c c' → P c → P c') (w : Clients)
    {events : List Event} (hevents : ∀ e ∈ events, e.isSeed = false) (hw : P w.catalog) :
    P (w.run events).catalog := by
  induction events generalizing w with
  | nil => exact hw
  | cons e events ih =>
      obtain ⟨he, hrest⟩ := List.forall_mem_cons.1 hevents
      exact ih (w.step e) hrest (step_induction hchange w he hw)

end Clients

end DocSchema
