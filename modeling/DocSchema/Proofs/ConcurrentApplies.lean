import DocSchema.Proofs.Stages

/-!
# DocSchema.Proofs.ConcurrentApplies

Clients that apply one schema at the same time.

Each ends after a bounded number of requests. When all have ended, the catalog is at the last of its
stages, which is where a run alone leaves it, and each of them has ended as a run alone does. The
clients create declared collections and nothing else, so a collection that is new was created by
one of them, and the others found it.
-/

namespace DocSchema.Bootstrap

/-! ## How many requests there are -/

theorem endsWithin_checkConnection : checkConnection.EndsWithin 1 := fun _ =>
  Task.endsWithin_done 0 _

theorem endsWithin_ensureCollection (name : CollectionName) :
    (ensureCollection name).EndsWithin 1 := by
  rw [ensureCollection_eq]
  intro result
  match result with
  | .ok .created | .ok .alreadyExists | .error e => exact Task.endsWithin_done 0 _

theorem endsWithin_ensureIndex (i : IndexSpec) : (ensureIndex i).EndsWithin 2 := by
  rw [ensureIndex_eq]
  intro result
  match result with
  | .error e => exact Task.endsWithin_done 1 _
  | .ok existing =>
      dsimp only
      cases i.definition.stateIn existing with
      | identical => exact Task.endsWithin_done 1 _
      | conflicting x => exact Task.endsWithin_done 1 _
      | missing =>
          intro result
          cases result <;> exact Task.endsWithin_done 0 _

/-- Applying a schema takes a request for the connection, one for each collection and at most two
for each index. -/
theorem endsWithin_apply (s : Schema) :
    (apply s).EndsWithin (1 + (s.collections.length + s.indexes.length * 2)) := by
  cases hvalid : s.validate with
  | error e =>
      rw [apply_of_invalid hvalid]
      exact Task.endsWithin_done _ _
  | ok =>
      have hcollections : (Task.each ensureCollection s.collections).EndsWithin
          (s.collections.length * 1) :=
        Task.endsWithin_each endsWithin_ensureCollection s.collections
      rw [Nat.mul_one] at hcollections
      have hindexes : (Task.each ensureIndex s.indexes).EndsWithin (s.indexes.length * 2) :=
        Task.endsWithin_each endsWithin_ensureIndex s.indexes
      rw [apply_of_valid hvalid]
      refine endsWithin_checkConnection.bind fun _ => hcollections.bind fun collections => ?_
      exact hindexes.bind (n := 0) fun indexes => Task.endsWithin_done 0 _

/-! ## How clients end -/

/-- Whether a client has ended as a run alone does: without an error, or with the same error. -/
def EndsAs {α : Type} (alone : Except BootstrapError α) (t : Task (List Outcome)) : Prop :=
  match alone with
  | .ok _ => ∃ outcomes, t = .done (.ok outcomes)
  | .error e => t = .done (.error e)

variable {limit : Duration} {c : Catalog} {s : Schema} {t : Task (List Outcome)}

theorem endsAs_map {α β : Type} {alone : Except BootstrapError α} (h : EndsAs alone t)
    (f : α → β) : EndsAs (alone.map f) t := by
  cases alone with
  | ok a => exact h
  | error e => exact h

/-- A client that has ended on the course is at the last stage, and has ended as a run alone. -/
theorem isLast_of_done {x : Stage limit c s} (ht : t.IsDone)
    (h : t.Ensures (applyCourse limit c s) Succeeds Fails x) :
    x.IsLast ∧ EndsAs (result limit c s) t := by
  obtain ⟨result, rfl⟩ := ht
  cases result with
  | ok outcomes =>
      obtain ⟨hlast, outcomes', halone⟩ := h
      rw [halone]
      exact ⟨hlast, outcomes, rfl⟩
  | error e =>
      obtain ⟨hlast, halone⟩ := h
      rw [halone]
      exact ⟨hlast, rfl⟩

/-- What a run alone comes to on a catalog without a failure. -/
theorem reportOn_apply (limit : Duration) {state : ClockedCatalog} (hvalid : s.validate = .ok ())
    (hfailure : state.catalog.failure = none) :
    (∀ t, EndsAs (result limit state.catalog s) t → EndsAs (reportOn limit .apply s state).1 t) ∧
      (reportOn limit .apply s state).2.catalog = applied limit state.catalog s := by
  have hrun := run_apply hvalid (writable_of_no_failure hfailure limit) .zero
  obtain ⟨hresult, hcatalog⟩ := reportOn_eq limit .apply s state
  rw [Command.task, hrun] at hresult hcatalog
  refine ⟨fun t ht => ?_, hcatalog⟩
  rw [hresult]
  exact endsAs_map ht _

/-! ## Clients together -/

open Clients (OnCourse)

/-- Some clients that are about to apply one schema. -/
def together (c : Catalog) (s : Schema) (n : Nat) : Clients := ⟨c, List.replicate n (apply s)⟩

/-- Clients that are about to apply one schema are on the course. -/
theorem onCourse_together (limit : Duration) (hvalid : s.validate = .ok ())
    (hfailure : c.failure = none) (n : Nat) :
    OnCourse (applyCourse limit c s) Succeeds Fails (together c s n) (Stage.first limit c s) where
  catalog := rfl
  tasks t ht := by
    rw [(List.mem_replicate.1 ht).2]
    exact ensures_apply hvalid hfailure _

section

variable {n : Nat} {turns : List (Nat × Int64)}

theorem length_tasks : ((together c s n).takeTurns turns).tasks.length = n := by
  rw [Clients.length_takeTurns]
  exact List.length_replicate

/-- Clients that have all ended leave the catalog that a run alone leaves, and end as it does. -/
theorem ends_of_done (limit : Duration) (hvalid : s.validate = .ok ())
    (hfailure : c.failure = none) (hn : 0 < n)
    (hdone : ∀ t ∈ ((together c s n).takeTurns turns).tasks, t.IsDone) :
    ((together c s n).takeTurns turns).catalog = applied limit c s ∧
      ∀ t ∈ ((together c s n).takeTurns turns).tasks, EndsAs (result limit c s) t := by
  obtain ⟨⟨x, hx⟩, -⟩ := (onCourse_together limit hvalid hfailure n).takeTurns
    lasting_succeeds lasting_fails turns
  have hends := fun t ht => isLast_of_done (hdone t ht) (hx.tasks t ht)
  have hlength : 0 < ((together c s n).takeTurns turns).tasks.length := by
    rw [length_tasks]
    exact hn
  have hlast : x.IsLast := (hends _ (List.getElem_mem hlength)).1
  exact ⟨hx.catalog.trans hlast.catalog, fun t ht => (hends t ht).2⟩

/-- Clients together create a collection that was missing exactly once. -/
theorem count_creates_eq_one (hvalid : s.validate = .ok ()) (hfailure : c.failure = none)
    (hlast : ((together c s n).takeTurns turns).catalog = applied limit c s) {name : CollectionName}
    (hname : name ∈ s.collections) (hmissing : c.collections.get? name = none) :
    ((together c s n).calls turns).countP (Call.creates name) = 1 := by
  have hcount := Clients.count_creates lasting_succeeds lasting_fails (fun _ _ h => h.1)
    (onCourse_together limit hvalid hfailure n) turns name
  have hstart : (together c s n).catalog = c := rfl
  rw [hlast, hstart, Catalog.presence_of_missing hmissing,
    Catalog.presence_of_exists (exists_applied limit c hname)] at hcount
  exact hcount

/-- For a schema with a fault no client has anything to do. -/
theorem idle_of_invalid {e : SchemaError} (hvalid : s.validate = .error e) :
    (∀ t ∈ (together c s n).tasks, t = .done (.error (.invalidSchema e))) ∧
      (together c s n).takeTurns turns = together c s n ∧
      (together c s n).calls turns = [] := by
  have hidle : ∀ t ∈ (together c s n).tasks, t = .done (.error (.invalidSchema e)) :=
    fun t ht => (List.mem_replicate.1 ht).2.trans (apply_of_invalid hvalid)
  exact ⟨hidle, Clients.takeTurns_of_done (fun t ht => ⟨_, hidle t ht⟩) turns⟩

/-- Clients ask to create declared collections only. -/
theorem mem_collections_of_call (hvalid : s.validate = .ok ()) (hfailure : c.failure = none)
    {name : CollectionName} {call : Call} (hcall : call ∈ (together c s n).calls turns)
    (hrequest : call.request = .createCollection name) : name ∈ s.collections := by
  obtain ⟨-, hpermits⟩ := (onCourse_together defaultLimit hvalid hfailure n).takeTurns
    lasting_succeeds lasting_fails turns
  obtain ⟨x, -, hdeclared⟩ := hpermits call hcall
  exact hdeclared name hrequest

end

/-- However the requests of clients fall that apply one schema to a catalog without a failure, each
client comes to its end. When all have, the catalog is the one that a run alone leaves, each client
has ended without an error if a run alone does, and with the same error otherwise; and of all the
calls that ask to create a collection that was missing, exactly one created it. -/
theorem concurrent_applies_as_one (limit : Duration) (s : Schema) (state : ClockedCatalog)
    (hfailure : state.catalog.failure = none) (n : Nat) (hn : 0 < n)
    (turns : List (Nat × Int64)) :
    let start := together state.catalog s n
    let last := start.takeTurns turns
    let alone := reportOn limit .apply s state
    (∀ i < n, 1 + (s.collections.length + s.indexes.length * 2) ≤ turns.countP (·.1 == i) →
        ∃ result, last.tasks[i]? = some (.done result)) ∧
      ((∀ t ∈ last.tasks, t.IsDone) →
        last.catalog = alone.2.catalog ∧ last.tasks.length = n ∧
          (∀ t ∈ last.tasks, EndsAs alone.1 t) ∧
          ∀ name, state.catalog.collections.get? name = none →
            ((∃ call ∈ start.calls turns, call.request = .createCollection name) →
              (start.calls turns).countP (Call.creates name) = 1) ∧
            (s.validate = .ok () → name ∈ s.collections →
              (start.calls turns).countP (Call.creates name) = 1)) := by
  intro start last alone
  refine ⟨fun i hi hturns => ?_, fun hdone => ?_⟩
  · have htask : start.tasks[i]? = some (apply s) := List.getElem?_replicate_of_lt hi
    exact Clients.exists_done_of_turns htask (endsWithin_apply s) hturns
  · have hlength : last.tasks.length = n := length_tasks
    cases hvalid : s.validate with
    | ok =>
        obtain ⟨hresult, hcatalog⟩ := reportOn_apply limit hvalid hfailure
        obtain ⟨hlast, hends⟩ := ends_of_done limit hvalid hfailure hn hdone
        refine ⟨hlast.trans hcatalog.symm, hlength, fun t ht => hresult t (hends t ht),
          fun name hmissing => ⟨?_, fun _ hname => ?_⟩⟩
        · rintro ⟨call, hcall, hrequest⟩
          have hname := mem_collections_of_call hvalid hfailure hcall hrequest
          exact count_creates_eq_one hvalid hfailure hlast hname hmissing
        · exact count_creates_eq_one hvalid hfailure hlast hname hmissing
    | error e =>
        obtain ⟨hidle, hlast, hcalls⟩ : _ ∧ last = start ∧ _ := idle_of_invalid hvalid
        obtain ⟨halone, hcatalog⟩ : alone.1 = _ ∧ alone.2.catalog = _ :=
          reportOn_of_invalid hvalid
        refine ⟨?_, hlength, fun t ht => ?_, fun name hmissing => ⟨?_, nofun⟩⟩
        · rw [hcatalog]
          exact congrArg Clients.catalog hlast
        · rw [hlast] at ht
          rw [halone]
          exact hidle t ht
        · rintro ⟨call, hcall, -⟩
          rw [hcalls] at hcall
          contradiction

/-- A declared index on the owners of carts. -/
def cartOwner : IndexSpec := ⟨⟨"carts", by decide⟩, ⟨"owner", by decide⟩, true, none⟩

/-- Carts with one owner each. -/
def carts : Schema := ⟨"shop", [cartOwner.collection], [cartOwner]⟩

/-- A shop without any collections. -/
def emptyShop : ClockedCatalog := ⟨.empty "shop" none, 0⟩

/-- Two clients in it. -/
def shoppers : Clients := together emptyShop.catalog carts 2

/-- They take turns, with four requests each. -/
def inTurn : List (Nat × Int64) := (List.replicate 4 [(0, 0), (1, 0)]).flatten

/-- Both find the index missing. The second asks for it when it is there already, and reports that
it was created; the collection was created by one call. -/
theorem concurrent_applies_as_one_carts :
    emptyShop.catalog.failure = none ∧
      (∀ t ∈ (shoppers.takeTurns inTurn).tasks, t.IsDone) ∧
      (shoppers.takeTurns inTurn).tasks =
        [.done (.ok [⟨.collection cartOwner.collection, .created⟩, ⟨.index cartOwner, .created⟩]),
          .done (.ok
            [⟨.collection cartOwner.collection, .unchanged⟩, ⟨.index cartOwner, .created⟩])] ∧
      (shoppers.takeTurns inTurn).catalog =
        (reportOn defaultLimit .apply carts emptyShop).2.catalog ∧
      (shoppers.calls inTurn).countP (Call.creates cartOwner.collection) = 1 := by
  have htasks : (shoppers.takeTurns inTurn).tasks =
      [.done (.ok [⟨.collection cartOwner.collection, .created⟩, ⟨.index cartOwner, .created⟩]),
        .done (.ok
          [⟨.collection cartOwner.collection, .unchanged⟩, ⟨.index cartOwner, .created⟩])] := rfl
  have hdone : ∀ t ∈ (shoppers.takeTurns inTurn).tasks, t.IsDone := by
    rw [htasks]
    exact List.forall_mem_cons.2 ⟨⟨_, rfl⟩, List.forall_mem_singleton.2 ⟨_, rfl⟩⟩
  obtain ⟨-, htogether⟩ :=
    concurrent_applies_as_one defaultLimit carts emptyShop rfl 2 Nat.two_pos inTurn
  obtain ⟨hcatalog, -, -, hcalls⟩ := htogether hdone
  have hvalid : carts.validate = .ok () := by decide
  have hmissing : emptyShop.catalog.collections.get? cartOwner.collection = none := rfl
  exact ⟨rfl, hdone, htasks, hcatalog, (hcalls _ hmissing).2 hvalid List.mem_cons_self⟩

end DocSchema.Bootstrap
