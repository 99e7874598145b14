import DocSchema.Proofs.Interference

/-!
# DocSchema.Proofs.Turns

Clients that take turns, each making the next request of its task.

Tasks that all keep to one course keep the catalog on it, whoever has the next turn
(`OnCourse.takeTurns`), and a task that makes at most so many requests ends after as many turns
(`exists_done_of_turns`). Every request is also recorded as a call with its answer. Where no request
brings a collection into being by the way, a collection that is new was created by exactly one of
the calls (`count_creates`).
-/

namespace DocSchema

/-! ## Calls -/

/-- A request and its answer. -/
structure Call where
  request : Request
  result : request.Result

/-- Whether a call created the collection of a name. -/
def Call.creates (name : CollectionName) : Call → Bool
  | ⟨.createCollection n, .ok .created⟩ => n == name
  | _ => false

/-- Whether a request is about a collection that exists, unless it asks to create one. -/
def Request.AtHome (c : Catalog) : Request → Prop
  | .createIndex s => c.collections.get? s.collection ≠ none
  | .insert name _ => c.collections.get? name ≠ none
  | _ => True

namespace Catalog

/-- Whether a collection exists, as a number. -/
def presence (c : Catalog) (name : CollectionName) : Nat := (c.collections.get? name).isSome.toNat

theorem presence_of_missing {c : Catalog} {name : CollectionName}
    (h : c.collections.get? name = none) : c.presence name = 0 := by
  rw [presence, h]
  rfl

theorem presence_of_exists {c : Catalog} {name : CollectionName}
    (h : c.collections.get? name ≠ none) : c.presence name = 1 := by
  rw [presence, Option.isSome_iff_ne_none.2 h]
  rfl

theorem presence_eq_zero_iff {c : Catalog} {name : CollectionName} :
    c.presence name = 0 ↔ c.collections.get? name = none := by
  rw [presence, Bool.toNat_eq_zero, Option.isSome_eq_false_iff, Option.isNone_iff_eq_none]

/-- New contents of a collection that exists leave all collections as present as they were. -/
theorem presence_setCollection {c : Catalog} {other : CollectionName}
    (h : c.collections.get? other ≠ none) (content : Collection) (name : CollectionName) :
    (c.setCollection other content).presence name = c.presence name := by
  rw [presence, presence, get?_setCollection]
  split
  · next hname => rw [← hname, Option.isSome_some, Option.isSome_iff_ne_none.2 h]
  · rfl

/-- An index of a collection that exists brings no other into being. -/
theorem presence_createIndex {c : Catalog} {s : IndexSpec}
    (h : c.collections.get? s.collection ≠ none) (name : CollectionName) :
    (c.createIndex s).2.presence name = c.presence name := by
  rw [createIndex_eq]
  cases s.definition.stateIn (c.collection s.collection).indexes with
  | identical => rfl
  | conflicting existing => rfl
  | missing =>
      cases c.violation? s with
      | some key => rfl
      | none => exact presence_setCollection h _ name

/-- A document of a collection that exists brings no other into being. -/
theorem presence_insert {c : Catalog} {other : CollectionName}
    (h : c.collections.get? other ≠ none) (d : Document) (name : CollectionName) :
    (c.insert other d).2.presence name = c.presence name := by
  rw [insert_eq]
  cases (c.collection other).indexes.find? (refuses (c.collection other).documents d) with
  | some x => rfl
  | none => exact presence_setCollection h _ name

/-- A soft deletion brings no collection into being. -/
theorem presence_softDelete (c : Catalog) (now : Int64) (other : CollectionName)
    (field : FieldName) (value : Value) (name : CollectionName) :
    (c.softDelete now other field value).2.presence name = c.presence name := by
  unfold softDelete
  cases hget : c.collections.get? other with
  | none => rfl
  | some content => exact presence_setCollection (hget ▸ Option.some_ne_none content) _ name

/-- A collection that is asked for comes into being where it is missing, and the answer says so. -/
theorem presence_createCollection (c : Catalog) (now : Int64) (other name : CollectionName) :
    (c.perform now (.createCollection other)).2.presence name =
      (Call.creates name ⟨_, (c.perform now (.createCollection other)).1⟩).toNat +
        c.presence name := by
  simp only [perform]
  cases hget : c.collections.get? other with
  | some content => exact (Nat.zero_add _).symm
  | none =>
      rw [presence, presence, get?_setCollection, Call.creates]
      by_cases hname : other = name
      · subst hname
        rw [if_pos rfl, hget, beq_self_eq_true]
        rfl
      · rw [if_neg hname, beq_false_of_ne hname]
        exact (Nat.zero_add _).symm

/-- A collection that has come into being was created by the call. -/
theorem presence_answer {c : Catalog} {r : Request} (hr : r.AtHome c) (now : Int64)
    (name : CollectionName) : (c.answer now r).2.presence name =
      (Call.creates name ⟨r, (c.answer now r).1⟩).toNat + c.presence name := by
  unfold answer
  cases c.refusal? r.isWrite with
  | some e => cases r <;> exact (Nat.zero_add _).symm
  | none =>
      -- No call but that of `createCollection` counts as a creation.
      cases r with
      | ping | listCollections | listIndexes other => exact (Nat.zero_add _).symm
      | createCollection other => exact presence_createCollection c now other name
      | createIndex s => exact (presence_createIndex hr name).trans (Nat.zero_add _).symm
      | insert other d => exact (presence_insert hr d name).trans (Nat.zero_add _).symm
      | softDelete other field value =>
          exact (presence_softDelete c now other field value name).trans (Nat.zero_add _).symm

end Catalog

/-! ## Tasks that end -/

namespace Task

variable {α β : Type}

/-- Whether a task has ended. -/
def IsDone (t : Task α) : Prop := ∃ result, t = .done result

/-- Whether a task ends after at most so many requests. -/
def EndsWithin : Nat → Task α → Prop
  | _, .done _ => True
  | 0, .ask _ _ _ => False
  | n + 1, .ask _ _ next => ∀ result, (next result).EndsWithin n

theorem endsWithin_done (n : Nat) (result : Except BootstrapError α) :
    (Task.done result).EndsWithin n := by
  cases n <;> trivial

theorem EndsWithin.mono {t : Task α} {m n : Nat} (h : t.EndsWithin m) (hmn : m ≤ n) :
    t.EndsWithin n := by
  induction t generalizing m n with
  | done result => exact endsWithin_done n result
  | ask starts request next ih =>
      match m, n, h with
      | m + 1, n + 1, h => exact fun result => ih result (h result) (Nat.le_of_succ_le_succ hmn)

theorem EndsWithin.bind {t : Task α} {f : α → Task β} {m n : Nat} (h : t.EndsWithin m)
    (hf : ∀ a, (f a).EndsWithin n) : (t >>= f).EndsWithin (m + n) := by
  change (t.bind f).EndsWithin (m + n)
  induction t generalizing m with
  | done result =>
      cases result with
      | error e => exact endsWithin_done _ _
      | ok a => exact (hf a).mono (Nat.le_add_left n m)
  | ask starts request next ih =>
      match m, h with
      | m + 1, h =>
          rw [Nat.succ_add]
          exact fun result => ih result (h result)

theorem endsWithin_each {f : α → Task β} {n : Nat} (hf : ∀ a, (f a).EndsWithin n) (as : List α) :
    (each f as).EndsWithin (as.length * n) := by
  induction as with
  | nil => exact endsWithin_done _ _
  | cons a as ih =>
      have hrest : ∀ b : β, (each f as >>= fun bs => pure (b :: bs)).EndsWithin (as.length * n) :=
        fun b => ih.bind (n := 0) fun bs => endsWithin_done 0 _
      rw [List.length_cons, Nat.succ_mul, Nat.add_comm]
      exact (hf a).bind hrest

end Task

/-! ## Turns -/

namespace Clients

variable {k : Course} {good : List Outcome → k.Stage → Prop}
  {bad : BootstrapError → k.Stage → Prop} {w : Clients} {x : k.Stage}

/-- What a turn does: the task at this position makes its next request, at some time. -/
def takeTurn (w : Clients) (turn : Nat × Int64) : Clients := w.step (.advance turn.1 turn.2)

/-- What a list of turns does, one after the other. -/
def takeTurns (w : Clients) (turns : List (Nat × Int64)) : Clients := turns.foldl takeTurn w

theorem takeTurns_cons (w : Clients) (turn : Nat × Int64) (turns : List (Nat × Int64)) :
    w.takeTurns (turn :: turns) = (w.takeTurn turn).takeTurns turns := rfl

/-- The client that has the turn goes on. -/
theorem getElem?_takeTurn_self {turn : Nat × Int64} {t : Task (List Outcome)}
    (ht : w.tasks[turn.1]? = some t) :
    (w.takeTurn turn).tasks[turn.1]? = some (advance turn.2 w.catalog t).1 := by
  rw [takeTurn, step_advance ht]
  exact List.getElem?_set_self (List.getElem?_eq_some_iff.1 ht).1

/-- The other clients wait. -/
theorem getElem?_takeTurn_of_ne {turn : Nat × Int64} {i : Nat} (h : turn.1 ≠ i) :
    (w.takeTurn turn).tasks[i]? = w.tasks[i]? := by
  cases ht : w.tasks[turn.1]? with
  | none => rw [takeTurn, step_advance_of_none ht]
  | some t => rw [takeTurn, step_advance ht, List.getElem?_set_ne h]

/-- The call that is made in a turn, unless the task has ended. -/
def call? (w : Clients) (turn : Nat × Int64) : Option Call :=
  match w.tasks[turn.1]? with
  | some (.ask _ r _) => some ⟨r, (w.catalog.answer turn.2 r).1⟩
  | _ => none

/-- The calls that are made in a list of turns. -/
def calls (w : Clients) : List (Nat × Int64) → List Call
  | [] => []
  | turn :: turns => (w.call? turn).toList ++ (w.takeTurn turn).calls turns

/-- No client comes or goes. -/
theorem length_takeTurns (w : Clients) (turns : List (Nat × Int64)) :
    (w.takeTurns turns).tasks.length = w.tasks.length := by
  induction turns generalizing w with
  | nil => rfl
  | cons turn turns ih =>
      have hturn : (w.takeTurn turn).tasks.length = w.tasks.length := by
        cases ht : w.tasks[turn.1]? with
        | none => rw [takeTurn, step_advance_of_none ht]
        | some t => rw [takeTurn, step_advance ht, List.length_set]
      rw [takeTurns_cons, ih, hturn]

/-- Where all tasks have ended, turns do nothing and make no calls. -/
theorem takeTurns_of_done (h : ∀ t ∈ w.tasks, t.IsDone) (turns : List (Nat × Int64)) :
    w.takeTurns turns = w ∧ w.calls turns = [] := by
  induction turns with
  | nil => exact ⟨rfl, rfl⟩
  | cons turn turns ih =>
      have hturn : w.takeTurn turn = w ∧ w.call? turn = none := by
        cases ht : w.tasks[turn.1]? with
        | none => exact ⟨step_advance_of_none ht turn.2, by rw [call?, ht]⟩
        | some t =>
            obtain ⟨result, rfl⟩ := h t (List.mem_of_getElem? ht)
            obtain ⟨hlength, hget⟩ := List.getElem?_eq_some_iff.1 ht
            have hset : w.tasks.set turn.1 (.done result) = w.tasks := by
              rw [← hget, List.set_getElem_self]
            exact ⟨(step_advance ht turn.2).trans (congrArg (Clients.mk w.catalog) hset),
              by rw [call?, ht]⟩
      obtain ⟨hstep, hcall⟩ := hturn
      rw [takeTurns_cons, calls, hstep, hcall]
      exact ih

/-- Whether the catalog is on a course, and all tasks keep to it. -/
structure OnCourse (k : Course) (good : List Outcome → k.Stage → Prop)
    (bad : BootstrapError → k.Stage → Prop) (w : Clients) (x : k.Stage) : Prop where
  catalog : w.catalog = k.catalog x
  tasks : ∀ t ∈ w.tasks, t.Ensures k good bad x

/-- Whoever has the next turn, all stay on the course. -/
theorem OnCourse.takeTurn (hgood : ∀ a, k.Lasting (good a)) (hbad : ∀ e, k.Lasting (bad e))
    (h : OnCourse k good bad w x) (turn : Nat × Int64) :
    ∃ y, k.Later x y ∧ OnCourse k good bad (w.takeTurn turn) y := by
  cases ht : w.tasks[turn.1]? with
  | none =>
      rw [Clients.takeTurn, step_advance_of_none ht]
      exact ⟨x, k.refl x, h⟩
  | some t =>
      have htask := h.tasks t (List.mem_of_getElem? ht)
      obtain ⟨y, hxy, hcatalog, hnext⟩ := exists_later_of_advance htask turn.2
      rw [Clients.takeTurn, step_advance ht, h.catalog]
      refine ⟨y, hxy, hcatalog, fun u hu => ?_⟩
      rcases List.mem_or_eq_of_mem_set hu with hold | rfl
      · exact (h.tasks u hold).later hxy hgood hbad
      · exact hnext

/-- The call of a turn is permitted. -/
theorem OnCourse.permits (h : OnCourse k good bad w x) {turn : Nat × Int64} {call : Call}
    (hcall : w.call? turn = some call) : k.Permits x call.request := by
  unfold call? at hcall
  split at hcall
  · next starts r next ht =>
    have htask := h.tasks _ (List.mem_of_getElem? ht)
    rw [← Option.some.inj hcall]
    exact (htask x (k.refl x)).1
  · contradiction

/-- Whoever has the next turns, all stay on the course, and only permitted calls are made. -/
theorem OnCourse.takeTurns (hgood : ∀ a, k.Lasting (good a)) (hbad : ∀ e, k.Lasting (bad e))
    (h : OnCourse k good bad w x) (turns : List (Nat × Int64)) :
    (∃ y, OnCourse k good bad (w.takeTurns turns) y) ∧
      ∀ call ∈ w.calls turns, ∃ y, k.Permits y call.request := by
  induction turns generalizing w x with
  | nil => exact ⟨⟨x, h⟩, fun call hcall => absurd hcall List.not_mem_nil⟩
  | cons turn turns ih =>
      obtain ⟨y, -, hy⟩ := h.takeTurn hgood hbad turn
      obtain ⟨hlast, hcalls⟩ := ih hy
      refine ⟨hlast, fun call hcall => ?_⟩
      rcases List.mem_append.1 hcall with hfirst | hrest
      · exact ⟨x, h.permits (Option.mem_toList.1 hfirst)⟩
      · exact hcalls call hrest

/-- A collection that has come into being in a turn was created by its call. -/
theorem presence_takeTurn {turn : Nat × Int64}
    (hhome : ∀ call, w.call? turn = some call → call.request.AtHome w.catalog)
    (name : CollectionName) : (w.takeTurn turn).catalog.presence name =
      ((w.call? turn).toList).countP (Call.creates name) + w.catalog.presence name := by
  cases ht : w.tasks[turn.1]? with
  | none =>
      rw [takeTurn, step_advance_of_none ht, call?, ht]
      exact (Nat.zero_add _).symm
  | some t =>
      cases t with
      | done result =>
          rw [takeTurn, step_advance ht, call?, ht]
          exact (Nat.zero_add _).symm
      | ask starts r next =>
          have hcall : w.call? turn = some ⟨r, (w.catalog.answer turn.2 r).1⟩ := by
            simp only [call?, ht]
          rw [takeTurn, step_advance ht, hcall]
          refine (Catalog.presence_answer (hhome _ hcall) turn.2 name).trans ?_
          rw [Option.toList_some, List.countP_singleton]
          cases Call.creates name _ <;> rfl

/-- Where all requests are at home, a collection that was missing and exists in the end was created
by exactly one call, and one that is missing in the end by none. -/
theorem count_creates (hgood : ∀ a, k.Lasting (good a)) (hbad : ∀ e, k.Lasting (bad e))
    (hhome : ∀ x r, k.Permits x r → r.AtHome (k.catalog x)) (h : OnCourse k good bad w x)
    (turns : List (Nat × Int64)) (name : CollectionName) :
    (w.calls turns).countP (Call.creates name) + w.catalog.presence name =
      (w.takeTurns turns).catalog.presence name := by
  induction turns generalizing w x with
  | nil => exact Nat.zero_add _
  | cons turn turns ih =>
      obtain ⟨y, -, hy⟩ := h.takeTurn hgood hbad turn
      have hrequest : ∀ call, w.call? turn = some call → call.request.AtHome w.catalog :=
        fun call hcall => h.catalog ▸ hhome x call.request (h.permits hcall)
      have hrest := ih hy
      rw [presence_takeTurn hrequest] at hrest
      rw [takeTurns_cons, calls, List.countP_append]
      omega

/-- A task that ends within so many requests has ended after as many turns. -/
theorem exists_done_of_turns {i n : Nat} {t : Task (List Outcome)} (hi : w.tasks[i]? = some t)
    (ht : t.EndsWithin n) {turns : List (Nat × Int64)} (h : n ≤ turns.countP (·.1 == i)) :
    ∃ result, (w.takeTurns turns).tasks[i]? = some (.done result) := by
  induction turns generalizing w t n with
  | nil =>
      obtain rfl : n = 0 := Nat.le_zero.1 h
      match t, ht with
      | .done result, _ => exact ⟨result, hi⟩
  | cons turn turns ih =>
      rw [takeTurns_cons]
      rw [List.countP_cons] at h
      by_cases hturn : turn.1 = i
      · subst hturn
        have hnext := getElem?_takeTurn_self hi
        cases t with
        | done result => exact ih hnext (Task.endsWithin_done 0 result) (Nat.zero_le _)
        | ask starts r next =>
            match n, ht with
            | n + 1, ht =>
                refine ih hnext (ht _) ?_
                simpa using h
      · refine ih ((getElem?_takeTurn_of_ne hturn).trans hi) ht ?_
        simpa [hturn] using h

end Clients

end DocSchema
