import DocSchema.Proofs.Conversations
import DocSchema.Proofs.StableApplies
import Mathlib.Data.List.Induction
import Mathlib.Order.Bounds.Basic

/-!
# DocSchema.Proofs.CreationRaces

Clients that look for an index, find it missing and create it, several of them at a time.

A client asks for an index only right after a listing from which it is missing (`Task.Wary`). In
between others may have found it missing too. The first that asks adds the index; the others ask
as well, find it there and get the same answer. As long as the index is missing, no client that is
about to ask turns away, and once it is there, no further client comes to that point. So the clients
that have asked and those that are about to ask are together as many as were about to ask at one
time, and never were there more (`Clients.Race`).
-/

namespace DocSchema

/-! ## Answers -/

/-- What a call created, going by its answer. -/
def Call.created? : Call → Option Declaration
  | ⟨.createCollection name, .ok .created⟩ => some (.collection name)
  | ⟨.createIndex i, .ok ()⟩ => some (.index i)
  | _ => none

/-- The call that created an index. -/
theorem Call.created?_eq_index_iff {call : Call} {i : IndexSpec} :
    call.created? = some (.index i) ↔ call = ⟨.createIndex i, .ok ()⟩ := by
  unfold created?
  constructor
  · split
    · nofun
    · rintro ⟨⟩
      rfl
    · nofun
  · rintro rfl
    rfl

/-- A request for an index that does not fail creates it, going by the answer. -/
theorem Call.createIndex_of_not_failed {i : IndexSpec}
    {result : (Request.createIndex i).Result}
    (h : (Call.mk (.createIndex i) result).failed = false) :
    Call.mk (.createIndex i) result = ⟨.createIndex i, .ok ()⟩ := by
  cases result with
  | ok => rfl
  | error e => contradiction

/-! ## Wary tasks -/

/-- Whether a call listed the indexes of a collection and a declared one was missing from them. -/
def Call.Misses (i : IndexSpec) (call : Call) : Prop :=
  ∃ existing, call = ⟨.listIndexes i.collection, .ok existing⟩ ∧
    i.definition.stateIn existing = .missing

namespace Task

variable {α β : Type} {i : IndexSpec}

/-- Whether the next request of a task is for an index. -/
def isAbout (i : IndexSpec) : Task α → Bool
  | .ask _ (.createIndex j) _ => j == i
  | _ => false

theorem isAbout_ask_iff {starts : Option String} {r : Request} {next : r.Result → Task α} :
    (ask starts r next).isAbout i = true ↔ r = .createIndex i := by
  cases r with
  | createIndex j => simp only [isAbout, beq_iff_eq, Request.createIndex.injEq]
  | _ => simp only [isAbout, Bool.false_eq_true, reduceCtorEq]

/-- Whether a task asks for an index only right after a listing from which it is missing, given
whether there has just been one. -/
def Wary (i : IndexSpec) : Prop → Task α → Prop
  | _, .done _ => True
  | seen, .ask _ r next =>
    (r = .createIndex i → seen) ∧ ∀ result, (next result).Wary i (Call.Misses i ⟨r, result⟩)

theorem Wary.mono {t : Task α} {p q : Prop} (h : t.Wary i p) (hpq : p → q) : t.Wary i q := by
  cases t with
  | done result => trivial
  | ask starts r next => exact ⟨fun habout => hpq (h.1 habout), h.2⟩

/-- Without a listing a wary task is not about to ask. -/
theorem Wary.isAbout_eq_false {t : Task α} (h : t.Wary i False) : t.isAbout i = false := by
  cases t with
  | done result => rfl
  | ask starts r next => exact Bool.eq_false_iff.2 fun habout => h.1 (isAbout_ask_iff.1 habout)

theorem Wary.bind {t : Task α} {f : α → Task β} {p : Prop} (h : t.Wary i p)
    (hf : ∀ a, (f a).Wary i False) : (t >>= f).Wary i p := by
  change (t.bind f).Wary i p
  induction t generalizing p with
  | done result =>
      cases result with
      | error e => trivial
      | ok a => exact (hf a).mono False.elim
  | ask starts r next ih => exact ⟨h.1, fun result => ih result (h.2 result)⟩

theorem wary_each {f : α → Task β} (hf : ∀ a, (f a).Wary i False) (as : List α) :
    (each f as).Wary i False := by
  induction as with
  | nil => trivial
  | cons a as ih => exact (hf a).bind fun b => ih.bind fun bs => trivial

end Task

namespace Bootstrap

variable {i : IndexSpec}

theorem wary_checkConnection : checkConnection.Wary i False := by
  refine ⟨nofun, fun result => ?_⟩
  trivial

theorem wary_ensureCollection (name : CollectionName) : (ensureCollection name).Wary i False := by
  rw [ensureCollection_eq]
  refine ⟨nofun, fun result => ?_⟩
  match result with
  | .ok .created | .ok .alreadyExists | .error e => trivial

/-- A declared index is listed first. -/
theorem wary_ensureIndex (j : IndexSpec) : (ensureIndex j).Wary i False := by
  rw [ensureIndex_eq]
  refine ⟨nofun, fun result => ?_⟩
  match result with
  | .error e => trivial
  | .ok existing =>
      change (finishIndex j (j.definition.stateIn existing)).Wary i _
      cases hstate : j.definition.stateIn existing with
      | identical => trivial
      | conflicting x => trivial
      | missing =>
          refine ⟨fun habout => ?_, fun result => ?_⟩
          · obtain rfl : j = i := Request.createIndex.inj habout
            exact ⟨existing, rfl, hstate⟩
          · cases result <;> trivial

/-- Clients that apply schemas ask for no index without having looked. -/
theorem wary_apply (s : Schema) : (apply s).Wary i False := by
  cases hvalid : s.validate with
  | error e =>
      rw [apply_of_invalid hvalid]
      trivial
  | ok =>
      rw [apply_of_valid hvalid]
      refine wary_checkConnection.bind fun _ => ?_
      refine (Task.wary_each wary_ensureCollection s.collections).bind fun _ => ?_
      exact (Task.wary_each wary_ensureIndex s.indexes).bind fun _ => trivial

end Bootstrap

/-! ## Races -/

namespace Clients

variable {w : Clients} {i : IndexSpec} {turn : Nat × Int64} {turns : List (Nat × Int64)}

theorem takeTurns_append (w : Clients) (turns : List (Nat × Int64)) (turn : Nat × Int64) :
    w.takeTurns (turns ++ [turn]) = (w.takeTurns turns).takeTurn turn := by
  rw [takeTurns, List.foldl_append]
  rfl

theorem calls_append (w : Clients) (turns : List (Nat × Int64)) (turn : Nat × Int64) :
    w.calls (turns ++ [turn]) = w.calls turns ++ ((w.takeTurns turns).call? turn).toList := by
  induction turns generalizing w with
  | nil => exact List.append_nil _
  | cons first turns ih =>
      rw [List.cons_append, calls, ih, calls, List.append_assoc]
      rfl

/-- What the calls of some turns created, going by their answers. -/
def created (w : Clients) (turns : List (Nat × Int64)) : List Declaration :=
  (w.calls turns).filterMap Call.created?

theorem created_append (w : Clients) (turns : List (Nat × Int64)) (turn : Nat × Int64) :
    w.created (turns ++ [turn]) =
      w.created turns ++ (((w.takeTurns turns).call? turn).bind Call.created?).toList := by
  rw [created, calls_append, List.filterMap_append]
  cases hcall : (w.takeTurns turns).call? turn with
  | none => rfl
  | some call => cases hcreated : call.created? <;> simp [created, hcreated]

/-- How many clients are about to ask for an index. -/
def contenders (w : Clients) (i : IndexSpec) : Nat := w.tasks.countP (Task.isAbout i)

/-- Whether no client asks for an index without having looked, also none that is about to ask. -/
def Wary (w : Clients) (i : IndexSpec) : Prop := ∀ t ∈ w.tasks, t.Wary i True

/-- After its next request a wary task is about to ask for an index only if the index was missing,
and not if this was the request. -/
theorem wary_advance {t : Task (List Outcome)} (h : t.Wary i True) (now : Int64) (c : Catalog) :
    (advance now c t).1.Wary i (c.stateOf i = .missing ∧ t.isAbout i = false) := by
  cases t with
  | done result => trivial
  | ask starts r next =>
      refine (h.2 _).mono ?_
      rintro ⟨existing, hcall, hmissing⟩
      obtain ⟨rfl, hanswer⟩ := Call.mk.inj hcall
      refine ⟨?_, rfl⟩
      rw [Catalog.eq_of_listIndexes (eq_of_heq hanswer)] at hmissing
      exact hmissing

theorem Wary.takeTurn (h : w.Wary i) (turn : Nat × Int64) : (w.takeTurn turn).Wary i := by
  cases ht : w.tasks[turn.1]? with
  | none =>
      rw [Clients.takeTurn, step_advance_of_none ht]
      exact h
  | some t =>
      rw [Clients.takeTurn, step_advance ht]
      intro u hu
      rcases List.mem_or_eq_of_mem_set hu with hold | rfl
      · exact h u hold
      · exact (wary_advance (h t (List.mem_of_getElem? ht)) turn.2 w.catalog).mono fun _ => trivial

/-- A turn leads to a later catalog. -/
theorem later_takeTurn (w : Clients) (turn : Nat × Int64) :
    w.catalog.Later (w.takeTurn turn).catalog :=
  step_induction (fun _ _ hchange hlater => hlater.tail hchange) w rfl (Catalog.Later.refl _)

theorem later_takeTurns (w : Clients) (turns : List (Nat × Int64)) :
    w.catalog.Later (w.takeTurns turns).catalog := by
  induction turns generalizing w with
  | nil => exact .refl _
  | cons turn turns ih => exact (w.later_takeTurn turn).trans (ih _)

/-- Only the client that has the turn comes to ask for an index or gets over it. -/
theorem contenders_takeTurn {t : Task (List Outcome)} (ht : w.tasks[turn.1]? = some t) :
    (w.takeTurn turn).contenders i + (t.isAbout i).toNat =
      w.contenders i + ((advance turn.2 w.catalog t).1.isAbout i).toNat := by
  obtain ⟨hlength, rfl⟩ := List.getElem?_eq_some_iff.1 ht
  have hif : ∀ b : Bool, (if b = true then 1 else 0) = b.toNat := fun b => by cases b <;> rfl
  have hone := List.boole_getElem_le_countP (p := Task.isAbout i) hlength
  rw [takeTurn, step_advance ht, contenders, List.countP_set hlength, contenders, hif, hif]
  rw [hif] at hone
  omega

/-- A client that asks for an index and gets it is about to ask for it no longer, and the index is
not missing. -/
theorem contenders_of_created (h : w.Wary i)
    (hcall : w.call? turn = some ⟨.createIndex i, .ok ()⟩) :
    (w.takeTurn turn).contenders i + 1 = w.contenders i ∧
      (w.takeTurn turn).catalog.stateOf i ≠ .missing := by
  unfold call? at hcall
  split at hcall
  · next starts r next ht =>
    obtain ⟨rfl, hanswer⟩ := Call.mk.inj (Option.some.inj hcall)
    have habout : (Task.ask starts (.createIndex i) next).isAbout i = true :=
      Task.isAbout_ask_iff.2 rfl
    have hnext := wary_advance (h _ (List.mem_of_getElem? ht)) turn.2 w.catalog
    rw [habout] at hnext
    have hover := (hnext.mono fun hfalse => Bool.noConfusion hfalse.2).isAbout_eq_false
    have hcount := contenders_takeTurn (i := i) ht
    rw [habout, hover] at hcount
    refine ⟨hcount, ?_⟩
    rw [takeTurn, step_advance ht]
    have hidentical := Catalog.stateOf_of_createIndex (eq_of_heq hanswer)
    intro hmissing
    have hboth := hidentical.symm.trans hmissing
    contradiction
  · contradiction

/-- In any other turn in which no call fails no client turns away from an index, and more clients
come to ask for it only while it is missing. -/
theorem contenders_of_not_created (h : w.Wary i)
    (hok : ∀ call, w.call? turn = some call → call.failed = false)
    (hcall : w.call? turn ≠ some ⟨.createIndex i, .ok ()⟩) :
    w.contenders i ≤ (w.takeTurn turn).contenders i ∧
      (w.catalog.stateOf i ≠ .missing →
        (w.takeTurn turn).contenders i = w.contenders i) := by
  cases ht : w.tasks[turn.1]? with
  | none =>
      rw [takeTurn, step_advance_of_none ht]
      exact ⟨le_rfl, fun _ => rfl⟩
  | some t =>
      have habout : t.isAbout i = false := by
        rw [Bool.eq_false_iff]
        intro habout
        cases t with
        | done result => contradiction
        | ask starts r next =>
            obtain rfl := Task.isAbout_ask_iff.1 habout
            simp only [call?, ht, Option.some.injEq, forall_eq'] at hok hcall
            exact hcall (congrArg some (Call.createIndex_of_not_failed hok))
      have hcount := contenders_takeTurn (i := i) ht
      rw [habout, Bool.toNat_false] at hcount
      refine ⟨by omega, fun hstate => ?_⟩
      have hnext := wary_advance (h _ (List.mem_of_getElem? ht)) turn.2 w.catalog
      rw [(hnext.mono fun hmissing => hstate hmissing.1).isAbout_eq_false] at hcount
      exact hcount

/-- A turn in which an index is created counts once more. -/
theorem count_created_of_created {turns : List (Nat × Int64)}
    (hcall : (w.takeTurns turns).call? turn = some ⟨.createIndex i, .ok ()⟩) :
    (w.created (turns ++ [turn])).count (.index i) = (w.created turns).count (.index i) + 1 := by
  rw [created_append, List.count_append, hcall, Option.bind_some,
    Call.created?_eq_index_iff.2 rfl, Option.toList_some, List.count_singleton_self]

/-- Any other turn does not count. -/
theorem count_created_of_not_created {turns : List (Nat × Int64)}
    (hcall : (w.takeTurns turns).call? turn ≠ some ⟨.createIndex i, .ok ()⟩) :
    (w.created (turns ++ [turn])).count (.index i) = (w.created turns).count (.index i) := by
  rw [created_append, List.count_append, Nat.add_eq_left, List.count_eq_zero, Option.mem_toList,
    Option.bind_eq_some_iff]
  rintro ⟨call, hsome, hcreated⟩
  rw [Call.created?_eq_index_iff.1 hcreated] at hsome
  exact hcall hsome

/-- How many clients were about to ask for an index, at each time so far. -/
def contentions (w : Clients) (i : IndexSpec) (turns : List (Nat × Int64)) : Set Nat :=
  {n | ∃ before, before <+: turns ∧ (w.takeTurns before).contenders i = n}

theorem contentions_append (w : Clients) (i : IndexSpec) (turns : List (Nat × Int64))
    (turn : Nat × Int64) : w.contentions i (turns ++ [turn]) =
      insert ((w.takeTurns (turns ++ [turn])).contenders i) (w.contentions i turns) := by
  ext n
  constructor
  · rintro ⟨before, hbefore, rfl⟩
    rcases List.prefix_concat_iff.1 hbefore with rfl | hearlier
    · exact .inl rfl
    · exact .inr ⟨before, hearlier, rfl⟩
  · rintro (rfl | ⟨before, hbefore, rfl⟩)
    · exact ⟨_, List.prefix_rfl, rfl⟩
    · exact ⟨before, List.prefix_append_of_prefix hbefore, rfl⟩

/-- What has come of the race for an index after some turns. -/
structure Race (start : Clients) (i : IndexSpec) (turns : List (Nat × Int64)) : Prop where
  wary : (start.takeTurns turns).Wary i
  /-- While the index is missing, nobody has created it. -/
  missing : (start.takeTurns turns).catalog.stateOf i = .missing →
    (start.created turns).count (.index i) = 0
  /-- If it was not missing at the start, nobody is about to ask for it. -/
  settled : start.catalog.stateOf i ≠ .missing → (start.takeTurns turns).contenders i = 0
  /-- Who created it or is about to ask for it was about to ask at one time with all others. -/
  greatest : IsGreatest (start.contentions i turns)
    ((start.created turns).count (.index i) + (start.takeTurns turns).contenders i)

/-- A client that creates the index has asked for it and is about to no longer, so the sum stays. -/
theorem Race.of_created {start : Clients} (h : start.Race i turns)
    (hcall : (start.takeTurns turns).call? turn = some ⟨.createIndex i, .ok ()⟩) :
    start.Race i (turns ++ [turn]) := by
  obtain ⟨hcontenders, hstate⟩ := contenders_of_created h.wary hcall
  rw [← takeTurns_append] at hcontenders hstate
  refine ⟨?_, fun hmissing => absurd hmissing hstate, fun hbefore => ?_, ?_⟩
  · rw [takeTurns_append]
    exact h.wary.takeTurn turn
  · have hsettled := h.settled hbefore
    omega
  · have hgreatest := h.greatest.insert ((start.takeTurns (turns ++ [turn])).contenders i)
    rw [max_eq_right (by omega), ← contentions_append] at hgreatest
    rw [count_created_of_created hcall, Nat.add_right_comm, Nat.add_assoc, hcontenders]
    exact hgreatest

/-- In any other turn in which no call fails, more clients come to ask for the index as long as it
is missing and nobody has created it, and none afterwards. -/
theorem Race.of_not_created {start : Clients} (h : start.Race i turns)
    (hok : ∀ call, (start.takeTurns turns).call? turn = some call → call.failed = false)
    (hcall : (start.takeTurns turns).call? turn ≠ some ⟨.createIndex i, .ok ()⟩) :
    start.Race i (turns ++ [turn]) := by
  have hlater := (start.takeTurns turns).later_takeTurn turn
  have hcount := count_created_of_not_created hcall
  obtain ⟨hcontenders, hsame⟩ := contenders_of_not_created h.wary hok hcall
  rw [← takeTurns_append] at hcontenders hsame hlater
  refine ⟨?_, fun hmissing => ?_, fun hbefore => ?_, ?_⟩
  · rw [takeTurns_append]
    exact h.wary.takeTurn turn
  · rw [hcount]
    exact h.missing (by_contra fun hbefore => hlater.stateOf_ne_missing hbefore hmissing)
  · rw [hsame ((start.later_takeTurns turns).stateOf_ne_missing hbefore)]
    exact h.settled hbefore
  · have hgreatest := h.greatest.insert ((start.takeTurns (turns ++ [turn])).contenders i)
    rw [← contentions_append] at hgreatest
    rw [hcount]
    by_cases hstate : (start.takeTurns turns).catalog.stateOf i = .missing
    · rw [h.missing hstate, Nat.zero_add] at hgreatest ⊢
      rw [max_eq_left hcontenders] at hgreatest
      exact hgreatest
    · rw [hsame hstate] at hgreatest ⊢
      rw [max_eq_right (Nat.le_add_left _ _)] at hgreatest
      exact hgreatest

/-- Clients that look before they ask race for every index, as long as no call fails. -/
theorem race {start : Clients} (hwary : ∀ t ∈ start.tasks, t.Wary i False)
    (hok : ∀ call ∈ start.calls turns, call.failed = false) : start.Race i turns := by
  -- What has been created so far grows at the end, so the induction goes from there.
  induction turns using List.reverseRecOn with
  | nil =>
      have hnone : start.contenders i = 0 := List.countP_eq_zero.2 fun t ht => by
        rw [(hwary t ht).isAbout_eq_false]
        exact Bool.false_ne_true
      refine ⟨fun t ht => (hwary t ht).mono False.elim, fun _ => rfl, fun _ => hnone,
        ⟨[], List.prefix_rfl, (Nat.zero_add _).symm⟩, ?_⟩
      rintro n ⟨before, hbefore, rfl⟩
      rw [List.prefix_nil.1 hbefore]
      exact (Nat.zero_add _).ge
  | append_singleton turns turn ih =>
      rw [calls_append] at hok
      obtain ⟨hbefore, hlast⟩ := List.forall_mem_append.1 hok
      by_cases hcall : (start.takeTurns turns).call? turn = some ⟨.createIndex i, .ok ()⟩
      · exact (ih hbefore).of_created hcall
      · have hok := fun call h => hlast call (Option.mem_toList.2 h)
        exact (ih hbefore).of_not_created hok hcall

end Clients

end DocSchema
