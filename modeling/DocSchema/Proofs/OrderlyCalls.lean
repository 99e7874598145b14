import DocSchema.Proofs.RequestOrder
import DocSchema.Schema.Builtin

/-!
# DocSchema.Proofs.OrderlyCalls

What a store is asked by a command, and in which order, whatever it replies.

A schema with a fault causes no call. Applying a valid schema makes the requests that the listings
of the store ask for (`applyRequests`), and planning always the same ones (`planRequests`), both up
to the first call that fails. `calls_in_order` says so for every store whose replies are in time,
together with what is reported at the end; the store need not keep to what it said before.
-/

namespace DocSchema

/-! ## Counts of a report -/

namespace Report

variable {r : Report}

/-- Every outcome is counted once. -/
theorem counts_add (r : Report) :
    r.created + r.unchanged + r.pending + r.conflicts.length = r.outcomes.length := by
  unfold created unchanged pending conflicts
  rw [← List.countP_eq_length_filter]
  induction r.outcomes with
  | nil => rfl
  | cons o outcomes ih =>
      have hone : (if (o.action == .created) = true then 1 else 0) +
          (if (o.action == .unchanged) = true then 1 else 0) +
          (if (o.action == .wouldCreate) = true then 1 else 0) +
          (if o.action.isConflict = true then 1 else 0) = 1 := by
        cases o.action <;> simp [Action.isConflict]
      simp only [List.countP_cons, List.length_cons]
      omega

/-- Where everything was created or there already, nothing is pending or in conflict. -/
theorem counts_of_applied
    (h : ∀ o ∈ r.outcomes, o.action = .created ∨ o.action = .unchanged) :
    r.created + r.unchanged = r.outcomes.length ∧ r.pending = 0 ∧ r.conflicts = [] := by
  have hpending : r.pending = 0 := by
    refine List.countP_eq_zero.2 fun o ho => ?_
    rcases h o ho with ho | ho <;> simp [ho]
  have hconflicts : r.conflicts = [] := by
    refine List.filter_eq_nil_iff.2 fun o ho => ?_
    rcases h o ho with ho | ho <;> simp [ho, Action.isConflict]
  have hall := r.counts_add
  rw [hpending, hconflicts] at hall
  exact ⟨hall, hpending, hconflicts⟩

/-- Where nothing was created, everything is there, pending or in conflict. -/
theorem counts_of_planned (h : ∀ o ∈ r.outcomes, o.action ≠ .created) :
    r.created = 0 ∧ r.unchanged + r.pending + r.conflicts.length = r.outcomes.length := by
  have hcreated : r.created = 0 := by
    refine List.countP_eq_zero.2 fun o ho => ?_
    simp [h o ho]
  have hall := r.counts_add
  rw [hcreated, Nat.zero_add] at hall
  exact ⟨hcreated, hall⟩

end Report

namespace Bootstrap

variable {β : Type} {α : Type} {s : Schema} {calls before after : List Call}

/-! ## Whole commands -/

section

variable {result : Except BootstrapError (List Outcome)} {outcomes : List Outcome}

/-- A call that reaches the store creates no index. -/
theorem guarded_ping (result : Except StoreError Unit) : Guarded [⟨.ping, result⟩] :=
  guarded_of_forall (List.forall_mem_singleton.2 nofun)

theorem ApplyCalls.ending (h : ApplyCalls s calls result) : Ending s.indexes calls result := by
  cases h with
  | unreachable e => exact ending_of_cause (.unreachable e)
  | stopped hcollections =>
      have hending := (ending_of_collections hcollections).mono (List.nil_subset s.indexes)
      exact Ending.append (List.forall_mem_singleton.2 rfl) hending id
  | @created before after _ _ hcollections hindexes =>
      have hbefore : ∀ c ∈ Call.mk .ping (.ok ()) :: before, c.failed = false :=
        List.forall_mem_cons.2 ⟨rfl, ending_of_collections hcollections⟩
      exact Ending.append hbefore (ending_of_indexes hindexes) _

theorem ApplyCalls.guarded (h : ApplyCalls s calls result) : Guarded calls := by
  have hping := guarded_ping
  cases h with
  | unreachable e => exact hping _
  | stopped hcollections =>
      exact (hping _).append (guarded_of_series hcollections fun _ _ _ => CollectionCalls.guarded)
  | created hcollections hindexes =>
      have hbefore := guarded_of_series hcollections fun _ _ _ => CollectionCalls.guarded
      have hafter := guarded_of_series hindexes fun _ _ _ => IndexCalls.guarded
      exact (hping _).append (hbefore.append hafter)

/-- The listings of a run come after the calls for its collections. -/
theorem listings_of_parts (hbefore : before.filterMap Call.listing? = []) (after : List Call) :
    (⟨.ping, .ok ()⟩ :: (before ++ after)).filterMap Call.listing? =
      after.filterMap Call.listing? := by
  change (before ++ after).filterMap Call.listing? = _
  rw [List.filterMap_append, hbefore, List.nil_append]

/-- Calls that list nothing add no listing before the last call. -/
theorem listings_dropLast_append (hbefore : before.filterMap Call.listing? = [])
    (after : List Call) : (before ++ after).dropLast.filterMap Call.listing? =
      after.dropLast.filterMap Call.listing? := by
  by_cases hafter : after = []
  · subst hafter
    rw [List.append_nil]
    exact List.sublist_nil.1 (hbefore ▸ (List.dropLast_sublist before).filterMap _)
  · rw [List.dropLast_append_of_ne_nil hafter, List.filterMap_append, hbefore, List.nil_append]

/-- The collections of a run are answered before the calls for its indexes. -/
theorem creations_of_parts (hafter : after.filterMap Call.creation? = []) (before : List Call) :
    (⟨.ping, .ok ()⟩ :: (before ++ after)).filterMap Call.creation? =
      before.filterMap Call.creation? := by
  change (before ++ after).filterMap Call.creation? = _
  rw [List.filterMap_append, hafter, List.append_nil]

/-- Applying makes the requests that the listings ask for, up to an error. -/
theorem ApplyCalls.requests (h : ApplyCalls s calls result) :
    calls.map Call.request <+: applyRequests s (calls.filterMap Call.listing?) := by
  cases h with
  | unreachable e => exact List.cons_prefix_cons.2 ⟨rfl, List.nil_prefix⟩
  | stopped hcollections =>
      obtain ⟨hstart, -⟩ := requests_of_collections hcollections
      exact List.cons_prefix_cons.2 ⟨rfl, hstart.trans (List.prefix_append _ _)⟩
  | created hcollections hindexes =>
      obtain ⟨hrequests, -⟩ := outcomes_of_collections hcollections
      obtain ⟨-, hlistings⟩ := requests_of_collections hcollections
      rw [listings_of_parts hlistings, List.map_cons, List.map_append, hrequests]
      refine List.cons_prefix_cons.2 ⟨rfl, ?_⟩
      exact (List.prefix_append_right_inj _).2 (requests_of_indexes hindexes).1

/-- When applying, no listing before the last call shows a conflict. -/
theorem ApplyCalls.admitted (h : ApplyCalls s calls result) :
    ∃ admitted, admitted <+: s.indexes ∧
      List.Forall₂ Admits admitted (calls.dropLast.filterMap Call.listing?) := by
  cases h with
  | unreachable e => exact ⟨[], List.nil_prefix, .nil⟩
  | @stopped calls e hcollections =>
      obtain ⟨-, hlistings⟩ := requests_of_collections hcollections
      have hnone : (Call.mk .ping (.ok ()) :: calls).filterMap Call.listing? = [] := hlistings
      have hlast := listings_dropLast_append hnone []
      rw [List.append_nil] at hlast
      exact ⟨[], List.nil_prefix, hlast ▸ .nil⟩
  | @created before after _ _ hcollections hindexes =>
      obtain ⟨-, hlistings⟩ := requests_of_collections hcollections
      have hnone : (Call.mk .ping (.ok ()) :: before).filterMap Call.listing? = [] := hlistings
      rw [← List.cons_append, listings_dropLast_append hnone]
      exact admitted_of_indexes hindexes

/-- Without an error applying makes all requests that the listings ask for, no listing shows a
conflict, and the declarations are reported in order, as was answered. -/
theorem ApplyCalls.complete (h : ApplyCalls s calls (.ok outcomes)) :
    calls.map Call.request = applyRequests s (calls.filterMap Call.listing?) ∧
      List.Forall₂ Admits s.indexes (calls.filterMap Call.listing?) ∧
      outcomes = applyOutcomes s calls ∧
      outcomes.map Outcome.declaration = s.declarations := by
  obtain ⟨before, after, collections, indexes, rfl, rfl, hcollections, hindexes⟩ := h.of_ok
  obtain ⟨hfirst, hcollections', hdeclared⟩ := outcomes_of_collections hcollections
  obtain ⟨-, hlistings⟩ := requests_of_collections hcollections
  obtain ⟨hlast, hadmits, hindexes', hdeclared'⟩ := outcomes_of_indexes hindexes
  obtain ⟨-, hcreations⟩ := requests_of_indexes hindexes
  rw [listings_of_parts hlistings, applyOutcomes, creations_of_parts hcreations,
    listings_of_parts hlistings, ← hcollections', ← hindexes', List.map_append, hdeclared,
    hdeclared', List.map_cons, List.map_append, hfirst, hlast]
  exact ⟨rfl, hadmits, rfl, rfl⟩

theorem PlanCalls.ending (h : PlanCalls s calls result) : Ending [] calls result := by
  cases h with
  | unreachable e => exact ending_of_cause (.unreachable e)
  | unlisted e => exact ⟨[_], _, rfl, List.forall_mem_singleton.2 rfl, .failed (by nofun) e⟩
  | planned existing hindexes =>
      have hbefore : ∀ c ∈ [Call.mk .ping (.ok ()), Call.mk .listCollections (.ok existing)],
          c.failed = false := List.forall_mem_cons.2 ⟨rfl, List.forall_mem_singleton.2 rfl⟩
      exact Ending.append hbefore (ending_of_plannedIndexes hindexes) _

/-- Planning always makes the same requests, up to an error. -/
theorem PlanCalls.requests (h : PlanCalls s calls result) :
    calls.map Call.request <+: planRequests s := by
  cases h with
  | unreachable e => exact ⟨_, rfl⟩
  | unlisted e => exact ⟨_, rfl⟩
  | planned existing hindexes =>
      exact List.cons_prefix_cons.2
        ⟨rfl, List.cons_prefix_cons.2 ⟨rfl, requests_of_plannedIndexes hindexes⟩⟩

/-- Planning asks for no change. -/
theorem PlanCalls.reads (h : PlanCalls s calls result) :
    ∀ c ∈ calls, c.request.isWrite = false := by
  intro c hc
  have hmem : c.request ∈ planRequests s := h.requests.subset (List.mem_map_of_mem hc)
  simp only [planRequests, List.mem_cons, List.mem_map] at hmem
  rcases hmem with hping | hlist | ⟨i, -, hindex⟩
  · rw [hping]; rfl
  · rw [hlist]; rfl
  · rw [← hindex]; rfl

/-- Without an error planning makes all its requests, and the declarations are reported in order, as
was answered. -/
theorem PlanCalls.complete (h : PlanCalls s calls (.ok outcomes)) :
    calls.map Call.request = planRequests s ∧
      (∃ existing, ⟨.listCollections, .ok existing⟩ ∈ calls ∧
        outcomes = planOutcomes s existing calls) ∧
      outcomes.map Outcome.declaration = s.declarations := by
  obtain ⟨existing, after, indexes, rfl, rfl, hindexes⟩ := h.of_ok
  obtain ⟨hrequests, hindexes', hdeclared⟩ := outcomes_of_plannedIndexes hindexes
  refine ⟨congrArg (_ :: _ :: ·) hrequests, ⟨existing, ?_, ?_⟩, ?_⟩
  · exact List.mem_cons_of_mem _ List.mem_cons_self
  · exact congrArg (s.collections.map (planCollection existing) ++ ·) hindexes'
  · rw [List.map_append, hdeclared, List.map_map]
    rfl

/-! ## Actions -/

/-- What holds of every outcome of an element holds of all outcomes of a list. -/
theorem forall_of_series {part : α → List Call → Except BootstrapError β → Prop} {P : β → Prop}
    {as : List α} {bs : List β} (h : Task.Series part as calls (.ok bs))
    (hpart : ∀ a block b, block ⊆ calls → part a block (.ok b) → P b) : ∀ b ∈ bs, P b := by
  induction as generalizing calls bs with
  | nil =>
      cases h
      exact fun _ hb => absurd hb List.not_mem_nil
  | cons a as ih =>
      obtain ⟨before, after, b, rest, rfl, rfl, hfirst, hrest⟩ := h.of_cons
      refine List.forall_mem_cons.2 ⟨?_, ih hrest fun a block b hblock => ?_⟩
      · exact hpart _ _ _ (List.subset_append_left before after) hfirst
      · exact hpart a block b (List.Subset.trans hblock (List.subset_append_right before after))

/-- Every element of a list has its own calls among the others, and its outcome. -/
theorem exists_of_series {part : α → List Call → Except BootstrapError β → Prop} {as : List α}
    {bs : List β} (h : Task.Series part as calls (.ok bs)) {a : α} (ha : a ∈ as) :
    ∃ before block after, ∃ b ∈ bs, calls = before ++ (block ++ after) ∧ part a block (.ok b) := by
  induction as generalizing calls bs with
  | nil => exact absurd ha List.not_mem_nil
  | cons a' as ih =>
      obtain ⟨before, after, b, rest, rfl, rfl, hfirst, hrest⟩ := h.of_cons
      rcases List.mem_cons.1 ha with rfl | ha
      · exact ⟨[], before, after, b, List.mem_cons_self, rfl, hfirst⟩
      · obtain ⟨earlier, block, later, b', hb', rfl, hblock⟩ := ih hrest ha
        exact ⟨before ++ earlier, block, later, b', List.mem_cons_of_mem _ hb',
          (List.append_assoc before earlier _).symm, hblock⟩

/-- Applying reports what was created and what was there, and nothing else. -/
theorem ApplyCalls.actions (h : ApplyCalls s calls (.ok outcomes)) :
    ∀ o ∈ outcomes, o.action = .created ∨ o.action = .unchanged := by
  obtain ⟨before, after, collections, indexes, -, rfl, hcollections, hindexes⟩ := h.of_ok
  refine List.forall_mem_append.2 ⟨forall_of_series hcollections ?_, forall_of_series hindexes ?_⟩
  · rintro name block _ - ⟨creation⟩
    cases creation with
    | created => exact .inl rfl
    | alreadyExists => exact .inr rfl
  · rintro i block _ - (_ | _ | _)
    · exact .inr rfl
    · exact .inl rfl

/-- Applying lists the indexes of the collection of a declared index, and the index is among them or
is created. -/
theorem ApplyCalls.exists_listing (h : ApplyCalls s calls (.ok outcomes)) {i : IndexSpec}
    (hi : i ∈ s.indexes) :
    ∃ before existing after,
      calls = before ++ ⟨.listIndexes i.collection, .ok existing⟩ :: after ∧
        (i.definition.stateIn existing = .identical ∧ ⟨.index i, .unchanged⟩ ∈ outcomes ∨
          i.definition.stateIn existing = .missing ∧ ⟨.createIndex i, .ok ()⟩ ∈ calls) := by
  obtain ⟨first, _, collections, indexes, rfl, rfl, -, hindexes⟩ := h.of_ok
  obtain ⟨before, block, after, o, ho, rfl, hblock⟩ := exists_of_series hindexes hi
  refine ⟨⟨.ping, .ok ()⟩ :: (first ++ before), ?_⟩
  cases hblock with
  | identical existing hstate =>
      refine ⟨existing, after, ?_, .inl ⟨hstate, List.mem_append_right _ ho⟩⟩
      simp only [List.cons_append, List.append_assoc, List.nil_append]
  | created existing hstate =>
      refine ⟨existing, ⟨.createIndex i, .ok ()⟩ :: after, ?_, .inr ⟨hstate, ?_⟩⟩
      · simp only [List.cons_append, List.append_assoc, List.nil_append]
      · simp

/-- Planning reports nothing as created. -/
theorem PlanCalls.actions (h : PlanCalls s calls (.ok outcomes)) :
    ∀ o ∈ outcomes, o.action ≠ .created := by
  obtain ⟨existing, after, indexes, -, rfl, hindexes⟩ := h.of_ok
  refine List.forall_mem_append.2 ⟨List.forall_mem_map.2 ?_, forall_of_series hindexes ?_⟩
  · intro name hname
    unfold planCollection
    split <;> exact nofun
  · rintro i block _ - (_ | existing)
    unfold plannedAction
    split <;> exact nofun

end

/-! ## Reports -/

/-- How the report of applying a schema accounts for the calls that were made. -/
structure AppliedReport (s : Schema) (calls : List Call) (r : Report) : Prop where
  /-- All requests were made. -/
  complete : calls.map Call.request = applyRequests s (calls.filterMap Call.listing?)
  /-- No listing shows a conflict. -/
  admitted : List.Forall₂ Admits s.indexes (calls.filterMap Call.listing?)
  outcomes : r.outcomes = applyOutcomes s calls
  declarations : r.outcomes.map Outcome.declaration = s.declarations
  actions : ∀ o ∈ r.outcomes, o.action = .created ∨ o.action = .unchanged
  counts : r.created + r.unchanged = s.declarations.length
  pending : r.pending = 0
  conflicts : r.conflicts = []

/-- How applying a schema calls a store, and what it answers. -/
structure AppliedInOrder (s : Schema) (calls : List Call)
    (answer : Except BootstrapError Report) : Prop where
  requests : calls.map Call.request <+: applyRequests s (calls.filterMap Call.listing?)
  guarded : Guarded calls
  /-- No listing before the last call shows a conflict. -/
  admitted : ∃ admitted, admitted <+: s.indexes ∧
    List.Forall₂ Admits admitted (calls.dropLast.filterMap Call.listing?)
  ending : Ending s.indexes calls answer
  reported : ∀ r, answer = .ok r → AppliedReport s calls r

/-- How the report of planning a schema accounts for the calls that were made. -/
structure PlannedReport (s : Schema) (calls : List Call) (r : Report) : Prop where
  /-- All requests were made. -/
  complete : calls.map Call.request = planRequests s
  outcomes : ∃ existing, ⟨.listCollections, .ok existing⟩ ∈ calls ∧
    r.outcomes = planOutcomes s existing calls
  declarations : r.outcomes.map Outcome.declaration = s.declarations
  actions : ∀ o ∈ r.outcomes, o.action ≠ .created
  created : r.created = 0
  counts : r.unchanged + r.pending + r.conflicts.length = s.declarations.length

/-- How planning a schema calls a store, and what it answers. A conflict is no error. -/
structure PlannedInOrder (s : Schema) (calls : List Call)
    (answer : Except BootstrapError Report) : Prop where
  requests : calls.map Call.request <+: planRequests s
  reads : ∀ c ∈ calls, c.request.isWrite = false
  ending : Ending [] calls answer
  reported : ∀ r, answer = .ok r → PlannedReport s calls r

section

variable {result : Except BootstrapError (List Outcome)} {make : List Outcome → Report}

/-- A report with the outcomes of a run accounts for its calls. -/
theorem AppliedInOrder.of_calls (h : ApplyCalls s calls result)
    (hmake : ∀ outcomes, (make outcomes).outcomes = outcomes) :
    AppliedInOrder s calls (result.map make) where
  requests := h.requests
  guarded := h.guarded
  admitted := h.admitted
  ending := h.ending.map make
  reported r hr := by
    cases result with
    | error e => contradiction
    | ok outcomes =>
        obtain rfl := Except.ok.inj hr
        obtain ⟨hcomplete, hadmitted, houtcomes, hdeclarations⟩ := h.complete
        rw [← hmake outcomes] at hdeclarations houtcomes
        have hactions := h.actions
        rw [← hmake outcomes] at hactions
        obtain ⟨hcounts, hpending, hconflicts⟩ := Report.counts_of_applied hactions
        have hlength : (make outcomes).outcomes.length = s.declarations.length := by
          rw [← hdeclarations, List.length_map]
        exact ⟨hcomplete, hadmitted, houtcomes, hdeclarations, hactions, hcounts.trans hlength,
          hpending, hconflicts⟩

/-- Only declared indexes are created. -/
theorem AppliedInOrder.mem_indexes {answer : Except BootstrapError Report}
    (h : AppliedInOrder s calls answer) {c : Call} (hc : c ∈ calls) {i : IndexSpec}
    (hi : c.request = .createIndex i) : i ∈ s.indexes := by
  have hmem := h.requests.subset (List.mem_map_of_mem hc)
  rw [hi] at hmem
  rcases List.mem_cons.1 hmem with hping | hmem
  · contradiction
  · rcases List.mem_append.1 hmem with hcollection | hindex
    · obtain ⟨name, -, hname⟩ := List.mem_map.1 hcollection
      contradiction
    · obtain ⟨j, hj, hlisting | hcreation⟩ := mem_indexRequests hindex
      · contradiction
      · exact Request.createIndex.inj hcreation ▸ hj

/-- A report with the outcomes of a run accounts for its calls. -/
theorem PlannedInOrder.of_calls (h : PlanCalls s calls result)
    (hmake : ∀ outcomes, (make outcomes).outcomes = outcomes) :
    PlannedInOrder s calls (result.map make) where
  requests := h.requests
  reads := h.reads
  ending := h.ending.map make
  reported r hr := by
    cases result with
    | error e => contradiction
    | ok outcomes =>
        obtain rfl := Except.ok.inj hr
        obtain ⟨hcomplete, houtcomes, hdeclarations⟩ := h.complete
        rw [← hmake outcomes] at hdeclarations houtcomes
        have hactions := h.actions
        rw [← hmake outcomes] at hactions
        obtain ⟨hcreated, hcounts⟩ := Report.counts_of_planned hactions
        have hlength : (make outcomes).outcomes.length = s.declarations.length := by
          rw [← hdeclarations, List.length_map]
        exact ⟨hcomplete, houtcomes, hdeclarations, hactions, hcreated, hcounts.trans hlength⟩

end

/-! ## Runs -/

section

variable {σ ε : Type} {host : Host σ} {limit : Duration} {state : σ}

/-- A command whose requests are answered in time reports the end of a conversation, and reports the
same when the conversation is noted down. -/
theorem exists_notes_of_report (command : Command)
    (h : (command.task s).InTime host limit .zero state) {note : σ → Request → ε}
    (call : ε → Call) (hcall : ∀ s r, call (note s r) = host.call s r) (clock : σ → Int)
    (database : String) :
    ∃ notes result make,
      report (host.noting note) (fun x => clock x.1) database limit command s (state, []) =
        ((report host clock database limit command s state).1,
          (report host clock database limit command s state).2, notes) ∧
      (report host clock database limit command s state).1 = result.map make ∧
      (command.task s).Conversation (notes.map call) result ∧
      ∀ outcomes, (make outcomes).outcomes = outcomes := by
  obtain ⟨notes, hrun, hnotes⟩ := Task.exists_notes_of_run h hcall []
  rw [task_eq] at h
  obtain ⟨checks, hcheck, -⟩ := Task.exists_notes_of_run h.of_bind hcall []
  refine ⟨notes, _, _, ?_, congrArg Prod.fst (report_eq host clock database limit command s state),
    hnotes, fun outcomes => rfl⟩
  rw [report_eq, report_eq, hrun, hcheck]
  rfl

/-- Whatever a store replies in time, a schema with a fault causes no call; applying a valid schema
makes the requests that the listings ask for, up to the first call that fails, and planning always
the same ones; and both report their declarations in order, as was answered. -/
theorem calls_in_order (host : Host σ) (clock : σ → Int) (database : String) (limit : Duration)
    (s : Schema) (state : σ) :
    let run command := report (host.noting host.call) (fun x => clock x.1) database limit command s
      (state, [])
    (∀ e, s.validate = .error e →
        ∀ command, run command = (.error (.invalidSchema e), state, [])) ∧
      (s.validate = .ok () →
        ((apply s).InTime host limit .zero state →
          AppliedInOrder s (run .apply).2.2 (run .apply).1) ∧
        ((plan s).InTime host limit .zero state →
          PlannedInOrder s (run .plan).2.2 (run .plan).1)) := by
  intro run
  refine ⟨fun e hfault command => ?_, fun hvalid => ⟨fun htime => ?_, fun htime => ?_⟩⟩
  · simp only [run, report_eq, task_of_invalid command hfault]
    rfl
  · obtain ⟨calls, result, make, hrun, hresult, hcalls, hmake⟩ :=
      exists_notes_of_report .apply htime id (fun _ _ => rfl) clock database
    rw [List.map_id] at hcalls
    have hanswer : run .apply = _ := hrun
    rw [hanswer, hresult]
    exact .of_calls (applyCalls_of_conversation hvalid hcalls) hmake
  · obtain ⟨calls, result, make, hrun, hresult, hcalls, hmake⟩ :=
      exists_notes_of_report .plan htime id (fun _ _ => rfl) clock database
    rw [List.map_id] at hcalls
    have hanswer : run .plan = _ := hrun
    rw [hanswer, hresult]
    exact .of_calls (planCalls_of_conversation hvalid hcalls) hmake

end

/-- A store that takes ten seconds for each reply. It lists nothing first, and after seven replies
an index of its own, and its replies about collections alternate. -/
def fickle : Host Nat where
  delay _ _ := .ofSeconds 10
  answer n r := (match r with
    | .ping | .createIndex _ | .insert _ _ => .ok ()
    | .listCollections => .ok ["usage"]
    | .createCollection _ => .ok (if n % 2 = 0 then .created else .alreadyExists)
    | .listIndexes _ => .ok (if n < 7 then [] else
        [{ name := "phone_number_1", keys := [("phone", .int32 1)], unique := true,
           filter := none }])
    | .softDelete _ _ _ => .error (.database "no such field"), n + 1)

/-- The fickle store is called in order as well: applying the built-in schema ends with the eighth
call, a listing in conflict, and planning sees no such index. -/
theorem calls_in_order_fickle :
    let s := Schema.builtin .null
    let run command s := report (fickle.noting fickle.call) (fun x => (x.1 : Int)) "autosrt"
      defaultLimit command s (0, [])
    (s.withDatabase "").validate = .error .emptyDatabase ∧
      run .apply (s.withDatabase "") = (.error (.invalidSchema .emptyDatabase), 0, []) ∧
      s.validate = .ok () ∧
      (apply s).InTime fickle defaultLimit .zero 0 ∧
      (run .apply s).2.2.length = 8 ∧
      (run .apply s).1.toOption = none ∧
      AppliedInOrder s (run .apply s).2.2 (run .apply s).1 ∧
      (plan s).InTime fickle defaultLimit .zero 0 ∧
      (run .plan s).1.toOption.map Report.pending = some 8 ∧
      PlannedInOrder s (run .plan s).2.2 (run .plan s).1 := by
  intro s run
  have hfault : (s.withDatabase "").validate = .error .emptyDatabase := by decide
  have hvalid : s.validate = .ok () := by decide
  have happly : (apply s).InTime fickle defaultLimit .zero 0 := by decide +kernel
  have hplan : (plan s).InTime fickle defaultLimit .zero 0 := by decide +kernel
  have hcalls : (run .apply s).2.2.length = 8 := by decide +kernel
  have herror : (run .apply s).1.toOption = none := by decide +kernel
  have hpending : (run .plan s).1.toOption.map Report.pending = some 8 := by decide +kernel
  obtain ⟨hinvalid, -⟩ := calls_in_order fickle Int.ofNat "autosrt" defaultLimit
    (s.withDatabase "") 0
  obtain ⟨-, hrun⟩ := calls_in_order fickle Int.ofNat "autosrt" defaultLimit s 0
  obtain ⟨happlied, hplanned⟩ := hrun hvalid
  exact ⟨hfault, hinvalid _ hfault .apply, hvalid, happly, hcalls, herror, happlied happly, hplan,
    hpending, hplanned hplan⟩

end Bootstrap

end DocSchema
