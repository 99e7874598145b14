import DocSchema.Proofs.CallSequences
import Mathlib.Data.List.Forall2

/-!
# DocSchema.Proofs.RequestOrder

In which order a command makes its requests, and how its calls end.

Of the calls for a list of declarations none fails before the last, and the last is the cause of
the error, if there is one (`Ending`). The requests for indexes are told by the listings that are
answered on the way (`indexRequests`): an index is created where it is missing from the listing
right before, and nowhere else (`Guarded`).
-/

namespace DocSchema.Bootstrap

variable {α β : Type} {s : Schema} {specs : List IndexSpec} {names : List CollectionName}
  {calls before after : List Call}

/-! ## How calls end -/

/-- What ends a run early: a call that fails, or a listing in conflict with a declared index. -/
inductive Cause (specs : List IndexSpec) : Call → BootstrapError → Prop where
  | unreachable (e : StoreError) : Cause specs ⟨.ping, .error e⟩ (.connection e.message)
  | failed {r : Request} (hr : r ≠ .ping) (e : StoreError) :
      Cause specs ⟨r, .error e⟩ (.ofStore e)
  | conflict {i : IndexSpec} (hi : i ∈ specs) {existing : List IndexDefinition}
      {x : IndexDefinition} (hstate : i.definition.stateIn existing = .conflicting x) :
      Cause specs ⟨.listIndexes i.collection, .ok existing⟩
        (.conflictingDefinition i.collection.text x.name (difference x i.definition))

/-- Whether calls end as their result says: without an error none of them fails, and otherwise none
before the last, which is the cause of the error. -/
def Ending (specs : List IndexSpec) (calls : List Call) : Except BootstrapError α → Prop
  | .ok _ => ∀ c ∈ calls, c.failed = false
  | .error e => ∃ earlier last, calls = earlier ++ [last] ∧ (∀ c ∈ earlier, c.failed = false) ∧
      Cause specs last e

/-- Calls that do not fail may go before. -/
theorem Ending.append {result : Except BootstrapError α} (hbefore : ∀ c ∈ before, c.failed = false)
    (hafter : Ending specs after result) (f : α → β) :
    Ending specs (before ++ after) (result.map f) := by
  cases result with
  | ok a => exact List.forall_mem_append.2 ⟨hbefore, hafter⟩
  | error e =>
      obtain ⟨earlier, last, rfl, hearlier, hcause⟩ := hafter
      have hall : ∀ c ∈ before ++ earlier, c.failed = false :=
        List.forall_mem_append.2 ⟨hbefore, hearlier⟩
      exact ⟨before ++ earlier, last, (List.append_assoc _ _ _).symm, hall, hcause⟩

/-- What is made of a result does not matter to how its calls end. -/
theorem Ending.map {result : Except BootstrapError α} (h : Ending specs calls result)
    (f : α → β) : Ending specs calls (result.map f) :=
  Ending.append (List.forall_mem_nil _) h f

/-- A single call that is the cause of the error ends its declaration. -/
theorem ending_of_cause {c : Call} {e : BootstrapError} (h : Cause specs c e) :
    Ending (α := α) specs [c] (.error e) :=
  ⟨[], c, rfl, fun _ hc => absurd hc List.not_mem_nil, h⟩

theorem Cause.mono {specs' : List IndexSpec} (h : specs ⊆ specs') {c : Call} {e : BootstrapError}
    (hc : Cause specs c e) : Cause specs' c e := by
  cases hc with
  | unreachable e => exact .unreachable e
  | failed hr e => exact .failed hr e
  | conflict hi hstate => exact .conflict (h hi) hstate

theorem Ending.mono {specs' : List IndexSpec} (h : specs ⊆ specs')
    {result : Except BootstrapError α} (hending : Ending specs calls result) :
    Ending specs' calls result := by
  cases result with
  | ok a => exact hending
  | error e =>
      obtain ⟨earlier, last, hcalls, hearlier, hcause⟩ := hending
      exact ⟨earlier, last, hcalls, hearlier, hcause.mono h⟩

theorem CollectionCalls.ending {name : CollectionName} {result : Except BootstrapError Outcome}
    (h : CollectionCalls name calls result) : Ending [] calls result := by
  cases h with
  | answered creation => exact List.forall_mem_singleton.2 rfl
  | failed e => exact ending_of_cause (.failed (by nofun) e)

theorem IndexCalls.ending {i : IndexSpec} {result : Except BootstrapError Outcome}
    (h : IndexCalls i calls result) : Ending [i] calls result := by
  cases h with
  | unlisted e => exact ending_of_cause (.failed (by nofun) e)
  | identical existing hstate => exact List.forall_mem_singleton.2 rfl
  | conflicting existing x hstate =>
      exact ending_of_cause (.conflict List.mem_cons_self hstate)
  | created existing hstate =>
      exact List.forall_mem_cons.2 ⟨rfl, List.forall_mem_singleton.2 rfl⟩
  | refused existing hstate e =>
      exact ⟨[_], _, rfl, List.forall_mem_singleton.2 rfl, .failed (by nofun) e⟩

theorem PlannedIndexCalls.ending {i : IndexSpec} {result : Except BootstrapError Outcome}
    (h : PlannedIndexCalls i calls result) : Ending [] calls result := by
  cases h with
  | unlisted e => exact ending_of_cause (.failed (by nofun) e)
  | listed existing => exact List.forall_mem_singleton.2 rfl

/-- The calls for a list end as those for its elements do. -/
theorem ending_of_series {part : α → List Call → Except BootstrapError β → Prop} {as : List α}
    {result : Except BootstrapError (List β)} (h : Task.Series part as calls result)
    (hpart : ∀ a ∈ as, ∀ calls result, part a calls result → Ending specs calls result) :
    Ending specs calls result := by
  induction h with
  | nil => exact fun _ hc => absurd hc List.not_mem_nil
  | stop ha => exact hpart _ List.mem_cons_self _ _ ha
  | next ha _ ih =>
      have hfirst := hpart _ List.mem_cons_self _ _ ha
      exact Ending.append hfirst (ih fun b hb => hpart b (List.mem_cons_of_mem _ hb)) _

theorem ending_of_collections {result : Except BootstrapError (List Outcome)}
    (h : Task.Series CollectionCalls names calls result) : Ending [] calls result :=
  ending_of_series h fun _ _ _ _ => CollectionCalls.ending

theorem ending_of_indexes {result : Except BootstrapError (List Outcome)}
    (h : Task.Series IndexCalls specs calls result) : Ending specs calls result :=
  ending_of_series h fun _ hi _ _ hcalls =>
    hcalls.ending.mono (List.cons_subset.2 ⟨hi, List.nil_subset specs⟩)

theorem ending_of_plannedIndexes {result : Except BootstrapError (List Outcome)}
    (h : Task.Series PlannedIndexCalls specs calls result) : Ending [] calls result :=
  ending_of_series h fun _ _ _ _ => PlannedIndexCalls.ending

/-! ## The order of the requests -/

/-- The requests for declared indexes, given the listings that are answered: an index is created
where it is missing from its listing, and nothing follows a listing that is not answered, or that
shows a conflict. -/
def indexRequests : List IndexSpec → List (List IndexDefinition) → List Request
  | [], _ => []
  | i :: _, [] => [.listIndexes i.collection]
  | i :: is, existing :: listings =>
    .listIndexes i.collection ::
      match i.definition.stateIn existing with
      | .missing => .createIndex i :: indexRequests is listings
      | .identical => indexRequests is listings
      | .conflicting _ => []

/-- The requests for applying a schema, given the listings that are answered. -/
def applyRequests (s : Schema) (listings : List (List IndexDefinition)) : List Request :=
  .ping :: (s.collections.map .createCollection ++ indexRequests s.indexes listings)

/-- The requests for planning a schema. -/
def planRequests (s : Schema) : List Request :=
  .ping :: .listCollections :: s.indexes.map fun i => .listIndexes i.collection

/-- The outcomes of applying a schema, as the calls were answered. -/
def applyOutcomes (s : Schema) (calls : List Call) : List Outcome :=
  List.zipWith (fun name creation => ⟨.collection name, creationAction creation⟩) s.collections
      (calls.filterMap Call.creation?) ++
    List.zipWith (fun i existing => ⟨.index i, appliedAction (i.definition.stateIn existing)⟩)
      s.indexes (calls.filterMap Call.listing?)

/-- The outcomes of planning a schema, given the collections that exist, as the calls were
answered. -/
def planOutcomes (s : Schema) (existing : List String) (calls : List Call) : List Outcome :=
  s.collections.map (planCollection existing) ++
    List.zipWith (fun i existing => ⟨.index i, plannedAction i (i.definition.stateIn existing)⟩)
      s.indexes (calls.filterMap Call.listing?)

/-- Whether a listing lets a declared index be: it is missing, or it is there. -/
def Admits (i : IndexSpec) (existing : List IndexDefinition) : Prop :=
  i.definition.stateIn existing = .missing ∨ i.definition.stateIn existing = .identical

/-- Up to an error, declared collections are asked for in order, and nothing is listed. -/
theorem requests_of_collections {result : Except BootstrapError (List Outcome)}
    (h : Task.Series CollectionCalls names calls result) :
    calls.map Call.request <+: names.map .createCollection ∧
      calls.filterMap Call.listing? = [] := by
  induction h with
  | nil => exact ⟨List.prefix_rfl, rfl⟩
  | stop ha =>
      cases ha with
      | failed e => exact ⟨⟨_, rfl⟩, rfl⟩
  | next ha _ ih =>
      cases ha with
      | answered creation => exact ⟨List.cons_prefix_cons.2 ⟨rfl, ih.1⟩, ih.2⟩

/-- Without an error all declared collections are asked for, and reported as was answered. -/
theorem outcomes_of_collections {outcomes : List Outcome}
    (h : Task.Series CollectionCalls names calls (.ok outcomes)) :
    calls.map Call.request = names.map .createCollection ∧
      outcomes = List.zipWith (fun name creation => ⟨.collection name, creationAction creation⟩)
        names (calls.filterMap Call.creation?) ∧
      outcomes.map Outcome.declaration = names.map .collection := by
  induction names generalizing calls outcomes with
  | nil =>
      cases h
      exact ⟨rfl, rfl, rfl⟩
  | cons name names ih =>
      obtain ⟨before, after, outcome, rest, rfl, rfl, hfirst, hrest⟩ := h.of_cons
      obtain ⟨hrequests, houtcomes, hdeclarations⟩ := ih hrest
      cases hfirst with
      | answered creation =>
          exact ⟨congrArg (_ :: ·) hrequests, congrArg (_ :: ·) houtcomes,
            congrArg (_ :: ·) hdeclarations⟩

section

variable {i : IndexSpec} {existing : List IndexDefinition}

theorem indexRequests_of_missing (h : i.definition.stateIn existing = .missing)
    (specs : List IndexSpec) (listings : List (List IndexDefinition)) :
    indexRequests (i :: specs) (existing :: listings) =
      .listIndexes i.collection :: .createIndex i :: indexRequests specs listings := by
  rw [indexRequests, h]

theorem indexRequests_of_identical (h : i.definition.stateIn existing = .identical)
    (specs : List IndexSpec) (listings : List (List IndexDefinition)) :
    indexRequests (i :: specs) (existing :: listings) =
      .listIndexes i.collection :: indexRequests specs listings := by
  rw [indexRequests, h]

/-- The first request for declared indexes is that for a listing. -/
theorem indexRequests_begin (i : IndexSpec) (specs : List IndexSpec)
    (listings : List (List IndexDefinition)) :
    [.listIndexes i.collection] <+: indexRequests (i :: specs) listings := by
  cases listings with
  | nil => exact List.prefix_rfl
  | cons existing listings => exact List.cons_prefix_cons.2 ⟨rfl, List.nil_prefix⟩

end

/-- What is asked for declared indexes are listings of their collections, and their creation. -/
theorem mem_indexRequests {listings : List (List IndexDefinition)} {r : Request}
    (h : r ∈ indexRequests specs listings) :
    ∃ i ∈ specs, r = .listIndexes i.collection ∨ r = .createIndex i := by
  induction specs generalizing listings with
  | nil => exact absurd h List.not_mem_nil
  | cons i specs ih =>
      have hlater : ∀ {listings}, r ∈ indexRequests specs listings →
          ∃ j ∈ i :: specs, r = .listIndexes j.collection ∨ r = .createIndex j := fun h => by
        obtain ⟨j, hj, hr⟩ := ih h
        exact ⟨j, List.mem_cons_of_mem _ hj, hr⟩
      cases listings with
      | nil => exact ⟨i, List.mem_cons_self, .inl (List.mem_singleton.1 h)⟩
      | cons existing listings =>
          rcases List.mem_cons.1 h with rfl | h
          · exact ⟨i, List.mem_cons_self, .inl rfl⟩
          · split at h
            · rcases List.mem_cons.1 h with rfl | h
              · exact ⟨i, List.mem_cons_self, .inr rfl⟩
              · exact hlater h
            · exact hlater h
            · exact absurd h List.not_mem_nil

/-- Up to an error, what is asked for declared indexes follows their listings. -/
theorem requests_of_indexes {result : Except BootstrapError (List Outcome)}
    (h : Task.Series IndexCalls specs calls result) :
    calls.map Call.request <+: indexRequests specs (calls.filterMap Call.listing?) ∧
      calls.filterMap Call.creation? = [] := by
  induction h with
  | nil => exact ⟨List.prefix_rfl, rfl⟩
  | @stop i specs calls e ha =>
      cases ha with
      | unlisted e => exact ⟨indexRequests_begin i specs [], rfl⟩
      | conflicting existing x hstate => exact ⟨indexRequests_begin i specs [existing], rfl⟩
      | refused existing hstate e =>
          refine ⟨?_, rfl⟩
          change _ <+: indexRequests (i :: specs) [existing]
          rw [indexRequests_of_missing hstate]
          exact List.cons_prefix_cons.2 ⟨rfl, List.cons_prefix_cons.2 ⟨rfl, List.nil_prefix⟩⟩
  | @next i specs before after b result ha _ ih =>
      refine ⟨?_, ?_⟩
      · cases ha with
        | identical existing hstate =>
            change _ <+: indexRequests (i :: specs) (existing :: after.filterMap Call.listing?)
            rw [indexRequests_of_identical hstate]
            exact List.cons_prefix_cons.2 ⟨rfl, ih.1⟩
        | created existing hstate =>
            change _ <+: indexRequests (i :: specs) (existing :: after.filterMap Call.listing?)
            rw [indexRequests_of_missing hstate]
            exact List.cons_prefix_cons.2 ⟨rfl, List.cons_prefix_cons.2 ⟨rfl, ih.1⟩⟩
      · cases ha <;> exact ih.2

/-- Without an error all requests for declared indexes are made, each listing admits its index, and
the indexes are reported as was listed. -/
theorem outcomes_of_indexes {outcomes : List Outcome}
    (h : Task.Series IndexCalls specs calls (.ok outcomes)) :
    calls.map Call.request = indexRequests specs (calls.filterMap Call.listing?) ∧
      List.Forall₂ Admits specs (calls.filterMap Call.listing?) ∧
      outcomes = List.zipWith
        (fun i existing => ⟨.index i, appliedAction (i.definition.stateIn existing)⟩) specs
        (calls.filterMap Call.listing?) ∧
      outcomes.map Outcome.declaration = specs.map .index := by
  induction specs generalizing calls outcomes with
  | nil =>
      cases h
      exact ⟨rfl, .nil, rfl, rfl⟩
  | cons i specs ih =>
      obtain ⟨before, after, outcome, rest, rfl, rfl, hfirst, hrest⟩ := h.of_cons
      obtain ⟨hrequests, hadmits, houtcomes, hdeclarations⟩ := ih hrest
      have hlisted : ∀ existing, before.filterMap Call.listing? = [existing] →
          (before ++ after).filterMap Call.listing? =
            existing :: after.filterMap Call.listing? := fun existing hbefore => by
        rw [List.filterMap_append, hbefore, List.singleton_append]
      cases hfirst with
      | identical existing hstate =>
          rw [hlisted existing rfl, indexRequests_of_identical hstate, List.zipWith_cons_cons,
            hstate, ← houtcomes]
          exact ⟨congrArg (_ :: ·) hrequests, .cons (.inr hstate) hadmits, rfl,
            congrArg (_ :: ·) hdeclarations⟩
      | created existing hstate =>
          rw [hlisted existing rfl, indexRequests_of_missing hstate, List.zipWith_cons_cons,
            hstate, ← houtcomes]
          exact ⟨congrArg (_ :: _ :: ·) hrequests, .cons (.inl hstate) hadmits, rfl,
            congrArg (_ :: ·) hdeclarations⟩

/-- No listing before the last call shows a conflict. -/
theorem admitted_of_indexes {result : Except BootstrapError (List Outcome)}
    (h : Task.Series IndexCalls specs calls result) :
    ∃ admitted, admitted <+: specs ∧
      List.Forall₂ Admits admitted (calls.dropLast.filterMap Call.listing?) := by
  induction h with
  | nil => exact ⟨[], List.nil_prefix, .nil⟩
  | @stop i specs calls e ha =>
      cases ha with
      | unlisted e => exact ⟨[], List.nil_prefix, .nil⟩
      | conflicting existing x hstate => exact ⟨[], List.nil_prefix, .nil⟩
      | refused existing hstate e => exact ⟨[i], ⟨specs, rfl⟩, .cons (.inl hstate) .nil⟩
  | @next i specs before after b result ha _ ih =>
      obtain ⟨admitted, hadmitted, hlistings⟩ := ih
      by_cases hafter : after = []
      · subst hafter
        rw [List.append_nil]
        cases ha with
        | identical existing hstate => exact ⟨[], List.nil_prefix, .nil⟩
        | created existing hstate => exact ⟨[i], ⟨specs, rfl⟩, .cons (.inl hstate) .nil⟩
      · rw [List.dropLast_append_of_ne_nil hafter]
        have hmore : i :: admitted <+: i :: specs := List.cons_prefix_cons.2 ⟨rfl, hadmitted⟩
        cases ha with
        | identical existing hstate => exact ⟨_, hmore, .cons (.inr hstate) hlistings⟩
        | created existing hstate => exact ⟨_, hmore, .cons (.inl hstate) hlistings⟩

/-- Up to an error, planned indexes are listed in order. -/
theorem requests_of_plannedIndexes {result : Except BootstrapError (List Outcome)}
    (h : Task.Series PlannedIndexCalls specs calls result) :
    calls.map Call.request <+: specs.map fun i => .listIndexes i.collection := by
  induction h with
  | nil => exact List.prefix_rfl
  | stop ha =>
      cases ha with
      | unlisted e => exact ⟨_, rfl⟩
  | next ha _ ih =>
      cases ha with
      | listed existing => exact List.cons_prefix_cons.2 ⟨rfl, ih⟩

/-- Without an error all planned indexes are listed, and reported as was listed. -/
theorem outcomes_of_plannedIndexes {outcomes : List Outcome}
    (h : Task.Series PlannedIndexCalls specs calls (.ok outcomes)) :
    calls.map Call.request = specs.map (fun i => .listIndexes i.collection) ∧
      outcomes = List.zipWith
        (fun i existing => ⟨.index i, plannedAction i (i.definition.stateIn existing)⟩) specs
        (calls.filterMap Call.listing?) ∧
      outcomes.map Outcome.declaration = specs.map .index := by
  induction specs generalizing calls outcomes with
  | nil =>
      cases h
      exact ⟨rfl, rfl, rfl⟩
  | cons i specs ih =>
      obtain ⟨before, after, outcome, rest, rfl, rfl, hfirst, hrest⟩ := h.of_cons
      obtain ⟨hrequests, houtcomes, hdeclarations⟩ := ih hrest
      cases hfirst with
      | listed existing =>
          exact ⟨congrArg (_ :: ·) hrequests, congrArg (_ :: ·) houtcomes,
            congrArg (_ :: ·) hdeclarations⟩

/-! ## Creations -/

/-- Whether every call that creates an index comes right after a listing from which the index is
missing. -/
def Guarded (calls : List Call) : Prop :=
  ∀ c ∈ calls, ∀ i, c.request = .createIndex i → ∃ existing,
    i.definition.stateIn existing = .missing ∧
      [⟨.listIndexes i.collection, .ok existing⟩, c] <:+: calls

theorem Guarded.append (hbefore : Guarded before) (hafter : Guarded after) :
    Guarded (before ++ after) := by
  intro c hc i hi
  rcases List.mem_append.1 hc with hc | hc
  · obtain ⟨existing, hstate, hinfix⟩ := hbefore c hc i hi
    exact ⟨existing, hstate, hinfix.trans (List.prefix_append before after).isInfix⟩
  · obtain ⟨existing, hstate, hinfix⟩ := hafter c hc i hi
    exact ⟨existing, hstate, hinfix.trans (List.suffix_append before after).isInfix⟩

/-- Calls that create no index need no listing. -/
theorem guarded_of_forall (h : ∀ c ∈ calls, ∀ i, c.request ≠ .createIndex i) : Guarded calls :=
  fun c hc i hi => absurd hi (h c hc i)

theorem CollectionCalls.guarded {name : CollectionName} {result : Except BootstrapError Outcome}
    (h : CollectionCalls name calls result) : Guarded calls := by
  cases h <;> exact guarded_of_forall (List.forall_mem_singleton.2 nofun)

theorem IndexCalls.guarded {i : IndexSpec} {result : Except BootstrapError Outcome}
    (h : IndexCalls i calls result) : Guarded calls := by
  have hpair : ∀ (existing : List IndexDefinition) (created : Except StoreError Unit),
      i.definition.stateIn existing = .missing →
        Guarded [⟨.listIndexes i.collection, .ok existing⟩, ⟨.createIndex i, created⟩] := by
    intro existing created hstate c hc j hj
    rcases List.mem_cons.1 hc with rfl | hc
    · contradiction
    · obtain rfl := List.mem_singleton.1 hc
      obtain rfl := Request.createIndex.inj hj
      exact ⟨existing, hstate, List.infix_rfl⟩
  cases h with
  | unlisted e => exact guarded_of_forall (List.forall_mem_singleton.2 nofun)
  | identical existing hstate => exact guarded_of_forall (List.forall_mem_singleton.2 nofun)
  | conflicting existing x hstate => exact guarded_of_forall (List.forall_mem_singleton.2 nofun)
  | created existing hstate => exact hpair existing _ hstate
  | refused existing hstate e => exact hpair existing _ hstate

theorem guarded_of_series {part : α → List Call → Except BootstrapError β → Prop} {as : List α}
    {result : Except BootstrapError (List β)} (h : Task.Series part as calls result)
    (hpart : ∀ a calls result, part a calls result → Guarded calls) : Guarded calls := by
  induction h with
  | nil => exact guarded_of_forall (fun _ hc => absurd hc List.not_mem_nil)
  | stop ha => exact hpart _ _ _ ha
  | next ha _ ih => exact (hpart _ _ _ ha).append ih

end DocSchema.Bootstrap
