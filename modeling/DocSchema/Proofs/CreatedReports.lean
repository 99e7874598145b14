import DocSchema.Proofs.AddedIndexes
import DocSchema.Proofs.ClientCalls
import DocSchema.Proofs.ConcurrentApplies
import DocSchema.Proofs.OrderlyCalls
import Mathlib.Data.List.Nodup

/-!
# DocSchema.Proofs.CreatedReports

What clients that apply schemas at the same time report as created.

A client reports as created what its calls created, going by their answers
(`ApplyCalls.creations`), and the calls of two clients are those of the one and those of the other.
The answer to a request for a collection tells who created it, so a new collection is reported by
exactly one client. The answer to a request for an index does not: a new index is reported by
every client that asked for it. That is one of them, or both if at some time both were about to
ask (`Both.contended_iff`).
-/

namespace DocSchema

/-! ## What a client reports -/

/-- The declaration of an outcome if it was created. -/
def Outcome.created? (o : Outcome) : Option Declaration :=
  if o.action = .created then some o.declaration else none

namespace Report

/-- Whether a report says that something was created. -/
def Creates (r : Report) (d : Declaration) : Prop := ⟨d, .created⟩ ∈ r.outcomes

/-- What a report says was created. -/
def creations (r : Report) : List Declaration := r.outcomes.filterMap Outcome.created?

theorem length_creations (r : Report) : r.creations.length = r.created := by
  rw [creations, List.length_filterMap_eq_countP, created]
  refine List.countP_congr fun o _ => ?_
  by_cases h : o.action = .created <;> simp [Outcome.created?, h]

theorem mem_creations_iff {r : Report} {d : Declaration} :
    d ∈ r.creations ↔ r.Creates d := by
  rw [creations, List.mem_filterMap]
  constructor
  · rintro ⟨⟨declaration, action⟩, ho, hcreated⟩
    unfold Outcome.created? at hcreated
    split at hcreated
    · next haction =>
      obtain rfl : declaration = d := Option.some.inj hcreated
      obtain rfl : action = .created := haction
      exact ho
    · contradiction
  · exact fun h => ⟨_, h, if_pos rfl⟩

/-- No declaration is reported more often than it is declared. -/
theorem creations_sublist (r : Report) :
    r.creations.Sublist (r.outcomes.map Outcome.declaration) := by
  unfold creations
  induction r.outcomes with
  | nil => exact .slnil
  | cons o outcomes ih =>
      rw [List.filterMap_cons, List.map_cons]
      by_cases h : o.action = .created
      · rw [Outcome.created?, if_pos h]
        exact ih.cons_cons _
      · rw [Outcome.created?, if_neg h]
        exact ih.cons _

end Report

/-- A consistent schema declares nothing twice. -/
theorem Schema.Consistent.nodup_declarations {s : Schema} (h : s.Consistent) :
    s.declarations.Nodup := by
  have hindexes : s.indexes.Nodup := h.distinct.imp (by
    rintro i _ hapart rfl
    exact hapart ⟨rfl, rfl⟩)
  refine List.Nodup.append ?_ ?_ ?_
  · exact h.collections.map fun _ _ => Declaration.collection.inj
  · exact hindexes.map fun _ _ => Declaration.index.inj
  · rintro d hcollection hindex
    obtain ⟨name, -, rfl⟩ := List.mem_map.1 hcollection
    obtain ⟨i, -, hi⟩ := List.mem_map.1 hindex
    contradiction

namespace Bootstrap

variable {α : Type} {s : Schema} {calls : List Call} {outcomes : List Outcome}

/-- Where the calls of each element created what its outcome says, all calls created what the
outcomes say. -/
theorem created_of_series {part : α → List Call → Except BootstrapError Outcome → Prop}
    (hpart : ∀ a block o, part a block (.ok o) →
      block.filterMap Call.created? = o.created?.toList)
    {as : List α} (h : Task.Series part as calls (.ok outcomes)) :
    calls.filterMap Call.created? = outcomes.filterMap Outcome.created? := by
  induction as generalizing calls outcomes with
  | nil =>
      cases h
      rfl
  | cons a as ih =>
      obtain ⟨before, after, o, rest, rfl, rfl, hfirst, hrest⟩ := h.of_cons
      rw [List.filterMap_append, hpart a before o hfirst, ih hrest, List.filterMap_cons]
      cases o.created? <;> rfl

/-- A client that applied a schema without an error reports what its calls created. -/
theorem ApplyCalls.creations (h : ApplyCalls s calls (.ok outcomes)) :
    calls.filterMap Call.created? = outcomes.filterMap Outcome.created? := by
  obtain ⟨before, after, collections, indexes, rfl, rfl, hcollections, hindexes⟩ := h.of_ok
  have hbefore := created_of_series (fun _ _ _ hblock => by
    obtain ⟨creation⟩ := hblock
    cases creation <;> rfl) hcollections
  have hafter := created_of_series (fun _ _ _ hblock => by
    obtain _ | _ := hblock <;> rfl) hindexes
  rw [List.filterMap_append, ← hbefore, ← hafter, ← List.filterMap_append]
  rfl

end Bootstrap

/-! ## Two clients -/

/-- The collection that is declared, if it is one. -/
def Declaration.collection? : Declaration → Option CollectionName
  | .collection name => some name
  | .index _ => none

/-- The index that is declared, if it is one. -/
def Declaration.index? : Declaration → Option IndexSpec
  | .collection _ => none
  | .index i => some i

namespace Declaration

variable {ds : List Declaration}

/-- Declarations are of collections or of indexes. -/
theorem length_eq_add (ds : List Declaration) :
    ds.length = (ds.filterMap collection?).length + (ds.filterMap index?).length := by
  induction ds with
  | nil => rfl
  | cons d ds ih =>
      cases d <;> simp only [List.filterMap_cons, collection?, index?, List.length_cons] <;> omega

theorem count_collections (name : CollectionName) :
    (ds.filterMap collection?).count name = ds.count (.collection name) := by
  rw [List.count_filterMap]
  refine List.countP_congr fun d _ => ?_
  cases d <;> simp [collection?]

theorem count_indexes (i : IndexSpec) :
    (ds.filterMap index?).count i = ds.count (.index i) := by
  rw [List.count_filterMap]
  refine List.countP_congr fun d _ => ?_
  cases d <;> simp [index?]

end Declaration

/-- A call created a collection if its answer says so. -/
theorem Call.created?_beq_collection (call : Call) (name : CollectionName) :
    (call.created? == some (.collection name)) = call.creates name := by
  unfold created? creates
  split <;> simp

/-- What is in a catalog and was not in an earlier one: some collections, and after the indexes of
every collection those of some declarations. -/
structure Catalog.Added (c c' : Catalog) (names : List CollectionName) (specs : List IndexSpec) :
    Prop where
  nodup_names : names.Nodup
  nodup_specs : specs.Nodup
  collections : ∀ name, name ∈ names ↔
    c.collections.get? name = none ∧ c'.collections.get? name ≠ none
  indexes : ∀ name, (c'.collection name).indexes =
    (c.collection name).indexes ++ definitionsOn name specs

namespace Clients

variable {w : Clients} {turns : List (Nat × Int64)}

open Bootstrap (apply KeepsHome homely)

/-- Whether at some time all clients are about to ask for an index. -/
def Contended (w : Clients) (i : IndexSpec) (turns : List (Nat × Int64)) : Prop :=
  ∃ before, before <+: turns ∧ ∀ t ∈ (w.takeTurns before).tasks, t.isAbout i = true

/-- Where all clients put things into existing collections only, a collection that was missing and
exists in the end was created once. -/
theorem count_created_collection (h : ∀ t ∈ w.tasks, KeepsHome t (fun _ => True) w.catalog)
    (turns : List (Nat × Int64)) (name : CollectionName) :
    (w.created turns).count (.collection name) + w.catalog.presence name =
      (w.takeTurns turns).catalog.presence name := by
  have hcourse : OnCourse homely (fun _ _ => True) (fun _ _ => True) w w.catalog := ⟨rfl, h⟩
  rw [← count_creates (fun _ _ _ _ _ => trivial) (fun _ _ _ _ _ => trivial) (fun _ _ hr => hr)
    hcourse turns name, created, List.count_filterMap]
  simp only [Call.created?_beq_collection]

/-- A client that has applied a schema without an error made no call that failed, and reports what
its calls created, nothing twice. -/
theorem callsOf_apply {client : Nat} {s : Schema} {r : Report}
    (ht : w.tasks[client]? = some (apply s))
    (hends : (w.takeTurns turns).tasks[client]? = some (.done (.ok r.outcomes))) :
    (∀ call ∈ w.callsOf client turns, call.failed = false) ∧
      (w.callsOf client turns).filterMap Call.created? = r.creations ∧ r.creations.Nodup := by
  have hconversation := conversation_callsOf ht hends
  cases hvalid : s.validate with
  | error e =>
      rw [Bootstrap.apply_of_invalid hvalid] at hconversation
      have hresult := (Task.conversation_done hconversation).2
      contradiction
  | ok =>
      have hcalls := Bootstrap.applyCalls_of_conversation hvalid hconversation
      obtain ⟨-, -, -, hdeclarations⟩ := hcalls.complete
      refine ⟨hcalls.ending, hcalls.creations, ?_⟩
      have hnodup := (Schema.validate_eq_ok_iff.1 hvalid).nodup_declarations
      rw [← hdeclarations] at hnodup
      exact r.creations_sublist.nodup hnodup

/-- How two clients apply schemas at the same time, each without an error. -/
structure Both (start : Clients) (turns : List (Nat × Int64)) (r₁ r₂ : Report) : Prop where
  /-- Both look before they ask for an index, and no call fails. -/
  wary : ∀ i, ∀ t ∈ start.tasks, t.Wary i False
  succeeds : ∀ call ∈ start.calls turns, call.failed = false
  home : ∀ t ∈ start.tasks, KeepsHome t (fun _ => True) start.catalog
  /-- Both have ended. -/
  done : ∀ t ∈ (start.takeTurns turns).tasks, t.IsDone
  two : ∀ before, (start.takeTurns before).tasks.length = 2
  /-- What was created is what they report. -/
  created : (start.created turns).Perm (r₁.creations ++ r₂.creations)
  nodup : r₁.creations.Nodup ∧ r₂.creations.Nodup

theorem both_of_apply {start : Clients} {s₁ s₂ : Schema} {r₁ r₂ : Report}
    (htasks : start.tasks = [apply s₁, apply s₂])
    (hends : (start.takeTurns turns).tasks =
      [.done (.ok r₁.outcomes), .done (.ok r₂.outcomes)]) : start.Both turns r₁ r₂ := by
  have htask : ∀ t ∈ start.tasks, ∃ s, t = apply s := by
    rw [htasks]
    exact List.forall_mem_cons.2 ⟨⟨s₁, rfl⟩, List.forall_mem_singleton.2 ⟨s₂, rfl⟩⟩
  have hlength : start.tasks.length = 2 := congrArg List.length htasks
  have hperm := calls_perm hlength turns
  have ht₁ : start.tasks[0]? = some (apply s₁) := by rw [htasks, List.getElem?_cons_zero]
  have ht₂ : start.tasks[1]? = some (apply s₂) := by
    rw [htasks, List.getElem?_cons_succ, List.getElem?_cons_zero]
  obtain ⟨hok₁, hcreated₁, hnodup₁⟩ :=
    callsOf_apply ht₁ (by rw [hends, List.getElem?_cons_zero])
  obtain ⟨hok₂, hcreated₂, hnodup₂⟩ :=
    callsOf_apply ht₂ (by rw [hends, List.getElem?_cons_succ, List.getElem?_cons_zero])
  refine ⟨fun i t ht => ?_, fun call hcall => ?_, fun t ht => ?_, fun t ht => ?_, fun before => ?_,
    ?_, hnodup₁, hnodup₂⟩
  · obtain ⟨s, rfl⟩ := htask t ht
    exact Bootstrap.wary_apply s
  · exact (List.mem_append.1 (hperm.mem_iff.1 hcall)).elim (hok₁ call) (hok₂ call)
  · obtain ⟨s, rfl⟩ := htask t ht
    exact Bootstrap.keepsHome_apply s _
  · rw [hends] at ht
    rcases List.mem_pair.1 ht with rfl | rfl <;> exact ⟨_, rfl⟩
  · rw [length_takeTurns, hlength]
  · rw [created, ← hcreated₁, ← hcreated₂, ← List.filterMap_append]
    exact hperm.filterMap _

namespace Both

variable {start : Clients} {r₁ r₂ : Report} (h : start.Both turns r₁ r₂)

include h

/-- What was created is reported once by each client that reports it. -/
theorem count_created (d : Declaration) : (start.created turns).count d =
    (if d ∈ r₁.creations then 1 else 0) + if d ∈ r₂.creations then 1 else 0 := by
  rw [h.created.count_eq, List.count_append, h.nodup.1.count, h.nodup.2.count]

/-- Both report an index as created if at some time both were about to ask for it. -/
theorem contended_iff (i : IndexSpec) : start.Contended i turns ↔
    .index i ∈ r₁.creations ∧ .index i ∈ r₂.creations := by
  have hgreatest := (race (h.wary i) h.succeeds).greatest
  have hover : (start.takeTurns turns).contenders i = 0 := List.countP_eq_zero.2 fun t ht => by
    obtain ⟨result, rfl⟩ := h.done t ht
    exact Bool.false_ne_true
  rw [hover, Nat.add_zero, h.count_created] at hgreatest
  constructor
  · rintro ⟨before, hbefore, hall⟩
    have hboth : (start.takeTurns before).contenders i = 2 :=
      (List.countP_eq_length.2 hall).trans (h.two before)
    have hle := hgreatest.2 ⟨before, hbefore, hboth⟩
    by_cases h₁ : .index i ∈ r₁.creations <;> by_cases h₂ : .index i ∈ r₂.creations
    · exact ⟨h₁, h₂⟩
    all_goals
      simp only [h₁, h₂, if_true, if_false] at hle
      omega
  · rintro ⟨h₁, h₂⟩
    obtain ⟨before, hbefore, hcontenders⟩ := hgreatest.1
    rw [if_pos h₁, if_pos h₂] at hcontenders
    exact ⟨before, hbefore, List.countP_eq_length.1 (hcontenders.trans (h.two before).symm)⟩

/-- What was created once is reported by exactly one client. -/
theorem xor_of_count_eq_one {d : Declaration} (hd : (start.created turns).count d = 1) :
    Xor (r₁.Creates d) (r₂.Creates d) := by
  rw [h.count_created] at hd
  rw [← Report.mem_creations_iff, ← Report.mem_creations_iff]
  by_cases h₁ : d ∈ r₁.creations <;> by_cases h₂ : d ∈ r₂.creations
  · simp only [h₁, h₂, if_true] at hd
    omega
  · exact .inl ⟨h₁, h₂⟩
  · exact .inr ⟨h₂, h₁⟩
  · simp only [h₁, h₂, if_false] at hd
    omega

/-- The collections that were created are those that are new, once each. -/
theorem nodup_collections : ((start.created turns).filterMap Declaration.collection?).Nodup ∧
    ∀ name, name ∈ (start.created turns).filterMap Declaration.collection? ↔
      start.catalog.collections.get? name = none ∧
        (start.takeTurns turns).catalog.collections.get? name ≠ none := by
  have hcount : ∀ name, ((start.created turns).filterMap Declaration.collection?).count name +
      start.catalog.presence name = (start.takeTurns turns).catalog.presence name := fun name => by
    rw [Declaration.count_collections]
    exact count_created_collection h.home turns name
  have hone : ∀ (c : Catalog) (name : CollectionName), c.presence name ≤ 1 :=
    fun _ _ => Bool.toNat_le _
  refine ⟨List.nodup_iff_count_le_one.2 fun name => ?_, fun name => ?_⟩
  · have hafter := hone (start.takeTurns turns).catalog name
    have hname := hcount name
    omega
  · rw [← List.count_pos_iff, ne_eq, ← Catalog.presence_eq_zero_iff,
      ← Catalog.presence_eq_zero_iff]
    have hafter := hone (start.takeTurns turns).catalog name
    have hname := hcount name
    omega

/-- The indexes that were created are those that were added, and once more those that both clients
report. -/
theorem perm_indexes {specs : List IndexSpec} (hspecs : start.Additions turns specs) :
    ((start.created turns).filterMap Declaration.index?).Perm (specs ++ specs.filter fun i =>
      .index i ∈ r₁.creations ∧ .index i ∈ r₂.creations) := by
  rw [List.perm_iff_count]
  intro i
  have hmem : i ∈ specs ↔ .index i ∈ r₁.creations ∨ .index i ∈ r₂.creations := by
    rw [hspecs.mem, h.created.mem_iff, List.mem_append]
  rw [Declaration.count_indexes, h.count_created, List.count_append, hspecs.nodup.count,
    (hspecs.nodup.filter _).count]
  by_cases h₁ : .index i ∈ r₁.creations <;> by_cases h₂ : .index i ∈ r₂.creations <;>
    simp [List.mem_filter, hmem, h₁, h₂]

end Both

/-- Two clients apply schemas at the same time, both without an error. Then every new collection is
reported as created by exactly one of them, and so is every new index that they did not race for:
at no time were both about to ask for it. An index that they raced for is reported by both. So
the numbers of what they report as created add up to that of the new collections and indexes, and
once more that of the indexes that they raced for. -/
theorem created_twice_after_race (c : Catalog) (s₁ s₂ : Schema) (turns : List (Nat × Int64))
    (r₁ r₂ : Report)
    (hends : ((Clients.mk c [apply s₁, apply s₂]).takeTurns turns).tasks =
      [.done (.ok r₁.outcomes), .done (.ok r₂.outcomes)]) :
    let start := Clients.mk c [apply s₁, apply s₂]
    ∃ (names : List CollectionName) (specs raced : List IndexSpec),
      c.Added (start.takeTurns turns).catalog names specs ∧ raced.Sublist specs ∧
      (∀ i ∈ specs, i ∈ raced ↔ start.Contended i turns) ∧
      (∀ name ∈ names, Xor (r₁.Creates (.collection name)) (r₂.Creates (.collection name))) ∧
      (∀ i ∈ specs, i ∉ raced → Xor (r₁.Creates (.index i)) (r₂.Creates (.index i))) ∧
      (∀ i ∈ raced, r₁.Creates (.index i) ∧ r₂.Creates (.index i)) ∧
      r₁.created + r₂.created = names.length + specs.length + raced.length := by
  intro start
  have h : start.Both turns r₁ r₂ := both_of_apply rfl hends
  obtain ⟨specs, hspecs⟩ := exists_additions h.wary h.succeeds
  obtain ⟨hnodup, hnames⟩ := h.nodup_collections
  have hone : ∀ d, (start.created turns).count d = 1 → Xor (r₁.Creates d) (r₂.Creates d) :=
    fun d => h.xor_of_count_eq_one
  refine ⟨(start.created turns).filterMap Declaration.collection?, specs, specs.filter fun i =>
    .index i ∈ r₁.creations ∧ .index i ∈ r₂.creations,
    ⟨hnodup, hspecs.nodup, hnames, hspecs.indexes⟩, List.filter_sublist, fun i hi => ?_,
    fun name hname => hone _ ?_, fun i hi hraced => hone _ ?_, fun i hi => ?_, ?_⟩
  · rw [h.contended_iff, List.mem_filter, decide_eq_true_iff, and_iff_right hi]
  · rw [← Declaration.count_collections]
    exact List.count_eq_one_of_mem hnodup hname
  · rw [← Declaration.count_indexes, (h.perm_indexes hspecs).count_eq, List.count_append,
      List.count_eq_one_of_mem hspecs.nodup hi, List.count_eq_zero.2 hraced]
  · rw [← Report.mem_creations_iff, ← Report.mem_creations_iff]
    exact of_decide_eq_true (List.mem_filter.1 hi).2
  · rw [← r₁.length_creations, ← r₂.length_creations, ← List.length_append,
      ← h.created.length_eq, Declaration.length_eq_add, (h.perm_indexes hspecs).length_eq,
      List.length_append, Nat.add_assoc]

open Bootstrap (carts cartOwner emptyShop shoppers inTurn)

/-- What a client reports of the carts that has created the index, given what happened to the
collection. -/
def cartReport (action : Action) : Report where
  database := carts.database
  dryRun := false
  startedAt := 0
  finishedAt := 0
  outcomes := [⟨.collection cartOwner.collection, action⟩, ⟨.index cartOwner, .created⟩]

/-- A second client that lists the indexes before the first one has created any reports the same
index as created. -/
theorem created_twice_after_race_carts :
    (shoppers.takeTurns inTurn).tasks = [.done (.ok (cartReport .created).outcomes),
        .done (.ok (cartReport .unchanged).outcomes)] ∧
      ∃ (names : List CollectionName) (specs raced : List IndexSpec),
        emptyShop.catalog.Added (shoppers.takeTurns inTurn).catalog names specs ∧
          names.length + specs.length + raced.length = 3 := by
  have hends : (shoppers.takeTurns inTurn).tasks = [.done (.ok (cartReport .created).outcomes),
      .done (.ok (cartReport .unchanged).outcomes)] := rfl
  obtain ⟨names, specs, raced, hadded, -, -, -, -, -, hsum⟩ :=
    created_twice_after_race emptyShop.catalog carts carts inTurn _ _ hends
  exact ⟨hends, names, specs, raced, hadded, hsum.symm⟩

/-- In a shop without a failure two clients apply one valid schema, both without an error. There are
one collection and one index that are new, and both clients report the index as created; what they
report adds up to three. -/
theorem both_report_one_index :
    let r₁ := cartReport .created
    let r₂ := cartReport .unchanged
    let last := (shoppers.takeTurns inTurn).catalog
    carts.validate = .ok () ∧ emptyShop.catalog.failure = none ∧
      shoppers = ⟨emptyShop.catalog, [apply carts, apply carts]⟩ ∧
      (shoppers.takeTurns inTurn).tasks = [.done (.ok r₁.outcomes), .done (.ok r₂.outcomes)] ∧
      emptyShop.catalog.Added last [cartOwner.collection] [cartOwner] ∧
      ¬ Xor (r₁.Creates (.index cartOwner)) (r₂.Creates (.index cartOwner)) ∧
      r₁.created + r₂.created ≠ [cartOwner.collection].length + [cartOwner].length := by
  intro r₁ r₂ last
  have hlast : last =
      (emptyShop.catalog.addCollections [cartOwner.collection]).addIndex cartOwner := rfl
  have hboth : r₁.Creates (.index cartOwner) ∧ r₂.Creates (.index cartOwner) :=
    ⟨List.mem_cons_of_mem _ List.mem_cons_self, List.mem_cons_of_mem _ List.mem_cons_self⟩
  refine ⟨by decide, rfl, rfl, rfl, ⟨List.nodup_singleton _, List.nodup_singleton _,
    fun name => ?_, fun name => ?_⟩, ?_, by decide⟩
  · have hbefore : emptyShop.catalog.collections.get? name = none := rfl
    rw [hlast, Catalog.addIndex, Catalog.seedIndex, Catalog.get?_setCollection,
      Catalog.get?_addCollections, hbefore]
    by_cases hname : name = cartOwner.collection
    · subst hname
      simp
    · simp [hname, Ne.symm hname]
  · rw [hlast, Catalog.collection_addIndex, Catalog.collection_addCollections]
  · rintro (⟨-, hnot⟩ | ⟨-, hnot⟩)
    · exact hnot hboth.2
    · exact hnot hboth.1

end Clients

end DocSchema
