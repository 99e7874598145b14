import DocSchema.Proofs.Conversations
import DocSchema.Proofs.PlanRuns

/-!
# DocSchema.Proofs.CallSequences

Which requests applying and planning make of a store, whatever it replies, and what they report.

Each declaration makes its requests in one of few ways (`CollectionCalls`, `IndexCalls`,
`PlannedIndexCalls`), and a command goes through its declarations up to the first error. The
requests then are those that the listings of the store ask for (`applyRequests`), cut off after the
first call that fails: an index is created where it is missing from the listing right before, and
nowhere else.
-/

namespace DocSchema

namespace Call

/-- The indexes that a call listed. -/
def listing? : Call → Option (List IndexDefinition)
  | ⟨.listIndexes _, .ok existing⟩ => some existing
  | _ => none

/-- Whether a call created a collection or found it. -/
def creation? : Call → Option Creation
  | ⟨.createCollection _, .ok creation⟩ => some creation
  | _ => none

end Call

namespace Bootstrap

variable {α : Type} {s : Schema} {calls before after : List Call}

/-! ## The calls of one declaration -/

/-- What happens to a collection that was created or found. -/
def creationAction : Creation → Action
  | .created => .created
  | .alreadyExists => .unchanged

/-- What happens to an index in some state that is no conflict. -/
def appliedAction : IndexState → Action
  | .missing => .created
  | _ => .unchanged

/-- The calls for a declared collection. -/
inductive CollectionCalls (name : CollectionName) :
    List Call → Except BootstrapError Outcome → Prop where
  | answered (creation : Creation) :
      CollectionCalls name [⟨.createCollection name, .ok creation⟩]
        (.ok ⟨.collection name, creationAction creation⟩)
  | failed (e : StoreError) :
      CollectionCalls name [⟨.createCollection name, .error e⟩] (.error (.ofStore e))

/-- The calls for a declared index: a listing, and a creation where the index is missing from it. -/
inductive IndexCalls (i : IndexSpec) : List Call → Except BootstrapError Outcome → Prop where
  | unlisted (e : StoreError) :
      IndexCalls i [⟨.listIndexes i.collection, .error e⟩] (.error (.ofStore e))
  | identical (existing : List IndexDefinition)
      (hstate : i.definition.stateIn existing = .identical) :
      IndexCalls i [⟨.listIndexes i.collection, .ok existing⟩] (.ok ⟨.index i, .unchanged⟩)
  | conflicting (existing : List IndexDefinition) (x : IndexDefinition)
      (hstate : i.definition.stateIn existing = .conflicting x) :
      IndexCalls i [⟨.listIndexes i.collection, .ok existing⟩]
        (.error (.conflictingDefinition i.collection.text x.name (difference x i.definition)))
  | created (existing : List IndexDefinition)
      (hstate : i.definition.stateIn existing = .missing) :
      IndexCalls i [⟨.listIndexes i.collection, .ok existing⟩, ⟨.createIndex i, .ok ()⟩]
        (.ok ⟨.index i, .created⟩)
  | refused (existing : List IndexDefinition)
      (hstate : i.definition.stateIn existing = .missing) (e : StoreError) :
      IndexCalls i [⟨.listIndexes i.collection, .ok existing⟩, ⟨.createIndex i, .error e⟩]
        (.error (.ofStore e))

/-- The calls for planning an index: a listing. -/
inductive PlannedIndexCalls (i : IndexSpec) :
    List Call → Except BootstrapError Outcome → Prop where
  | unlisted (e : StoreError) :
      PlannedIndexCalls i [⟨.listIndexes i.collection, .error e⟩] (.error (.ofStore e))
  | listed (existing : List IndexDefinition) :
      PlannedIndexCalls i [⟨.listIndexes i.collection, .ok existing⟩]
        (.ok ⟨.index i, plannedAction i (i.definition.stateIn existing)⟩)

theorem collectionCalls_of_conversation {name : CollectionName}
    {result : Except BootstrapError Outcome}
    (h : (ensureCollection name).Conversation calls result) :
    CollectionCalls name calls result := by
  rw [ensureCollection_eq] at h
  obtain ⟨reply, rest, rfl, hrest⟩ := Task.conversation_ask h
  match reply, hrest with
  | .ok .created, hrest =>
      obtain ⟨rfl, rfl⟩ := Task.conversation_done hrest
      exact .answered .created
  | .ok .alreadyExists, hrest =>
      obtain ⟨rfl, rfl⟩ := Task.conversation_done hrest
      exact .answered .alreadyExists
  | .error e, hrest =>
      obtain ⟨rfl, rfl⟩ := Task.conversation_done hrest
      exact .failed e

theorem indexCalls_of_conversation {i : IndexSpec} {result : Except BootstrapError Outcome}
    (h : (ensureIndex i).Conversation calls result) : IndexCalls i calls result := by
  rw [ensureIndex_eq] at h
  obtain ⟨reply, rest, rfl, hrest⟩ := Task.conversation_ask h
  match reply, hrest with
  | .error e, hrest =>
      obtain ⟨rfl, rfl⟩ := Task.conversation_done hrest
      exact .unlisted e
  | .ok existing, hrest =>
      change (finishIndex i (i.definition.stateIn existing)).Conversation rest result at hrest
      cases hstate : i.definition.stateIn existing with
      | identical =>
          rw [hstate] at hrest
          obtain ⟨rfl, rfl⟩ := Task.conversation_done hrest
          exact .identical existing hstate
      | conflicting x =>
          rw [hstate] at hrest
          obtain ⟨rfl, rfl⟩ := Task.conversation_done hrest
          exact .conflicting existing x hstate
      | missing =>
          rw [hstate] at hrest
          obtain ⟨reply, last, rfl, hlast⟩ := Task.conversation_ask hrest
          match reply, hlast with
          | .ok (), hlast =>
              obtain ⟨rfl, rfl⟩ := Task.conversation_done hlast
              exact .created existing hstate
          | .error e, hlast =>
              obtain ⟨rfl, rfl⟩ := Task.conversation_done hlast
              exact .refused existing hstate e

theorem plannedIndexCalls_of_conversation {i : IndexSpec}
    {result : Except BootstrapError Outcome} (h : (planIndex i).Conversation calls result) :
    PlannedIndexCalls i calls result := by
  rw [planIndex_eq] at h
  obtain ⟨reply, rest, rfl, hrest⟩ := Task.conversation_ask h
  match reply, hrest with
  | .error e, hrest =>
      obtain ⟨rfl, rfl⟩ := Task.conversation_done hrest
      exact .unlisted e
  | .ok existing, hrest =>
      obtain ⟨rfl, rfl⟩ := Task.conversation_done hrest
      exact .listed existing

/-! ## The calls of a command -/

/-- The calls for applying a valid schema. -/
inductive ApplyCalls (s : Schema) : List Call → Except BootstrapError (List Outcome) → Prop where
  | unreachable (e : StoreError) :
      ApplyCalls s [⟨.ping, .error e⟩] (.error (.connection e.message))
  | stopped {calls : List Call} {e : BootstrapError}
      (hcollections : Task.Series CollectionCalls s.collections calls (.error e)) :
      ApplyCalls s (⟨.ping, .ok ()⟩ :: calls) (.error e)
  | created {before after : List Call} {collections : List Outcome}
      {indexes : Except BootstrapError (List Outcome)}
      (hcollections : Task.Series CollectionCalls s.collections before (.ok collections))
      (hindexes : Task.Series IndexCalls s.indexes after indexes) :
      ApplyCalls s (⟨.ping, .ok ()⟩ :: (before ++ after)) (indexes.map (collections ++ ·))

/-- The calls for planning a valid schema. -/
inductive PlanCalls (s : Schema) : List Call → Except BootstrapError (List Outcome) → Prop where
  | unreachable (e : StoreError) :
      PlanCalls s [⟨.ping, .error e⟩] (.error (.connection e.message))
  | unlisted (e : StoreError) :
      PlanCalls s [⟨.ping, .ok ()⟩, ⟨.listCollections, .error e⟩] (.error (.ofStore e))
  | planned (existing : List String) {calls : List Call}
      {indexes : Except BootstrapError (List Outcome)}
      (hindexes : Task.Series PlannedIndexCalls s.indexes calls indexes) :
      PlanCalls s (⟨.ping, .ok ()⟩ :: ⟨.listCollections, .ok existing⟩ :: calls)
        (indexes.map (s.collections.map (planCollection existing) ++ ·))

/-- Without an error the calls for all collections come first, and those for all indexes after
them. -/
theorem ApplyCalls.of_ok {outcomes : List Outcome} (h : ApplyCalls s calls (.ok outcomes)) :
    ∃ before after collections indexes, calls = ⟨.ping, .ok ()⟩ :: (before ++ after) ∧
      outcomes = collections ++ indexes ∧
      Task.Series CollectionCalls s.collections before (.ok collections) ∧
      Task.Series IndexCalls s.indexes after (.ok indexes) := by
  generalize hresult : Except.ok outcomes = result at h
  cases h with
  | unreachable e => contradiction
  | stopped hcollections => contradiction
  | @created before after collections indexes hcollections hindexes =>
      cases indexes with
      | error e => contradiction
      | ok indexes =>
          obtain rfl := Except.ok.inj hresult
          exact ⟨before, after, collections, indexes, rfl, rfl, hcollections, hindexes⟩

/-- Without an error the collections are listed once, and all indexes after them. -/
theorem PlanCalls.of_ok {outcomes : List Outcome} (h : PlanCalls s calls (.ok outcomes)) :
    ∃ existing after indexes,
      calls = ⟨.ping, .ok ()⟩ :: ⟨.listCollections, .ok existing⟩ :: after ∧
      outcomes = s.collections.map (planCollection existing) ++ indexes ∧
      Task.Series PlannedIndexCalls s.indexes after (.ok indexes) := by
  generalize hresult : Except.ok outcomes = result at h
  cases h with
  | unreachable e => contradiction
  | unlisted e => contradiction
  | @planned existing after indexes hindexes =>
      cases indexes with
      | error e => contradiction
      | ok indexes =>
          obtain rfl := Except.ok.inj hresult
          exact ⟨existing, after, indexes, rfl, rfl, hindexes⟩

/-- The check of the connection is one call, and any failure of it ends the run. -/
theorem checkConnection_calls {result : Except BootstrapError Unit}
    (h : checkConnection.Conversation calls result) :
    (calls = [⟨.ping, .ok ()⟩] ∧ result = .ok ()) ∨
      ∃ e, calls = [⟨.ping, .error e⟩] ∧ result = .error (.connection e.message) := by
  obtain ⟨reply, rest, rfl, hrest⟩ := Task.conversation_ask h
  obtain ⟨rfl, rfl⟩ := Task.conversation_done hrest
  match reply with
  | .ok () => exact .inl ⟨rfl, rfl⟩
  | .error e => exact .inr ⟨e, rfl, rfl⟩

/-- A last step that only adds to the outcomes makes no calls. -/
theorem conversation_bind_pure {t : Task (List Outcome)} {f : List Outcome → List Outcome}
    {result : Except BootstrapError (List Outcome)}
    (h : (t >>= fun outcomes => pure (f outcomes)).Conversation calls result) :
    ∃ first, t.Conversation calls first ∧ result = first.map f := by
  rcases h.bind with ⟨outcomes, before, after, rfl, hfirst, hlast⟩ | ⟨e, rfl, he⟩
  · obtain ⟨rfl, rfl⟩ := Task.conversation_done hlast
    rw [List.append_nil]
    exact ⟨.ok outcomes, hfirst, rfl⟩
  · exact ⟨.error e, he, rfl⟩

theorem applyCalls_of_conversation (hvalid : s.validate = .ok ())
    {result : Except BootstrapError (List Outcome)}
    (h : (apply s).Conversation calls result) : ApplyCalls s calls result := by
  rw [apply_of_valid hvalid] at h
  rcases h.bind with ⟨_, before, rest, rfl, hping, hrest⟩ | ⟨e, rfl, he⟩
  · rcases checkConnection_calls hping with ⟨rfl, -⟩ | ⟨e, -, he⟩
    · rcases hrest.bind with ⟨collections, before, after, rfl, hbefore, hafter⟩ | ⟨e, rfl, he⟩
      · obtain ⟨indexes, hindexes, rfl⟩ := conversation_bind_pure hafter
        rw [List.singleton_append]
        exact .created (Task.series_of_each (fun _ _ _ => collectionCalls_of_conversation) hbefore)
          (Task.series_of_each (fun _ _ _ => indexCalls_of_conversation) hindexes)
      · exact .stopped (Task.series_of_each (fun _ _ _ => collectionCalls_of_conversation) he)
    · contradiction
  · rcases checkConnection_calls he with ⟨-, hok⟩ | ⟨e, rfl, herror⟩
    · contradiction
    · obtain rfl := Except.error.inj herror
      exact .unreachable e

theorem planCalls_of_conversation (hvalid : s.validate = .ok ())
    {result : Except BootstrapError (List Outcome)}
    (h : (plan s).Conversation calls result) : PlanCalls s calls result := by
  rw [plan_of_valid hvalid] at h
  rcases h.bind with ⟨_, before, rest, rfl, hping, hrest⟩ | ⟨e, rfl, he⟩
  · rcases checkConnection_calls hping with ⟨rfl, -⟩ | ⟨e, -, he⟩
    · obtain ⟨reply, rest, rfl, hreply⟩ := Task.conversation_ask hrest
      match reply, hreply with
      | .ok existing, hreply =>
          obtain ⟨indexes, hindexes, rfl⟩ := conversation_bind_pure hreply
          exact .planned existing
            (Task.series_of_each (fun _ _ _ => plannedIndexCalls_of_conversation) hindexes)
      | .error e, hreply =>
          obtain ⟨rfl, rfl⟩ := Task.conversation_done hreply
          exact .unlisted e
    · contradiction
  · rcases checkConnection_calls he with ⟨-, hok⟩ | ⟨e, rfl, herror⟩
    · contradiction
    · obtain rfl := Except.error.inj herror
      exact .unreachable e

end Bootstrap

end DocSchema
