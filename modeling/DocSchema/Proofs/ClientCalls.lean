import DocSchema.Proofs.Conversations
import DocSchema.Proofs.StableApplies

/-!
# DocSchema.Proofs.ClientCalls

The calls of clients that apply schemas, each seen from the client that makes it.

The calls that a client makes when it has the turn are a conversation of its task, whatever others
call in between (`conversation_callsOf`), and the calls of two clients are those of the one and
those of the other (`calls_perm`). A client asks for the indexes of a collection after the
collection, which is there to stay, so none comes into being by the way (`keepsHome_apply`).
-/

namespace DocSchema

/-! ## Where indexes are asked for -/

namespace Bootstrap

variable {α : Type} {c : Catalog} {good : Catalog → Prop}

/-- The course of a catalog on which nothing is put into a collection that does not exist. -/
def homely : Course where
  Stage := Catalog
  catalog c := c
  Later := Catalog.Later
  Permits c r := r.AtHome c
  refl := Catalog.Later.refl
  trans := Catalog.Later.trans

/-- Whether a task puts nothing into a collection that does not exist, and ends without an error
only where something holds, whatever other clients do in between. -/
def KeepsHome (t : Task α) (good : Catalog → Prop) (c : Catalog) : Prop :=
  t.Ensures homely (fun _ => good) (fun _ _ => True) c

/-- A request is answered by some later catalog. -/
theorem keepsHome_ask {starts : Option String} {r : Request} {next : r.Result → Task α}
    (hr : ∀ c', c.Later c' → r.AtHome c')
    (hnext : ∀ c' now, c.Later c' →
      KeepsHome (next (c'.answer now r).1) good (c'.answer now r).2) :
    KeepsHome (.ask starts r next) good c := fun c' hlater =>
  ⟨hr c' hlater, fun now => ⟨_, Catalog.later_answer c' now r, rfl, hnext c' now hlater⟩⟩

theorem keepsHome_ensureCollection (name : CollectionName) (c : Catalog) :
    KeepsHome (ensureCollection name) (fun c' => c'.collections.get? name ≠ none) c := by
  rw [ensureCollection_eq]
  refine keepsHome_ask (fun _ _ => trivial) fun c' now _ => ?_
  cases hresult : (c'.answer now (.createCollection name)).1 with
  | error e => trivial
  | ok creation =>
      have hexists := Catalog.get?_of_createCollection hresult
      cases creation with
      | created => exact hexists
      | alreadyExists => exact hexists

/-- An index may be asked for where its collection exists. -/
theorem keepsHome_ensureIndex {i : IndexSpec} (h : c.collections.get? i.collection ≠ none) :
    KeepsHome (ensureIndex i) (fun _ => True) c := by
  rw [ensureIndex_eq]
  refine keepsHome_ask (fun _ _ => trivial) fun c' now hlater => ?_
  cases (c'.answer now (.listIndexes i.collection)).1 with
  | error e => trivial
  | ok existing =>
      dsimp only
      cases i.definition.stateIn existing with
      | identical => trivial
      | conflicting x => trivial
      | missing =>
          have hlisted := Catalog.later_answer c' now (.listIndexes i.collection)
          refine keepsHome_ask (fun c'' hafter => ?_) fun c'' now _ => ?_
          · exact ((hlater.trans hlisted).trans hafter).get?_ne_none h
          cases (c''.answer now (.createIndex i)).1 <;> trivial

/-- Whether the collections of some declared indexes exist. -/
def HaveCollections (specs : List IndexSpec) (c : Catalog) : Prop :=
  ∀ i ∈ specs, c.collections.get? i.collection ≠ none

/-- Indexes may be asked for where all their collections exist. -/
theorem keepsHome_indexes {specs : List IndexSpec} (h : HaveCollections specs c) :
    KeepsHome (Task.each ensureIndex specs) (fun _ => True) c := by
  have heach : KeepsHome (Task.each ensureIndex specs) (HaveCollections []) c := by
    refine Task.ensures_each (k := homely) (fun i rest c' hall => ?_) h
    obtain ⟨hi, hrest⟩ := List.forall_mem_cons.1 hall
    exact (keepsHome_ensureIndex hi).imp
      (fun _ _ hlater _ j hj => hlater.get?_ne_none (hrest j hj)) fun _ _ _ _ => trivial
  exact heach.imp (fun _ _ _ _ => trivial) fun _ _ _ _ => trivial

/-- Whoever applies a schema asks for the indexes of a collection after the collection. -/
theorem keepsHome_apply (s : Schema) (c : Catalog) : KeepsHome (apply s) (fun _ => True) c := by
  cases hvalid : s.validate with
  | error e =>
      rw [apply_of_invalid hvalid]
      trivial
  | ok =>
      have hdeclared := (Schema.validate_eq_ok_iff.1 hvalid).declared
      rw [apply_of_valid hvalid]
      have hconnection : KeepsHome checkConnection (fun _ => True) c :=
        keepsHome_ask (fun _ _ => trivial) fun c' now _ => by
          cases (c'.answer now .ping).1 <;> trivial
      refine Task.Ensures.bind (hconnection.imp (fun _ c _ _ => ?_) fun _ _ _ _ => trivial)
      have hcollections : KeepsHome (Task.each ensureCollection s.collections)
          (fun c' => ∀ name ∈ s.collections, c'.collections.get? name ≠ none) c :=
        Task.ensures_each_lasting (k := homely) keepsHome_ensureCollection
          (fun _ _ _ hlater => hlater.get?_ne_none) s.collections c
      refine Task.Ensures.bind (hcollections.imp (fun _ c _ hnames => ?_) fun _ _ _ _ => trivial)
      have hindexes : HaveCollections s.indexes c :=
        fun i hi => hnames i.collection (hdeclared i hi)
      exact Task.Ensures.bind ((keepsHome_indexes hindexes).imp (fun _ _ _ _ => trivial)
        fun _ _ _ _ => trivial)

end Bootstrap

/-! ## What each of several clients calls -/

namespace Clients

variable {w : Clients} {turns : List (Nat × Int64)}

/-- The calls of one client in a list of turns. -/
def callsOf (w : Clients) (client : Nat) : List (Nat × Int64) → List Call
  | [] => []
  | turn :: turns =>
    (if turn.1 = client then (w.call? turn).toList else []) ++
      (w.takeTurn turn).callsOf client turns

/-- The calls of a client that has ended are a conversation of its task. -/
theorem conversation_callsOf {client : Nat} {t : Task (List Outcome)}
    {result : Except BootstrapError (List Outcome)} (ht : w.tasks[client]? = some t)
    (hends : (w.takeTurns turns).tasks[client]? = some (.done result)) :
    t.Conversation (w.callsOf client turns) result := by
  induction turns generalizing w t with
  | nil =>
      obtain rfl : t = .done result := Option.some.inj (ht.symm.trans hends)
      exact .done result
  | cons turn turns ih =>
      rw [takeTurns_cons] at hends
      rw [callsOf]
      by_cases hturn : turn.1 = client
      · subst hturn
        have hrest := ih (getElem?_takeTurn_self ht) hends
        rw [if_pos rfl, call?, ht]
        cases t with
        | done other => exact hrest
        | ask starts r next => exact .ask _ hrest
      · rw [if_neg hturn]
        exact ih ((getElem?_takeTurn_of_ne hturn).trans ht) hends

/-- The calls of two clients are those of the one and those of the other. -/
theorem calls_perm (h : w.tasks.length = 2) (turns : List (Nat × Int64)) :
    (w.calls turns).Perm (w.callsOf 0 turns ++ w.callsOf 1 turns) := by
  induction turns generalizing w with
  | nil => exact .nil
  | cons turn turns ih =>
      have hrest := ih ((length_takeTurns w [turn]).trans h)
      rw [calls, callsOf, callsOf]
      rcases turn with ⟨_ | _ | client, now⟩
      · rw [if_pos rfl, if_neg Nat.zero_ne_one, List.append_assoc]
        exact hrest.append_left _
      · rw [if_neg Nat.one_ne_zero, if_pos rfl]
        exact (hrest.append_left _).trans (List.perm_append_comm_assoc _ _ _)
      · have hnone : w.call? (client + 2, now) = none := by
          rw [call?, List.getElem?_eq_none (by omega)]
        rw [hnone, if_neg (by omega), if_neg (by omega)]
        exact hrest

end Clients

end DocSchema
