import DocSchema.Proofs.CreationRaces
import Mathlib.Data.List.Nodup

/-!
# DocSchema.Proofs.AddedIndexes

Which indexes clients add that look for them first.

However many clients race for an index and are told that it was created, it is added once: the first
finds it missing still, and the others find it there. No other request touches an index
(`indexes_answer`), so in the end every collection has the indexes that it had at the start, and
after them those that were created, once each (`exists_additions`).
-/

namespace DocSchema

namespace Catalog

variable {c c' : Catalog} {now : Int64}

/-- No other request touches an index. -/
theorem indexes_answer {r : Request} (hr : ∀ i, r ≠ .createIndex i) (name : CollectionName) :
    ((c.answer now r).2.collection name).indexes = (c.collection name).indexes := by
  unfold answer
  cases c.refusal? r.isWrite with
  | some e => rfl
  | none =>
      cases r with
      | ping | listCollections | listIndexes other => rfl
      | createCollection other =>
          simp only [perform]
          cases hget : c.collections.get? other with
          | some content => rfl
          | none =>
              refine indexes_setCollection ?_ name
              rw [collection_of_get?_eq_none hget]
      | createIndex i => exact absurd rfl (hr i)
      | insert other d =>
          simp only [perform, insert_eq]
          cases (c.collection other).indexes.find? (refuses (c.collection other).documents d) with
          | some x => rfl
          | none =>
              refine indexes_setCollection ?_ name
              rfl
      | softDelete other field value =>
          simp only [perform, softDelete]
          cases hget : c.collections.get? other with
          | none => rfl
          | some content =>
              refine indexes_setCollection ?_ name
              rw [collection_of_get?_eq_some hget]

/-- A declared index that was missing and is there now is one of those that were added. -/
theorem mem_of_stateOf {i : IndexSpec} {specs : List IndexSpec} (hmissing : c.stateOf i = .missing)
    (hindexes : (c'.collection i.collection).indexes =
      (c.collection i.collection).indexes ++ definitionsOn i.collection specs)
    (hidentical : c'.stateOf i = .identical) : i ∈ specs := by
  obtain ⟨⟨x, hx, hrelated⟩, hagrees⟩ := IndexDefinition.stateIn_eq_identical_iff.1 hidentical
  have hagree := hagrees x hx hrelated
  rw [hindexes] at hx
  rcases List.mem_append.1 hx with hold | hnew
  · rw [IndexDefinition.stateIn_eq_missing_iff.1 hmissing x hold] at hrelated
    contradiction
  · obtain ⟨j, hj, rfl⟩ := List.mem_map.1 hnew
    obtain ⟨hspecs, hcollection⟩ := List.mem_filter.1 hj
    have hon : i.collection = j.collection := (of_decide_eq_true hcollection).symm
    have hsame : i = j := (IndexSpec.agrees_definition_iff_eq hon).1 hagree
    exact hsame ▸ hspecs

end Catalog

namespace Clients

variable {w : Clients} {i : IndexSpec} {turn : Nat × Int64} {turns : List (Nat × Int64)}

/-- A turn with a call leaves the catalog as the answer does. -/
theorem exists_answer_of_call {call : Call} (h : w.call? turn = some call) :
    ∃ r, call = ⟨r, (w.catalog.answer turn.2 r).1⟩ ∧
      (w.takeTurn turn).catalog = (w.catalog.answer turn.2 r).2 := by
  unfold call? at h
  split at h
  · next starts r next ht =>
    refine ⟨r, (Option.some.inj h).symm, ?_⟩
    rw [takeTurn, step_advance ht]
    rfl
  · contradiction

theorem catalog_takeTurn_of_no_call (h : w.call? turn = none) :
    (w.takeTurn turn).catalog = w.catalog := by
  cases ht : w.tasks[turn.1]? with
  | none => rw [takeTurn, step_advance_of_none ht]
  | some t =>
      cases t with
      | done result =>
          rw [takeTurn, step_advance ht]
          rfl
      | ask starts r next =>
          simp only [call?, ht] at h
          contradiction

/-- A turn that creates no index, and in which no call fails, leaves all indexes alone. -/
theorem indexes_takeTurn (hok : ∀ call, w.call? turn = some call → call.failed = false)
    (hcall : ∀ i, w.call? turn ≠ some ⟨.createIndex i, .ok ()⟩) (name : CollectionName) :
    ((w.takeTurn turn).catalog.collection name).indexes =
      (w.catalog.collection name).indexes := by
  cases h : w.call? turn with
  | none => rw [catalog_takeTurn_of_no_call h]
  | some call =>
      obtain ⟨r, rfl, hcatalog⟩ := exists_answer_of_call h
      rw [hcatalog]
      refine Catalog.indexes_answer (fun i hr => ?_) name
      subst hr
      exact hcall i (h.trans (congrArg some (Call.createIndex_of_not_failed (hok _ h))))

/-- The indexes that have been added after some turns, once each, however often they were
created. -/
structure Additions (start : Clients) (turns : List (Nat × Int64)) (specs : List IndexSpec) :
    Prop where
  nodup : specs.Nodup
  indexes : ∀ name, ((start.takeTurns turns).catalog.collection name).indexes =
    (start.catalog.collection name).indexes ++ Catalog.definitionsOn name specs
  mem : ∀ i, i ∈ specs ↔ .index i ∈ start.created turns

/-- A turn in which an index is created adds it if it is missing. -/
theorem Additions.of_created {start : Clients} {specs : List IndexSpec}
    (h : start.Additions turns specs) (hrace : start.Race i turns)
    (hcall : (start.takeTurns turns).call? turn = some ⟨.createIndex i, .ok ()⟩) :
    ∃ specs', start.Additions (turns ++ [turn]) specs' := by
  have hcreated : start.created (turns ++ [turn]) = start.created turns ++ [.index i] := by
    rw [created_append, hcall]
    rfl
  obtain ⟨r, hr, hcatalog⟩ := exists_answer_of_call hcall
  obtain ⟨rfl, hresult⟩ := Call.mk.inj hr
  rw [← takeTurns_append] at hcatalog
  rcases Catalog.eq_of_createIndex (eq_of_heq hresult).symm with
    ⟨hstate, hafter⟩ | ⟨hstate, hafter⟩
  · -- The index is there, so it has been added since the start.
    have hmissing : start.catalog.stateOf i = .missing := by
      by_contra hthere
      have hnone := hrace.settled hthere
      have hsome := (contenders_of_created hrace.wary hcall).1
      omega
    have hadded : i ∈ specs := Catalog.mem_of_stateOf hmissing (h.indexes _) hstate
    refine ⟨specs, h.nodup, fun name => ?_, fun j => ?_⟩
    · rw [hcatalog, hafter, h.indexes]
    · rw [hcreated, List.mem_append, ← h.mem, List.mem_singleton, Declaration.index.injEq]
      exact ⟨.inl, fun hj => hj.elim id fun hj => hj ▸ hadded⟩
  · have hnew : i ∉ specs := fun hold =>
      List.count_eq_zero.1 (hrace.missing hstate) ((h.mem i).1 hold)
    refine ⟨specs ++ [i], ?_, fun name => ?_, fun j => ?_⟩
    · exact List.Nodup.append h.nodup (List.nodup_singleton i) (List.disjoint_singleton.2 hnew)
    · rw [hcatalog, hafter, Catalog.collection_addIndex, h.indexes, List.append_assoc]
      simp only [Catalog.definitionsOn, List.filter_append, List.map_append]
    · rw [hcreated, List.mem_append, List.mem_append, ← h.mem, List.mem_singleton,
        List.mem_singleton, Declaration.index.injEq]

/-- Any other turn in which no call fails adds nothing. -/
theorem Additions.of_not_created {start : Clients} {specs : List IndexSpec}
    (h : start.Additions turns specs)
    (hok : ∀ call, (start.takeTurns turns).call? turn = some call → call.failed = false)
    (hcall : ∀ i, (start.takeTurns turns).call? turn ≠ some ⟨.createIndex i, .ok ()⟩) :
    start.Additions (turns ++ [turn]) specs where
  nodup := h.nodup
  indexes name := by
    rw [takeTurns_append, indexes_takeTurn hok hcall, h.indexes]
  mem i := by
    rw [h.mem, ← List.count_pos_iff, ← List.count_pos_iff, count_created_of_not_created (hcall i)]

/-- Clients that look before they ask add every index that they create, as long as no call fails. -/
theorem exists_additions {start : Clients} (hwary : ∀ i, ∀ t ∈ start.tasks, t.Wary i False)
    (hok : ∀ call ∈ start.calls turns, call.failed = false) :
    ∃ specs, start.Additions turns specs := by
  induction turns using List.reverseRecOn with
  | nil => exact ⟨[], .nil, fun name => (List.append_nil _).symm, fun i => by simp [created, calls]⟩
  | append_singleton turns turn ih =>
      rw [calls_append] at hok
      obtain ⟨hbefore, hlast⟩ := List.forall_mem_append.1 hok
      obtain ⟨specs, hspecs⟩ := ih hbefore
      by_cases hcall : ∃ i, (start.takeTurns turns).call? turn = some ⟨.createIndex i, .ok ()⟩
      · obtain ⟨i, hcall⟩ := hcall
        exact hspecs.of_created (race (hwary i) hbefore) hcall
      · have hok := fun call h => hlast call (Option.mem_toList.2 h)
        exact ⟨specs, hspecs.of_not_created hok fun i h => hcall ⟨i, h⟩⟩

end Clients

end DocSchema
