import DocSchema.Proofs.ApplyRuns
import DocSchema.Proofs.Interference
import DocSchema.Proofs.Permanence

/-!
# DocSchema.Proofs.StableApplies

Applying a schema among other clients.

An index is looked for and created with two requests, and in between another client may have created
it, or one in its way. The catalog looks again when it creates an index, so an answer without an
error means that the index is there (`stateOf_of_createIndex`); what is there stays there; and
so a schema that was applied without an error is satisfied from then on, whatever the
others do.
-/

namespace DocSchema

namespace Catalog

variable {c : Catalog} {now : Int64}

/-! ## What an answer without an error means -/

/-- An index that is asked for without an error was there, or was missing and is added. -/
theorem eq_of_createIndex {s : IndexSpec} (h : (c.answer now (.createIndex s)).1 = .ok ()) :
    (c.stateOf s = .identical ∧ (c.answer now (.createIndex s)).2 = c) ∨
      (c.stateOf s = .missing ∧ (c.answer now (.createIndex s)).2 = c.addIndex s) := by
  unfold answer at h ⊢
  cases hrefusal : c.refusal? (Request.createIndex s).isWrite with
  | some e =>
      simp only [hrefusal] at h
      contradiction
  | none =>
      simp only [hrefusal, perform, createIndex_eq] at h ⊢
      cases hs : s.definition.stateIn (c.collection s.collection).indexes with
      | identical => exact .inl ⟨hs, rfl⟩
      | conflicting existing =>
          simp only [hs] at h
          contradiction
      | missing =>
          simp only [hs] at h
          cases hkey : c.violation? s with
          | some key =>
              simp only [hkey] at h
              contradiction
          | none => exact .inr ⟨hs, rfl⟩

/-- An index that was created, or was there before, is there. -/
theorem stateOf_of_createIndex {s : IndexSpec} (h : (c.answer now (.createIndex s)).1 = .ok ()) :
    (c.answer now (.createIndex s)).2.stateOf s = .identical := by
  rcases eq_of_createIndex h with ⟨hidentical, hafter⟩ | ⟨hmissing, hafter⟩
  · rw [hafter, hidentical]
  · rw [hafter, stateOf, addIndex, seedIndex, collection_setCollection_self]
    exact IndexDefinition.stateIn_append_self s.agrees_definition hmissing

/-- A collection that was created, or existed before, exists. -/
theorem get?_of_createCollection {name : CollectionName} {creation : Creation}
    (h : (c.answer now (.createCollection name)).1 = .ok creation) :
    (c.answer now (.createCollection name)).2.collections.get? name ≠ none := by
  unfold answer at h ⊢
  cases hrefusal : c.refusal? (Request.createCollection name).isWrite with
  | some e =>
      simp only [hrefusal] at h
      contradiction
  | none =>
      simp only [perform]
      cases hget : c.collections.get? name with
      | some content => simp only [hget, ne_eq, reduceCtorEq, not_false_eq_true]
      | none =>
          simp only [get?_setCollection, if_true, ne_eq, reduceCtorEq, not_false_eq_true]

/-- The indexes that are listed are those of the collection. -/
theorem eq_of_listIndexes {name : CollectionName} {existing : List IndexDefinition}
    (h : (c.answer now (.listIndexes name)).1 = .ok existing) :
    existing = (c.collection name).indexes := by
  unfold answer at h
  cases hrefusal : c.refusal? (Request.listIndexes name).isWrite with
  | some e =>
      simp only [hrefusal] at h
      contradiction
  | none =>
      simp only [hrefusal, perform] at h
      exact (Except.ok.inj h).symm

/-! ## Applying -/

/-- The course of a catalog of which anything may be requested. -/
def course : Course where
  Stage := Catalog
  catalog c := c
  Later := Later
  Permits _ _ := True
  refl := Later.refl
  trans := Later.trans

end Catalog

namespace Bootstrap

open Catalog (course)

variable {c : Catalog}

/-- Whether a task ends without an error only where something holds of its result and the catalog,
whatever other clients do in between. -/
def Achieves {α : Type} (t : Task α) (good : α → Catalog → Prop) (c : Catalog) : Prop :=
  t.Ensures course good (fun _ _ => True) c

/-- A request is answered by some later catalog. -/
theorem achieves_ask {α : Type} {starts : Option String} {r : Request} {next : r.Result → Task α}
    {good : α → Catalog → Prop}
    (h : ∀ c' now, c.Later c' → Achieves (next (c'.answer now r).1) good (c'.answer now r).2) :
    Achieves (.ask starts r next) good c := fun c' hlater =>
  ⟨trivial, fun now => ⟨_, Catalog.later_answer c' now r, rfl, h c' now hlater⟩⟩

/-- A declared collection exists afterwards. -/
theorem achieves_ensureCollection (name : CollectionName) (c : Catalog) :
    Achieves (ensureCollection name) (fun _ c' => c'.collections.get? name ≠ none) c := by
  rw [ensureCollection_eq]
  refine achieves_ask fun c' now _ => ?_
  cases hresult : (c'.answer now (.createCollection name)).1 with
  | error e => trivial
  | ok creation =>
      have hexists := Catalog.get?_of_createCollection hresult
      cases creation with
      | created => exact hexists
      | alreadyExists => exact hexists

/-- A declared index is there afterwards. -/
theorem achieves_ensureIndex (s : IndexSpec) (c : Catalog) :
    Achieves (ensureIndex s) (fun _ c' => c'.stateOf s = .identical) c := by
  rw [ensureIndex_eq]
  refine achieves_ask fun c' now _ => ?_
  cases hresult : (c'.answer now (.listIndexes s.collection)).1 with
  | error e => trivial
  | ok existing =>
      have hexisting := Catalog.eq_of_listIndexes hresult
      dsimp only
      cases hs : s.definition.stateIn existing with
      | conflicting x => trivial
      | identical =>
          rw [hexisting] at hs
          exact (Catalog.Later.stateOf (Catalog.later_answer c' now _) hs)
      | missing =>
          -- Between the look and the creation others may have come first.
          refine achieves_ask fun c'' now _ => ?_
          cases hcreated : (c''.answer now (.createIndex s)).1 with
          | error e => trivial
          | ok => exact Catalog.stateOf_of_createIndex hcreated

/-- A schema that was applied without an error is satisfied. -/
theorem achieves_apply (s : Schema) (c : Catalog) :
    Achieves (apply s) (fun _ c' => c'.Satisfies s) c := by
  cases hvalid : s.validate with
  | error e =>
      rw [apply_of_invalid hvalid]
      trivial
  | ok =>
      rw [apply_of_valid hvalid]
      have hconnection : Achieves checkConnection (fun _ _ => True) c :=
        achieves_ask fun c' now _ => by
          cases (c'.answer now .ping).1 <;> trivial
      refine Task.Ensures.bind (hconnection.imp (fun _ c _ _ => ?_) fun _ _ _ _ => trivial)
      have hcollections : Achieves (Task.each ensureCollection s.collections)
          (fun _ c' => ∀ name ∈ s.collections, c'.collections.get? name ≠ none) c :=
        Task.ensures_each_lasting (k := course) achieves_ensureCollection
          (fun _ _ _ hlater => hlater.get?_ne_none) s.collections c
      refine Task.Ensures.bind (hcollections.imp (fun _ c _ hnames => ?_) fun _ _ _ _ => trivial)
      have hindexes : Achieves (Task.each ensureIndex s.indexes)
          (fun _ c' => ∀ i ∈ s.indexes, c'.stateOf i = .identical) c :=
        Task.ensures_each_lasting (k := course) achieves_ensureIndex
          (fun _ _ _ hlater => hlater.stateOf) s.indexes c
      refine Task.Ensures.bind (hindexes.imp (fun _ c' hlater hstates => ?_) fun _ _ _ _ => trivial)
      exact ⟨fun name hname => hlater.get?_ne_none (hnames name hname), hstates⟩

end Bootstrap

/-! ## Runs of clients -/

namespace Clients

open Bootstrap (Achieves)

variable {w : Clients} {i : Nat} {t : Task (List Outcome)} {good : List Outcome → Catalog → Prop}

/-- Events lead to later catalogs unless an index is seeded. -/
theorem later_run (w : Clients) {events : List Event} (hevents : ∀ e ∈ events, e.isSeed = false) :
    w.catalog.Later (w.run events).catalog :=
  run_induction (fun _ _ hchange hlater => hlater.tail hchange) w hevents (Catalog.Later.refl _)

/-- Whatever event comes next, a task achieves what it did. -/
theorem exists_achieves_step (hgood : ∀ a, Catalog.course.Lasting (good a))
    (hi : w.tasks[i]? = some t) (ht : Achieves t good w.catalog) {e : Event}
    (he : e.isSeed = false) :
    ∃ t', (w.step e).tasks[i]? = some t' ∧ Achieves t' good (w.step e).catalog := by
  have hlater : w.catalog.Later (w.step e).catalog :=
    step_induction (fun _ _ hchange hlater => hlater.tail hchange) w he (Catalog.Later.refl _)
  have hwaiting : Achieves t good (w.step e).catalog :=
    ht.later hlater hgood fun _ _ _ _ _ => trivial
  cases e with
  | request now r => exact ⟨t, hi, hwaiting⟩
  | command limit command s clock => exact ⟨t, hi, hwaiting⟩
  | start command s =>
      have hlength := (List.getElem?_eq_some_iff.1 hi).1
      exact ⟨t, (List.getElem?_append_left hlength).trans hi, hwaiting⟩
  | advance j now =>
      cases hj : w.tasks[j]? with
      | none =>
          rw [step_advance_of_none hj] at hwaiting ⊢
          exact ⟨t, hi, hwaiting⟩
      | some u =>
          rw [step_advance hj] at hwaiting ⊢
          by_cases hij : j = i
          · subst hij
            obtain rfl : t = u := Option.some.inj (hi.symm.trans hj)
            obtain ⟨c', -, hcatalog, hnext⟩ := exists_later_of_advance ht now
            have hmoved : (advance now w.catalog t).2 = c' := hcatalog
            rw [hmoved]
            exact ⟨_, List.getElem?_set_self (List.getElem?_eq_some_iff.1 hi).1, hnext⟩
          · exact ⟨t, by rw [List.getElem?_set_ne hij, hi], hwaiting⟩
  | abandon j e =>
      by_cases hij : j = i
      · subst hij
        have hlength := (List.getElem?_eq_some_iff.1 hi).1
        exact ⟨.done (.error e), by simp only [step, List.getElem?_set_self hlength], trivial⟩
      · exact ⟨t, by simp only [step, List.getElem?_set_ne hij, hi], hwaiting⟩
  | seed name x => contradiction

/-- Whatever events come, a task achieves what it did. -/
theorem exists_achieves_run (hgood : ∀ a, Catalog.course.Lasting (good a))
    (hi : w.tasks[i]? = some t) (ht : Achieves t good w.catalog) {events : List Event}
    (hevents : ∀ e ∈ events, e.isSeed = false) :
    ∃ t', (w.run events).tasks[i]? = some t' ∧ Achieves t' good (w.run events).catalog := by
  induction events generalizing w t with
  | nil => exact ⟨t, hi, ht⟩
  | cons e events ih =>
      obtain ⟨he, hrest⟩ := List.forall_mem_cons.1 hevents
      obtain ⟨t', hi', ht'⟩ := exists_achieves_step hgood hi ht he
      exact ih hi' ht' hrest

/-- However the requests of other clients fall between those of a client that applies a schema, once
it has ended without an error the schema is satisfied, and stays so whatever happens next; and at
any time a collection has all the indexes that it had at any time before, unaltered. -/
theorem apply_stable_under_interference (w : Clients) (s : Schema) (earlier later : List Event)
    (hearlier : ∀ e ∈ earlier, e.isSeed = false) (hlater : ∀ e ∈ later, e.isSeed = false) :
    let past := (w.step (.start .apply s)).run earlier
    let present := past.run later
    (∀ outcomes, past.tasks[w.tasks.length]? = some (.done (.ok outcomes)) →
        present.catalog.Satisfies s) ∧
      ∀ name, (past.catalog.collection name).indexes <+:
        (present.catalog.collection name).indexes := by
  intro past present
  have hpresent : past.catalog.Later present.catalog := later_run past hlater
  refine ⟨fun outcomes hdone => ?_, hpresent.indexes_prefix⟩
  have hstarted : (w.step (.start .apply s)).tasks[w.tasks.length]? = some (Bootstrap.apply s) :=
    List.getElem?_concat_length
  obtain ⟨t, ht, hachieves⟩ := exists_achieves_run
    (fun _ _ _ hlater hsatisfies => Catalog.Satisfies.later hsatisfies hlater) hstarted
    (Bootstrap.achieves_apply s _) hearlier
  obtain rfl : Task.done (.ok outcomes) = t := Option.some.inj (hdone.symm.trans ht)
  have hsatisfies : past.catalog.Satisfies s := hachieves
  exact hsatisfies.later hpresent

/-- A declared index on the numbers of sales. -/
def saleNumber : IndexSpec := ⟨⟨"sales", by decide⟩, ⟨"number", by decide⟩, true, none⟩

/-- Sales with their numbers. -/
def sales : Schema := ⟨"shop", [saleNumber.collection], [saleNumber]⟩

/-- A client that applies the schema finds the index missing, and another one creates it first. -/
def overtaken : List Event :=
  [.advance 0 0, .advance 0 0, .advance 0 0, .request 0 (.createIndex saleNumber), .advance 0 0]

/-- A sale comes in, and a client asks for an index that allows its number again. -/
def contested : List Event :=
  [.request 1 (.insert saleNumber.collection [("number", .int32 1)]),
    .request 2 (.createIndex { saleNumber with unique := false })]

/-- The client that was overtaken ends without an error, and the index stays as declared. -/
theorem apply_stable_under_interference_overtaken :
    let past := ((Clients.mk (.empty "shop" none) []).step (.start .apply sales)).run overtaken
    (∀ e ∈ overtaken, e.isSeed = false) ∧ (∀ e ∈ contested, e.isSeed = false) ∧
      past.tasks[0]? = some (.done (.ok
        [⟨.collection saleNumber.collection, .created⟩, ⟨.index saleNumber, .created⟩])) ∧
      (past.run contested).catalog.Satisfies sales := by
  have hovertaken : ∀ e ∈ overtaken, e.isSeed = false := by decide
  have hcontested : ∀ e ∈ contested, e.isSeed = false := by decide
  obtain ⟨hstable, -⟩ := apply_stable_under_interference (Clients.mk (.empty "shop" none) []) sales
    overtaken contested hovertaken hcontested
  exact ⟨hovertaken, hcontested, rfl, hstable _ rfl⟩

end Clients

end DocSchema
