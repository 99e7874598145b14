import DocSchema.Proofs.Enforcement
import DocSchema.Proofs.Insertions
import Mathlib.Data.List.Forall2

/-!
# DocSchema.Proofs.SoftDeletions

What a soft deletion marks, and what it makes room for.

It marks the documents that are active with the value at the field, counts them, and touches nothing
else. A mark ends being active, so nothing is left for the same deletion to mark
(`answer_softDelete_again`), whatever the field, the mark itself included.

A document that an index on active documents covers is active under the convention `null` too,
and its key is a value that it has unless that key is null. So all documents with a key other than
null are among those that are selected by it, and after the deletion the key is free
(`ne_valueIn_of_marked`).
-/

namespace DocSchema

/-! ## What is marked -/

namespace Document

/-- Whether a document is active under the convention `null` and has a value at a field. -/
def IsActiveWith (d : Document) (field : FieldName) (value : Value) : Prop :=
  SoftDelete.null.isActive d = true ∧
    ∃ v, d.getPath? field.text = some v ∧ (v == value) = true

variable {d : Document} {field : FieldName} {value : Value}

/-- A soft deletion selects the documents that are active with its value. -/
theorem selects_iff : Catalog.selects field value d = true ↔ d.IsActiveWith field value := by
  rw [Catalog.selects, Bool.and_eq_true, Option.any_eq_true, and_comm]
  rfl

instance (d : Document) (field : FieldName) (value : Value) :
    Decidable (d.IsActiveWith field value) :=
  decidable_of_iff _ selects_iff

/-- The fields of a document in their order, without its mark. -/
def unmarked (d : Document) : Document := d.filter fun f => f.1 != deletedAt

/-- Setting the mark leaves the other fields as they are. -/
theorem unmarked_insert (d : Document) (v : Value) :
    (d.insert deletedAt v).unmarked = d.unmarked := by
  unfold unmarked
  induction d with
  | nil => simp [insert]
  | cons f d ih =>
      obtain ⟨key, w⟩ := f
      by_cases hkey : key = deletedAt
      · simp [insert, hkey]
      · simp [insert, hkey, ih]

/-- What a soft deletion at some time makes of a document. -/
structure Deleted (now : Int64) (field : FieldName) (value : Value) (d d' : Document) : Prop where
  /-- One that is active with the value gets the time as its mark and keeps its other fields. -/
  marked : d.IsActiveWith field value →
    d'.get? deletedAt = some (.dateTime now) ∧ d'.unmarked = d.unmarked
  /-- Any other one stays as it is. -/
  kept : ¬ d.IsActiveWith field value → d' = d

theorem deleted_marked (now : Int64) (field : FieldName) (value : Value) (d : Document) :
    Deleted now field value d (Catalog.marked now field value d) := by
  constructor
  · intro hactive
    rw [Catalog.marked, if_pos (selects_iff.2 hactive)]
    exact ⟨get?_insert_self d _ _, unmarked_insert d _⟩
  · intro hother
    rw [Catalog.marked, if_neg fun hselects => hother (selects_iff.1 hselects)]

end Document

namespace Catalog

variable {c : Catalog} {name : CollectionName} {content : Collection}

/-- A document that a soft deletion has gone over is not selected any more. -/
theorem selects_marked (now : Int64) (field : FieldName) (value : Value) (d : Document) :
    selects field value (marked now field value d) = false := by
  unfold marked
  split
  · rw [selects, SoftDelete.isActive_mark, Bool.and_false]
  · next hother => exact Bool.eq_false_iff.2 hother

/-- In a collection that does not exist, a soft deletion finds nothing. -/
theorem answer_softDelete_of_missing (hwrite : c.refusal? true = none)
    (hmissing : c.collections.get? name = none) (now : Int64) (field : FieldName) (value : Value) :
    c.answer now (.softDelete name field value) = (.ok (0 : Nat), c) := by
  rw [answer_of_no_refusal hwrite]
  simp only [perform, softDelete, hmissing]

/-- In a collection that exists, a soft deletion goes over all documents. -/
theorem answer_softDelete (hwrite : c.refusal? true = none)
    (hcontent : c.collections.get? name = some content) (now : Int64) (field : FieldName)
    (value : Value) : c.answer now (.softDelete name field value) =
      (.ok (content.documents.countP (selects field value)), c.setCollection name
        { content with documents := content.documents.map (marked now field value) }) := by
  rw [answer_of_no_refusal hwrite]
  simp only [perform, softDelete, hcontent]
  rfl

/-- The same soft deletion finds nothing to mark after itself, at whatever time. -/
theorem answer_softDelete_again (hwrite : c.refusal? true = none) (now later : Int64)
    (field : FieldName) (value : Value) :
    let after := (c.answer now (.softDelete name field value)).2
    after.answer later (.softDelete name field value) = (.ok (0 : Nat), after) := by
  intro after
  cases hget : c.collections.get? name with
  | none =>
      have hafter : after = c :=
        congrArg Prod.snd (answer_softDelete_of_missing hwrite hget now field value)
      rw [hafter]
      exact answer_softDelete_of_missing hwrite hget later field value
  | some content =>
      have hafter : after = c.setCollection name
          { content with documents := content.documents.map (marked now field value) } :=
        congrArg Prod.snd (answer_softDelete hwrite hget now field value)
      have hget' : after.collections.get? name = some
          { content with documents := content.documents.map (marked now field value) } := by
        rw [hafter, get?_setCollection, if_pos rfl]
      have hcount : (content.documents.map (marked now field value)).countP
          (selects field value) = 0 := by
        simp only [List.countP_eq_zero, List.forall_mem_map, selects_marked, Bool.false_eq_true,
          not_false_eq_true, implies_true]
      have hsame : (content.documents.map (marked now field value)).map
          (marked later field value) = content.documents.map (marked now field value) := by
        rw [List.map_map]
        refine List.map_congr_left fun d _ => ?_
        have hselects := Bool.eq_false_iff.1 (selects_marked now field value d)
        exact if_neg hselects
      have hwrite' : after.refusal? true = none := hafter ▸ hwrite
      rw [answer_softDelete hwrite' hget', hcount, hsame, hafter, setCollection_setCollection]

/-- On a catalog that does not fail, a soft deletion counts the documents of the collection that are
active under the convention `null` and have the value at the field; it sets their mark to the time
and changes nothing else, neither in these documents nor in the others nor outside the collection,
which does not come into being by it. The same deletion right after it, at whatever time, counts
none and changes nothing. -/
theorem soft_deletion_marks_what_it_counts (c : Catalog) (hfailure : c.failure = none)
    (now : Int64) (name : CollectionName) (field : FieldName) (value : Value) :
    let answered := c.answer now (.softDelete name field value)
    (c.collections.get? name = none → answered = (.ok (0 : Nat), c)) ∧
      (∀ content, c.collections.get? name = some content → ∃ documents,
        answered = (.ok (content.documents.countP fun d => d.IsActiveWith field value),
          c.setCollection name { content with documents }) ∧
        List.Forall₂ (Document.Deleted now field value) content.documents documents) ∧
      ∀ later, answered.2.answer later (.softDelete name field value) =
        (.ok (0 : Nat), answered.2) := by
  intro answered
  have hwrite := refusal?_of_no_failure hfailure true
  refine ⟨fun hmissing => answer_softDelete_of_missing hwrite hmissing now field value,
    fun content hcontent => ?_, fun later => answer_softDelete_again hwrite now later field value⟩
  have hcount : content.documents.countP (selects field value) =
      content.documents.countP fun d => d.IsActiveWith field value :=
    List.countP_congr fun d _ => by rw [Document.selects_iff, decide_eq_true_iff]
  refine ⟨content.documents.map (marked now field value), ?_, ?_⟩
  · rw [← hcount]
    exact answer_softDelete hwrite hcontent now field value
  · rw [List.forall₂_map_right_iff, List.forall₂_same]
    exact fun d _ => Document.deleted_marked now field value d

/-- A field for the cities that users live in. -/
def city : FieldName := ⟨"address.city", by decide⟩

/-- A user who lives in a city, with more fields. -/
def resident (city : String) (more : Document) : Document :=
  ("address", .document [("city", .string city)]) :: more

/-- Users of two cities, of whom one has left already. -/
def town : Catalog :=
  (empty "shop" none).setCollection Schema.users ⟨[], [resident "Bonn" [],
    resident "Bonn" [("deleted_at", .int32 3), ("name", .string "ada")],
    resident "Bonn" [("deleted_at", .null), ("name", .string "bob")], resident "Ulm" []]⟩

/-- Of three users in a city, the two who have not left are counted and get the time. Asking again
counts none of them. -/
theorem soft_deletion_marks_what_it_counts_town :
    let answered := town.answer 7 (.softDelete Schema.users city (.string "Bonn"))
    town.failure = none ∧ answered.1 = .ok (2 : Nat) ∧
      (answered.2.collection Schema.users).documents = [
        resident "Bonn" [("deleted_at", .dateTime 7)],
        resident "Bonn" [("deleted_at", .int32 3), ("name", .string "ada")],
        resident "Bonn" [("deleted_at", .dateTime 7), ("name", .string "bob")],
        resident "Ulm" []] ∧
      answered.2.answer 8 (.softDelete Schema.users city (.string "Bonn")) =
        (.ok (0 : Nat), answered.2) := by
  intro answered
  obtain ⟨-, hmarks, hagain⟩ :=
    soft_deletion_marks_what_it_counts town rfl 7 Schema.users city (.string "Bonn")
  obtain ⟨documents, hanswered, -⟩ := hmarks _ rfl
  exact ⟨rfl, congrArg Prod.fst hanswered, rfl, hagain 8⟩

end Catalog

/-! ## What becomes free -/

/-- Only null equals null. -/
theorem Value.eq_null_of_beq {value : Value} (h : (Value.null == value) = true) :
    value = .null := by
  cases value <;> first | rfl | contradiction

namespace IndexSpec

variable {s : IndexSpec} {d : Document} {value : Value}

/-- The value of a declaration is one that the document has, unless it is null. -/
theorem exists_value_of_valueIn (hvalue : value ≠ .null) (h : (s.valueIn d == value) = true) :
    ∃ v, d.getPath? s.field.text = some v ∧ (v == value) = true := by
  unfold valueIn at h
  cases hpath : d.getPath? s.field.text with
  | none =>
      rw [hpath] at h
      exact absurd (Value.eq_null_of_beq h) hvalue
  | some v =>
      rw [hpath] at h
      exact ⟨v, rfl, h⟩

/-- No document that a declaration with a convention is about has a value that a soft deletion has
gone over. -/
theorem ne_valueIn_of_marked (hconvention : s.activeOnly ≠ none) (hvalue : value ≠ .null)
    (now : Int64) (d : Document) (hconcerns : s.Concerns (Catalog.marked now s.field value d)) :
    (s.valueIn (Catalog.marked now s.field value d) == value) = false := by
  obtain ⟨convention, hs⟩ := Option.ne_none_iff_exists'.1 hconvention
  have hactive := SoftDelete.isActive_null_of_isActive (hconcerns convention hs)
  rw [Bool.eq_false_iff]
  intro heq
  have hselects := Document.selects_iff.2 ⟨hactive, exists_value_of_valueIn hvalue heq⟩
  rw [Catalog.selects_marked] at hselects
  contradiction

end IndexSpec

namespace Catalog

variable {c : Catalog} {name : CollectionName}

/-- A soft deletion goes over the documents of a collection, if there are any, and leaves its
indexes alone. -/
theorem collection_answer_softDelete (hwrite : c.refusal? true = none) (now : Int64)
    (field : FieldName) (value : Value) :
    (c.answer now (.softDelete name field value)).2.collection name =
      { c.collection name with
        documents := (c.collection name).documents.map (marked now field value) } := by
  cases hget : c.collections.get? name with
  | none =>
      rw [answer_softDelete_of_missing hwrite hget, collection_of_get?_eq_none hget]
      rfl
  | some content =>
      rw [answer_softDelete hwrite hget, collection_setCollection_self,
        collection_of_get?_eq_some hget]

/-- On a catalog that does not fail, after a soft deletion by a value other than null, no document
that the index of a declaration on the field with a convention covers has this value as its key. So
the index refuses no document with the value, and where no other index of the collection is
unique, the document is inserted. -/
theorem soft_deletion_frees_key (c : Catalog) (hfailure : c.failure = none)
    (name : CollectionName) (s : IndexSpec) (hconvention : s.activeOnly ≠ none) (value : Value)
    (hvalue : value ≠ .null) (now : Int64) :
    let after := (c.answer now (.softDelete name s.field value)).2
    (∀ e ∈ (after.collection name).documents, s.definition.covers e = true →
        (s.definition.keyOf e == [value]) = false) ∧
      ∀ d v, d.getPath? s.field.text = some v → (v == value) = true →
        refuses (after.collection name).documents d s.definition = false ∧
          ((∀ x ∈ (c.collection name).indexes, x.unique = true → x = s.definition) →
            ∀ later, (after.answer later (.insert name d)).1 = .ok ()) := by
  intro after
  have hafter : after.collection name = { c.collection name with
      documents := (c.collection name).documents.map (marked now s.field value) } :=
    collection_answer_softDelete (refusal?_of_no_failure hfailure true) now s.field value
  have hself := s.agrees_definition
  have hfree : ∀ e ∈ (after.collection name).documents, s.definition.covers e = true →
      (s.valueIn e == value) = false := by
    rw [hafter]
    refine List.forall_mem_map.2 fun e _ hcovers => ?_
    exact IndexSpec.ne_valueIn_of_marked hconvention hvalue now e
      ((IndexSpec.covers_of_agrees hself _).1 hcovers)
  have hkey : ∀ (e : Document) (v : Value),
      (s.definition.keyOf e == [v]) = (s.valueIn e == v) := fun e v => by
    rw [IndexSpec.keyOf_of_agrees hself, List.cons_beq_cons]
    exact Bool.and_true _
  refine ⟨fun e he hcovers => by rw [hkey, hfree e he hcovers], fun d v hd hv => ?_⟩
  have hrefuses : refuses (after.collection name).documents d s.definition = false := by
    rw [Bool.eq_false_iff, ne_eq, IndexSpec.refuses_of_agrees hself]
    rintro ⟨-, -, e, he, hconcerns, heq⟩
    have hvalueIn : s.valueIn d = v := by rw [IndexSpec.valueIn, hd, Option.getD_some]
    rw [hvalueIn] at heq
    have htaken := hfree e he ((IndexSpec.covers_of_agrees hself e).2 hconcerns)
    have hsame : (s.valueIn e == value) = true := Value.test_trans _ _ _ heq hv
    rw [htaken] at hsame
    contradiction
  refine ⟨hrefuses, fun honly later => ?_⟩
  have hfailure' : after.failure = none :=
    (answer_change c now (.softDelete name s.field value)).frame.2.trans hfailure
  rw [answer_of_no_failure hfailure']
  change (after.insert name d).1 = .ok ()
  rw [insert_ok_iff]
  intro x hx
  rw [hafter] at hx
  cases hunique : x.unique with
  | false => simp only [refuses, hunique, Bool.false_and]
  | true =>
      rw [honly x hx hunique]
      exact hrefuses

/-- A declared index on the cities of the users whose mark is missing. -/
def oneToACity : IndexSpec := ⟨Schema.users, city, true, some .absent⟩

/-- A second user cannot move to a city before the first one has left, and can afterwards. -/
theorem soft_deletion_frees_key_oneToACity :
    let full := town.addIndex oneToACity
    let after := (full.answer 7 (.softDelete Schema.users city (.string "Bonn"))).2
    full.failure = none ∧ oneToACity.activeOnly ≠ none ∧ Value.string "Bonn" ≠ .null ∧
      (∃ e, (full.answer 6 (.insert Schema.users (resident "Bonn" []))).1 = .error e) ∧
      (∀ x ∈ (full.collection Schema.users).indexes, x.unique = true →
        x = oneToACity.definition) ∧
      (after.answer 8 (.insert Schema.users (resident "Bonn" []))).1 = .ok () := by
  intro full after
  have honly : ∀ x ∈ (full.collection Schema.users).indexes, x.unique = true →
      x = oneToACity.definition := fun x hx _ => List.mem_singleton.1 hx
  obtain ⟨-, hfree⟩ := soft_deletion_frees_key full rfl Schema.users oneToACity nofun
    (.string "Bonn") nofun 7
  obtain ⟨-, hinsert⟩ := hfree (resident "Bonn" []) (.string "Bonn") rfl (by decide)
  exact ⟨rfl, nofun, nofun, ⟨_, rfl⟩, honly, hinsert honly 8⟩

end Catalog

end DocSchema
