import DocSchema.Proofs.CatalogChanges

/-!
# DocSchema.Proofs.FailedRequests

A request that fails leaves the catalog as it was.

Creating an index and inserting a document write the content of their collection back before they
answer, also where they refuse, so a collection that did not exist could be left behind. It is not:
a refusal always meets an index or a document, and a collection with either exists
(`createIndex_eq`, `insert_eq`). The other requests never fail on a catalog that answers, and one
that refuses answers before anything is done.
-/

namespace DocSchema.Catalog

variable {c : Catalog} {e : StoreError}

/-! ## Refused requests -/

/-- An index that is refused is not created, nor is its collection. -/
theorem createIndex_of_error {s : IndexSpec} (h : (c.createIndex s).1 = .error e) :
    (c.createIndex s).2 = c := by
  rw [createIndex_eq] at h ⊢
  cases hs : s.definition.stateIn (c.collection s.collection).indexes with
  | identical => rfl
  | conflicting existing => rfl
  | missing =>
      cases hkey : c.violation? s with
      | some key => rfl
      | none =>
          simp only [hs, hkey] at h
          contradiction

/-- A document that is refused is not stored, nor is its collection created. -/
theorem insert_of_error {name : CollectionName} {d : Document}
    (h : (c.insert name d).1 = .error e) : (c.insert name d).2 = c := by
  rw [insert_eq] at h ⊢
  cases hx : (c.collection name).indexes.find? (refuses (c.collection name).documents d) with
  | some x => rfl
  | none =>
      simp only [hx] at h
      contradiction

/-- A request that fails on a catalog that answers changes nothing. -/
theorem perform_of_error (now : Int64) {r : Request} (h : (c.perform now r).1 = .error e) :
    (c.perform now r).2 = c := by
  cases r with
  | ping => rfl
  | listCollections => rfl
  | createCollection name =>
      simp only [perform] at h
      split at h <;> contradiction
  | listIndexes name => rfl
  | createIndex s => exact createIndex_of_error h
  | insert name d => exact insert_of_error h
  | softDelete name field value => contradiction

/-- A request that does not write changes nothing. -/
theorem perform_of_read (now : Int64) {r : Request} (h : r.isWrite = false) :
    (c.perform now r).2 = c := by
  cases r with
  | ping => rfl
  | listCollections => rfl
  | listIndexes name => rfl
  | createCollection name | createIndex s | insert name d | softDelete name field value =>
      contradiction

/-- A catalog that cannot be reached, or takes no changes, refuses all requests that write. -/
theorem exists_refusal (h : c.failure = some .unreachable ∨ c.failure = some .readOnly) :
    ∃ e, c.refusal? true = some e := by
  rcases h with h | h <;> simp [refusal?, h]

/-! ## Atomicity -/

/-- Whatever a catalog holds and however it fails, a request that is answered with an error leaves
it exactly as it was, and none changes it while it cannot be reached or takes no changes. -/
theorem failed_request_changes_nothing (c : Catalog) (now : Int64) (r : Request) :
    (∀ e, (c.answer now r).1 = .error e → (c.answer now r).2 = c) ∧
      (c.failure = some .unreachable ∨ c.failure = some .readOnly → (c.answer now r).2 = c) := by
  cases hrefusal : c.refusal? r.isWrite with
  | some e =>
      rw [answer_of_refusal hrefusal]
      exact ⟨fun _ _ => rfl, fun _ => rfl⟩
  | none =>
      rw [answer_of_no_refusal hrefusal]
      refine ⟨fun e he => perform_of_error now he, fun hfailure => ?_⟩
      obtain ⟨e, he⟩ := exists_refusal hfailure
      cases hwrite : r.isWrite with
      | false => exact perform_of_read now hwrite
      | true =>
          rw [hwrite, he] at hrefusal
          contradiction

/-- An order book with a unique index over two fields of the open orders. -/
def orderBook (failure : Option Failure) : Catalog :=
  ((Catalog.empty "shop" failure).setCollection ⟨"orders", by decide⟩
    ⟨[], [[("item", .int32 7), ("buyer", .null), ("state", .string "open")]]⟩).seedIndex
      ⟨"orders", by decide⟩
      { name := "item_1_buyer_-1"
        keys := [("item", .int32 1), ("buyer", .int32 (-1))]
        unique := true
        filter := some [("state", .document [("$eq", .string "open")])] }

/-- A second open order of the same item without a buyer is refused, and the order book is as it
was; while it takes no changes, no collection can be created either. -/
theorem failed_request_changes_nothing_orderBook :
    let second : Request := .insert ⟨"orders", by decide⟩
      [("state", .string "open"), ("item", .int32 7)]
    (∃ e, ((orderBook none).answer 0 second).1 = .error e) ∧
      ((orderBook none).answer 0 second).2 = orderBook none ∧
      (orderBook (some .readOnly)).failure = some .readOnly ∧
      ((orderBook (some .readOnly)).answer 0 (.createCollection ⟨"carts", by decide⟩)).2 =
        orderBook (some .readOnly) := by
  intro second
  have hrefused : ((orderBook none).answer 0 second).1 = .error _ := rfl
  exact ⟨⟨_, hrefused⟩, (failed_request_changes_nothing _ 0 second).1 _ hrefused, rfl,
    (failed_request_changes_nothing _ 0 _).2 (.inr rfl)⟩

end DocSchema.Catalog
