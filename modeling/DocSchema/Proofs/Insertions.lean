import DocSchema.Proofs.CatalogGrowth

/-!
# DocSchema.Proofs.Insertions

Documents that are inserted one by one, before or after a unique index over them is created.

An insertion is checked against the documents stored so far, and the creation of an index against
all stored documents at once. Over a whole list both checks come to the same: no two of the
documents clash, and none of them with one that was stored before (`Admits`). A clash does not
depend on which of the two documents comes first, so neither does the success of a list depend on
its order (`admits_of_perm`), nor that of an index on when it is created.
-/

namespace DocSchema.Catalog

variable {c c' : Catalog} {name : CollectionName} {s : IndexSpec} {documents : List Document}

/-! ## Requests in a row -/

/-- The catalog after requests that are made one after the other, where all of them succeed. The
clock has a reading for each. -/
def afterAll? (c : Catalog) (clock : Nat → Int64) : List Request → Option Catalog
  | [] => some c
  | r :: requests =>
    match c.answer (clock 0) r with
    | (.ok _, c') => c'.afterAll? (fun n => clock (n + 1)) requests
    | (.error _, _) => none

theorem afterAll?_append (c : Catalog) (clock : Nat → Int64) (requests more : List Request) :
    c.afterAll? clock (requests ++ more) =
      (c.afterAll? clock requests).bind fun c' =>
        c'.afterAll? (fun n => clock (n + requests.length)) more := by
  induction requests generalizing c clock with
  | nil => rfl
  | cons r requests ih =>
      simp only [List.cons_append, afterAll?]
      split
      · next c' _ =>
        rw [ih]
        simp only [List.length_cons, Nat.add_assoc]
      · rfl

/-! ## Adding documents -/

/-- The catalog with a document after those that are stored. -/
def addDocument (c : Catalog) (name : CollectionName) (d : Document) : Catalog :=
  c.setCollection name
    { c.collection name with documents := (c.collection name).documents ++ [d] }

/-- The catalog with some documents, in their order. -/
def addDocuments (c : Catalog) (name : CollectionName) (documents : List Document) : Catalog :=
  documents.foldl (fun c d => c.addDocument name d) c

theorem collection_addDocument (c : Catalog) (name : CollectionName) (d : Document) :
    (c.addDocument name d).collection name =
      { c.collection name with documents := (c.collection name).documents ++ [d] } :=
  collection_setCollection_self c name _

theorem collection_addDocuments (c : Catalog) (name : CollectionName) (documents : List Document) :
    (c.addDocuments name documents).collection name =
      { c.collection name with documents := (c.collection name).documents ++ documents } := by
  induction documents generalizing c with
  | nil => simp [addDocuments]
  | cons d documents ih =>
      change ((c.addDocument name d).addDocuments name documents).collection name = _
      rw [ih, collection_addDocument, List.append_assoc, List.singleton_append]

theorem failure_addDocuments (c : Catalog) (name : CollectionName) (documents : List Document) :
    (c.addDocuments name documents).failure = c.failure := by
  induction documents generalizing c with
  | nil => rfl
  | cons d documents ih => exact ih (c.addDocument name d)

theorem setCollection_setCollection (c : Catalog) (name : CollectionName)
    (first second : Collection) :
    (c.setCollection name first).setCollection name second = c.setCollection name second := by
  refine ext_get? rfl rfl fun other => ?_
  simp only [get?_setCollection]
  split <;> rfl

/-- An index may be added before or after documents of its collection. -/
theorem addDocuments_addIndex (c : Catalog) (s : IndexSpec) (documents : List Document) :
    (c.addIndex s).addDocuments s.collection documents =
      (c.addDocuments s.collection documents).addIndex s := by
  have hstep : ∀ (c : Catalog) (d : Document), (c.addIndex s).addDocument s.collection d =
      (c.addDocument s.collection d).addIndex s := fun c d => by
    simp only [addIndex, seedIndex, addDocument, setCollection_setCollection,
      collection_setCollection_self]
  exact List.foldl_hom (fun c : Catalog => c.addIndex s) hstep

/-! ## What is admitted -/

/-- Whether no unique index of a collection stands against documents: they clash neither with
stored ones nor with one another. -/
def Admits (c : Catalog) (name : CollectionName) (documents : List Document) : Prop :=
  ∀ x ∈ (c.collection name).indexes, x.unique = true →
    (∀ e ∈ (c.collection name).documents, ∀ d ∈ documents, x.clashes e d = false) ∧
      x.Separates documents

theorem admits_nil (c : Catalog) (name : CollectionName) : c.Admits name [] :=
  fun _ _ _ => ⟨fun _ _ _ hd => absurd hd List.not_mem_nil, .nil⟩

/-- Whether no unique index of a collection stands against one more document. -/
def AdmitsOne (c : Catalog) (name : CollectionName) (d : Document) : Prop :=
  ∀ x ∈ (c.collection name).indexes, x.unique = true →
    ∀ e ∈ (c.collection name).documents, x.clashes e d = false

/-- Documents are admitted when the first is, and then the others next to it. -/
theorem admits_cons {d : Document} : c.Admits name (d :: documents) ↔
    c.AdmitsOne name d ∧ (c.addDocument name d).Admits name documents := by
  simp only [Admits, AdmitsOne, collection_addDocument, IndexDefinition.Separates,
    List.forall_mem_append, List.forall_mem_singleton, List.forall_mem_cons (l := documents),
    List.pairwise_cons]
  constructor
  · intro h
    refine ⟨fun x hx hu e he => ((h x hx hu).1 e he).1, fun x hx hu => ?_⟩
    obtain ⟨hstored, hd, hrest⟩ := h x hx hu
    exact ⟨⟨fun e he => (hstored e he).2, hd⟩, hrest⟩
  · rintro ⟨hfirst, hrest⟩ x hx hu
    obtain ⟨⟨hstored, hd⟩, hseparates⟩ := hrest x hx hu
    exact ⟨fun e he => ⟨hfirst x hx hu e he, hstored e he⟩, hd, hseparates⟩

/-- The order of documents does not matter to whether they are admitted. -/
theorem admits_of_perm {documents' : List Document} (h : documents.Perm documents') :
    c.Admits name documents ↔ c.Admits name documents' := by
  refine forall₃_congr fun x _ _ => and_congr ?_ ?_
  · simp only [h.mem_iff]
  · exact h.pairwise_iff fun hde => (x.clashes_comm _ _).trans hde

/-- A collection with one unique index more admits what it admitted, where the index separates the
documents from one another and from those that are stored. -/
theorem admits_addIndex (hunique : s.unique = true) :
    (c.addIndex s).Admits s.collection documents ↔ c.Admits s.collection documents ∧
      (∀ e ∈ (c.collection s.collection).documents, ∀ d ∈ documents,
        s.definition.clashes e d = false) ∧ s.definition.Separates documents := by
  have hindex : s.definition.unique = true := hunique
  have hcollection : (c.addIndex s).collection s.collection =
      { c.collection s.collection with
        indexes := (c.collection s.collection).indexes ++ [s.definition] } :=
    collection_setCollection_self c s.collection _
  simp only [Admits, hcollection, List.forall_mem_append, List.forall_mem_singleton, hindex,
    true_implies]

/-! ## What succeeds -/

/-- A document is inserted where it is admitted, and refused otherwise. -/
theorem insert_of_admitsOne (c : Catalog) (name : CollectionName) (d : Document) :
    (c.AdmitsOne name d ∧ c.insert name d = (.ok (), c.addDocument name d)) ∨
      (¬ c.AdmitsOne name d ∧ ∃ e, c.insert name d = (.error e, c)) := by
  have hadmits : c.AdmitsOne name d ↔
      (c.collection name).indexes.find? (refuses (c.collection name).documents d) = none := by
    simp only [List.find?_eq_none, Bool.not_eq_true, refuses_eq_false_iff, AdmitsOne]
  rw [insert_eq, hadmits]
  cases (c.collection name).indexes.find? (refuses (c.collection name).documents d) with
  | none => exact .inl ⟨rfl, rfl⟩
  | some x => exact .inr ⟨Option.some_ne_none x, _, rfl⟩

/-- Documents are inserted one by one where all of them are admitted. -/
theorem afterAll?_inserts (hfailure : c.failure = none) (clock : Nat → Int64) :
    c.afterAll? clock (documents.map (.insert name)) = some c' ↔
      c.Admits name documents ∧ c.addDocuments name documents = c' := by
  induction documents generalizing c clock with
  | nil =>
      simp only [List.map_nil, afterAll?, Option.some.injEq, admits_nil, true_and]
      rfl
  | cons d documents ih =>
      have hanswer : c.answer (clock 0) (.insert name d) = c.insert name d :=
        answer_of_no_failure hfailure (clock 0) (.insert name d)
      rw [List.map_cons, afterAll?, hanswer, admits_cons]
      rcases c.insert_of_admitsOne name d with ⟨hadmits, hinsert⟩ | ⟨hadmits, e, hinsert⟩
      · rw [hinsert]
        simp only [hadmits, true_and]
        exact ih (c := c.addDocument name d) hfailure _
      · rw [hinsert]
        simp only [hadmits, reduceCtorEq, false_and]

/-- Requests after insertions meet the catalog with the documents. -/
theorem afterAll?_inserts_append (hfailure : c.failure = none) (clock : Nat → Int64)
    (more : List Request) :
    c.afterAll? clock (documents.map (.insert name) ++ more) = some c' ↔
      c.Admits name documents ∧ (c.addDocuments name documents).afterAll?
        (fun n => clock (n + documents.length)) more = some c' := by
  rw [afterAll?_append, Option.bind_eq_some_iff, List.length_map]
  simp only [afterAll?_inserts hfailure, and_assoc, exists_and_left, exists_eq_left']

/-- A missing unique index is created where it separates the stored documents. -/
theorem afterAll?_createIndex (hfailure : c.failure = none) (hunique : s.unique = true)
    (hmissing : s.definition.stateIn (c.collection s.collection).indexes = .missing)
    (clock : Nat → Int64) (requests : List Request) :
    c.afterAll? clock (.createIndex s :: requests) = some c' ↔
      s.definition.Separates (c.collection s.collection).documents ∧
        (c.addIndex s).afterAll? (fun n => clock (n + 1)) requests = some c' := by
  have hanswer : c.answer (clock 0) (.createIndex s) = c.createIndex s :=
    answer_of_no_failure hfailure (clock 0) (.createIndex s)
  have hviolation : c.violation? s = none ↔
      s.definition.Separates (c.collection s.collection).documents := by
    simp only [violation?_eq_none_iff, hunique, true_implies]
  rw [afterAll?, hanswer, createIndex_eq, hmissing, ← hviolation]
  cases c.violation? s with
  | none =>
      simp only [true_and]
      rfl
  | some key => simp only [reduceCtorEq, false_and]

/-! ## Orders -/

/-- On a catalog that does not fail, inserting documents and then creating a missing unique index
over them succeeds throughout exactly if creating the index first does, and leaves the same catalog.
And whether inserting documents one by one succeeds throughout does not depend on their order. -/
theorem index_before_or_after_documents (c : Catalog) (hfailure : c.failure = none) :
    (∀ (s : IndexSpec) (documents : List Document) (clock clock' : Nat → Int64),
      s.unique = true →
      s.definition.stateIn (c.collection s.collection).indexes = .missing →
      let inserts := documents.map (Request.insert s.collection)
      c.afterAll? clock (inserts ++ [.createIndex s]) =
        c.afterAll? clock' (.createIndex s :: inserts)) ∧
      ∀ (name : CollectionName) (documents documents' : List Document)
        (clock clock' : Nat → Int64), documents.Perm documents' →
        (c.afterAll? clock (documents.map (.insert name))).isSome =
          (c.afterAll? clock' (documents'.map (.insert name))).isSome := by
  constructor
  · intro s documents clock clock' hunique hmissing inserts
    have hcollection := collection_addDocuments c s.collection documents
    have hmissing' : s.definition.stateIn
        ((c.addDocuments s.collection documents).collection s.collection).indexes = .missing := by
      rw [hcollection, hmissing]
    have hfailure' : (c.addDocuments s.collection documents).failure = none :=
      (failure_addDocuments c s.collection documents).trans hfailure
    refine Option.ext fun c' => ?_
    rw [afterAll?_inserts_append hfailure, afterAll?_createIndex hfailure' hunique hmissing',
      afterAll?_createIndex hfailure hunique hmissing,
      afterAll?_inserts (c := c.addIndex s) hfailure, admits_addIndex hunique,
      addDocuments_addIndex, hcollection, IndexDefinition.Separates, List.pairwise_append]
    simp only [afterAll?, Option.some.injEq]
    constructor
    · rintro ⟨hadmits, ⟨hstored, hnew, hcross⟩, heq⟩
      exact ⟨hstored, ⟨hadmits, hcross, hnew⟩, heq⟩
    · rintro ⟨hstored, ⟨hadmits, hcross, hnew⟩, heq⟩
      exact ⟨hadmits, ⟨hstored, hnew, hcross⟩, heq⟩
  · intro name documents documents' clock clock' hperm
    rw [Bool.eq_iff_iff, Option.isSome_iff_exists, Option.isSome_iff_exists]
    simp only [afterAll?_inserts hfailure, exists_and_left, exists_eq', and_true,
      admits_of_perm hperm]

/-- A declared index on the numbers of the badges that guests wear, while they are present. -/
def badge : IndexSpec := ⟨⟨"guests", by decide⟩, ⟨"badge.number", by decide⟩, true, some .absent⟩

/-- A guest with this badge and this seat. -/
def guest (number seat : Value) : Document :=
  [("badge", .document [("number", number)]), ("seat", seat)]

/-- No two guests have one seat, and the guest with the first badge has left. -/
def party : Catalog :=
  ((empty "hotel" none).setCollection badge.collection
    ⟨[], [(guest (.int32 1) (.int32 1)).insert deletedAt (.dateTime 0)]⟩).seedIndex
      badge.collection
      { name := "seats", keys := [("seat", .string "hashed")], unique := true, filter := none }

/-- Guests who take the first badge again, or one without a readable number. -/
def arrivals : List Document :=
  let unreadable : Value := .double ⟨0x7ff8000000000000⟩
  [guest (.int32 1) (.int32 2), guest unreadable (.int32 3), guest unreadable unreadable]

/-- The guests may come before or after the index is created, and the other way round; two guests
without a badge stand in its way whichever comes first. -/
theorem index_before_or_after_documents_party :
    let clock : Nat → Int64 := fun _ => 0
    let bare : List Document := [[("seat", .int32 2)], [("seat", .int32 3)]]
    party.failure = none ∧ badge.unique = true ∧
      badge.definition.stateIn (party.collection badge.collection).indexes = .missing ∧
      (party.afterAll? clock
        (.createIndex badge :: arrivals.map (.insert badge.collection))).isSome = true ∧
      (party.afterAll? clock (arrivals.reverse.map (.insert badge.collection))).isSome = true ∧
      party.afterAll? clock (.createIndex badge :: bare.map (.insert badge.collection)) = none := by
  intro clock bare
  obtain ⟨hindex, horder⟩ := index_before_or_after_documents party rfl
  have hmissing : badge.definition.stateIn (party.collection badge.collection).indexes = .missing :=
    rfl
  refine ⟨rfl, rfl, hmissing, ?_, ?_, ?_⟩
  · rw [← hindex badge arrivals clock clock rfl hmissing]
    rfl
  · rw [horder badge.collection _ arrivals clock clock (List.reverse_perm arrivals)]
    rfl
  · rw [← hindex badge bare clock clock rfl hmissing]
    rfl

end DocSchema.Catalog
