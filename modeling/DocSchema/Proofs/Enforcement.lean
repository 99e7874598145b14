import DocSchema.Proofs.Agreement
import DocSchema.Proofs.AppliedCatalogs
import DocSchema.Schema.Builtin

/-!
# DocSchema.Proofs.Enforcement

What a catalog does with documents once a schema was applied to it.

Applying leaves an index in place for every declaration, its own or one that agrees with it, and
later requests neither remove nor alter it. So a declared unique index refuses the documents whose
value is taken (`Enforces.rejects`) and has nothing to say about those that the declaration
does not concern (`Enforces.exempts`). Where a collection has no other indexes, nothing else keeps a
document out (`insert_ok_iff`).
-/

namespace DocSchema

namespace Catalog

variable {c c' : Catalog} {name : CollectionName} {d : Document}

/-! ## Inserting -/

/-- A document is inserted exactly if no index of its collection refuses it. -/
theorem insert_ok_iff : (c.insert name d).1 = .ok () ↔
    ∀ x ∈ (c.collection name).indexes, refuses (c.collection name).documents d x = false := by
  have hnone : (c.collection name).indexes.find? (refuses (c.collection name).documents d) = none ↔
      ∀ x ∈ (c.collection name).indexes, refuses (c.collection name).documents d x = false := by
    simp only [List.find?_eq_none, Bool.not_eq_true]
  rw [insert_eq, ← hnone]
  cases (c.collection name).indexes.find? (refuses (c.collection name).documents d) with
  | none => exact iff_of_true rfl rfl
  | some x => exact iff_of_false (fun h => nomatch h) (fun h => nomatch h)

/-- A document that an index refuses is answered with a duplicate key of the collection, and is not
stored. -/
theorem insert_of_refuses {x : IndexDefinition} (hx : x ∈ (c.collection name).indexes)
    (h : refuses (c.collection name).documents d x = true) :
    ∃ field text, c.insert name d = (.error (.duplicateKey name.text field text), c) := by
  rw [insert_eq]
  cases hfind : (c.collection name).indexes.find? (refuses (c.collection name).documents d) with
  | some y => exact ⟨_, _, rfl⟩
  | none => exact absurd h (List.find?_eq_none.1 hfind x hx)

/-! ## Requests -/

/-- The catalog after some requests, each at its time. -/
def afterRequests (c : Catalog) (requests : List (Int64 × Request)) : Catalog :=
  requests.foldl (fun c request => (c.answer request.1 request.2).2) c

theorem later_afterRequests (c : Catalog) (requests : List (Int64 × Request)) :
    c.Later (c.afterRequests requests) := by
  induction requests generalizing c with
  | nil => exact Later.refl c
  | cons request requests ih =>
      exact (later_answer c request.1 request.2).trans (ih (c.answer request.1 request.2).2)

theorem Later.failure (h : c.Later c') : c'.failure = c.failure := by
  induction h with
  | refl => rfl
  | tail _ hchange ih => exact hchange.frame.2.trans ih

/-! ## Declared indexes -/

/-- What a declared unique index does in a catalog. -/
structure Enforces (c : Catalog) (i : IndexSpec) : Prop where
  /-- It is there, in one index or several that agree with the declaration. -/
  present : i.definition.stateIn (c.collection i.collection).indexes = .identical
  /-- A document whose value is taken is answered with a duplicate key, and is not stored. -/
  rejects : ∀ now d, i.Taken (c.collection i.collection).documents d →
    ∃ field text, c.answer now (.insert i.collection d) =
      (.error (.duplicateKey i.collection.text field text), c)
  /-- A document that the declaration does not concern is not refused by its index, and without it
  the index would refuse the same others. -/
  exempts : ∀ x ∈ (c.collection i.collection).indexes, i.definition.isRelated x = true →
    ∀ d, ¬ i.Concerns d →
      (∀ documents, refuses documents d x = false) ∧
        ∀ before after e, refuses (before ++ d :: after) e x = refuses (before ++ after) e x

/-- A declared unique index that is there is enforced. -/
theorem enforces_of_stateOf {i : IndexSpec} (hfailure : c.failure = none)
    (hi : i.definition.stateIn (c.collection i.collection).indexes = .identical)
    (hunique : i.unique = true) : Enforces c i := by
  obtain ⟨⟨x, hx, hrelated⟩, hagrees⟩ := IndexDefinition.stateIn_eq_identical_iff.1 hi
  refine ⟨hi, fun now d htaken => ?_, fun x hx hrelated d hd => ?_⟩
  · rw [answer_of_no_failure hfailure]
    exact insert_of_refuses hx
      ((IndexSpec.refuses_of_agrees (hagrees x hx hrelated) _ d).2 ⟨hunique, htaken⟩)
  · have hrefuses := IndexSpec.refuses_of_agrees (hagrees x hx hrelated)
    refine ⟨fun documents => ?_, fun before after e => ?_⟩
    · rw [Bool.eq_false_iff, ne_eq, hrefuses]
      exact fun h => hd h.2.1
    · have htaken : i.Taken (before ++ d :: after) e ↔ i.Taken (before ++ after) e := by
        simp only [IndexSpec.Taken, List.mem_append, List.mem_cons, or_and_right, exists_or,
          exists_eq_left, hd, false_and, false_or]
      rw [Bool.eq_iff_iff, hrefuses, hrefuses, htaken]

end Catalog

namespace Bootstrap

variable {limit : Duration} {s : Schema} {state : ClockedCatalog} {r : Report}

/-- A schema that was applied without an error is satisfied by the catalog. -/
theorem satisfies_of_report (hfailure : state.catalog.failure = none)
    (hreport : (reportOn limit .apply s state).1 = .ok r) :
    (reportOn limit .apply s state).2.catalog.Satisfies s ∧
      (reportOn limit .apply s state).2.catalog.failure = none := by
  cases hvalid : s.validate with
  | error e =>
      have herror : (reportOn limit .apply s state).1 = .error (.invalidSchema e) ∧ _ :=
        reportOn_of_invalid hvalid
      rw [herror.1] at hreport
      contradiction
  | ok =>
      have hs : s.Consistent := Schema.validate_eq_ok_iff.1 hvalid
      have hrun := run_apply hvalid (writable_of_no_failure hfailure limit) .zero
      cases hresult : result limit state.catalog s with
      | error e =>
          rw [hresult] at hrun
          have herror : (reportOn limit .apply s state).1 = .error e ∧ _ := reportOn_of_run hrun
          rw [herror.1] at hreport
          contradiction
      | ok outcomes =>
          rw [hresult] at hrun
          have hdone : _ ∧ (reportOn limit .apply s state).2.catalog =
              applied limit state.catalog s := exists_reportOn_of_run hrun
          have hframe := (frame_applied limit state.catalog s).2
          rw [hdone.2]
          exact ⟨satisfies_applied hs hresult, hframe.trans hfailure⟩

/-- Once a schema was applied without an error to a catalog without a failure, its unique indexes
are enforced whatever is requested next; and a document enters a collection that has no other
indexes than the declared ones exactly if its value is taken in none of them. -/
theorem applied_schema_enforced (limit : Duration) (s : Schema) (state : ClockedCatalog)
    (r : Report) (hfailure : state.catalog.failure = none)
    (hreport : (reportOn limit .apply s state).1 = .ok r) (requests : List (Int64 × Request)) :
    let c := (reportOn limit .apply s state).2.catalog.afterRequests requests
    (∀ i ∈ s.indexes, i.unique = true → c.Enforces i) ∧
      ∀ name, (∀ x ∈ (c.collection name).indexes,
          ∃ i ∈ s.indexes, i.collection = name ∧ i.definition.agrees x = true) →
        ∀ now d, (c.answer now (.insert name d)).1 = .ok () ↔
          ∀ i ∈ s.indexes, i.collection = name → i.unique = true →
            ¬ i.Taken (c.collection name).documents d := by
  intro c
  obtain ⟨hsatisfies, hfailure'⟩ := satisfies_of_report hfailure hreport
  have hlater := Catalog.later_afterRequests (reportOn limit .apply s state).2.catalog requests
  have hthere : c.Satisfies s := hsatisfies.later hlater
  have hanswers : c.failure = none := hlater.failure.trans hfailure'
  refine ⟨fun i hi hunique => Catalog.enforces_of_stateOf hanswers (hthere.indexes i hi) hunique,
    fun name honly now d => ?_⟩
  rw [Catalog.answer_of_no_failure hanswers]
  change (c.insert name d).1 = .ok () ↔ _
  rw [Catalog.insert_ok_iff]
  constructor
  · rintro hfree i hi rfl hunique htaken
    obtain ⟨⟨x, hx, hrelated⟩, hagrees⟩ :=
      IndexDefinition.stateIn_eq_identical_iff.1 (hthere.indexes i hi)
    have hrefuses := (IndexSpec.refuses_of_agrees (hagrees x hx hrelated) _ d).2 ⟨hunique, htaken⟩
    rw [hfree x hx] at hrefuses
    contradiction
  · intro hfree x hx
    obtain ⟨i, hi, hname, hagrees⟩ := honly x hx
    rw [Bool.eq_false_iff, ne_eq, IndexSpec.refuses_of_agrees hagrees]
    exact fun h => hfree i hi hname h.1 h.2

/-- A declared index on the phone numbers of users, for those that are not marked as deleted. -/
def userPhone : IndexSpec := ⟨Schema.users, Schema.phoneNumber, true, some .absent⟩

/-- A catalog that has this index from elsewhere, with its direction written as a double. -/
def adopting : ClockedCatalog :=
  ⟨(Catalog.empty "autosrt" none).seedIndex Schema.users
    { name := "phone_number_1"
      keys := [("phone_number", .double ⟨0x3FF0000000000000⟩)]
      unique := true
      filter := some [("deleted_at", .document [("$exists", .bool false)])] }, 0⟩

/-- A user without a phone number, and one whose deletion is null. -/
def phoneless : List (Int64 × Request) :=
  [(1, .insert Schema.users [("email", .string "ada")]),
    (2, .insert Schema.users [("deleted_at", .null)])]

/-- The index is taken over. It refuses a second active user without a phone number, and lets in one
whose deletion is null. -/
theorem applied_schema_enforced_adopting :
    let s : Schema := ⟨"autosrt", [Schema.users], [userPhone]⟩
    let run := reportOn defaultLimit .apply s adopting
    let c := run.2.catalog.afterRequests phoneless
    adopting.catalog.failure = none ∧ (∃ r, run.1 = .ok r) ∧
      (∃ field text, c.answer 3 (.insert Schema.users [("phone_number", .null)]) =
        (.error (.duplicateKey "users" field text), c)) ∧
      (c.answer 3 (.insert Schema.users [("deleted_at", .null)])).1 = .ok () := by
  have hreport : (reportOn defaultLimit .apply ⟨"autosrt", [Schema.users], [userPhone]⟩
      adopting).1 = .ok _ := rfl
  obtain ⟨henforces, hinsert⟩ := applied_schema_enforced defaultLimit
    ⟨"autosrt", [Schema.users], [userPhone]⟩ adopting _ rfl hreport phoneless
  have htaken : userPhone.Taken [[("email", .string "ada")], [("deleted_at", .null)]]
      [("phone_number", .null)] := by decide
  have hfree : ¬ userPhone.Concerns [("deleted_at", .null)] := by decide
  refine ⟨rfl, ⟨_, hreport⟩, (henforces userPhone List.mem_cons_self rfl).rejects 3 _ htaken,
    (hinsert Schema.users ?_ 3 _).2 fun i hi _ _ h => ?_⟩
  · exact List.forall_mem_singleton.2 ⟨userPhone, List.mem_cons_self, rfl, by decide⟩
  · rw [List.mem_singleton.1 hi] at h
    exact hfree h.1

end Bootstrap

end DocSchema
