import DocSchema.Proofs.Exchanges

/-!
# DocSchema.Proofs.ServerFailures

How applying a schema ends when a server replies with failures.

Two failures are no fault: a collection that exists already is not created again, and one that does
not exist has no indexes. Any other failure ends the run at once. What is then reported depends on
the command and on the code of the failure (`Diagnosis`): a code that has a meaning for one command
has none for another.
-/

namespace DocSchema

/-! ## Failed calls -/

/-- The error that a call was answered with. -/
def Call.error? : Call → Option StoreError
  | ⟨_, .ok _⟩ => none
  | ⟨_, .error e⟩ => some e

theorem Call.failed_eq (c : Call) : c.failed = c.error?.isSome := by
  obtain ⟨r, result⟩ := c
  cases result <;> rfl

namespace Bootstrap

/-- What a run reports when a request fails. Any failure of the first request counts as a lack of
connection. -/
def reportOf : Request → StoreError → BootstrapError
  | .ping, e => .connection e.message
  | _, e => .ofStore e

/-- What ends a run is a call that fails, or a listing in conflict with a declared index. -/
theorem Cause.cases {specs : List IndexSpec} {c : Call} {e : BootstrapError}
    (h : Cause specs c e) :
    (∃ e', c.error? = some e' ∧ e = reportOf c.request e') ∨
      c.error? = none ∧ ∃ i ∈ specs, ∃ existing x,
        c = ⟨.listIndexes i.collection, .ok existing⟩ ∧
          i.definition.stateIn existing = .conflicting x ∧
          e = .conflictingDefinition i.collection.text x.name (difference x i.definition) := by
  cases h with
  | unreachable e => exact .inl ⟨e, rfl, rfl⟩
  | @failed r hr e =>
      refine .inl ⟨e, rfl, ?_⟩
      cases r with
      | ping => contradiction
      | _ => rfl
  | @conflict i hi existing x hstate => exact .inr ⟨rfl, i, hi, existing, x, rfl, hstate, rfl⟩

end Bootstrap

/-- Whether applying a schema may make a request. -/
def Request.Applies : Request → Prop
  | .ping | .createCollection _ | .listIndexes _ | .createIndex _ => True
  | .listCollections | .insert _ _ | .softDelete _ _ _ => False

theorem Bootstrap.applies_of_mem_applyRequests {schema : Schema}
    {listings : List (List IndexDefinition)} {r : Request}
    (h : r ∈ applyRequests schema listings) : r.Applies := by
  rcases List.mem_cons.1 h with rfl | h
  · trivial
  · rcases List.mem_append.1 h with h | h
    · obtain ⟨name, -, rfl⟩ := List.mem_map.1 h
      trivial
    · obtain ⟨i, -, rfl | rfl⟩ := mem_indexRequests h <;> trivial

namespace Server

/-! ## Failures -/

/-- The reply of a failure with a code. -/
def refusal (code : Int32) (codeName text : String) : Reply :=
  .document [("ok", .int32 0), ("errmsg", .string text), ("code", .int32 code),
    ("codeName", .string codeName)]

/-- Whether a failure is no fault: the collection that is asked for exists already, or the one whose
indexes are asked for does not exist. -/
def isBenign : Request → Failure → Bool
  | .createCollection _, f => f.code? == some 48
  | .listIndexes _, f => f.code? == some 26
  | _, _ => false

/-- How a failure of a command is reported, and with which exit code. -/
inductive Diagnosis : Request → Failure → BootstrapError → Nat → Prop where
  | unreachable (f : Failure) : Diagnosis .ping f
      (.connection
        ((if f.code? = some 13 then "unauthorized: " else "connection error: ") ++ f.text)) 3
  | lost {r : Request} (hr : r ≠ .ping) (text : String) :
      Diagnosis r (.connection text) (.connection (Failure.connection text).text) 3
  | forbidden {r : Request} (hr : r ≠ .ping) {f : Failure} (hcode : f.code? = some 13) :
      Diagnosis r f (.permissionDenied f.text) 4
  | conflicting (i : IndexSpec) {f : Failure} (hcode : f.code? = some 85 ∨ f.code? = some 86) :
      Diagnosis (.createIndex i) f (.conflictingDefinition i.collection.text i.name f.text) 5
  | duplicate (i : IndexSpec) {f : Failure} (hcode : f.code? = some 11000) :
      Diagnosis (.createIndex i) f
        (.constraintViolation i.collection.text i.field.text f.text) 5
  | other {r : Request} (hr : r ≠ .ping) {f : Failure} (hlost : ∀ text, f ≠ .connection text)
      (hcode : f.code? ≠ some 13)
      (hindex : ∀ i, r = .createIndex i → ∀ code, f.code? = some code → code ∉ [85, 86, 11000]) :
      Diagnosis r f (.store f.text) 1

/-- The failures that have a meaning for the creation of an index only. -/
theorem createIndexError_of_not_mem {i : IndexSpec} {f : Failure}
    (h : ∀ code, f.code? = some code → code ∉ [85, 86, 11000]) :
    createIndexError i f = f.toError := by
  have hnot : ∀ code ∈ [85, 86, 11000], f.code? ≠ some code := fun code hmem hcode =>
    h code hcode hmem
  rw [createIndexError, if_neg, if_neg]
  · exact hnot 11000 (by simp)
  · exact not_or.2 ⟨hnot 85 (by simp), hnot 86 (by simp)⟩

/-- The error of the store that a failure stands for. -/
def errorFor : Request → Failure → StoreError
  | .ping => pingError
  | .createIndex i => createIndexError i
  | _ => Failure.toError

/-- What the server reports is a lack of privileges or any other failure of the store. -/
theorem toError_of_reported {f : Failure} (h : ∀ text, f ≠ .connection text) :
    f.toError = if f.code? = some 13 then .unauthorized f.text else .database f.text := by
  cases f with
  | connection text => exact absurd rfl (h text)
  | _ => rfl

/-- A failure without a meaning of its own is a lost connection, a lack of privileges, or any other
failure of the store. -/
theorem diagnosis_toError {r : Request} (hr : r ≠ .ping) {f : Failure}
    (hindex : ∀ i, r = .createIndex i → ∀ code, f.code? = some code → code ∉ [85, 86, 11000]) :
    Diagnosis r f (.ofStore f.toError) (BootstrapError.ofStore f.toError).exitCode := by
  by_cases hlost : ∃ text, f = .connection text
  · obtain ⟨text, rfl⟩ := hlost
    exact .lost hr text
  · have hreported : ∀ text, f ≠ .connection text := fun text htext => hlost ⟨text, htext⟩
    rw [toError_of_reported hreported]
    split
    · next hcode => exact .forbidden hr hcode
    · next hcode => exact .other hr hreported hcode hindex

/-- Any failure of the first command is a lack of connection. -/
theorem message_pingError (f : Failure) : (pingError f).message =
    (if f.code? = some 13 then "unauthorized: " else "connection error: ") ++ f.text := by
  by_cases hlost : ∃ text, f = .connection text
  · obtain ⟨text, rfl⟩ := hlost
    rfl
  · rw [pingError, toError_of_reported fun text htext => hlost ⟨text, htext⟩]
    by_cases hcode : f.code? = some 13
    · rw [if_pos hcode, if_pos hcode]
      rfl
    · rw [if_neg hcode, if_neg hcode]
      rfl

/-- Every failure is reported by its command and its code. -/
theorem diagnosis_errorFor {r : Request} (hr : r.Applies) (f : Failure) :
    Diagnosis r f (Bootstrap.reportOf r (errorFor r f))
      (Bootstrap.reportOf r (errorFor r f)).exitCode := by
  cases r with
  | listCollections | insert name d | softDelete name field value => exact hr.elim
  | ping =>
      have hreport := Diagnosis.unreachable f
      rw [← message_pingError] at hreport
      exact hreport
  | createCollection name => exact diagnosis_toError (by nofun) (by nofun)
  | listIndexes name => exact diagnosis_toError (by nofun) (by nofun)
  | createIndex i =>
      change Diagnosis _ f (.ofStore (createIndexError i f))
        (BootstrapError.ofStore (createIndexError i f)).exitCode
      by_cases hconflict : f.code? = some 85 ∨ f.code? = some 86
      · rw [createIndexError, if_pos hconflict]
        exact .conflicting i hconflict
      · by_cases hduplicate : f.code? = some 11000
        · rw [createIndexError, if_neg hconflict, if_pos hduplicate]
          exact .duplicate i hduplicate
        · have hnone : ∀ code, f.code? = some code → code ∉ [85, 86, 11000] := by
            rintro code hcode hmem
            simp only [List.mem_cons, List.not_mem_nil, or_false] at hmem
            rcases hmem with rfl | rfl | rfl
            · exact hconflict (.inl hcode)
            · exact hconflict (.inr hcode)
            · exact hduplicate hcode
          rw [createIndexError_of_not_mem hnone]
          exact diagnosis_toError (by nofun) fun _ _ => hnone

/-! ## Exchanges -/

namespace Exchange

/-- The failure that a reply reports, if it does. A listing without its entries is one too. -/
def failure? (x : Exchange) : Option Failure :=
  match accept false x.reply, x.request with
  | .error f, _ => some f
  | .ok d, .listIndexes _ =>
    match cursorEntries d with
    | .error f => some f
    | .ok _ => none
  | .ok _, _ => none

/-- The failure that ends the run, if there is one. -/
def fatal? (x : Exchange) : Option Failure :=
  match x.failure? with
  | some f => if isBenign x.request f then none else some f
  | none => none

/-- The failure of a reply with a code has that code. -/
theorem failure?_refusal (r : Request) (code : Int32) (codeName text : String) :
    failure? ⟨r, refusal code codeName text⟩ = some (.command code.toInt codeName text) := rfl

/-- Entries that are missing have no code. -/
theorem code?_cursorEntries {d : Document} {f : Failure} (h : cursorEntries d = .error f) :
    f.code? = none := by
  unfold cursorEntries at h
  split at h
  · obtain rfl := Except.error.inj h
    rfl
  · contradiction

/-- A call fails where the reply is a failure that is a fault. -/
theorem error?_call {x : Exchange} (h : x.request.Applies) :
    x.call.error? = x.fatal?.map (errorFor x.request) := by
  obtain ⟨r, reply⟩ := x
  cases r with
  | listCollections | insert name d | softDelete name field value => exact h.elim
  | ping | createIndex i =>
      simp only [call, fatal?, failure?, result]
      cases accept false reply <;> rfl
  | createCollection name =>
      simp only [call, fatal?, failure?, result]
      cases accept false reply with
      | ok d => rfl
      | error f =>
          by_cases hcode : f.code? = some 48 <;> simp [hcode, isBenign, errorFor, Call.error?]
  | listIndexes name =>
      simp only [call, fatal?, failure?, result]
      cases accept false reply with
      | ok d =>
          dsimp only
          cases hentries : cursorEntries d with
          | ok entries => rfl
          | error f =>
              have hcode : f.code? = none := code?_cursorEntries hentries
              simp [hcode, isBenign, errorFor, Call.error?, Except.map, Except.mapError]
      | error f =>
          by_cases hcode : f.code? = some 26 <;> simp [hcode, isBenign, errorFor, Call.error?]

/-- A failure that is no fault is read as an answer: the collection exists, or there are no
indexes. -/
theorem call_of_benign {x : Exchange} {f : Failure} (hfailure : x.failure? = some f)
    (hbenign : isBenign x.request f = true) :
    (∃ name, x.call = ⟨.createCollection name, .ok .alreadyExists⟩ ∧ f.code? = some 48) ∨
      ∃ name, x.call = ⟨.listIndexes name, .ok []⟩ ∧ f.code? = some 26 := by
  obtain ⟨r, reply⟩ := x
  cases r with
  | ping | listCollections | createIndex i | insert name d | softDelete name field value =>
      contradiction
  | createCollection name =>
      have hcode : f.code? = some 48 := by simpa [isBenign] using hbenign
      cases haccept : accept false reply with
      | ok d => simp [failure?, haccept] at hfailure
      | error f' =>
          obtain rfl : f' = f := by simpa [failure?, haccept] using hfailure
          exact .inl ⟨name, by simp [call, result, haccept, hcode], hcode⟩
  | listIndexes name =>
      have hcode : f.code? = some 26 := by simpa [isBenign] using hbenign
      cases haccept : accept false reply with
      | ok d =>
          cases hentries : cursorEntries d with
          | ok entries => simp [failure?, haccept, hentries] at hfailure
          | error f' =>
              obtain rfl : f' = f := by simpa [failure?, haccept, hentries] using hfailure
              rw [code?_cursorEntries hentries] at hcode
              contradiction
      | error f' =>
          obtain rfl : f' = f := by simpa [failure?, haccept] using hfailure
          exact .inr ⟨name, by simp [call, result, haccept, hcode], hcode⟩

end Exchange

/-! ## Runs -/

/-- How applying a schema ends with a server: at the first failure that is a fault, or at the first
listing that shows a conflict, and with nothing sent after it. -/
structure AppliedAsReplied (schema : Schema) (exchanges : List Exchange)
    (answer : Except BootstrapError Report) : Prop where
  /-- The order of the commands, and what is reported in the end. -/
  inOrder : Bootstrap.AppliedInOrder schema (exchanges.map Exchange.call) answer
  /-- Failures that are no fault are answers. -/
  benign : ∀ x ∈ exchanges, ∀ f, x.failure? = some f → x.fatal? = none →
    (∃ name, x.call = ⟨.createCollection name, .ok .alreadyExists⟩ ∧ f.code? = some 48) ∨
      ∃ name, x.call = ⟨.listIndexes name, .ok []⟩ ∧ f.code? = some 26
  /-- A reply with any code is a failure with this code. -/
  refused : ∀ x ∈ exchanges, ∀ code codeName text, x.reply = refusal code codeName text →
    x.failure? = some (.command code.toInt codeName text)
  succeeded : ∀ r, answer = .ok r → ∀ x ∈ exchanges, x.fatal? = none
  failed : ∀ e, answer = .error e → ∃ earlier last, exchanges = earlier ++ [last] ∧
    (∀ x ∈ earlier, x.fatal? = none) ∧
    ((∃ f, last.fatal? = some f ∧ Diagnosis last.request f e e.exitCode) ∨
      last.fatal? = none ∧ ∃ i ∈ schema.indexes, ∃ existing x,
        last.call = ⟨.listIndexes i.collection, .ok existing⟩ ∧
          i.definition.stateIn existing = .conflicting x ∧
          e = .conflictingDefinition i.collection.text x.name
            (Bootstrap.difference x i.definition))

/-- A server that is asked in order ends the run as it replied. -/
theorem AppliedAsReplied.of_order {schema : Schema} {exchanges : List Exchange}
    {answer : Except BootstrapError Report}
    (h : Bootstrap.AppliedInOrder schema (exchanges.map Exchange.call) answer) :
    AppliedAsReplied schema exchanges answer := by
  have happlies : ∀ x ∈ exchanges, x.request.Applies := fun x hx =>
    Bootstrap.applies_of_mem_applyRequests
      (h.requests.subset (List.mem_map_of_mem (List.mem_map_of_mem hx)))
  have hfatal : ∀ x ∈ exchanges, x.call.failed = false → x.fatal? = none := by
    intro x hx hcall
    rw [Call.failed_eq, Exchange.error?_call (happlies x hx)] at hcall
    simpa using hcall
  refine ⟨h, fun x hx f hfailure hnone => ?_, fun x hx code codeName text hreply => ?_, ?_, ?_⟩
  · refine Exchange.call_of_benign hfailure ?_
    simpa [Exchange.fatal?, hfailure] using hnone
  · obtain ⟨r, reply⟩ := x
    obtain rfl : reply = _ := hreply
    exact Exchange.failure?_refusal r code codeName text
  · rintro r rfl x hx
    exact hfatal x hx (h.ending _ (List.mem_map_of_mem hx))
  · rintro e rfl
    obtain ⟨calls, c, hcalls, hearlier, hcause⟩ := h.ending
    obtain ⟨earlier, rest, rfl, rfl, hrest⟩ := List.map_eq_append_iff.1 hcalls
    obtain ⟨last, rfl, rfl⟩ := List.map_eq_singleton_iff.1 hrest
    have hlast := happlies last (List.mem_append_right _ List.mem_cons_self)
    refine ⟨earlier, last, rfl, fun x hx => ?_, ?_⟩
    · exact hfatal x (List.mem_append_left _ hx) (hearlier _ (List.mem_map_of_mem hx))
    · rcases hcause.cases with ⟨e', herror, rfl⟩ | ⟨hnone, hconflict⟩
      · rw [Exchange.error?_call hlast] at herror
        obtain ⟨f, hf, rfl⟩ := Option.map_eq_some_iff.1 herror
        exact .inl ⟨f, hf, diagnosis_errorFor hlast f⟩
      · rw [Exchange.error?_call hlast] at hnone
        exact .inr ⟨Option.map_eq_none_iff.1 hnone, hconflict⟩

/-- Whatever a server replies, applying a valid schema takes its replies in order, ends at the first
failure that is a fault or the first listing that shows a conflict, sends nothing after it, and
reports it by the command and the code. -/
theorem apply_ends_as_replied (limit : Duration) {schema : Schema}
    (hvalid : schema.validate = .ok ()) (s : Session) :
    s.Transcript (s.transcript limit .apply schema) (s.report limit .apply schema).2 ∧
      AppliedAsReplied schema (s.transcript limit .apply schema)
        (s.report limit .apply schema).1 :=
  ⟨(Session.transcript_report limit .apply schema s).1,
    .of_order (Session.applied_in_order limit hvalid s)⟩

/-- A server that has the first collection and one without indexes for it, and whose documents
violate the first index. -/
def duplicatedAccounts : Session where
  database := "autosrt"
  replies :=
    [success [], refusal 48 "NamespaceExists" "already there", success [], success [], success [],
      refusal 26 "NamespaceNotFound" "no indexes", refusal 11000 "DuplicateKey" "dup key"]
  sent := []
  clock := 0

/-- The two failures that are no fault are passed over, and the third ends the run. -/
theorem apply_ends_as_replied_duplicatedAccounts :
    let exchanges := duplicatedAccounts.transcript Bootstrap.defaultLimit .apply (.builtin .null)
    let answer := (duplicatedAccounts.report Bootstrap.defaultLimit .apply (.builtin .null)).1
    (Schema.builtin .null).validate = .ok () ∧
      exchanges.length = 7 ∧
      answer = .error (.constraintViolation "users" "email"
        (Failure.command 11000 "DuplicateKey" "dup key").text) ∧
      AppliedAsReplied (.builtin .null) exchanges answer := by
  have hvalid : (Schema.builtin .null).validate = .ok () := by decide
  obtain ⟨-, hend⟩ := apply_ends_as_replied Bootstrap.defaultLimit hvalid duplicatedAccounts
  exact ⟨hvalid, by decide +kernel, by decide +kernel, hend⟩

end Server

end DocSchema
