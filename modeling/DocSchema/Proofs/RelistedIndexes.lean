import DocSchema.Proofs.Agreement
import DocSchema.Proofs.Reorderings
import DocSchema.Proofs.ServerFailures

/-!
# DocSchema.Proofs.RelistedIndexes

Indexes that were sent to a server are recognised when the server lists them.

A server may write a direction, a flag of uniqueness and a filter in another way than the command
carried them (`Restates`, `ListedAsSent`). What is read from such an entry agrees with the
declaration that was sent, so a listing with it shows no conflict and lacks no index. Where all
listings are made of what was sent before, applying a schema a second time therefore creates no
index.
-/

namespace DocSchema.Server

open Bootstrap

/-! ## Restated indexes -/

/-- The ways to write an ascending direction. -/
inductive Ascending : Value → Prop where
  | int32 : Ascending (.int32 1)
  | int64 : Ascending (.int64 1)
  | double : Ascending (.double ⟨0x3FF0000000000000⟩)

/-- Whether two keys are on one field in the same direction. -/
def SameKey (sent listed : String × Value) : Prop :=
  sent.1 = listed.1 ∧ (sent.2 = listed.2 ∨ Ascending sent.2 ∧ Ascending listed.2)

/-- Whether a listed index is one that was sent. An ascending direction may be written in another
way, the flag of uniqueness may be left out where it is false, and the filter may be reordered. -/
structure Restates (sent listed : Document) : Prop where
  name : listed.get? "name" = sent.get? "name"
  keys : ∃ keys keys', sent.get? "key" = some (.document keys) ∧
    listed.get? "key" = some (.document keys') ∧ List.Forall₂ SameKey keys keys'
  unique : listed.get? "unique" = sent.get? "unique" ∨
    sent.get? "unique" = some (.bool false) ∧ listed.get? "unique" = none
  filter : Option.Rel Value.Reordered (sent.get? "partialFilterExpression")
    (listed.get? "partialFilterExpression")

theorem direction_of_ascending {v : Value} (h : Ascending v) : IndexDefinition.direction v = 1 := by
  cases h <;> decide

/-- Keys in the same direction make the same pattern. -/
theorem keyPattern_of_sameKeys {keys keys' : Document} (h : List.Forall₂ SameKey keys keys') :
    keys'.map (fun f => (f.1, IndexDefinition.direction f.2)) =
      keys.map fun f => (f.1, IndexDefinition.direction f.2) := by
  induction h with
  | nil => rfl
  | @cons f g keys keys' hkey _ ih =>
      obtain ⟨hname, hdirection⟩ := hkey
      have hsame : IndexDefinition.direction g.2 = IndexDefinition.direction f.2 := by
        rcases hdirection with heq | ⟨hsent, hlisted⟩
        · rw [heq]
        · rw [direction_of_ascending hsent, direction_of_ascending hlisted]
      rw [List.map_cons, List.map_cons, ih, hname, hsame]

section

variable {i j : IndexSpec} {listed : Document} {x : IndexDefinition}

/-- The fields of a declared index that is sent. -/
theorem get?_indexModel (i : IndexSpec) :
    Document.get? (indexModel i) "name" = some (.string i.name) ∧
      Document.get? (indexModel i) "key" = some (.document i.definition.keys) ∧
      Document.get? (indexModel i) "unique" = some (.bool i.unique) ∧
      Document.get? (indexModel i) "partialFilterExpression" =
        i.definition.filter.map .document := by
  simp only [indexModel]
  cases i.definition.filter <;> exact ⟨rfl, rfl, rfl, rfl⟩

/-- The indexes that a command creates in a collection. -/
def sentIndexes (name : CollectionName) (command : Document) : List Document :=
  if textAt command "createIndexes" = name.text then
    (((command.get? "indexes").bind items?).getD []).filterMap document?
  else []

/-- The command for a declared index carries that index and no other. -/
theorem sentIndexes_command (database : String) (now : Int64) (i : IndexSpec) :
    sentIndexes i.collection (command database now (.createIndex i)) = [indexModel i] := if_pos rfl

/-- Whether a listed index is the one that the command for a declared index carries. -/
def ListedAsSent (i : IndexSpec) (listed : Document) : Prop :=
  ∃ database now, ∃ sent ∈ sentIndexes i.collection (command database now (.createIndex i)),
    Restates sent listed

/-- What a command carries depends on nothing but the declaration. -/
theorem listedAsSent_iff : ListedAsSent i listed ↔ Restates (indexModel i) listed := by
  constructor
  · rintro ⟨database, now, sent, hsent, hrestates⟩
    rw [sentIndexes_command] at hsent
    exact List.mem_singleton.1 hsent ▸ hrestates
  · intro hrestates
    refine ⟨"", 0, indexModel i, ?_, hrestates⟩
    rw [sentIndexes_command]
    exact List.mem_singleton_self _

/-- A reordered filter is read as an equal one. -/
theorem sameFilter_of_reordered {filter : Option Document}
    (hself : IndexDefinition.sameFilter filter filter = true) {value : Option Value}
    (h : Option.Rel Value.Reordered (filter.map .document) value) :
    IndexDefinition.sameFilter filter (value.bind document?) = true := by
  cases filter with
  | none =>
      cases h
      rfl
  | some f =>
      cases h with
      | some hreordered =>
          have htest := Value.test_of_reordered hreordered hself
          cases hreordered with
          | refl v => exact htest
          | document hnames hfields horder => exact htest

/-- What is read from an index that was sent agrees with its declaration. -/
theorem agrees_of_listedAsSent (hsent : ListedAsSent i listed) :
    i.definition.agrees (definitionOf listed) = true := by
  have h := listedAsSent_iff.1 hsent
  obtain ⟨hname, hkey, hunique, hfilter⟩ := get?_indexModel i
  have hname' : (definitionOf listed).name = i.name := by
    simp only [definitionOf, textAt, h.name, hname]
    rfl
  have hpattern : (definitionOf listed).keyPattern = i.definition.keyPattern := by
    obtain ⟨keys, keys', hsent, hlisted, hkeys⟩ := h.keys
    rw [hkey] at hsent
    obtain rfl : i.definition.keys = keys := Value.document.inj (Option.some.inj hsent)
    simp only [IndexDefinition.keyPattern, definitionOf, hlisted]
    exact keyPattern_of_sameKeys hkeys
  have hunique' : (definitionOf listed).unique = i.unique := by
    rcases h.unique with heq | ⟨hsent, hnone⟩
    · simp only [definitionOf, heq, hunique]
    · rw [hunique] at hsent
      have hfalse : i.unique = false := Value.bool.inj (Option.some.inj hsent)
      simp only [definitionOf, hnone, hfalse]
  obtain ⟨-, -, -, hself⟩ := IndexDefinition.agrees_iff.1 i.agrees_definition
  have hrel := h.filter
  rw [hfilter] at hrel
  exact IndexDefinition.agrees_iff.2
    ⟨hname'.symm, hpattern.symm, hunique'.symm, sameFilter_of_reordered hself hrel⟩

/-- The declarations that are related to an index are those on its field. -/
theorem isRelated_iff_of_agrees (h : j.definition.agrees x = true) :
    i.definition.isRelated x = true ↔ i.field = j.field := by
  obtain ⟨hname, hpattern, -⟩ := IndexDefinition.agrees_iff.1 h
  rw [← IndexSpec.isRelated_definition_iff, IndexDefinition.isRelated, IndexDefinition.isRelated,
    hname, hpattern]

/-- Two declarations on one collection that agree with one index are the same. -/
theorem eq_of_agrees (hcollection : i.collection = j.collection)
    (hi : i.definition.agrees x = true) (hj : j.definition.agrees x = true) : i = j :=
  (IndexSpec.agrees_definition_iff_eq hcollection).1 (IndexDefinition.agrees_of_agrees hi hj)

end

/-! ## Listings -/

/-- Whether a listed index shares neither its name nor its fields with a declared one. -/
def Unrelated (i : IndexSpec) (listed : Document) : Prop :=
  (definitionOf listed).name ≠ i.name ∧
    (definitionOf listed).keyPattern ≠ i.definition.keyPattern

/-- Whether the entries of a listing show a declared index as it was sent, and none like it. -/
structure Shows (i : IndexSpec) (entries : List Document) : Prop where
  listed : ∃ e ∈ entries, ListedAsSent i e
  others : ∀ e ∈ entries, ListedAsSent i e ∨ Unrelated i e

theorem unrelated_iff {i : IndexSpec} {listed : Document} :
    Unrelated i listed ↔ i.definition.isRelated (definitionOf listed) = false := by
  simp only [Unrelated, IndexDefinition.isRelated, Bool.or_eq_false_iff, beq_eq_false_iff_ne]
  rfl

/-- An index that is shown as it was sent is recognised. -/
theorem stateIn_of_shows {i : IndexSpec} {entries : List Document} (h : Shows i entries) :
    i.definition.stateIn (entries.map definitionOf) = .identical := by
  rw [IndexDefinition.stateIn_eq_identical_iff]
  constructor
  · obtain ⟨e, he, hlisted⟩ := h.listed
    exact ⟨_, List.mem_map_of_mem he,
      (isRelated_iff_of_agrees (agrees_of_listedAsSent hlisted)).2 rfl⟩
  · intro x hx hrelated
    obtain ⟨e, he, rfl⟩ := List.mem_map.1 hx
    rcases h.others e he with hlisted | hunrelated
    · exact agrees_of_listedAsSent hlisted
    · rw [unrelated_iff.1 hunrelated] at hrelated
      contradiction

/-- The entries that a reply lists: none where the collection does not exist. -/
def Exchange.entries? (x : Exchange) : Option (List Document) :=
  match accept false x.reply with
  | .ok d => (cursorEntries d).toOption
  | .error f => if f.code? = some 26 then some [] else none

/-- The indexes of a listing are read from its entries. -/
theorem Exchange.entries_of_call {x : Exchange} {name : CollectionName}
    {existing : List IndexDefinition} (h : x.call = ⟨.listIndexes name, .ok existing⟩) :
    x.request = .listIndexes name ∧
      ∃ entries, x.entries? = some entries ∧ existing = entries.map definitionOf := by
  obtain ⟨r, reply⟩ := x
  obtain ⟨rfl, hresult⟩ := Call.mk.inj h
  have hresult := eq_of_heq hresult
  simp only [result] at hresult
  refine ⟨rfl, ?_⟩
  simp only [entries?]
  cases haccept : accept false reply with
  | ok d =>
      rw [haccept] at hresult
      dsimp only at hresult
      cases hentries : cursorEntries d with
      | ok entries =>
          rw [hentries] at hresult
          exact ⟨entries, congrArg Except.toOption hentries, (Except.ok.inj hresult).symm⟩
      | error f =>
          rw [hentries] at hresult
          contradiction
  | error f =>
      rw [haccept] at hresult
      dsimp only at hresult ⊢
      split at hresult
      · next hcode => exact ⟨[], if_pos hcode, (Except.ok.inj hresult).symm⟩
      · contradiction

/-! ## Runs on listings that show an index -/

section

variable {schema : Schema} {i : IndexSpec} {exchanges : List Exchange}

/-- Whether all listings for a declared index show it as it was sent. -/
def AlwaysShows (i : IndexSpec) (exchanges : List Exchange) : Prop :=
  ∀ x ∈ exchanges, x.request = .listIndexes i.collection →
    ∀ entries, x.entries? = some entries → Shows i entries

theorem AlwaysShows.stateIn (h : AlwaysShows i exchanges) {existing : List IndexDefinition}
    (hcall : ⟨.listIndexes i.collection, .ok existing⟩ ∈ exchanges.map Exchange.call) :
    i.definition.stateIn existing = .identical := by
  obtain ⟨x, hx, hcall⟩ := List.mem_map.1 hcall
  obtain ⟨hrequest, entries, hentries, rfl⟩ := Exchange.entries_of_call hcall
  exact stateIn_of_shows (h x hx hrequest entries hentries)

/-- An index that is always shown is never created. -/
theorem AlwaysShows.not_created (h : AlwaysShows i exchanges)
    (hguarded : Guarded (exchanges.map Exchange.call)) :
    ∀ x ∈ exchanges, x.request ≠ .createIndex i := by
  intro x hx hrequest
  obtain ⟨existing, hmissing, hpair⟩ := hguarded x.call (List.mem_map_of_mem hx) i hrequest
  rw [h.stateIn (hpair.subset List.mem_cons_self)] at hmissing
  contradiction

/-- An index that is always shown is reported as unchanged. -/
theorem AlwaysShows.unchanged (h : AlwaysShows i exchanges) {outcomes : List Outcome}
    (hcalls : ApplyCalls schema (exchanges.map Exchange.call) (.ok outcomes))
    (hi : i ∈ schema.indexes) : ⟨.index i, .unchanged⟩ ∈ outcomes := by
  obtain ⟨before, existing, after, hsplit, ⟨-, hunchanged⟩ | ⟨hmissing, -⟩⟩ :=
    hcalls.exists_listing hi
  · exact hunchanged
  · have hlisting : ⟨.listIndexes i.collection, .ok existing⟩ ∈ exchanges.map Exchange.call :=
      hsplit ▸ List.mem_append_right _ List.mem_cons_self
    rw [h.stateIn hlisting] at hmissing
    contradiction

end

/-! ## Servers that list what they were sent -/

section

variable {schema : Schema} {history exchanges : List Exchange} {i : IndexSpec}

/-- Whether an index was sent, and accepted. -/
def Registered (i : IndexSpec) (history : List Exchange) : Prop :=
  ⟨.createIndex i, .ok ()⟩ ∈ history.map Exchange.call

/-- Whether a listing of a collection shows what was sent for it, and besides that only indexes that
have nothing to do with a schema. -/
structure Lists (schema : Schema) (history : List Exchange) (name : CollectionName)
    (entries : List Document) : Prop where
  known : ∀ e ∈ entries,
    (∃ i, i.collection = name ∧ Registered i history ∧ ListedAsSent i e) ∨
      ∀ i ∈ schema.indexes, i.collection = name → Unrelated i e
  kept : ∀ i, i.collection = name → Registered i history →
    ∃ e ∈ entries, ListedAsSent i e

/-- Whether a server always lists what it was sent, in the given history and since. -/
def KeepsIndexes (schema : Schema) (history : List Exchange) : List Exchange → Prop
  | [] => True
  | x :: exchanges =>
    (∀ name entries, x.request = .listIndexes name → x.entries? = some entries →
      Lists schema history name entries) ∧ KeepsIndexes schema (history ++ [x]) exchanges

theorem registered_append {more : List Exchange} :
    Registered i (history ++ more) ↔ Registered i history ∨ Registered i more := by
  rw [Registered, List.map_append, List.mem_append]
  rfl

/-- Every listing shows what was sent before it. -/
theorem KeepsIndexes.lists {before after : List Exchange} {x : Exchange}
    (h : KeepsIndexes schema history (before ++ x :: after)) {name : CollectionName}
    {entries : List Document} (hrequest : x.request = .listIndexes name)
    (hentries : x.entries? = some entries) :
    Lists schema (history ++ before) name entries := by
  induction before generalizing history with
  | nil =>
      rw [List.append_nil]
      exact h.1 name entries hrequest hentries
  | cons y before ih =>
      rw [List.append_cons]
      exact ih h.2

/-- A listing shows a declared index that was sent, if no other was sent for its field. -/
theorem Lists.shows {entries : List Document}
    (h : Lists schema history i.collection entries) (hi : i ∈ schema.indexes)
    (hregistered : Registered i history)
    (honly : ∀ j, Registered j history → j.collection = i.collection → i.field = j.field → j = i) :
    Shows i entries := by
  refine ⟨h.kept i rfl hregistered, fun e he => ?_⟩
  rcases h.known e he with ⟨j, hj, hsent, hlisted⟩ | hunrelated
  · by_cases hfield : i.field = j.field
    · exact .inl (honly j hsent hj hfield ▸ hlisted)
    · refine .inr (unrelated_iff.2 (Bool.eq_false_iff.2 fun hrelated => hfield ?_))
      exact (isRelated_iff_of_agrees (agrees_of_listedAsSent hlisted)).1 hrelated
  · exact .inr (hunrelated i hi rfl)

/-- Once a schema was applied, its indexes were sent at some time, and no others on their fields
before. -/
theorem registered_of_applied {outcomes : List Outcome}
    (hcalls : ApplyCalls schema (exchanges.map Exchange.call) (.ok outcomes))
    (h : KeepsIndexes schema history exchanges) (hi : i ∈ schema.indexes) :
    Registered i (history ++ exchanges) ∧
      ∀ j, Registered j history → j.collection = i.collection → i.field = j.field → j = i := by
  obtain ⟨before, existing, after, hsplit, hstate⟩ := hcalls.exists_listing hi
  obtain ⟨earlier, rest, rfl, rfl, hrest⟩ := List.map_eq_append_iff.1 hsplit
  obtain ⟨x, later, rfl, hcall, rfl⟩ := List.map_eq_cons_iff.1 hrest
  obtain ⟨hrequest, entries, hentries, rfl⟩ := Exchange.entries_of_call hcall
  have hlists := h.lists hrequest hentries
  constructor
  · rcases hstate with ⟨hidentical, -⟩ | ⟨-, hcreated⟩
    · obtain ⟨⟨y, hy, hrelated⟩, hagree⟩ :=
        IndexDefinition.stateIn_eq_identical_iff.1 hidentical
      obtain ⟨e, he, rfl⟩ := List.mem_map.1 hy
      rcases hlists.known e he with ⟨j, hj, hsent, hlisted⟩ | hunrelated
      · obtain rfl : i = j := eq_of_agrees hj.symm (hagree _ hy hrelated)
          (agrees_of_listedAsSent hlisted)
        rw [← List.append_assoc]
        exact registered_append.2 (.inl hsent)
      · rw [unrelated_iff.1 (hunrelated i hi rfl)] at hrelated
        contradiction
    · exact registered_append.2 (.inr hcreated)
  · intro j hsent hj hfield
    obtain ⟨e, he, hlisted⟩ := hlists.kept j hj (registered_append.2 (.inl hsent))
    have hagrees := agrees_of_listedAsSent hlisted
    have hrelated : i.definition.isRelated (definitionOf e) = true :=
      (isRelated_iff_of_agrees hagrees).2 hfield
    rcases hstate with ⟨hidentical, -⟩ | ⟨hmissing, -⟩
    · obtain ⟨-, hagree⟩ := IndexDefinition.stateIn_eq_identical_iff.1 hidentical
      exact eq_of_agrees hj hagrees (hagree _ (List.mem_map_of_mem he) hrelated)
    · have hnone := IndexDefinition.stateIn_eq_missing_iff.1 hmissing _ (List.mem_map_of_mem he)
      rw [hnone] at hrelated
      contradiction

/-- Once a schema was applied, applying it again is always shown its indexes. -/
theorem alwaysShows_of_applied (hs : schema.Consistent) {first second : List Exchange}
    {outcomes : List Outcome} {answer answer' : Except BootstrapError Report}
    (hcalls : ApplyCalls schema (first.map Exchange.call) (.ok outcomes))
    (hfirst : AppliedInOrder schema (first.map Exchange.call) answer)
    (hsecond : AppliedInOrder schema (second.map Exchange.call) answer')
    (hkeeps : KeepsIndexes schema history first)
    (hkeeps' : KeepsIndexes schema (history ++ first) second) (hi : i ∈ schema.indexes) :
    AlwaysShows i second := by
  intro x hx hrequest entries hentries
  obtain ⟨before, after, rfl⟩ := List.append_of_mem hx
  obtain ⟨hregistered, honly⟩ := registered_of_applied hcalls hkeeps hi
  refine (hkeeps'.lists hrequest hentries).shows hi (registered_append.2 (.inl hregistered)) ?_
  intro j hj hcollection hfield
  have hdeclared : j ∈ schema.indexes → j = i := fun hmem =>
    (hs.eq_of_overlap hi hmem ⟨hcollection.symm, hfield⟩).symm
  rcases registered_append.1 hj with hj | hj
  · rcases registered_append.1 hj with hj | hj
    · exact honly j hj hcollection hfield
    · exact hdeclared (hfirst.mem_indexes hj rfl)
  · refine hdeclared (hsecond.mem_indexes (c := ⟨.createIndex j, .ok ()⟩) ?_ rfl)
    rw [List.map_append]
    exact List.mem_append_left _ hj

end

/-! ## Applying again -/

/-- No other request is sent as a command to create indexes. -/
theorem get?_createIndexes {r : Request} (h : ∀ i, r ≠ .createIndex i) (database : String)
    (now : Int64) : (command database now r).get? "createIndexes" = none := by
  cases r with
  | createIndex i => exact absurd rfl (h i)
  | _ => rfl

/-- A declared index that a listing shows as it was sent is recognised, and applying a schema over
such listings leaves it as it is. So, where a server lists what it was sent, applying a schema again
creates no index, and it fails only where a command does. -/
theorem relisted_indexes_recognised (limit limit' : Duration) {schema : Schema}
    (hvalid : schema.validate = .ok ()) (first second : Session) (earlier : List Exchange) :
    let exchanges := first.transcript limit .apply schema
    let answer := (first.report limit .apply schema).1
    let exchanges' := second.transcript limit' .apply schema
    let answer' := (second.report limit' .apply schema).1
    (∀ i entries, Shows i entries →
        i.definition.stateIn (entries.map definitionOf) = .identical) ∧
      (∀ i ∈ schema.indexes, AlwaysShows i exchanges →
        (∀ x ∈ exchanges, x.request ≠ .createIndex i) ∧
          ∀ r, answer = .ok r → ⟨.index i, .unchanged⟩ ∈ r.outcomes) ∧
      (KeepsIndexes schema earlier exchanges → (∃ r, answer = .ok r) →
        KeepsIndexes schema (earlier ++ exchanges) exchanges' →
          (∃ commands, (second.report limit' .apply schema).2.sent = second.sent ++ commands ∧
            ∀ d ∈ commands, d.get? "createIndexes" = none) ∧
          (∀ r, answer' = .ok r → ∀ i ∈ schema.indexes, ⟨.index i, .unchanged⟩ ∈ r.outcomes) ∧
          ∀ e, answer' = .error e → ∃ x ∈ exchanges', x.fatal? ≠ none) := by
  intro exchanges answer exchanges' answer'
  have hs : schema.Consistent := Schema.validate_eq_ok_iff.1 hvalid
  have hfirst : AppliedInOrder schema (exchanges.map Exchange.call) answer :=
    Session.applied_in_order limit hvalid first
  have hsecond : AppliedInOrder schema (exchanges'.map Exchange.call) answer' :=
    Session.applied_in_order limit' hvalid second
  refine ⟨fun _ _ => stateIn_of_shows, fun i hi hshows => ⟨?_, fun r hr => ?_⟩, ?_⟩
  · exact hshows.not_created hfirst.guarded
  · exact hshows.unchanged (Session.applyCalls_of_report limit hvalid first hr) hi
  · rintro hkeeps ⟨r, hr⟩ hkeeps'
    have hshows : ∀ i ∈ schema.indexes, AlwaysShows i exchanges' := fun i hi =>
      alwaysShows_of_applied hs (Session.applyCalls_of_report limit hvalid first hr) hfirst hsecond
        hkeeps hkeeps' hi
    obtain ⟨hsession, -⟩ := Session.transcript_report limit' .apply schema second
    refine ⟨⟨_, hsession.sent, List.forall_mem_map.2 fun x hx => ?_⟩, fun r' hr' i hi => ?_,
      fun e he => ?_⟩
    · refine get?_createIndexes (fun i hrequest => ?_) _ _
      have hi : i ∈ schema.indexes :=
        hsecond.mem_indexes (List.mem_map_of_mem (f := Exchange.call) hx) hrequest
      exact (hshows i hi).not_created hsecond.guarded x hx hrequest
    · exact (hshows i hi).unchanged (Session.applyCalls_of_report limit' hvalid second hr') hi
    · obtain ⟨before, last, hsplit, -, hend⟩ := (AppliedAsReplied.of_order hsecond).failed e he
      have hlast : last ∈ exchanges' := hsplit ▸ List.mem_append_right _ List.mem_cons_self
      rcases hend with ⟨f, hf, -⟩ | ⟨-, i, hi, existing, x, hcall, hconflict, -⟩
      · exact ⟨last, hlast, hf ▸ Option.some_ne_none f⟩
      · rw [(hshows i hi).stateIn (hcall ▸ List.mem_map_of_mem hlast)] at hconflict
        contradiction

/-- A schema with one index that is neither unique nor on all documents. -/
def stock : Schema where
  database := "shop"
  collections := [⟨"items", by decide⟩]
  indexes := [⟨⟨"items", by decide⟩, ⟨"sku", by decide⟩, false, some .absent⟩]

/-- The reply with a listing. -/
def listing (entries : List Document) : Reply :=
  success [("cursor", .document [("firstBatch", .array (entries.map .document))])]

/-- The index that every collection has. -/
def idEntry : Document :=
  [("v", .int32 2), ("key", .document [("_id", .int32 1)]), ("name", .string "_id_")]

/-- The index on the stock as a server lists it: its direction is a double, and it does not say that
it is not unique. -/
def skuEntry : Document :=
  [("v", .int32 2), ("key", .document [("sku", .double ⟨0x3FF0000000000000⟩)]),
    ("name", .string "sku_1"),
    ("partialFilterExpression",
      .document [(deletedAt, .document [("$exists", .bool false)])])]

/-- The session of a first run, on a server that has nothing but the index of every collection. -/
def emptyStock : Session :=
  ⟨"shop", [success [], success [], listing [idEntry], success []], [], 0⟩

/-- The session of a second run, on the same server. -/
def filledStock : Session :=
  ⟨"shop", [success [], refusal 48 "NamespaceExists" "exists", listing [idEntry, skuEntry]], [], 0⟩

theorem unrelated_idEntry : ∀ i ∈ stock.indexes, Unrelated i idEntry := by
  intro i hi
  obtain rfl := List.mem_singleton.1 hi
  exact unrelated_iff.2 rfl

theorem listedAsSent_skuEntry : ∀ i ∈ stock.indexes, ListedAsSent i skuEntry := by
  intro i hi
  obtain rfl := List.mem_singleton.1 hi
  refine listedAsSent_iff.2 ⟨rfl, ⟨_, _, rfl, rfl, ?_⟩, .inr ⟨rfl, rfl⟩, .some (.refl _)⟩
  exact .cons ⟨rfl, .inr ⟨.int32, .double⟩⟩ .nil

/-- The second run is shown the index. -/
theorem alwaysShows_filledStock : ∀ i ∈ stock.indexes,
    AlwaysShows i (filledStock.transcript defaultLimit .apply stock) := by
  intro i hi x hx hrequest entries hentries
  rcases hx with _ | ⟨_, _ | ⟨_, _ | ⟨_, ⟨⟩⟩⟩⟩
  · contradiction
  · contradiction
  · obtain rfl : [idEntry, skuEntry] = entries := Option.some.inj hentries
    refine ⟨⟨skuEntry, List.mem_cons_of_mem _ List.mem_cons_self, listedAsSent_skuEntry i hi⟩, ?_⟩
    intro e he
    rcases List.mem_pair.1 he with rfl | rfl
    · exact .inr (unrelated_idEntry i hi)
    · exact .inl (listedAsSent_skuEntry i hi)

/-- The first server has nothing to list. -/
theorem keepsIndexes_emptyStock :
    KeepsIndexes stock [] (emptyStock.transcript defaultLimit .apply stock) := by
  refine ⟨nofun, nofun, fun name entries hrequest hentries => ?_, nofun, trivial⟩
  obtain rfl := Request.listIndexes.inj hrequest
  obtain rfl : [idEntry] = entries := Option.some.inj hentries
  constructor
  · intro e he
    obtain rfl := List.mem_singleton.1 he
    exact .inr fun i hi _ => unrelated_idEntry i hi
  · intro i hi hsent
    rcases hsent with _ | ⟨_, _ | ⟨_, ⟨⟩⟩⟩

/-- The second server lists the index that the first was sent. -/
theorem keepsIndexes_filledStock :
    KeepsIndexes stock (emptyStock.transcript defaultLimit .apply stock)
      (filledStock.transcript defaultLimit .apply stock) := by
  refine ⟨nofun, nofun, fun name entries hrequest hentries => ?_, trivial⟩
  obtain rfl := Request.listIndexes.inj hrequest
  obtain rfl : [idEntry, skuEntry] = entries := Option.some.inj hentries
  constructor
  · intro e he
    rcases List.mem_pair.1 he with rfl | rfl
    · exact .inr fun i hi _ => unrelated_idEntry i hi
    · refine .inl ⟨_, rfl, ?_, listedAsSent_skuEntry _ List.mem_cons_self⟩
      exact .tail _ (.tail _ (.tail _ (.head _)))
  · intro i hi hsent
    rcases hsent with _ | ⟨_, _ | ⟨_, _ | ⟨_, _ | ⟨_, _ | ⟨_, _ | ⟨_, ⟨⟩⟩⟩⟩⟩⟩⟩
    exact ⟨skuEntry, by simp, listedAsSent_skuEntry _ List.mem_cons_self⟩

/-- The index on the stock is created by the first run and recognised by the second. -/
theorem relisted_indexes_recognised_stock :
    let exchanges := emptyStock.transcript defaultLimit .apply stock
    let exchanges' := filledStock.transcript defaultLimit .apply stock
    stock.validate = .ok () ∧
      (∀ i ∈ stock.indexes, AlwaysShows i exchanges' ∧
        ∀ x ∈ exchanges', x.request ≠ .createIndex i) ∧
      KeepsIndexes stock [] exchanges ∧
      (∃ r, (emptyStock.report defaultLimit .apply stock).1 = .ok r ∧ r.created = 2) ∧
      KeepsIndexes stock exchanges exchanges' ∧
      (∃ r, (filledStock.report defaultLimit .apply stock).1 = .ok r ∧
        ∀ i ∈ stock.indexes, ⟨.index i, .unchanged⟩ ∈ r.outcomes) ∧
      ∀ d ∈ (filledStock.report defaultLimit .apply stock).2.sent,
        d.get? "createIndexes" = none := by
  have hvalid : stock.validate = .ok () := by decide
  have hcreated : ∃ r, (emptyStock.report defaultLimit .apply stock).1 = .ok r ∧ r.created = 2 :=
    ⟨_, rfl, rfl⟩
  have ⟨r, hr, _⟩ := hcreated
  obtain ⟨-, -, hagain⟩ := relisted_indexes_recognised defaultLimit defaultLimit hvalid emptyStock
    filledStock []
  obtain ⟨⟨commands, hsent, hcommands⟩, hunchanged, -⟩ :=
    hagain keepsIndexes_emptyStock ⟨r, hr⟩ keepsIndexes_filledStock
  obtain ⟨-, hrecognised, -⟩ := relisted_indexes_recognised defaultLimit defaultLimit hvalid
    filledStock filledStock []
  refine ⟨hvalid, fun i hi => ?_, keepsIndexes_emptyStock, hcreated, keepsIndexes_filledStock,
    ⟨_, rfl, hunchanged _ rfl⟩, fun d hd => ?_⟩
  · have hshows := alwaysShows_filledStock i hi
    exact ⟨hshows, (hrecognised i hi hshows).1⟩
  · rw [hsent] at hd
    exact hcommands d hd

end DocSchema.Server
