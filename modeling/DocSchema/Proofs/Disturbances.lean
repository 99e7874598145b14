import DocSchema.Proofs.FailedRequests
import DocSchema.Proofs.SoftDeletions
import DocSchema.Proofs.Uniqueness

/-!
# DocSchema.Proofs.Disturbances

What soft deletions do to unique indexes of any kind.

An inserted document is checked against every unique index and a new index against every document,
but a soft deletion marks documents without looking at any index. A document that is marked disturbs
an index if that brings it into the index, or if the mark is a part of its key there
(`IndexDefinition.Disturbs`). Where no document of a collection disturbs a unique index, the
deletion keeps the keys apart (`separates_marked`). Where one does, two documents with the key of
this one are enough to have it twice (`exists_separates_of_disturbs`), so the condition cannot be
weakened. Declared indexes are disturbed only on the mark itself (`isOnMark_of_disturbs`),
and indexes in which the mark does not occur are not at all (`mark_of_disturbs`).
-/

namespace DocSchema

/-- A document that is active has null as its mark or none. -/
theorem SoftDelete.getD_deletedAt_of_isActive {d : Document}
    (h : SoftDelete.null.isActive d = true) : (d.get? deletedAt).getD .null = .null := by
  unfold isActive at h
  cases hmark : d.get? deletedAt with
  | none => rfl
  | some v =>
      rw [hmark] at h
      cases v <;> first | rfl | contradiction

namespace IndexDefinition

variable {x : IndexDefinition} {now : Int64} {field : FieldName} {value : Value} {d : Document}

/-- Whether a document disturbs an index when a soft deletion marks it at some time. -/
structure Disturbs (x : IndexDefinition) (now : Int64) (field : FieldName) (value : Value)
    (d : Document) : Prop where
  active : d.IsActiveWith field value
  /-- Marked, it is in the index. -/
  covered : x.covers (d.insert deletedAt (.dateTime now)) = true
  /-- Its key there equals itself, as no key with a NaN does. -/
  comparable : (x.keyOf (d.insert deletedAt (.dateTime now)) ==
    x.keyOf (d.insert deletedAt (.dateTime now))) = true
  /-- It was not in the index before, or its key has changed. -/
  changed : x.covers d = false ∨ deletedAt ∈ x.fields

/-! ## Undisturbed indexes -/

/-- A mark changes no key in which it has no part. -/
theorem keyOf_insert_deletedAt (hactive : SoftDelete.null.isActive d = true)
    (hfields : deletedAt ∉ x.fields) (now : Int64) :
    x.keyOf (d.insert deletedAt (.dateTime now)) = x.keyOf d := by
  refine List.map_congr_left fun path hpath => ?_
  have hne : path ≠ deletedAt := fun h => hfields (h ▸ hpath)
  rw [Document.getPath?_insert_of_ne d hne (SoftDelete.not_hasFields_of_isActive hactive) rfl]

/-- A document that does not disturb an index is in it after a soft deletion only with the key under
which it was in it before, if that key can be compared. -/
theorem covers_of_marked (hd : ¬ x.Disturbs now field value d)
    (hcovers : x.covers (Catalog.marked now field value d) = true)
    (hself : (x.keyOf (Catalog.marked now field value d) ==
      x.keyOf (Catalog.marked now field value d)) = true) :
    x.covers d = true ∧ x.keyOf (Catalog.marked now field value d) = x.keyOf d := by
  unfold Catalog.marked at hcovers hself ⊢
  split at hcovers
  · next hselects =>
    have hactive := Document.selects_iff.1 hselects
    rw [if_pos hselects] at hself ⊢
    have hunchanged : ¬ (x.covers d = false ∨ deletedAt ∈ x.fields) :=
      fun hchanged => hd ⟨hactive, hcovers, hself, hchanged⟩
    obtain ⟨hbefore, hfields⟩ := not_or.1 hunchanged
    exact ⟨Bool.not_eq_false _ ▸ hbefore, keyOf_insert_deletedAt hactive.1 hfields now⟩
  · next hselects =>
    rw [if_neg hselects]
    exact ⟨hcovers, rfl⟩

/-- A soft deletion keeps documents apart in an index that none of them disturbs. -/
theorem separates_marked {documents : List Document} (h : x.Separates documents)
    (hdocuments : ∀ d ∈ documents, ¬ x.Disturbs now field value d) :
    x.Separates (documents.map (Catalog.marked now field value)) := by
  refine List.pairwise_map.2 (List.Pairwise.imp_of_mem ?_ h)
  intro d e hd he hapart
  rw [Bool.eq_false_iff, ne_eq, clashes_eq_true_iff]
  rintro ⟨hcd, hce, hkeys⟩
  have hkeys' := Value.keys_beq_comm _ _ ▸ hkeys
  obtain ⟨hd, hkd⟩ := covers_of_marked (hdocuments d hd) hcd (Value.keys_beq_trans hkeys hkeys')
  obtain ⟨he, hke⟩ := covers_of_marked (hdocuments e he) hce (Value.keys_beq_trans hkeys' hkeys)
  rw [hkd, hke] at hkeys
  rw [(clashes_eq_true_iff x).2 ⟨hd, he, hkeys⟩] at hapart
  contradiction

/-- Only an index with the mark among its fields or in its filter can be disturbed. -/
theorem mark_of_disturbs (h : x.Disturbs now field value d) :
    deletedAt ∈ x.fields ∨ ∃ f ∈ x.filter.getD [], f.1 = deletedAt := by
  refine or_iff_not_imp_right.2 fun hfilter => ?_
  have hcondition : ∀ f ∈ x.filter.getD [],
      (d.insert deletedAt (.dateTime now)).getPath? f.1 = d.getPath? f.1 := fun f hf =>
    Document.getPath?_insert_of_ne d (fun hname => hfilter ⟨f, hf, hname⟩)
      (SoftDelete.not_hasFields_of_isActive h.active.1) rfl
  have hcovers : x.covers d = x.covers (d.insert deletedAt (.dateTime now)) := by
    unfold covers
    cases hx : x.filter with
    | none => rfl
    | some filter =>
        rw [hx, Option.getD_some] at hcondition
        dsimp only
        unfold Filter.accepts
        rw [Bool.eq_iff_iff, List.all_eq_true, List.all_eq_true]
        exact forall₂_congr fun f hf => by rw [hcondition f hf]
  refine h.changed.resolve_left fun hbefore => ?_
  rw [hcovers, h.covered] at hbefore
  contradiction

/-! ## Disturbed indexes -/

/-- An active document and the same document with its mark have different keys where the mark is a
part of them. -/
theorem keyOf_insert_deletedAt_ne (hactive : SoftDelete.null.isActive d = true)
    (hfield : deletedAt ∈ x.fields) (now : Int64) :
    (x.keyOf (d.insert deletedAt (.dateTime now)) == x.keyOf d) = false := by
  rw [Bool.eq_false_iff]
  intro hkeys
  have hmark := Value.beq_of_keys_beq hkeys hfield
  rw [Document.getPath?_deletedAt, Document.getPath?_deletedAt, Document.get?_insert_self,
    SoftDelete.getD_deletedAt_of_isActive hactive, Option.getD_some] at hmark
  contradiction

/-- A declared index is disturbed only if it is on the mark itself. -/
theorem isOnMark_of_disturbs {s : IndexSpec} (h : s.definition.Disturbs now field value d) :
    s.definition.IsOnMark := by
  by_contra hmark
  have hs : ¬ (s.activeOnly = none ∧ s.field.text = deletedAt) := fun ⟨hconvention, hfield⟩ =>
    hmark (IndexSpec.isOnMark_definition hconvention hfield)
  obtain ⟨hbefore, hkey⟩ := IndexSpec.mark_of_covers hs h.active.1 h.covered
  have hfield : deletedAt ∈ s.definition.fields := h.changed.resolve_left fun hother => by
    rw [hbefore] at hother
    contradiction
  have hcomparable := h.comparable
  have hne := keyOf_insert_deletedAt_ne h.active.1 hfield now
  rw [hkey] at hcomparable hne
  rw [hcomparable] at hne
  contradiction

/-- A document that disturbs an index disturbs it next to another one with its key, although the
two are kept apart before. -/
theorem exists_separates_of_disturbs (h : x.Disturbs now field value d) :
    ∃ documents, d ∈ documents ∧ x.Separates documents ∧
      ¬ x.Separates (documents.map (Catalog.marked now field value)) := by
  have hmarked : Catalog.marked now field value d = d.insert deletedAt (.dateTime now) :=
    if_pos (Document.selects_iff.2 h.active)
  have hagain : Catalog.marked now field value (d.insert deletedAt (.dateTime now)) =
      d.insert deletedAt (.dateTime now) := by
    rw [← hmarked]
    exact if_neg (Bool.eq_false_iff.1 (Catalog.selects_marked now field value d))
  have hclash : ¬ x.Separates
      [d.insert deletedAt (.dateTime now), d.insert deletedAt (.dateTime now)] := fun hapart => by
    have hclashes := (clashes_eq_true_iff x).2 ⟨h.covered, h.covered, h.comparable⟩
    rw [List.pairwise_pair.1 hapart] at hclashes
    contradiction
  cases hcovers : x.covers d with
  | false =>
      refine ⟨[d, d], List.mem_cons_self, List.pairwise_pair.2 ?_, ?_⟩
      · rw [clashes, hcovers, Bool.false_and, Bool.false_and]
      · rw [List.map_cons, List.map_singleton, hmarked]
        exact hclash
  | true =>
      have hfield : deletedAt ∈ x.fields := h.changed.resolve_left fun hother => by
        rw [hcovers] at hother
        contradiction
      refine ⟨[d.insert deletedAt (.dateTime now), d],
        List.mem_cons_of_mem _ List.mem_cons_self, List.pairwise_pair.2 ?_, ?_⟩
      · rw [clashes, keyOf_insert_deletedAt_ne h.active.1 hfield, Bool.and_false]
      · rw [List.map_cons, List.map_singleton, hmarked, hagain]
        exact hclash

end IndexDefinition

/-! ## Soft deletions -/

namespace Catalog

variable {c : Catalog}

/-- No two documents of a collection have one key in a unique index of it, wherever the index
comes from. -/
def KeysApart (c : Catalog) : Prop :=
  ∀ name, ∀ x ∈ (c.collection name).indexes, x.unique = true →
    x.Separates (c.collection name).documents

theorem keysApart_empty (database : String) (failure : Option Failure) :
    (empty database failure).KeysApart := fun _ _ hx => absurd hx List.not_mem_nil

theorem KeysApart.setCollection (h : c.KeysApart) {name : CollectionName} {content : Collection}
    (hcontent : ∀ x ∈ content.indexes, x.unique = true → x.Separates content.documents) :
    (c.setCollection name content).KeysApart := by
  intro other x hx hunique
  by_cases hname : name = other
  · subst hname
    rw [collection_setCollection_self] at hx ⊢
    exact hcontent x hx hunique
  · rw [collection_setCollection_of_ne _ _ hname] at hx ⊢
    exact h other x hx hunique

/-- A soft deletion keeps the keys apart where no document disturbs a unique index. -/
theorem KeysApart.answer_softDelete (h : c.KeysApart) {now : Int64} {name : CollectionName}
    {field : FieldName} {value : Value}
    (hdocuments : ∀ x ∈ (c.collection name).indexes, x.unique = true →
      ∀ d ∈ (c.collection name).documents, ¬ x.Disturbs now field value d) :
    (c.answer now (.softDelete name field value)).2.KeysApart := by
  cases hrefusal : c.refusal? true with
  | some e =>
      rw [answer_of_refusal (r := .softDelete name field value) hrefusal]
      exact h
  | none =>
      cases hget : c.collections.get? name with
      | none =>
          rw [answer_softDelete_of_missing hrefusal hget]
          exact h
      | some content =>
          rw [Catalog.answer_softDelete hrefusal hget]
          rw [collection_of_get?_eq_some hget] at hdocuments
          refine h.setCollection fun x hx hunique => ?_
          have hapart := h name x (collection_of_get?_eq_some hget ▸ hx) hunique
          rw [collection_of_get?_eq_some hget] at hapart
          exact IndexDefinition.separates_marked hapart (hdocuments x hx hunique)

/-- Where a document disturbs a unique index, the keys do not stay apart in some catalog that holds
it. -/
theorem exists_keysApart_of_disturbs {x : IndexDefinition} {now : Int64} {field : FieldName}
    {value : Value} {d : Document} (hunique : x.unique = true)
    (hdisturbs : x.Disturbs now field value d) (name : CollectionName) :
    ∃ c : Catalog, c.failure = none ∧ c.KeysApart ∧ (c.collection name).indexes = [x] ∧
      d ∈ (c.collection name).documents ∧
      ¬ (c.answer now (.softDelete name field value)).2.KeysApart := by
  obtain ⟨documents, hd, hbefore, hafter⟩ := IndexDefinition.exists_separates_of_disturbs hdisturbs
  refine ⟨(empty "shop" none).setCollection name ⟨[x], documents⟩, rfl, ?_, ?_, ?_, fun h => ?_⟩
  · refine (keysApart_empty _ _).setCollection fun y hy _ => ?_
    rw [List.mem_singleton.1 hy]
    exact hbefore
  · rw [collection_setCollection_self]
  · rw [collection_setCollection_self]
    exact hd
  · have hkeys := h name x
    rw [collection_answer_softDelete rfl, collection_setCollection_self] at hkeys
    exact hafter (hkeys List.mem_cons_self hunique)

/-- In every catalog whose unique indexes keep the keys apart, a soft deletion that fails changes
nothing, and one that does not keeps the keys apart if no document of the collection disturbs one of
its unique indexes. This condition is exact: an index and a document that disturbs it are together
in a catalog where the keys are apart before the soft deletion and not after it. Such an index has
the mark among its fields or in its filter, and a declared one is on the mark itself. -/
theorem soft_deletion_keeps_keys_apart (c : Catalog) (hkeys : c.KeysApart) (now : Int64)
    (name : CollectionName) (field : FieldName) (value : Value) :
    let answered := c.answer now (.softDelete name field value)
    (∀ e, answered.1 = .error e → answered.2 = c) ∧
      ((∀ x ∈ (c.collection name).indexes, x.unique = true →
          ∀ d ∈ (c.collection name).documents, ¬ x.Disturbs now field value d) →
        answered.2.KeysApart) ∧
      (∀ (x : IndexDefinition) (d : Document), x.unique = true → x.Disturbs now field value d →
        ∃ c' : Catalog, c'.failure = none ∧ c'.KeysApart ∧ (c'.collection name).indexes = [x] ∧
          d ∈ (c'.collection name).documents ∧
          ¬ (c'.answer now (.softDelete name field value)).2.KeysApart) ∧
      ∀ (x : IndexDefinition) (d : Document), x.Disturbs now field value d →
        (deletedAt ∈ x.fields ∨ ∃ f ∈ x.filter.getD [], f.1 = deletedAt) ∧
          ∀ s : IndexSpec, s.definition = x → x.IsOnMark := by
  intro answered
  refine ⟨(failed_request_changes_nothing c now _).1, hkeys.answer_softDelete,
    fun x d hunique hdisturbs => exists_keysApart_of_disturbs hunique hdisturbs name,
    fun x d hdisturbs => ⟨IndexDefinition.mark_of_disturbs hdisturbs, fun s hs => ?_⟩⟩
  subst hs
  exact IndexDefinition.isOnMark_of_disturbs hdisturbs

/-- A field for the teams that users play in. -/
def team : FieldName := ⟨"team", by decide⟩

/-- A unique index on the shirts in a team, among the users of one kind. -/
def shirts (kind : Value) : IndexDefinition where
  name := "team_1_shirt_1"
  keys := [("team", .int32 1), ("shirt", .int32 1)]
  unique := true
  filter := some [("deleted_at", kind)]

/-- Two players of a team, with one shirt each. -/
def players (first second : Int32) : List Document :=
  [[("team", .string "red"), ("shirt", .int32 first)],
    [("team", .string "red"), ("shirt", .int32 second), ("deleted_at", .null)]]

/-- A unique index on the shirts of the active players is not disturbed when all of them leave. -/
theorem soft_deletion_keeps_keys_apart_players :
    let c := (empty "club" none).setCollection Schema.users ⟨[shirts .null], players 7 9⟩
    c.KeysApart ∧ (∀ x ∈ (c.collection Schema.users).indexes, x.unique = true →
        ∀ d ∈ (c.collection Schema.users).documents, ¬ x.Disturbs 4 team (.string "red") d) ∧
      (c.answer 4 (.softDelete Schema.users team (.string "red"))).1 = .ok (2 : Nat) ∧
      (c.answer 4 (.softDelete Schema.users team (.string "red"))).2.KeysApart := by
  intro c
  have hkeys : c.KeysApart := (keysApart_empty _ _).setCollection fun x hx _ => by
    rw [List.mem_singleton.1 hx]
    exact List.pairwise_pair.2 rfl
  have hdocuments : ∀ x ∈ (c.collection Schema.users).indexes, x.unique = true →
      ∀ d ∈ (c.collection Schema.users).documents,
        ¬ x.Disturbs 4 team (.string "red") d := by
    intro x hx _ d hd hdisturbs
    have hcovered := hdisturbs.covered
    rw [List.mem_singleton.1 hx] at hcovered
    rcases List.mem_pair.1 hd with hd | hd
    all_goals
      rw [hd] at hcovered
      contradiction
  obtain ⟨-, hkept, -⟩ :=
    soft_deletion_keeps_keys_apart c hkeys 4 Schema.users team (.string "red")
  exact ⟨hkeys, hdocuments, rfl, hkept hdocuments⟩

/-- Two active players may wear one shirt as far as a unique index on the shirts of those who have
left is concerned. When both leave, the soft deletion succeeds, and the index has the shirt
twice. -/
theorem soft_deletion_repeats_key :
    let c := (empty "club" none).setCollection Schema.users
      ⟨[shirts (.document [("$exists", .bool true)])], players 7 7⟩
    let answered := c.answer 4 (.softDelete Schema.users team (.string "red"))
    c.KeysApart ∧ answered.1 = .ok (2 : Nat) ∧ ¬ answered.2.KeysApart := by
  intro c answered
  refine ⟨(keysApart_empty _ _).setCollection fun x hx _ => ?_, rfl, fun hkeys => ?_⟩
  · rw [List.mem_singleton.1 hx]
    exact List.pairwise_pair.2 rfl
  · have hapart := List.pairwise_pair.1 (hkeys Schema.users _ List.mem_cons_self rfl)
    contradiction

end Catalog

end DocSchema
