import DocSchema.Proofs.Clients
import DocSchema.Schema.Builtin

/-!
# DocSchema.Proofs.Uniqueness

No two documents ever clash in a unique index that was created by a declaration, whatever the
clients of a catalog do and in whatever order they do it.

Creating an index and inserting a document both look for clashes. Soft deletion does not look; it
is harmless because marking a document takes it out of every index with a convention and changes no
key of the others. The one exception is an index over all documents on the mark itself, where two
documents that are marked at one time get one key.
-/

namespace DocSchema

/-- Whether an index covers every document under its mark of deletion. -/
def IndexDefinition.IsOnMark (x : IndexDefinition) : Prop :=
  x.filter = none ∧ x.fields = [deletedAt]

/-- Declared indexes on the mark are those of declarations without a convention on it. -/
theorem IndexSpec.isOnMark_definition {s : IndexSpec} (hconvention : s.activeOnly = none)
    (hfield : s.field.text = deletedAt) : s.definition.IsOnMark :=
  ⟨by rw [definition, hconvention, Option.map_none], by rw [fields_definition, hfield]⟩

/-- The indexes of a collection come from declarations, and the unique ones separate its documents,
with the exception of those on the mark. -/
def Collection.KeysUnique (content : Collection) : Prop :=
  ∀ x ∈ content.indexes, (∃ s : IndexSpec, s.definition = x) ∧
    (x.unique = true → ¬ x.IsOnMark → x.Separates content.documents)

namespace Collection

theorem keysUnique_empty : empty.KeysUnique := fun _ hx => absurd hx List.not_mem_nil

/-- A declared index joins the others when it separates the documents or is not unique. -/
theorem KeysUnique.addIndex {content : Collection} (h : content.KeysUnique) {s : IndexSpec}
    (hs : s.unique = true → s.definition.Separates content.documents) :
    KeysUnique { content with indexes := content.indexes ++ [s.definition] } := by
  intro x hx
  rcases List.mem_append.1 hx with hx | hx
  · exact h x hx
  · rw [List.mem_singleton.1 hx]
    exact ⟨⟨s, rfl⟩, fun hu _ => hs hu⟩

/-- A document joins the others when it clashes with none of them in any unique index. -/
theorem KeysUnique.addDocument {content : Collection} (h : content.KeysUnique) {d : Document}
    (hd : ∀ x ∈ content.indexes, x.unique = true →
      ∀ e ∈ content.documents, x.clashes e d = false) :
    KeysUnique { content with documents := content.documents ++ [d] } := by
  intro x hx
  obtain ⟨hdeclared, hseparates⟩ := h x hx
  refine ⟨hdeclared, fun hu hmark => ?_⟩
  exact IndexDefinition.separates_append_singleton.2 ⟨hseparates hu hmark, hd x hx hu⟩

/-- A soft deletion brings no document into a declared index and changes no key in it, unless the
index is on the mark. -/
theorem covers_marked {s : IndexSpec} (hmark : ¬ s.definition.IsOnMark) (now : Int64)
    (field : FieldName) (value : Value) (d : Document)
    (hcovers : s.definition.covers (Catalog.marked now field value d) = true) :
    s.definition.covers d = true ∧
      s.definition.keyOf (Catalog.marked now field value d) = s.definition.keyOf d := by
  have hs : ¬ (s.activeOnly = none ∧ s.field.text = deletedAt) := fun ⟨hconvention, hfield⟩ =>
    hmark (IndexSpec.isOnMark_definition hconvention hfield)
  unfold Catalog.marked at hcovers ⊢
  split at hcovers
  · next hselects =>
    rw [if_pos hselects]
    have hactive : SoftDelete.null.isActive d = true := (Bool.and_eq_true_iff.1 hselects).2
    exact IndexSpec.mark_of_covers hs hactive hcovers
  · next hselects =>
    rw [if_neg hselects]
    exact ⟨hcovers, rfl⟩

/-- A soft deletion keeps the documents separated, without looking at any index. -/
theorem KeysUnique.softDelete {content : Collection} (h : content.KeysUnique) (now : Int64)
    (field : FieldName) (value : Value) :
    KeysUnique { content with
      documents := content.documents.map (Catalog.marked now field value) } := by
  intro x hx
  obtain ⟨⟨s, rfl⟩, hseparates⟩ := h x hx
  refine ⟨⟨s, rfl⟩, fun hu hmark => ?_⟩
  exact (hseparates hu hmark).map fun d _ => covers_marked hmark now field value d

end Collection

namespace Catalog

/-- The keys are unique in every collection. -/
def KeysUnique (c : Catalog) : Prop :=
  ∀ name content, c.collections.get? name = some content → content.KeysUnique

theorem keysUnique_empty (database : String) (failure : Option Failure) :
    (empty database failure).KeysUnique := fun _ _ h => by
  rw [empty, Collections.get?_empty] at h
  contradiction

/-- A collection that does not exist has unique keys too. -/
theorem KeysUnique.collection {c : Catalog} (h : c.KeysUnique) (name : CollectionName) :
    (c.collection name).KeysUnique := by
  cases hget : c.collections.get? name with
  | none =>
      rw [collection_of_get?_eq_none hget]
      exact Collection.keysUnique_empty
  | some content =>
      rw [collection_of_get?_eq_some hget]
      exact h name content hget

theorem KeysUnique.setCollection {c : Catalog} (h : c.KeysUnique) {name : CollectionName}
    {content : Collection} (hcontent : content.KeysUnique) :
    (c.setCollection name content).KeysUnique := by
  intro other content' hget
  rw [get?_setCollection] at hget
  split at hget
  · rw [← Option.some.inj hget]
    exact hcontent
  · exact h other content' hget

/-- Every change of a catalog keeps the keys unique. -/
theorem KeysUnique.change {c c' : Catalog} (hchange : Change c c') (h : c.KeysUnique) :
    c'.KeysUnique := by
  cases hchange with
  | nothing => exact h
  | collection name hnew => exact h.setCollection Collection.keysUnique_empty
  | index s hmissing hunique => exact h.setCollection ((h.collection _).addIndex hunique)
  | document name d hunique => exact h.setCollection ((h.collection _).addDocument hunique)
  | deletion now name content hcontent field value =>
      exact h.setCollection ((h name content hcontent).softDelete now field value)

end Catalog

namespace Clients

/-- Whatever any number of clients do with a catalog that was empty, no two documents at different
positions of a collection are covered by one unique index under equal keys, unless that index is
over all documents on the mark of deletion. -/
theorem unique_keys_of_run (database : String) (failure : Option Failure) (events : List Event)
    (hevents : ∀ e ∈ events, e.isSeed = false) (name : CollectionName) (content : Collection)
    (hcontent : ((Clients.mk (.empty database failure) []).run events).catalog.collections.get?
      name = some content)
    (x : IndexDefinition) (hx : x ∈ content.indexes) (hunique : x.unique = true)
    (hmark : ¬ (x.filter = none ∧ x.fields = [deletedAt]))
    (i j : Nat) (d e : Document) (hij : i ≠ j) (hi : content.documents[i]? = some d)
    (hj : content.documents[j]? = some e) :
    ¬ (x.covers d = true ∧ x.covers e = true ∧ (x.keyOf d == x.keyOf e) = true) := by
  have hkeys : ((Clients.mk (.empty database failure) []).run events).catalog.KeysUnique :=
    run_induction (fun _ _ => Catalog.KeysUnique.change) _ hevents
      (Catalog.keysUnique_empty database failure)
  have hseparates : x.Separates content.documents :=
    (hkeys name content hcontent x hx).2 hunique hmark
  rw [← IndexDefinition.clashes_eq_true_iff, Bool.not_eq_true]
  exact hseparates.clashes_eq_false hij hi hj

/-- A declared index on the addresses of active users. -/
def userEmail : IndexSpec := ⟨Schema.users, Schema.email, true, some .null⟩

/-- Two clients apply a schema at once, and a user leaves and joins again. -/
def rejoining : List Event :=
  [.start .apply ⟨"shop", [Schema.users], [userEmail]⟩, .advance 0 0,
    .command Bootstrap.defaultLimit .apply ⟨"shop", [Schema.users], [userEmail]⟩ 0,
    .advance 0 0, .request 1 (.insert Schema.users [("email", .string "ada")]),
    .request 2 (.softDelete Schema.users userEmail.field (.string "ada")),
    .request 3 (.insert Schema.users [("email", .string "ada")])]

/-- After a user has left and joined again, two documents have one address, and the unique index on
addresses covers only the second. -/
theorem unique_keys_of_rejoining :
    let left : Document := [("email", .string "ada"), ("deleted_at", .dateTime 2)]
    let joined : Document := [("email", .string "ada")]
    (∀ e ∈ rejoining, e.isSeed = false) ∧
      ((Clients.mk (.empty "shop" none) []).run rejoining).catalog.collections.get?
        Schema.users = some ⟨[userEmail.definition], [left, joined]⟩ ∧
      ¬ (userEmail.definition.covers left = true ∧ userEmail.definition.covers joined = true ∧
        (userEmail.definition.keyOf left == userEmail.definition.keyOf joined) = true) := by
  have hevents : ∀ e ∈ rejoining, e.isSeed = false := by decide
  refine ⟨hevents, rfl, ?_⟩
  exact unique_keys_of_run "shop" none rejoining hevents Schema.users _ rfl userEmail.definition
    List.mem_cons_self rfl (fun h => nomatch h.1) 0 1 _ _ (by decide) rfl rfl

end Clients

end DocSchema
