import DocSchema.Proofs.Clients
import DocSchema.Schema.Builtin

/-!
# DocSchema.Proofs.Accumulation

A catalog only gathers more. Collections stay, indexes are appended to those that are there, and
documents keep their places. The one thing that ever happens to a stored document is that it is
marked as deleted, and that at most once: a mark is a date, so a marked document is not active, and
only active documents are marked. This is why what a single change may do to a document
(`Document.Aged`) is also all that any number of changes may do (`Document.Aged.trans`).

Unlike the separation of keys, none of this rests on what the catalog checks, so it holds as well of
runs in which indexes are put into collections without any check.
-/

namespace DocSchema

/-! ## Documents -/

namespace Document

/-- What a stored document can have become: it is as it was or, if it was active, is marked as
deleted. -/
inductive Aged (d : Document) : Document → Prop where
  | same : Aged d d
  | marked (hactive : SoftDelete.null.isActive d = true) (now : Int64) :
      Aged d (d.insert deletedAt (.dateTime now))

variable {d d' d'' : Document}

/-- A document is not active while it has a value under the mark, null apart. -/
theorem isActive_of_get?_eq_some {v : Value} (hmark : d.get? deletedAt = some v)
    (hv : v ≠ .null) : SoftDelete.null.isActive d = false := by
  unfold SoftDelete.isActive
  rw [hmark]
  cases v <;> first | rfl | contradiction

/-- A document that is not active stays as it is. -/
theorem Aged.eq_of_not_isActive (h : Aged d d') (hd : SoftDelete.null.isActive d = false) :
    d' = d := by
  cases h with
  | same => rfl
  | marked hactive now =>
      rw [hd] at hactive
      contradiction

/-- A document is marked at most once. -/
theorem Aged.trans (h : Aged d d') (h' : Aged d' d'') : Aged d d'' := by
  cases h with
  | same => exact h'
  | marked hactive now =>
      rw [h'.eq_of_not_isActive (SoftDelete.isActive_mark .null d now)]
      exact .marked hactive now

/-- A soft deletion only marks documents that are active. -/
theorem aged_marked (now : Int64) (field : FieldName) (value : Value) (d : Document) :
    Aged d (Catalog.marked now field value d) := by
  unfold Catalog.marked
  split
  · next hselects => exact .marked (Bool.and_eq_true_iff.1 hselects).2 now
  · exact .same

end Document

/-! ## Collections -/

namespace Collection

/-- What a collection can have become: more indexes come after those that it had, and its documents
are in their places, each aged. -/
structure Grown (content content' : Collection) : Prop where
  indexes : content.indexes <+: content'.indexes
  documents : ∀ (k : Nat) (d : Document), content.documents[k]? = some d →
    ∃ d', content'.documents[k]? = some d' ∧ Document.Aged d d'

variable {content content' content'' : Collection}

theorem Grown.refl (content : Collection) : content.Grown content where
  indexes := List.prefix_rfl
  documents _ d hd := ⟨d, hd, .same⟩

theorem Grown.trans (h : content.Grown content') (h' : content'.Grown content'') :
    content.Grown content'' where
  indexes := h.indexes.trans h'.indexes
  documents k d hd := by
    obtain ⟨d', hd', haged⟩ := h.documents k d hd
    obtain ⟨d'', hd'', haged'⟩ := h'.documents k d' hd'
    exact ⟨d'', hd'', haged.trans haged'⟩

/-- Indexes are added behind the others. -/
theorem grown_addIndex (content : Collection) (x : IndexDefinition) :
    content.Grown { content with indexes := content.indexes ++ [x] } where
  indexes := List.prefix_append _ _
  documents _ d hd := ⟨d, hd, .same⟩

/-- Documents are added behind the others. -/
theorem grown_addDocument (content : Collection) (d : Document) :
    content.Grown { content with documents := content.documents ++ [d] } where
  indexes := List.prefix_rfl
  documents k e he := by
    obtain ⟨hk, -⟩ := List.getElem?_eq_some_iff.1 he
    exact ⟨e, by rw [List.getElem?_append_left hk, he], .same⟩

/-- A soft deletion keeps the documents in their places. -/
theorem grown_softDelete (content : Collection) (now : Int64) (field : FieldName)
    (value : Value) : content.Grown { content with
      documents := content.documents.map (Catalog.marked now field value) } where
  indexes := List.prefix_rfl
  documents k d hd := ⟨Catalog.marked now field value d,
    by rw [List.getElem?_map, hd, Option.map_some], Document.aged_marked now field value d⟩

end Collection

/-! ## Catalogs -/

namespace Catalog

/-- What a catalog can have become: every collection is there, and has grown. -/
def Grown (c c' : Catalog) : Prop :=
  ∀ name content, c.collections.get? name = some content →
    ∃ content', c'.collections.get? name = some content' ∧ content.Grown content'

variable {c c' c'' : Catalog}

theorem Grown.refl (c : Catalog) : c.Grown c :=
  fun _ content hcontent => ⟨content, hcontent, .refl content⟩

theorem Grown.trans (h : c.Grown c') (h' : c'.Grown c'') : c.Grown c'' :=
  fun name content hcontent => by
    obtain ⟨content', hcontent', hgrown⟩ := h name content hcontent
    obtain ⟨content'', hcontent'', hgrown'⟩ := h' name content' hcontent'
    exact ⟨content'', hcontent'', hgrown.trans hgrown'⟩

/-- A catalog has grown when one of its collections has. -/
theorem grown_setCollection {name : CollectionName} {content : Collection}
    (h : (c.collection name).Grown content) : c.Grown (c.setCollection name content) := by
  intro other content' hcontent'
  rw [get?_setCollection]
  split
  · next heq =>
    subst heq
    rw [collection_of_get?_eq_some hcontent'] at h
    exact ⟨content, rfl, h⟩
  · exact ⟨content', hcontent', .refl content'⟩

/-- An index may be put into a collection without any check. -/
theorem grown_seedIndex (c : Catalog) (name : CollectionName) (x : IndexDefinition) :
    c.Grown (c.seedIndex name x) :=
  grown_setCollection (Collection.grown_addIndex _ x)

/-- Every change makes a catalog grow. -/
theorem Change.grown (h : Change c c') : c.Grown c' := by
  cases h with
  | nothing => exact .refl c
  | collection name hnew =>
      refine grown_setCollection ?_
      rw [collection_of_get?_eq_none hnew]
      exact .refl .empty
  | index s hmissing hunique => exact grown_seedIndex c s.collection s.definition
  | document name d hunique => exact grown_setCollection (Collection.grown_addDocument _ d)
  | deletion now name content hcontent field value =>
      refine grown_setCollection ?_
      rw [collection_of_get?_eq_some hcontent]
      exact Collection.grown_softDelete content now field value

end Catalog

/-! ## Runs -/

namespace Clients

/-- Every event makes the catalog grow. -/
theorem step_grown (w : Clients) (e : Event) : w.catalog.Grown (w.step e).catalog := by
  cases hseed : e.isSeed with
  | false =>
      exact step_induction (P := w.catalog.Grown) (fun _ _ hchange h => h.trans hchange.grown) w
        hseed (.refl w.catalog)
  | true =>
      cases e with
      | seed name x => exact Catalog.grown_seedIndex w.catalog name x
      | request | command | start | advance | abandon => contradiction

/-- Every run makes the catalog grow. -/
theorem run_grown (w : Clients) (events : List Event) :
    w.catalog.Grown (w.run events).catalog := by
  induction events generalizing w with
  | nil => exact .refl w.catalog
  | cons e events ih => exact (step_grown w e).trans (ih (w.step e))

/-- Whatever any number of clients do with a catalog, and whatever indexes are put into it without
a check, each of its collections stays, with its indexes as the first ones and its documents in
their places. A document stays as it is, or is marked as deleted if it was active and is otherwise
left alone. One that is marked already, with any value but null, stays as it is. -/
theorem store_only_grows (w : Clients) (events : List Event) (name : CollectionName)
    (content : Collection) (hcontent : w.catalog.collections.get? name = some content) :
    ∃ content', (w.run events).catalog.collections.get? name = some content' ∧
      content.indexes <+: content'.indexes ∧
      ∀ (k : Nat) (d : Document), content.documents[k]? = some d →
        ∃ d', content'.documents[k]? = some d' ∧
          (d' = d ∨ SoftDelete.null.isActive d = true ∧
            ∃ now, d' = d.insert deletedAt (.dateTime now)) ∧
          (∀ v, d.get? deletedAt = some v → v ≠ .null → d' = d) := by
  obtain ⟨content', hcontent', hgrown⟩ := run_grown w events name content hcontent
  refine ⟨content', hcontent', hgrown.indexes, fun k d hd => ?_⟩
  obtain ⟨d', hd', haged⟩ := hgrown.documents k d hd
  refine ⟨d', hd', ?_, fun v hmark hv => ?_⟩
  · cases haged with
    | same => exact .inl rfl
    | marked hactive now => exact .inr ⟨hactive, now, rfl⟩
  · exact haged.eq_of_not_isActive (Document.isActive_of_get?_eq_some hmark hv)

/-- Two members of a team, one of whom left long ago. -/
def team : Collection :=
  ⟨[], [[("name", .string "ada"), ("team_color", .string "red")],
    [("deleted_at", .string "long ago"), ("name", .string "bob"), ("team_color", .string "red")]]⟩

/-- The users are declared while an index is put among theirs and the catalog is asked to delete the
team, then one of its members again. -/
def dissolving : List Event :=
  [.start .apply (Schema.builtin .null),
    .request 5 (.softDelete Schema.users ⟨"team_color", by decide⟩ (.string "red")),
    .advance 0 0, .advance 0 0,
    .seed Schema.users ⟨"name_-1", [("name", .int32 (-1))], false, none⟩,
    .request 6 (.softDelete Schema.users ⟨"name", by decide⟩ (.string "ada")),
    .abandon 0 (.timeout "users" Bootstrap.defaultLimit)]

/-- The member who was active is marked with the time of the first deletion. The one who had left is
as before, and stays so. -/
theorem store_only_grows_dissolvedTeam :
    let w : Clients := ⟨(Catalog.empty "shop" none).setCollection Schema.users team, []⟩
    let bob : Document :=
      [("deleted_at", .string "long ago"), ("name", .string "bob"), ("team_color", .string "red")]
    w.catalog.collections.get? Schema.users = some team ∧
      team.documents[1]? = some bob ∧ bob.get? deletedAt = some (.string "long ago") ∧
      ∃ content', (w.run dissolving).catalog.collections.get? Schema.users = some content' ∧
        content'.indexes.map (·.name) = ["name_-1"] ∧
        content'.documents[0]? = some [("name", .string "ada"), ("team_color", .string "red"),
          ("deleted_at", .dateTime 5)] ∧
        content'.documents[1]? = some bob := by
  intro w bob
  obtain ⟨content', hcontent', -, hdocuments⟩ :=
    store_only_grows w dissolving Schema.users team rfl
  obtain ⟨d', hd', -, hfrozen⟩ := hdocuments 1 bob rfl
  rw [hfrozen (.string "long ago") rfl nofun] at hd'
  refine ⟨rfl, rfl, rfl, content', hcontent', ?_, ?_, hd'⟩
  · cases hcontent'
    rfl
  · cases hcontent'
    rfl

end Clients

end DocSchema
