import DocSchema.Proofs.Clients
import DocSchema.Proofs.Permanence

/-!
# DocSchema.Proofs.IndexSets

Which indexes a collection can have while none is put into it without a check, and what that
leaves for the creation of another one.

All indexes come from declarations on the collection, and no two share their name or their keys
(`DeclaredApart`), since an index is added only where it is missing. The name of a declared index
gives its field away, and so do its keys, so a declaration is related to one index at most
(`eq_of_isRelated`). What creating it comes to is then read off the options of that index.
-/

namespace DocSchema

/-- Whether indexes are those of declarations on a collection, with distinct names and keys. -/
structure DeclaredApart (name : CollectionName) (indexes : List IndexDefinition) : Prop where
  declared : ∀ x ∈ indexes, ∃ s : IndexSpec, s.collection = name ∧ s.definition = x
  apart : indexes.Pairwise fun x y => x.name ≠ y.name ∧ x.keyPattern ≠ y.keyPattern

namespace DeclaredApart

variable {name : CollectionName} {indexes : List IndexDefinition} {s : IndexSpec}
  {x y : IndexDefinition}

/-! ## Growing -/

theorem nil (name : CollectionName) : DeclaredApart name [] :=
  ⟨fun _ hx => absurd hx List.not_mem_nil, .nil⟩

/-- A declared index joins those among which it is missing. -/
theorem append (h : DeclaredApart name indexes) (hcollection : s.collection = name)
    (hmissing : s.definition.stateIn indexes = .missing) :
    DeclaredApart name (indexes ++ [s.definition]) where
  declared := by
    intro x hx
    rcases List.mem_append.1 hx with hx | hx
    · exact h.declared x hx
    · exact ⟨s, hcollection, (List.mem_singleton.1 hx).symm⟩
  apart := by
    refine List.pairwise_append.2 ⟨h.apart, List.pairwise_singleton _ _, fun x hx y hy => ?_⟩
    have hunrelated := IndexDefinition.stateIn_eq_missing_iff.1 hmissing x hx
    simp only [IndexDefinition.isRelated, Bool.or_eq_false_iff, beq_eq_false_iff_ne] at hunrelated
    rw [List.mem_singleton.1 hy]
    exact hunrelated

/-! ## Related indexes -/

/-- An index that a declaration is related to has its name. -/
theorem name_eq_of_isRelated (h : DeclaredApart name indexes) (hx : x ∈ indexes)
    (hrelated : s.definition.isRelated x = true) : x.name = s.name := by
  obtain ⟨t, -, rfl⟩ := h.declared x hx
  exact (IndexSpec.name_eq_name_iff.2 (IndexSpec.isRelated_definition_iff.1 hrelated)).symm

/-- A declaration is related to one index at most. -/
theorem eq_of_isRelated (h : DeclaredApart name indexes) (hx : x ∈ indexes) (hy : y ∈ indexes)
    (hxs : s.definition.isRelated x = true) (hys : s.definition.isRelated y = true) : x = y := by
  have hname : x.name = y.name :=
    (h.name_eq_of_isRelated hx hxs).trans (h.name_eq_of_isRelated hy hys).symm
  have hforward : indexes.Pairwise fun x y => x.name = y.name → x = y :=
    h.apart.imp fun hxy hname => absurd hname hxy.1
  have hbackward : indexes.Pairwise fun x y => y.name = x.name → y = x :=
    h.apart.imp fun hxy hname => absurd hname.symm hxy.1
  exact hforward.forall_of_forall_of_flip (fun _ _ _ => rfl) hbackward hx hy hname

/-- No two positions hold an index that a declaration is related to. -/
theorem countP_isRelated_le_one (h : DeclaredApart name indexes) (s : IndexSpec) :
    indexes.countP s.definition.isRelated ≤ 1 := by
  have hapart : (indexes.filter s.definition.isRelated).Pairwise fun x y => x.name ≠ y.name :=
    (h.apart.imp And.left).sublist List.filter_sublist
  have hname : ∀ x ∈ indexes.filter s.definition.isRelated, x.name = s.name := fun x hx =>
    h.name_eq_of_isRelated (List.mem_filter.1 hx).1 (List.mem_filter.1 hx).2
  rw [List.countP_eq_length_filter]
  match hrelated : indexes.filter s.definition.isRelated with
  | [] => exact Nat.zero_le 1
  | [x] => exact Nat.le_refl 1
  | x :: y :: rest =>
      rw [hrelated] at hapart hname
      have hxy : x.name ≠ y.name := (List.pairwise_cons.1 hapart).1 y List.mem_cons_self
      have hx := hname x List.mem_cons_self
      have hy := hname y (List.mem_cons_of_mem x List.mem_cons_self)
      exact absurd (hx.trans hy.symm) hxy

/-- A related index agrees with a declaration when it has the same options. -/
theorem agrees_iff_of_isRelated (h : DeclaredApart name indexes) (hx : x ∈ indexes)
    (hrelated : s.definition.isRelated x = true) :
    s.definition.agrees x = true ↔ x.unique = s.unique ∧ x.filter = s.definition.filter := by
  obtain ⟨t, -, rfl⟩ := h.declared x hx
  have hfield := IndexSpec.isRelated_definition_iff.1 hrelated
  have hfilter : t.definition.filter = s.definition.filter ↔ s.activeOnly = t.activeOnly := by
    constructor
    · intro heq
      have hself : IndexDefinition.sameFilter s.definition.filter s.definition.filter = true :=
        IndexSpec.sameFilter_toFilter_iff.2 rfl
      have hsame : IndexDefinition.sameFilter s.definition.filter t.definition.filter = true := by
        rw [heq, hself]
      exact IndexSpec.sameFilter_toFilter_iff.1 hsame
    · intro heq
      rw [IndexSpec.definition, IndexSpec.definition, heq]
  rw [IndexSpec.agrees_definition_iff, hfilter]
  exact ⟨fun hst => ⟨hst.2.1.symm, hst.2.2⟩, fun hst => ⟨hfield, hst.1.symm, hst.2⟩⟩

/-! ## How a declaration stands to them -/

/-- A declared index is there when the related index has its options. -/
theorem stateIn_eq_identical_iff (h : DeclaredApart name indexes) :
    s.definition.stateIn indexes = .identical ↔
      ∃ x ∈ indexes, s.definition.isRelated x = true ∧ x.unique = s.unique ∧
        x.filter = s.definition.filter := by
  rw [IndexDefinition.stateIn_eq_identical_iff]
  constructor
  · rintro ⟨⟨x, hx, hrelated⟩, hagrees⟩
    exact ⟨x, hx, hrelated, (h.agrees_iff_of_isRelated hx hrelated).1 (hagrees x hx hrelated)⟩
  · rintro ⟨x, hx, hrelated, hoptions⟩
    refine ⟨⟨x, hx, hrelated⟩, fun y hy hrelated' => ?_⟩
    rw [h.eq_of_isRelated hy hx hrelated' hrelated]
    exact (h.agrees_iff_of_isRelated hx hrelated).2 hoptions

/-- A declared index is in conflict when the related index has other options. -/
theorem exists_stateIn_eq_conflicting_iff (h : DeclaredApart name indexes) :
    (∃ x, s.definition.stateIn indexes = .conflicting x) ↔
      ∃ x ∈ indexes, s.definition.isRelated x = true ∧
        (x.unique ≠ s.unique ∨ x.filter ≠ s.definition.filter) := by
  rw [IndexDefinition.exists_stateIn_eq_conflicting_iff]
  refine exists_congr fun x => and_congr_right fun hx => and_congr_right fun hrelated => ?_
  rw [← Bool.not_eq_true, h.agrees_iff_of_isRelated hx hrelated,
    Classical.not_and_iff_not_or_not]

end DeclaredApart

namespace Catalog

variable {c c' : Catalog} {s : IndexSpec}

/-! ## What creating an index comes to -/

/-- Creating an index succeeds and changes nothing exactly if the index is there. -/
theorem createIndex_eq_ok_iff :
    c.createIndex s = (.ok (), c) ↔
      s.definition.stateIn (c.collection s.collection).indexes = .identical := by
  rw [createIndex_eq]
  cases hs : s.definition.stateIn (c.collection s.collection).indexes with
  | identical => exact iff_of_true rfl rfl
  | conflicting existing => exact iff_of_false (fun h => nomatch h) (fun h => nomatch h)
  | missing =>
      cases hkey : c.violation? s with
      | some key => exact iff_of_false (fun h => nomatch h) (fun h => nomatch h)
      | none =>
          refine iff_of_false (fun h => ?_) (fun h => nomatch h)
          have hgrown : (c.seedIndex s.collection s.definition).collection s.collection =
              c.collection s.collection := congrArg (collection · s.collection) (Prod.mk.inj h).2
          rw [seedIndex, collection_setCollection_self] at hgrown
          have hlength := congrArg (fun content => content.indexes.length) hgrown
          simp at hlength

/-- Creating an index ends in a conflict exactly if it is in conflict with one that exists. -/
theorem createIndex_eq_conflict_iff :
    (∃ collection index text, (c.createIndex s).1 = .error (.conflict collection index text)) ↔
      ∃ x, s.definition.stateIn (c.collection s.collection).indexes = .conflicting x := by
  rw [createIndex_eq]
  cases hs : s.definition.stateIn (c.collection s.collection).indexes with
  | identical => exact iff_of_false (fun ⟨_, _, _, h⟩ => nomatch h) (fun ⟨_, h⟩ => nomatch h)
  | conflicting existing => exact iff_of_true ⟨_, _, _, rfl⟩ ⟨existing, rfl⟩
  | missing =>
      cases hkey : c.violation? s <;>
        exact iff_of_false (fun ⟨_, _, _, h⟩ => nomatch h) (fun ⟨_, h⟩ => nomatch h)

/-! ## Runs -/

/-- In every collection the indexes are those of declarations, with distinct names and keys. -/
def IndexesApart (c : Catalog) : Prop := ∀ name, DeclaredApart name (c.collection name).indexes

theorem indexesApart_empty (database : String) (failure : Option Failure) :
    (empty database failure).IndexesApart := fun name => DeclaredApart.nil name

/-- Every change of a catalog keeps its indexes apart. -/
theorem IndexesApart.change (hchange : Change c c') (h : c.IndexesApart) : c'.IndexesApart := by
  intro name
  rcases hchange.indexes name with hsame | ⟨s, hcollection, hmissing, happended⟩
  · rw [hsame]
    exact h name
  · rw [happended]
    exact (h name).append hcollection hmissing

/-- The collections are listed in ascending order. -/
theorem ascending_of_listCollections {now : Int64} {names : List String}
    (h : (c.answer now .listCollections).1 = .ok names) : names.Pairwise (· < ·) := by
  have hlist : (c.perform now .listCollections).1 =
      .ok (c.collections.names.map CollectionName.text) := rfl
  cases hrefusal : c.refusal? Request.listCollections.isWrite with
  | some e =>
      rw [answer_of_refusal hrefusal] at h
      contradiction
  | none =>
      rw [answer_of_no_refusal hrefusal, hlist] at h
      rw [← Except.ok.inj h, Collections.names, List.map_map, List.pairwise_map]
      exact c.collections.ascending

end Catalog

namespace Clients

/-- Whatever any number of clients do with a catalog that was empty, the collections are listed in
strictly ascending order, and in each of them the indexes are those of declarations on it, no two
with one name or one key pattern. So a declaration meets one index at most, and on a catalog that
does not fail creating it does nothing exactly if that index has its options, and ends in a
conflict exactly if that index has others. -/
theorem index_sets_of_run (database : String) (failure : Option Failure) (events : List Event)
    (hevents : ∀ e ∈ events, e.isSeed = false) :
    let c := ((Clients.mk (.empty database failure) []).run events).catalog
    (∀ now (names : List String), (c.answer now .listCollections).1 = .ok names →
        names.Pairwise (· < ·)) ∧
      (∀ name content, c.collections.get? name = some content →
        (∀ x ∈ content.indexes, ∃ s : IndexSpec, s.collection = name ∧ s.definition = x) ∧
        content.indexes.Pairwise fun x y => x.name ≠ y.name ∧ x.keyPattern ≠ y.keyPattern) ∧
      ∀ s : IndexSpec,
        let existing := (c.collection s.collection).indexes
        existing.countP s.definition.isRelated ≤ 1 ∧
        (failure = none → ∀ now,
          (c.answer now (.createIndex s) = (.ok (), c) ↔
            ∃ x ∈ existing, s.definition.isRelated x = true ∧ x.unique = s.unique ∧
              x.filter = s.definition.filter) ∧
          ((∃ collection index text, (c.answer now (.createIndex s)).1 =
              .error (.conflict collection index text)) ↔
            ∃ x ∈ existing, s.definition.isRelated x = true ∧
              (x.unique ≠ s.unique ∨ x.filter ≠ s.definition.filter))) := by
  intro c
  have hapart : c.IndexesApart :=
    run_induction (fun _ _ => Catalog.IndexesApart.change) _ hevents
      (Catalog.indexesApart_empty database failure)
  have hframe : c.failure = failure :=
    run_induction (P := fun c => c.failure = failure)
      (fun _ _ hchange h => hchange.frame.2.trans h) _ hevents rfl
  refine ⟨fun now names hnames => ?_, fun name content hcontent => ?_, fun s => ?_⟩
  · exact Catalog.ascending_of_listCollections hnames
  · have hname := hapart name
    rw [Catalog.collection_of_get?_eq_some hcontent] at hname
    exact ⟨hname.declared, hname.apart⟩
  · refine ⟨(hapart s.collection).countP_isRelated_le_one s, fun hfailure now => ?_⟩
    have hanswer : c.answer now (.createIndex s) = c.createIndex s :=
      Catalog.answer_of_no_failure (hframe.trans hfailure) now (.createIndex s)
    rw [hanswer]
    exact ⟨Catalog.createIndex_eq_ok_iff.trans (hapart s.collection).stateIn_eq_identical_iff,
      Catalog.createIndex_eq_conflict_iff.trans
        (hapart s.collection).exists_stateIn_eq_conflicting_iff⟩

/-- A declared index on the codes of coupons that are in use. -/
def couponCode : IndexSpec := ⟨⟨"coupons", by decide⟩, ⟨"code", by decide⟩, true, some .null⟩

/-- The same index, over all coupons. -/
def anyCouponCode : IndexSpec := { couponCode with activeOnly := none }

/-- A client that applies a schema finds the index missing; before it is created, another client
creates the one over all coupons. -/
def outrun : List Event :=
  [.start .apply ⟨"shop", [couponCode.collection], [couponCode]⟩, .advance 0 0, .advance 0 0,
    .advance 0 0, .request 0 (.createIndex anyCouponCode), .advance 0 0]

/-- The collection has the index of the faster client alone, which stands in the way of the other
and may be asked for again. -/
theorem index_sets_of_run_outrun :
    let c := ((Clients.mk (.empty "shop" none) []).run outrun).catalog
    (∀ e ∈ outrun, e.isSeed = false) ∧
      (c.collection couponCode.collection).indexes = [anyCouponCode.definition] ∧
      (∃ collection index text, (c.answer 0 (.createIndex couponCode)).1 =
        .error (.conflict collection index text)) ∧
      c.answer 0 (.createIndex anyCouponCode) = (.ok (), c) := by
  intro c
  have hevents : ∀ e ∈ outrun, e.isSeed = false := by decide
  have hindexes : (c.collection couponCode.collection).indexes = [anyCouponCode.definition] := rfl
  have hmem : anyCouponCode.definition ∈ (c.collection couponCode.collection).indexes :=
    hindexes ▸ List.mem_cons_self
  have hrelated : couponCode.definition.isRelated anyCouponCode.definition = true := by decide
  have hself : anyCouponCode.definition.isRelated anyCouponCode.definition = true := by decide
  obtain ⟨-, -, hspecs⟩ := index_sets_of_run "shop" none outrun hevents
  obtain ⟨-, hconflict⟩ := (hspecs couponCode).2 rfl 0
  obtain ⟨hsame, -⟩ := (hspecs anyCouponCode).2 rfl 0
  exact ⟨hevents, hindexes,
    hconflict.2 ⟨_, hmem, hrelated, .inr fun h => nomatch h⟩,
    hsame.2 ⟨_, hmem, hself, rfl, rfl⟩⟩

end Clients

end DocSchema
