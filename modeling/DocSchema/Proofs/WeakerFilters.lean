import DocSchema.Proofs.Insertions
import DocSchema.Schema.Builtin

/-!
# DocSchema.Proofs.WeakerFilters

Unique indexes on one field that cover more documents or fewer.

An index without a filter covers all documents, one under the convention `null` those whose mark is
missing or null, and one under `absent` those without a mark alone. Documents that clash in an index
that covers fewer clash in one that covers more (`DemandsNoMore`). So it can be created wherever the
other can, and a catalog that has it instead of the other takes the same insertions: the next
one, after which it is still no stricter than the other catalog (`NoStricter.insert`), and hence
all of a list (`NoStricter.takes`).
-/

namespace DocSchema

namespace IndexDefinition

variable {x y : IndexDefinition} {documents : List Document}

/-- Whether an index demands no more of documents than another one: if it is unique then the other
is, and documents that clash in it clash in the other. -/
def DemandsNoMore (y x : IndexDefinition) : Prop :=
  y.unique = true → x.unique = true ∧ ∀ d e, y.clashes d e = true → x.clashes d e = true

theorem demandsNoMore_self (x : IndexDefinition) : x.DemandsNoMore x := fun hunique =>
  ⟨hunique, fun _ _ hclash => hclash⟩

/-- Documents that do not clash in an index do not clash in one that demands no more. -/
theorem DemandsNoMore.clashes_eq_false (h : y.DemandsNoMore x) (hunique : y.unique = true)
    {d e : Document} (hclash : x.clashes d e = false) : y.clashes d e = false := by
  rw [Bool.eq_false_iff] at hclash ⊢
  exact fun hy => hclash ((h hunique).2 d e hy)

/-- An index separates the documents that one separates which demands as much. -/
theorem DemandsNoMore.separates (h : y.DemandsNoMore x) (hunique : y.unique = true)
    (hseparates : x.Separates documents) : y.Separates documents :=
  hseparates.imp fun hclash => h.clashes_eq_false hunique hclash

end IndexDefinition

namespace IndexSpec

/-- The unique index on a field, for the documents that are active under a convention or for all. -/
def uniqueOn (collection : CollectionName) (field : FieldName) (activeOnly : Option SoftDelete) :
    IndexSpec :=
  { collection, field, unique := true, activeOnly }

variable (collection : CollectionName) (field : FieldName)

/-- Of two unique indexes on a field, the one that covers fewer documents demands no more. -/
theorem demandsNoMore_uniqueOn {wide narrow : Option SoftDelete}
    (h : ∀ d, (uniqueOn collection field narrow).definition.covers d = true →
      (uniqueOn collection field wide).definition.covers d = true) :
    (uniqueOn collection field narrow).definition.DemandsNoMore
      (uniqueOn collection field wide).definition := by
  refine fun _ => ⟨rfl, fun d e hclash => ?_⟩
  rw [IndexDefinition.clashes_eq_true_iff] at hclash ⊢
  exact ⟨h d hclash.1, h e hclash.2.1, hclash.2.2⟩

/-- Under the convention `null` an index demands no more than without a filter. -/
theorem demandsNoMore_null : (uniqueOn collection field (some .null)).definition.DemandsNoMore
    (uniqueOn collection field none).definition :=
  demandsNoMore_uniqueOn collection field fun _ _ => rfl

/-- Under the convention `absent` an index demands no more than under `null`. -/
theorem demandsNoMore_absent : (uniqueOn collection field (some .absent)).definition.DemandsNoMore
    (uniqueOn collection field (some .null)).definition :=
  demandsNoMore_uniqueOn collection field fun d hcovers => by
    rw [covers_definition] at hcovers ⊢
    exact SoftDelete.isActive_null_of_isActive hcovers

/-- Whether an index on a field is missing does not depend on the documents it is to cover. -/
theorem missing_uniqueOn {wide : Option SoftDelete} (narrow : Option SoftDelete)
    {existing : List IndexDefinition}
    (h : (uniqueOn collection field wide).definition.stateIn existing = .missing) :
    (uniqueOn collection field narrow).definition.stateIn existing = .missing := by
  have hrelated : (uniqueOn collection field narrow).definition.isRelated =
      (uniqueOn collection field wide).definition.isRelated := rfl
  rw [IndexDefinition.stateIn_eq_missing_iff] at h ⊢
  rwa [hrelated]

end IndexSpec

namespace Catalog

variable {c c' after : Catalog} {name : CollectionName} {d : Document} {s : IndexSpec}

/-- Whether requests that are made one after the other all succeed. -/
def Takes (c : Catalog) (clock : Nat → Int64) (requests : List Request) : Prop :=
  (c.afterAll? clock requests).isSome = true

instance (c : Catalog) (clock : Nat → Int64) (requests : List Request) :
    Decidable (c.Takes clock requests) :=
  inferInstanceAs (Decidable ((c.afterAll? clock requests).isSome = true))

/-- A missing unique index can be created exactly where it separates the documents. -/
theorem takes_createIndex_iff (hfailure : c.failure = none) (hunique : s.unique = true)
    (hmissing : s.definition.stateIn (c.collection s.collection).indexes = .missing)
    (clock : Nat → Int64) : c.Takes clock [.createIndex s] ↔
      s.definition.Separates (c.collection s.collection).documents := by
  rw [Takes, Option.isSome_iff_exists]
  simp only [afterAll?_createIndex hfailure hunique hmissing, exists_and_left]
  simp [afterAll?]

/-! ## Catalogs that are no stricter -/

/-- Whether a catalog holds the same documents as another one and demands no more of them. -/
structure NoStricter (c' c : Catalog) : Prop where
  failure : c'.failure = c.failure
  documents : ∀ name, (c'.collection name).documents = (c.collection name).documents
  indexes : ∀ name, ∀ y ∈ (c'.collection name).indexes,
    ∃ x ∈ (c.collection name).indexes, y.DemandsNoMore x

/-- A document that is admitted is admitted to a catalog that is no stricter. -/
theorem NoStricter.admitsOne (h : c'.NoStricter c) (hadmits : c.AdmitsOne name d) :
    c'.AdmitsOne name d := by
  intro y hy hunique e he
  obtain ⟨x, hx, hdemands⟩ := h.indexes name y hy
  rw [h.documents] at he
  exact hdemands.clashes_eq_false hunique (hadmits x hx (hdemands hunique).1 e he)

/-- With one more document in both, a catalog is still no stricter. -/
theorem NoStricter.addDocument (h : c'.NoStricter c) (name : CollectionName) (d : Document) :
    (c'.addDocument name d).NoStricter (c.addDocument name d) := by
  have hcollection (c : Catalog) (other : CollectionName) :
      (c.addDocument name d).collection other =
        { c.collection other with
          documents := (c.collection other).documents ++ if name = other then [d] else [] } := by
    by_cases hname : name = other
    · subst hname
      simp [collection_addDocument]
    · simp [Catalog.addDocument, collection_setCollection_of_ne _ _ hname, hname]
  refine ⟨h.failure, fun other => ?_, fun other y hy => ?_⟩
  · rw [hcollection, hcollection, h.documents]
  · rw [hcollection] at hy ⊢
    exact h.indexes other y hy

/-- An insertion that succeeds does so on a catalog that is no stricter, which then still is not. -/
theorem NoStricter.insert (h : c'.NoStricter c) (hfailure : c.failure = none) {now : Int64}
    (hinsert : c.answer now (.insert name d) = (.ok (), after)) (now' : Int64) :
    ∃ after', c'.answer now' (.insert name d) = (.ok (), after') ∧ after'.NoStricter after ∧
      after.failure = none := by
  rw [answer_of_no_failure hfailure] at hinsert
  rw [answer_of_no_failure (h.failure.trans hfailure)]
  change c.insert name d = _ at hinsert
  rcases c.insert_of_admitsOne name d with ⟨hadmits, hdone⟩ | ⟨-, e, hrefused⟩
  · obtain rfl : c.addDocument name d = after := (Prod.mk.inj (hdone.symm.trans hinsert)).2
    rcases c'.insert_of_admitsOne name d with ⟨-, hdone'⟩ | ⟨hrefused, -⟩
    · exact ⟨_, hdone', h.addDocument name d, hfailure⟩
    · exact absurd (h.admitsOne hadmits) hrefused
  · rw [hrefused] at hinsert
    exact nomatch hinsert

/-- The insertion of a document into a collection, as a request. -/
def insertion (i : CollectionName × Document) : Request := .insert i.1 i.2

/-- Insertions that all succeed do so on a catalog that is no stricter. -/
theorem NoStricter.takes (h : c'.NoStricter c) (hfailure : c.failure = none)
    {inserts : List (CollectionName × Document)} {clock : Nat → Int64}
    (htakes : c.Takes clock (inserts.map insertion)) (clock' : Nat → Int64) :
    c'.Takes clock' (inserts.map insertion) := by
  induction inserts generalizing c c' clock clock' with
  | nil => rfl
  | cons i inserts ih =>
      rw [Takes, List.map_cons, insertion, afterAll?] at htakes ⊢
      cases hinsert : c.answer (clock 0) (.insert i.1 i.2) with
      | mk result after =>
          rw [hinsert] at htakes
          cases result with
          | error e => contradiction
          | ok =>
              obtain ⟨after', hinsert', hafter, hnone⟩ := h.insert hfailure hinsert (clock' 0)
              rw [hinsert']
              exact ih hafter hnone htakes _

/-! ## One index in place of another -/

/-- Whether a catalog is another one with the index of a declaration in it, at whatever place. -/
structure Installed (c : Catalog) (s : IndexSpec) (c' : Catalog) : Prop where
  failure : c'.failure = c.failure
  documents : ∀ name, (c'.collection name).documents = (c.collection name).documents
  indexes : (c'.collection s.collection).indexes.Perm
    (s.definition :: (c.collection s.collection).indexes)
  others : ∀ name, name ≠ s.collection →
    (c'.collection name).indexes = (c.collection name).indexes

section

open IndexSpec (uniqueOn)

variable {collection : CollectionName} {field : FieldName} {wide narrow : Option SoftDelete}

/-- An index that demands no more in place of another makes a catalog no stricter. -/
theorem Installed.noStricter {strict lenient : Catalog}
    (hstrict : c.Installed (uniqueOn collection field wide) strict)
    (hlenient : c.Installed (uniqueOn collection field narrow) lenient)
    (hdemands : (uniqueOn collection field narrow).definition.DemandsNoMore
      (uniqueOn collection field wide).definition) : lenient.NoStricter strict where
  failure := hlenient.failure.trans hstrict.failure.symm
  documents name := (hlenient.documents name).trans (hstrict.documents name).symm
  indexes name y hy := by
    by_cases hname : name = collection
    · subst hname
      rcases List.mem_cons.1 (hlenient.indexes.mem_iff.1 hy) with rfl | hy
      · exact ⟨_, hstrict.indexes.mem_iff.2 List.mem_cons_self, hdemands⟩
      · exact ⟨y, hstrict.indexes.mem_iff.2 (List.mem_cons_of_mem _ hy), y.demandsNoMore_self⟩
    · rw [hlenient.others name hname, ← hstrict.others name hname] at hy
      exact ⟨y, hy, y.demandsNoMore_self⟩

/-- Where an index is missing and can be created, one that demands no more can be. -/
theorem takes_createIndex_of_demandsNoMore (hfailure : c.failure = none)
    (hmissing : (uniqueOn collection field wide).definition.stateIn
      (c.collection collection).indexes = .missing)
    (hdemands : (uniqueOn collection field narrow).definition.DemandsNoMore
      (uniqueOn collection field wide).definition) {clock : Nat → Int64}
    (htakes : c.Takes clock [.createIndex (uniqueOn collection field wide)])
    (clock' : Nat → Int64) :
    c.Takes clock' [.createIndex (uniqueOn collection field narrow)] := by
  have hmissing' := IndexSpec.missing_uniqueOn collection field narrow hmissing
  rw [takes_createIndex_iff hfailure rfl hmissing] at htakes
  rw [takes_createIndex_iff hfailure rfl hmissing']
  exact hdemands.separates rfl htakes

end

/-- On a catalog that does not fail, the weaker the filter of a unique index on a field the more is
accepted, from no filter to the convention `null` to the convention `absent`. Where it is missing it
can be created over the stored documents, if the one before can. And among catalogs with the same
documents and the same other indexes, one with the weaker index takes every list of insertions that
one with the index before takes. -/
theorem weaker_filters_accept_more (c : Catalog) (hfailure : c.failure = none)
    (collection : CollectionName) (field : FieldName) :
    let unfiltered := IndexSpec.uniqueOn collection field none
    let null := IndexSpec.uniqueOn collection field (some .null)
    let absent := IndexSpec.uniqueOn collection field (some .absent)
    (unfiltered.definition.stateIn (c.collection collection).indexes = .missing →
      ∀ clock clock' : Nat → Int64,
        (c.Takes clock [.createIndex unfiltered] → c.Takes clock' [.createIndex null]) ∧
          (c.Takes clock [.createIndex null] → c.Takes clock' [.createIndex absent])) ∧
      ∀ cUnfiltered cNull cAbsent : Catalog, c.Installed unfiltered cUnfiltered →
        c.Installed null cNull → c.Installed absent cAbsent →
        ∀ (inserts : List (CollectionName × Document)) (clock clock' : Nat → Int64),
          (cUnfiltered.Takes clock (inserts.map insertion) →
            cNull.Takes clock' (inserts.map insertion)) ∧
            (cNull.Takes clock (inserts.map insertion) →
              cAbsent.Takes clock' (inserts.map insertion)) := by
  intro unfiltered null absent
  have hnull : null.definition.DemandsNoMore unfiltered.definition :=
    IndexSpec.demandsNoMore_null collection field
  have habsent : absent.definition.DemandsNoMore null.definition :=
    IndexSpec.demandsNoMore_absent collection field
  constructor
  · intro hmissing clock clock'
    have hmissingNull := IndexSpec.missing_uniqueOn collection field (some .null) hmissing
    exact ⟨fun htakes =>
        takes_createIndex_of_demandsNoMore hfailure hmissing hnull htakes clock',
      fun htakes =>
        takes_createIndex_of_demandsNoMore hfailure hmissingNull habsent htakes clock'⟩
  · intro cUnfiltered cNull cAbsent hinUnfiltered hinNull hinAbsent inserts clock clock'
    exact ⟨fun htakes => (hinUnfiltered.noStricter hinNull hnull).takes
        (hinUnfiltered.failure.trans hfailure) htakes clock',
      fun htakes => (hinNull.noStricter hinAbsent habsent).takes
        (hinNull.failure.trans hfailure) htakes clock'⟩

/-- A catalog with the index of a declaration after those that exist. -/
theorem installed_addIndex (c : Catalog) (s : IndexSpec) : c.Installed s (c.addIndex s) where
  failure := rfl
  documents name := by rw [collection_addIndex]
  indexes := by simp [collection_addIndex, definitionsOn, List.perm_append_singleton]
  others name hname := by simp [collection_addIndex, definitionsOn, Ne.symm hname]

/-- The readers of a library, each with a card. -/
def readers : CollectionName := ⟨"readers", by decide⟩

/-- The number on a card. -/
def cardNumber : FieldName := ⟨"card.number", by decide⟩

/-- A reader with this card and this seat. -/
def reader (number seat : Value) : Document :=
  [("card", .document [("number", number)]), ("seat", seat)]

/-- The reader with the first card has left, the one with the second has a null mark, and no two
readers have one seat. -/
def library : Catalog :=
  ((empty "library" none).setCollection readers
    ⟨[], [(reader (.int32 1) (.int32 1)).insert deletedAt (.dateTime 0),
      (reader (.int32 2) (.int32 2)).insert deletedAt .null]⟩).seedIndex readers
        { name := "seats", keys := [("seat", .string "hashed")], unique := true, filter := none }

/-- Gives a card to a new reader, who becomes a user as well. -/
def handOut (number : Value) : List Request :=
  [(readers, reader number (.int32 3)), (Schema.users, [])].map insertion

/-- Every index on the cards can be created, and a new card be given out under it. The first card
may be given out again under either convention but not without a filter, the second one under
`absent` alone. -/
theorem weaker_filters_accept_more_library :
    let clock : Nat → Int64 := fun _ => 0
    let unfiltered := IndexSpec.uniqueOn readers cardNumber none
    let null := IndexSpec.uniqueOn readers cardNumber (some .null)
    let absent := IndexSpec.uniqueOn readers cardNumber (some .absent)
    library.failure = none ∧
      unfiltered.definition.stateIn (library.collection readers).indexes = .missing ∧
      library.Takes clock [.createIndex unfiltered] ∧ library.Takes clock [.createIndex null] ∧
      library.Takes clock [.createIndex absent] ∧
      (library.addIndex unfiltered).Takes clock (handOut (.int32 3)) ∧
      (library.addIndex null).Takes clock (handOut (.int32 3)) ∧
      ¬ (library.addIndex unfiltered).Takes clock (handOut (.int32 1)) ∧
      (library.addIndex null).Takes clock (handOut (.int32 1)) ∧
      (library.addIndex absent).Takes clock (handOut (.int32 1)) ∧
      ¬ (library.addIndex null).Takes clock (handOut (.int32 2)) ∧
      (library.addIndex absent).Takes clock (handOut (.int32 2)) := by
  intro clock unfiltered null absent
  obtain ⟨hcreate, hinserts⟩ := weaker_filters_accept_more library rfl readers cardNumber
  obtain ⟨hnull, habsent⟩ := hcreate rfl clock clock
  have hinstalled := hinserts _ _ _ (installed_addIndex library unfiltered)
    (installed_addIndex library null) (installed_addIndex library absent)
  have hcreated : library.Takes clock [.createIndex unfiltered] := by decide
  have hnew : (library.addIndex unfiltered).Takes clock (handOut (.int32 3)) := by decide
  have hfirst : (library.addIndex null).Takes clock (handOut (.int32 1)) := by decide
  exact ⟨rfl, rfl, hcreated, hnull hcreated, habsent (hnull hcreated), hnew,
    (hinstalled _ clock clock).1 hnew, by decide, hfirst, (hinstalled _ clock clock).2 hfirst,
    by decide, by decide⟩

end Catalog

end DocSchema
