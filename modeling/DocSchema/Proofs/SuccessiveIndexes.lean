import DocSchema.Proofs.IndexSets
import DocSchema.Proofs.RelatedIndexes
import DocSchema.Proofs.StableApplies
import DocSchema.Schema.Builtin

/-!
# DocSchema.Proofs.SuccessiveIndexes

What becomes of a declared index when another one on its collection was created just before.

The name of a declared index gives its field away, and so do its keys, so two declarations on a
collection either say the same, or differ in their options on one field, or are on different fields.
On a catalog where nothing but the first index can stand in the way of the second
(`Catalog.Precedes`) these are the three states of the second: it is there, in conflict with the
first one, or missing. In the last case the documents decide whether it can be created.
-/

namespace DocSchema

/-- Whether two documents are covered by an index under one key. -/
def IndexDefinition.KeyIsShared (x : IndexDefinition) (documents : List Document) : Prop :=
  ∃ (m n : Nat) (d e : Document), m < n ∧ documents[m]? = some d ∧ documents[n]? = some e ∧
    x.covers d = true ∧ x.covers e = true ∧ (x.keyOf d == x.keyOf e) = true

/-- A key is shared where an index does not separate the documents. -/
theorem IndexDefinition.keyIsShared_iff {x : IndexDefinition} {documents : List Document} :
    x.KeyIsShared documents ↔ ¬ x.Separates documents := by
  constructor
  · rintro ⟨m, n, d, e, hmn, hm, hn, hclash⟩ hapart
    have hdistinct := hapart.clashes_eq_false (Nat.ne_of_lt hmn) hm hn
    rw [(clashes_eq_true_iff x).2 hclash] at hdistinct
    contradiction
  · intro hclash
    obtain ⟨key, hkey⟩ := Option.ne_none_iff_exists'.1 (mt Catalog.sharedKey?_eq_none_iff.1 hclash)
    obtain ⟨m, n, d, e, hmn, hm, hn, hclash, -⟩ := Catalog.exists_clash_of_sharedKey? hkey
    exact ⟨m, n, d, e, hmn, hm, hn, (clashes_eq_true_iff x).1 hclash⟩

namespace Catalog

variable {c : Catalog} {a b s : IndexSpec}

/-- Whether one declared index exists, and another one on its collection is related to none but
it. -/
structure Precedes (c : Catalog) (a b : IndexSpec) : Prop where
  collection : a.collection = b.collection
  present : c.stateOf a = .identical
  alone : ∀ x ∈ (c.collection b.collection).indexes, b.definition.isRelated x = true →
    a.definition.agrees x = true

namespace Precedes

/-- There is an index that is the first one's. -/
theorem exists_agrees (h : c.Precedes a b) :
    ∃ x ∈ (c.collection b.collection).indexes, a.definition.agrees x = true := by
  have hpresent := h.present
  rw [stateOf, h.collection, IndexDefinition.stateIn_eq_identical_iff_agrees] at hpresent
  exact hpresent.1

/-- On different fields, the second index is missing. -/
theorem missing (h : c.Precedes a b) (hfield : a.field ≠ b.field) : c.stateOf b = .missing := by
  refine IndexDefinition.stateIn_eq_missing_iff.2 fun x hx => Bool.eq_false_iff.2 fun hrelated => ?_
  obtain ⟨hname, hpattern, -⟩ := IndexDefinition.agrees_iff.1 (h.alone x hx hrelated)
  have hab : b.definition.isRelated a.definition = true := by
    rw [IndexDefinition.isRelated_iff] at hrelated ⊢
    rw [hname, hpattern]
    exact hrelated
  exact hfield (IndexSpec.isRelated_definition_iff.1 hab).symm

/-- On one field with other options, the second index is in conflict with the first one. -/
theorem conflicting (h : c.Precedes a b) (hfield : a.field = b.field)
    (hoptions : ¬ (a.unique = b.unique ∧ a.activeOnly = b.activeOnly)) :
    ∃ x, c.stateOf b = .conflicting x ∧ x.name = a.name := by
  obtain ⟨y, hy, hagrees⟩ := h.exists_agrees
  have hrelated : b.definition.isRelated y = true := by
    have hname : a.name = y.name := (IndexDefinition.agrees_iff.1 hagrees).1
    exact IndexDefinition.isRelated_iff.2
      (.inl (hname.symm.trans (IndexSpec.name_eq_name_iff.2 hfield)))
  have hdiffers : b.definition.agrees y = false := Bool.eq_false_iff.2 fun hb =>
    hoptions (IndexSpec.agrees_definition_iff.1 (IndexDefinition.agrees_of_agrees hagrees hb)).2
  obtain ⟨x, hx⟩ := IndexDefinition.exists_stateIn_eq_conflicting_iff.2 ⟨y, hy, hrelated, hdiffers⟩
  obtain ⟨before, after, hsplit, hrelated, -⟩ := IndexDefinition.stateIn_eq_conflicting_iff.1 hx
  have hmem : x ∈ (c.collection b.collection).indexes :=
    hsplit ▸ List.mem_append_right before List.mem_cons_self
  exact ⟨x, hx, (IndexDefinition.agrees_iff.1 (h.alone x hmem hrelated)).1.symm⟩

end Precedes

/-- Adding an index is a change. -/
theorem addIndex_ne (c : Catalog) (s : IndexSpec) : c.addIndex s ≠ c := by
  intro h
  have hindexes := congrArg (fun c => (c.collection s.collection).indexes.length) h
  simp [collection_addIndex, definitionsOn] at hindexes

/-- What creating the second of two declared indexes is answered with, after the first one. -/
inductive SecondAnswer (c : Catalog) (a b : IndexSpec) : Except StoreError Unit × Catalog → Prop
    where
  | same (h : a = b) : SecondAnswer c a b (.ok (), c)
  | conflict (hfield : a.field = b.field)
      (hoptions : a.unique ≠ b.unique ∨ a.activeOnly ≠ b.activeOnly) (text : String) :
      SecondAnswer c a b (.error (.conflict b.collection.text a.name text), c)
  | taken (hfield : a.field ≠ b.field)
      (hshared : b.unique = true ∧
        b.definition.KeyIsShared (c.collection b.collection).documents) (text : String) :
      SecondAnswer c a b (.error (.duplicateKey b.collection.text b.field.text text), c)
  | free (hfield : a.field ≠ b.field)
      (hfree : ¬ (b.unique = true ∧
        b.definition.KeyIsShared (c.collection b.collection).documents)) :
      SecondAnswer c a b (.ok (), c.addIndex b)

/-- The second index is created, refused or there already, as the two declarations and the documents
say. -/
theorem Precedes.secondAnswer (h : c.Precedes a b) : SecondAnswer c a b (c.createIndex b) := by
  rw [createIndex_eq]
  by_cases hfield : a.field = b.field
  · by_cases hoptions : a.unique = b.unique ∧ a.activeOnly = b.activeOnly
    · have hsame : a = b := (IndexSpec.eq_iff h.collection).2 ⟨hfield, hoptions⟩
      have hstate : b.definition.stateIn (c.collection b.collection).indexes = .identical :=
        hsame ▸ h.present
      rw [hstate]
      exact .same hsame
    · obtain ⟨x, hstate, hname⟩ := h.conflicting hfield hoptions
      rw [stateOf] at hstate
      rw [hstate]
      dsimp only
      rw [Catalog.conflict, hname]
      exact .conflict hfield (Classical.not_and_iff_not_or_not.1 hoptions) _
  · have hstate := h.missing hfield
    rw [stateOf] at hstate
    rw [hstate]
    dsimp only
    cases hkey : c.violation? b with
    | some key =>
        have hshared : ¬ (b.unique = true →
            b.definition.Separates (c.collection b.collection).documents) := fun hapart => by
          rw [violation?_eq_none_iff.2 hapart] at hkey
          contradiction
        obtain ⟨hunique, hclash⟩ := Classical.not_imp.1 hshared
        exact .taken hfield ⟨hunique, IndexDefinition.keyIsShared_iff.2 hclash⟩ _
    | none =>
        have hapart := violation?_eq_none_iff.1 hkey
        exact .free hfield fun h =>
          IndexDefinition.keyIsShared_iff.1 h.2 (hapart h.1)

/-- Two declared indexes on one collection have one name exactly if they have one key pattern, and
exactly if they are on one field, and they agree exactly if their options are the same as well. When
the first one has just been created, or was there, and the second one is related to no index but it,
creating the second one does nothing exactly if the declarations are the same; it ends in a conflict
with the first one exactly if they are on one field with other options; on different fields the
documents alone decide whether it is created. -/
theorem declared_index_trichotomy (a b : IndexSpec) (hcollection : a.collection = b.collection) :
    (a.definition.name = b.definition.name ↔
        a.definition.keyPattern = b.definition.keyPattern) ∧
      (a.definition.keyPattern = b.definition.keyPattern ↔ a.field = b.field) ∧
      (a.definition.agrees b.definition = true ↔
        a.field = b.field ∧ a.unique = b.unique ∧ a.activeOnly = b.activeOnly) ∧
      ∀ (c : Catalog) (now later : Int64), c.failure = none →
        (c.answer now (.createIndex a)).1 = .ok () →
        let after := (c.answer now (.createIndex a)).2
        let content := after.collection b.collection
        let second := after.answer later (.createIndex b)
        (∀ x ∈ content.indexes, b.definition.isRelated x = true →
          a.definition.agrees x = true) →
        (second = (.ok (), after) ↔ a = b) ∧
          ((∃ text, second.1 = .error (.conflict b.collection.text a.name text)) ↔
            a.field = b.field ∧ (a.unique ≠ b.unique ∨ a.activeOnly ≠ b.activeOnly)) ∧
          (a.field ≠ b.field →
            ((∃ text, second.1 =
                .error (.duplicateKey b.collection.text b.field.text text)) ↔
              b.unique = true ∧ b.definition.KeyIsShared content.documents) ∧
            (second = (.ok (), after.addIndex b) ↔
              ¬ (b.unique = true ∧ b.definition.KeyIsShared content.documents))) := by
  have hname : a.definition.name = b.definition.name ↔ a.field = b.field :=
    IndexSpec.name_eq_name_iff
  refine ⟨hname.trans IndexSpec.keyPattern_eq_keyPattern_iff.symm,
    IndexSpec.keyPattern_eq_keyPattern_iff, IndexSpec.agrees_definition_iff, ?_⟩
  intro c now later hfailure hcreated after content second halone
  have hafter : after.failure = none := (answer_change c now _).frame.2.trans hfailure
  have hprecedes : after.Precedes a b := ⟨hcollection, stateOf_of_createIndex hcreated, halone⟩
  have hsecond : SecondAnswer after a b second := by
    have hanswer : second = after.createIndex b := answer_of_no_failure hafter later _
    rw [hanswer]
    exact hprecedes.secondAnswer
  have hfields (hsame : a = b) : a.field = b.field := congrArg IndexSpec.field hsame
  generalize second = answer at hsecond
  cases hsecond with
  | same hsame =>
      refine ⟨iff_of_true rfl hsame, iff_of_false (fun ⟨_, h⟩ => nomatch h) ?_,
        fun hfield => absurd (hfields hsame) hfield⟩
      rintro ⟨-, hunique | hactive⟩
      · exact hunique (congrArg IndexSpec.unique hsame)
      · exact hactive (congrArg IndexSpec.activeOnly hsame)
  | conflict hfield hoptions text =>
      refine ⟨iff_of_false (fun h => nomatch h) ?_, iff_of_true ⟨text, rfl⟩ ⟨hfield, hoptions⟩,
        fun hother => absurd hfield hother⟩
      rintro rfl
      exact hoptions.elim (fun h => h rfl) fun h => h rfl
  | taken hfield hshared text =>
      exact ⟨iff_of_false (fun h => nomatch h) (mt hfields hfield),
        iff_of_false (fun ⟨_, h⟩ => nomatch h) fun h => hfield h.1,
        fun _ => ⟨iff_of_true ⟨text, rfl⟩ hshared,
          iff_of_false (fun h => nomatch h) (not_not_intro hshared)⟩⟩
  | free hfield hfree =>
      exact ⟨iff_of_false (fun h => addIndex_ne after b (Prod.mk.inj h).2) (mt hfields hfield),
        iff_of_false (fun ⟨_, h⟩ => nomatch h) fun h => hfield h.1,
        fun _ => ⟨iff_of_false (fun ⟨_, h⟩ => nomatch h) hfree, iff_of_true rfl hfree⟩⟩

/-- A declared index on the seats of guests who have not left. -/
def seat : IndexSpec := ⟨Schema.users, ⟨"seat", by decide⟩, true, some .null⟩

/-- A declared index on the names that stand on tickets. -/
def ticketName : IndexSpec := { seat with field := ⟨"ticket.name_1", by decide⟩ }

/-- Two guests without a ticket. -/
def venue : Catalog :=
  (empty "theatre" none).setCollection Schema.users
    ⟨[], [[("seat", .int32 1)], [("seat", .int32 2), ("deleted_at", .null)]]⟩

/-- With the index on the seats, the same one may be created again and one over all guests may not,
and the index on tickets is refused, as the two guests without one have null as their key. -/
theorem declared_index_trichotomy_venue :
    let after := (venue.answer 0 (.createIndex seat)).2
    let all : IndexSpec := { seat with activeOnly := none }
    venue.failure = none ∧ (venue.answer 0 (.createIndex seat)).1 = .ok () ∧
      after.answer 1 (.createIndex seat) = (.ok (), after) ∧
      (∃ text, (after.answer 1 (.createIndex all)).1 =
        .error (.conflict "users" "seat_1" text)) ∧
      ∃ text, (after.answer 1 (.createIndex ticketName)).1 =
        .error (.duplicateKey "users" "ticket.name_1" text) := by
  intro after all
  have hcreated : (venue.answer 0 (.createIndex seat)).1 = .ok () := rfl
  have hindexes : (after.collection Schema.users).indexes = [seat.definition] := rfl
  have halone (b : IndexSpec) : ∀ x ∈ (after.collection Schema.users).indexes,
      b.definition.isRelated x = true → seat.definition.agrees x = true := by
    rw [hindexes]
    exact List.forall_mem_singleton.2 fun _ => seat.agrees_definition
  obtain ⟨-, -, -, hseat⟩ := declared_index_trichotomy seat seat rfl
  obtain ⟨-, -, -, hall⟩ := declared_index_trichotomy seat all rfl
  obtain ⟨-, -, -, hticket⟩ := declared_index_trichotomy seat ticketName rfl
  obtain ⟨hsame, -⟩ := hseat venue 0 1 rfl hcreated (halone _)
  obtain ⟨-, hconflict, -⟩ := hall venue 0 1 rfl hcreated (halone _)
  obtain ⟨-, -, hother⟩ := hticket venue 0 1 rfl hcreated (halone _)
  have hfield : seat.field ≠ ticketName.field := by decide
  have hshared : ticketName.definition.KeyIsShared (after.collection Schema.users).documents :=
    ⟨0, 1, _, _, Nat.one_pos, rfl, rfl, by decide, by decide, by decide⟩
  exact ⟨rfl, hcreated, hsame.2 rfl, hconflict.2 ⟨rfl, .inr (by decide)⟩,
    (hother hfield).1.2 ⟨rfl, hshared⟩⟩

end Catalog

end DocSchema
