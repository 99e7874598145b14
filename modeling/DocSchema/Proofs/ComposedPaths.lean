import DocSchema.Proofs.Disturbances

/-!
# DocSchema.Proofs.ComposedPaths

Paths that are put together with a dot.

No name on a path holds a dot, so the names along a path with a dot in the middle are those before
the dot, and then those after it, wherever the dot stands (`Path.segments_append`). Such a path is
followed to the document at its first part, and in there along its second part
(`Document.getPath?_append`). What a path finds depends on the field of its first name alone, so a
soft deletion, which sets the mark of active documents, changes keys on the mark only
(`Catalog.keys_answer_softDelete`).
-/

namespace DocSchema

/-- The names before a dot come first, and then those after it. -/
theorem Path.segments_append (p q : String) :
    segments (p ++ "." ++ q) = segments p ++ segments q := by
  have hdot : (p ++ "." ++ q).toList = p.toList ++ '.' :: q.toList := by simp
  rw [segments, hdot, Text.splitAll_append, List.map_append]
  rfl

namespace Document

variable {names more : List String}

/-- A path of more than one name goes on inside the document under the first. -/
theorem follow?_cons (d : Document) (key : String) (h : names ≠ []) :
    follow? d (key :: names) =
      match d.get? key with
      | some (.document inner) => follow? inner names
      | _ => none := by
  cases names with
  | nil => exact absurd rfl h
  | cons next rest => rfl

/-- Names after other names are followed inside the document that the others lead to. -/
theorem follow?_append (d : Document) (hnames : names ≠ []) (hmore : more ≠ []) :
    follow? d (names ++ more) =
      match follow? d names with
      | some (.document inner) => follow? inner more
      | _ => none := by
  induction names generalizing d with
  | nil => exact absurd rfl hnames
  | cons key names ih =>
      cases names with
      | nil => exact follow?_cons d key hmore
      | cons next rest =>
          have hrest : next :: rest ≠ [] := List.cons_ne_nil next rest
          rw [List.cons_append, follow?_cons d key (List.append_ne_nil_of_left_ne_nil hrest more),
            follow?_cons d key hrest]
          split
          · next inner _ => exact ih inner hrest
          · rfl

/-- A path with a dot in it is followed inside the document at its part before the dot. -/
theorem getPath?_append (d : Document) (p q : String) :
    d.getPath? (p ++ "." ++ q) =
      match d.getPath? p with
      | some (.document inner) => getPath? inner q
      | _ => none := by
  rw [getPath?, Path.segments_append]
  exact follow?_append d (Path.segments_ne_nil p) (Path.segments_ne_nil q)

/-- Setting a field changes what is found at the paths that begin with its name only. -/
theorem getPath?_insert_of_head?_ne (d : Document) {key path : String} (v : Value)
    (h : (Path.segments path).head? ≠ some key) :
    (d.insert key v).getPath? path = d.getPath? path := by
  unfold getPath?
  cases hs : Path.segments path with
  | nil => exact absurd hs (Path.segments_ne_nil path)
  | cons head rest =>
      refine follow?_insert_of_ne d v rest fun hhead => h ?_
      rw [hs, hhead, List.head?_cons]

end Document

/-! ## Soft deletions -/

section

variable {x : IndexDefinition}

/-- A soft deletion changes the key of no document in an index that is not on the mark. -/
theorem IndexDefinition.keyOf_marked (hfields : deletedAt ∉ x.fields) (now : Int64)
    (field : FieldName) (value : Value) (d : Document) :
    x.keyOf (Catalog.marked now field value d) = x.keyOf d := by
  unfold Catalog.marked
  split
  · next hselects =>
    exact keyOf_insert_deletedAt (Document.selects_iff.1 hselects).1 hfields now
  · rfl

/-- A soft deletion changes no key in an index that is not on the mark, in whatever collection. -/
theorem Catalog.keys_answer_softDelete (hfields : deletedAt ∉ x.fields) (c : Catalog) (now : Int64)
    (name : CollectionName) (field : FieldName) (value : Value) (other : CollectionName) :
    ((c.answer now (.softDelete name field value)).2.collection other).documents.map x.keyOf =
      (c.collection other).documents.map x.keyOf := by
  cases hrefusal : c.refusal? true with
  | some e => rw [answer_of_refusal (r := .softDelete name field value) hrefusal]
  | none =>
      by_cases hname : name = other
      · subst hname
        rw [collection_answer_softDelete hrefusal, List.map_map]
        exact List.map_congr_left fun d _ => x.keyOf_marked hfields now field value d
      · cases hget : c.collections.get? name with
        | none => rw [answer_softDelete_of_missing hrefusal hget]
        | some content =>
            rw [answer_softDelete hrefusal hget, collection_setCollection_of_ne _ _ hname]

end

/-- What is found at a path with a dot in it is what is found at its part after the dot in the
document at its part before it, and nothing where there is no document at that. Setting a field
changes what is found at paths that begin with its name alone. A soft deletion so leaves all keys as
they are in every index that is not on the mark. -/
theorem Document.dotted_lookup_composes :
    (∀ (d : Document) (p q : String), d.getPath? (p ++ "." ++ q) =
        match d.getPath? p with
        | some (.document inner) => Document.getPath? inner q
        | _ => none) ∧
      (∀ (d : Document) (key : String) (v : Value) (path : String),
        (d.insert key v).getPath? path ≠ d.getPath? path →
          (Path.segments path).head? = some key) ∧
      ∀ (x : IndexDefinition), deletedAt ∉ x.fields →
        ∀ (c : Catalog) (now : Int64) (name : CollectionName) (field : FieldName) (value : Value)
          (other : CollectionName),
          ((c.answer now (.softDelete name field value)).2.collection other).documents.map
              x.keyOf = (c.collection other).documents.map x.keyOf :=
  ⟨getPath?_append,
    fun d _ v _ hchanged => Decidable.of_not_not fun hhead =>
      hchanged (getPath?_insert_of_head?_ne d v hhead),
    fun _ hfields c => c.keys_answer_softDelete hfields⟩

/-- The field of an address below an empty name. -/
def address : FieldName := ⟨"profile..email", by decide⟩

/-- An account with an address below an empty name, and with a list. -/
def account : Document :=
  [("profile", .document [("", .document [("email", .string "ada")])]),
    ("roles", .array [.string "admin"])]

/-- An index below the mark and on the address. -/
def addresses : IndexDefinition where
  name := "addresses"
  keys := [("deleted_at.by", .int32 1), ("profile..email", .int32 1)]
  unique := true
  filter := none

/-- The address is found where a path ends in a dot before its name, and nothing inside the list. It
is found no more when the profile is another one, which is the field that its path begins with. The
key of the account is the same when it has been deleted softly by its address. -/
theorem Document.dotted_lookup_composes_account :
    let c := (Catalog.empty "shop" none).setCollection Schema.users ⟨[addresses], [account]⟩
    let answered := c.answer 4 (.softDelete Schema.users address (.string "ada"))
    account.getPath? ("profile." ++ "." ++ "email") = some (.string "ada") ∧
      account.getPath? ("roles" ++ "." ++ "0") = none ∧
      (account.insert "profile" .null).getPath? "profile..email" ≠
        account.getPath? "profile..email" ∧
      (Path.segments "profile..email").head? = some "profile" ∧
      deletedAt ∉ addresses.fields ∧ answered.1 = .ok (1 : Nat) ∧
      (answered.2.collection Schema.users).documents.map addresses.keyOf =
        [[.null, .string "ada"]] := by
  intro c answered
  obtain ⟨hlookup, hset, hkeys⟩ := dotted_lookup_composes
  have hother : (account.insert "profile" .null).getPath? "profile..email" ≠
      account.getPath? "profile..email" := by
    have hnone : (account.insert "profile" .null).getPath? "profile..email" = none := rfl
    have hsome : account.getPath? "profile..email" = some (.string "ada") := rfl
    rw [hnone, hsome]
    exact (Option.some_ne_none _).symm
  have hfields : deletedAt ∉ addresses.fields := by decide
  have hcount : answered.1 = .ok (1 : Nat) := rfl
  refine ⟨?_, ?_, hother, hset _ _ _ _ hother, hfields, hcount, ?_⟩
  · rw [hlookup]
    rfl
  · rw [hlookup]
    rfl
  · exact hkeys addresses hfields c 4 Schema.users address (.string "ada") Schema.users

end DocSchema
