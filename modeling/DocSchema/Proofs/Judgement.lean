import DocSchema.Bootstrap.Run
import DocSchema.Proofs.CatalogGrowth
import Mathlib.Data.List.TakeWhile

/-!
# DocSchema.Proofs.Judgement

What applying a schema comes to, judged on the catalog at the start.

Applying goes through its declarations one after the other, and each changes the catalog that the
next one sees. In a consistent schema no declaration notices another, so every index can be judged
on the catalog at the start: something stands in its way (`obstacle?`), or it is created where it is
missing, or it is there. The first index with an obstacle ends the run with the error
of that obstacle, and the catalog has grown by what was missing before it.
-/

namespace DocSchema.Bootstrap

variable {limit : Duration} {c c' : Catalog} {s : IndexSpec}

/-! ## Declarations on one catalog -/

/-- The time that a request takes, in nanoseconds. -/
def requestTime (c : Catalog) : Nat := c.delay.nanoseconds

/-- Whether a declared index is missing from its collection. -/
def lacks (c : Catalog) (s : IndexSpec) : Bool :=
  match c.stateOf s with
  | .missing => true
  | _ => false

/-- What stands in the way of a declared index on a catalog that takes writes: an index in
conflict, too little time for a second request, or a key that documents share. -/
def obstacle? (limit : Duration) (c : Catalog) (s : IndexSpec) : Option BootstrapError :=
  match c.stateOf s with
  | .identical => none
  | .conflicting existing =>
    some (.conflictingDefinition s.collection.text existing.name
      (difference existing s.definition))
  | .missing =>
    if limit.nanoseconds < 2 * requestTime c then
      some (.timeout (Declaration.index s).text limit)
    else (c.violation? s).map fun key =>
      .ofStore (c.duplicateKey s.collection s.definition key)

/-- What happens to a declared collection. -/
def collectionOutcome (c : Catalog) (name : CollectionName) : Outcome :=
  ⟨.collection name, if (c.collections.get? name).isSome then .unchanged else .created⟩

/-- What happens to a declared index with nothing in its way. -/
def indexOutcome (c : Catalog) (s : IndexSpec) : Outcome :=
  ⟨.index s, if lacks c s then .created else .unchanged⟩

/-- The indexes before the first with an obstacle. -/
def reached (limit : Duration) (c : Catalog) (specs : List IndexSpec) : List IndexSpec :=
  specs.takeWhile fun s => (obstacle? limit c s).isNone

/-- The indexes that are created. -/
def created (limit : Duration) (c : Catalog) (specs : List IndexSpec) : List IndexSpec :=
  (reached limit c specs).filter (lacks c)

/-- What happens to declared indexes, up to the first with an obstacle. -/
def indexResult (limit : Duration) (c : Catalog) (specs : List IndexSpec) :
    Except BootstrapError (List Outcome) :=
  match specs.findSome? (obstacle? limit c) with
  | some e => .error e
  | none => .ok (specs.map (indexOutcome c))

/-! ## Up to the first obstacle -/

theorem indexResult_nil : indexResult limit c [] = .ok [] := rfl

theorem indexResult_cons (specs : List IndexSpec) : indexResult limit c (s :: specs) =
    match obstacle? limit c s with
    | some e => .error e
    | none => (indexResult limit c specs).map (indexOutcome c s :: ·) := by
  simp only [indexResult, List.findSome?_cons]
  cases obstacle? limit c s with
  | some e => rfl
  | none =>
      dsimp only
      cases specs.findSome? (obstacle? limit c) <;> rfl

theorem created_cons_of_obstacle {e : BootstrapError} (h : obstacle? limit c s = some e)
    (specs : List IndexSpec) : created limit c (s :: specs) = [] := by
  simp [created, reached, h]

theorem created_cons_of_no_obstacle (h : obstacle? limit c s = none) (specs : List IndexSpec) :
    created limit c (s :: specs) = [s].filter (lacks c) ++ created limit c specs := by
  rw [created, reached, List.takeWhile_cons, h, Option.isNone_none, if_pos rfl,
    ← List.singleton_append, List.filter_append, created, reached]

/-- What is created was reached and missing. -/
theorem mem_created {specs : List IndexSpec} :
    s ∈ created limit c specs ↔ s ∈ reached limit c specs ∧ lacks c s = true := List.mem_filter

theorem reached_sublist (specs : List IndexSpec) : (reached limit c specs).Sublist specs :=
  (List.takeWhile_prefix _).sublist

theorem created_sublist (specs : List IndexSpec) : (created limit c specs).Sublist specs :=
  List.filter_sublist.trans (reached_sublist specs)

theorem lacks_eq_true_iff : lacks c s = true ↔ c.stateOf s = .missing := by
  unfold lacks
  cases c.stateOf s <;> simp

/-- Either no index has an obstacle, or there is a first one that has. -/
theorem exists_first_obstacle (limit : Duration) (c : Catalog) (specs : List IndexSpec) :
    (∀ s ∈ specs, obstacle? limit c s = none) ∨
      ∃ before s after e, specs = before ++ s :: after ∧
        (∀ t ∈ before, obstacle? limit c t = none) ∧ obstacle? limit c s = some e := by
  cases hfirst : specs.findSome? (obstacle? limit c) with
  | none => exact .inl (List.findSome?_eq_none_iff.1 hfirst)
  | some e =>
      obtain ⟨before, s, after, hspecs, hs, hbefore⟩ := List.findSome?_eq_some_iff.1 hfirst
      exact .inr ⟨before, s, after, e, hspecs, hbefore, hs⟩

section

variable {before after specs : List IndexSpec} {e : BootstrapError}

/-- Without an obstacle every index has an outcome. -/
theorem indexResult_of_no_obstacle (h : ∀ s ∈ specs, obstacle? limit c s = none) :
    indexResult limit c specs = .ok (specs.map (indexOutcome c)) := by
  rw [indexResult, List.findSome?_eq_none_iff.2 h]

/-- Without an obstacle every index is reached. -/
theorem reached_of_no_obstacle (h : ∀ s ∈ specs, obstacle? limit c s = none) :
    reached limit c specs = specs :=
  List.takeWhile_eq_self_iff.2 fun s hs => Option.isNone_iff_eq_none.2 (h s hs)

/-- The first obstacle is the error. -/
theorem indexResult_of_obstacle (hbefore : ∀ t ∈ before, obstacle? limit c t = none)
    (hs : obstacle? limit c s = some e) (after : List IndexSpec) :
    indexResult limit c (before ++ s :: after) = .error e := by
  rw [indexResult, List.findSome?_eq_some_iff.2 ⟨before, s, after, rfl, hs, hbefore⟩]

/-- The indexes before the first obstacle are reached. -/
theorem reached_of_obstacle (hbefore : ∀ t ∈ before, obstacle? limit c t = none)
    (hs : obstacle? limit c s = some e) (after : List IndexSpec) :
    reached limit c (before ++ s :: after) = before := by
  rw [reached,
    List.takeWhile_append_of_pos fun t ht => Option.isNone_iff_eq_none.2 (hbefore t ht),
    List.takeWhile_cons, hs]
  exact List.append_nil before

/-- Nothing stands in the way of an index that is reached. -/
theorem obstacle?_of_reached (h : s ∈ reached limit c specs) : obstacle? limit c s = none :=
  Option.isNone_iff_eq_none.1
    (List.mem_takeWhile_imp (p := fun s => (obstacle? limit c s).isNone) h)

end

/-- In the way of an index is a conflict, too little time to create it, or a key that documents
share. -/
theorem obstacle_cases {e : BootstrapError} (h : obstacle? limit c s = some e) :
    (∃ existing, c.stateOf s = .conflicting existing ∧
      e = .conflictingDefinition s.collection.text existing.name
        (difference existing s.definition)) ∨
    (c.stateOf s = .missing ∧ limit.nanoseconds < 2 * requestTime c ∧
      e = .timeout (Declaration.index s).text limit) ∨
    (c.stateOf s = .missing ∧ 2 * requestTime c ≤ limit.nanoseconds ∧
      ∃ key, c.violation? s = some key ∧
        e = .ofStore (c.duplicateKey s.collection s.definition key)) := by
  unfold obstacle? at h
  cases hs : c.stateOf s with
  | identical =>
      rw [hs] at h
      contradiction
  | conflicting existing =>
      rw [hs] at h
      exact .inl ⟨existing, rfl, (Option.some.inj h).symm⟩
  | missing =>
      rw [hs] at h
      dsimp only at h
      split at h
      · next hlate => exact .inr (.inl ⟨rfl, hlate, (Option.some.inj h).symm⟩)
      · next htime =>
        obtain ⟨key, hkey, rfl⟩ := Option.map_eq_some_iff.1 h
        exact .inr (.inr ⟨rfl, Nat.not_lt.1 htime, key, hkey, rfl⟩)

/-- An index without an obstacle is missing or there. -/
theorem stateOf_of_no_obstacle (h : obstacle? limit c s = none)
    (hmissing : c.stateOf s ≠ .missing) : c.stateOf s = .identical := by
  unfold obstacle? at h
  cases hs : c.stateOf s with
  | identical => rfl
  | missing => exact absurd hs hmissing
  | conflicting existing =>
      rw [hs] at h
      contradiction

/-! ## Judging alike -/

/-- Whether two catalogs judge a declared index alike. -/
structure Alike (c c' : Catalog) (s : IndexSpec) : Prop where
  database : c'.database = c.database
  failure : c'.failure = c.failure
  state : c'.stateOf s = c.stateOf s
  violation : c'.violation? s = c.violation? s

theorem Alike.trans {c'' : Catalog} (h : Alike c c' s) (h' : Alike c' c'' s) : Alike c c'' s where
  database := h'.database.trans h.database
  failure := h'.failure.trans h.failure
  state := h'.state.trans h.state
  violation := h'.violation.trans h.violation

theorem requestTime_congr (h : c'.failure = c.failure) : requestTime c' = requestTime c := by
  rw [requestTime, requestTime, Catalog.delay, h, Catalog.delay]

theorem requestTime_of_no_failure (h : c.failure = none) : requestTime c = 0 := by
  rw [requestTime, Catalog.delay, h]

/-- Without a failure, only documents that share a key stand in the way of a missing index. -/
theorem obstacle?_of_missing (limit : Duration) (hfailure : c.failure = none)
    (h : c.stateOf s = .missing) :
    obstacle? limit c s = (c.violation? s).map fun key =>
      .ofStore (c.duplicateKey s.collection s.definition key) := by
  have htime : ¬ limit.nanoseconds < 2 * requestTime c := by
    rw [requestTime_of_no_failure hfailure]
    exact Nat.not_lt_zero _
  simp only [obstacle?, h, if_neg htime]

theorem Alike.duplicateKey (h : Alike c c' s) (key : List Value) :
    c'.duplicateKey s.collection s.definition key =
      c.duplicateKey s.collection s.definition key := by
  rw [Catalog.duplicateKey, h.database, Catalog.duplicateKey]

theorem Alike.obstacle? (h : Alike c c' s) :
    obstacle? limit c' s = Bootstrap.obstacle? limit c s := by
  simp only [Bootstrap.obstacle?, h.state, h.violation, requestTime_congr h.failure,
    h.duplicateKey]

theorem Alike.lacks (h : Alike c c' s) : lacks c' s = Bootstrap.lacks c s := by
  rw [Bootstrap.lacks, h.state, Bootstrap.lacks]

/-- Added collections do not change the judgement. -/
theorem alike_addCollections (c : Catalog) (names : List CollectionName) (s : IndexSpec) :
    Alike c (c.addCollections names) s :=
  ⟨(c.frame_addCollections names).1, (c.frame_addCollections names).2,
    c.stateOf_addCollections names s, c.violation?_addCollections names s⟩

/-- Added indexes on other fields do not change the judgement. -/
theorem alike_addIndexes {specs : List IndexSpec} (h : ∀ t ∈ specs, ¬ Schema.Overlap t s) :
    Alike c (c.addIndexes specs) s :=
  ⟨(c.frame_addIndexes specs).1, (c.frame_addIndexes specs).2, c.stateOf_addIndexes h,
    c.violation?_addIndexes specs s⟩

/-- A catalog with collections and indexes on other fields added judges an index as before. -/
theorem alike_grown (c : Catalog) (names : List CollectionName) {specs : List IndexSpec}
    (h : ∀ t ∈ specs, ¬ Schema.Overlap t s) :
    Alike c ((c.addCollections names).addIndexes specs) s :=
  (alike_addCollections c names s).trans (alike_addIndexes h)

/-- An index that was missing is there once it is among those that are added. -/
theorem stateOf_grown (names : List CollectionName) {specs : List IndexSpec}
    (hdistinct : specs.Pairwise fun t u => ¬ Schema.Overlap t u) (hs : s ∈ specs)
    (hmissing : c.stateOf s = .missing) :
    ((c.addCollections names).addIndexes specs).stateOf s = .identical :=
  Catalog.stateOf_addIndexes_self hdistinct hs ((c.stateOf_addCollections names s).trans hmissing)

section

variable {limit' : Duration} {specs : List IndexSpec}

/-- The same obstacles and the same missing indexes make the same result. -/
theorem indexResult_congr_of_obstacles
    (h : ∀ s ∈ specs, obstacle? limit' c' s = obstacle? limit c s)
    (hlacks : ∀ s ∈ specs, lacks c' s = lacks c s) :
    indexResult limit' c' specs = indexResult limit c specs := by
  induction specs with
  | nil => rw [indexResult_nil, indexResult_nil]
  | cons s specs ih =>
      obtain ⟨hs, hspecs⟩ := List.forall_mem_cons.1 h
      obtain ⟨hlacks, hlackss⟩ := List.forall_mem_cons.1 hlacks
      rw [indexResult_cons, indexResult_cons, ih hspecs hlackss, hs, indexOutcome, hlacks,
        indexOutcome]

/-- With the same obstacles, the same indexes are reached. -/
theorem reached_congr (h : ∀ s ∈ specs, obstacle? limit' c' s = obstacle? limit c s) :
    reached limit' c' specs = reached limit c specs := by
  induction specs with
  | nil => rw [reached, List.takeWhile_nil, reached, List.takeWhile_nil]
  | cons s specs ih =>
      obtain ⟨hs, hspecs⟩ := List.forall_mem_cons.1 h
      have hrest := ih hspecs
      simp only [reached] at hrest ⊢
      rw [List.takeWhile_cons, List.takeWhile_cons, hs, hrest]

/-- With the same obstacles and the same missing indexes, the same indexes are created. -/
theorem created_congr_of_obstacles
    (h : ∀ s ∈ specs, obstacle? limit' c' s = obstacle? limit c s)
    (hlacks : ∀ s ∈ specs, lacks c' s = lacks c s) :
    created limit' c' specs = created limit c specs := by
  rw [created, reached_congr h, created]
  exact List.filter_congr fun s hs => hlacks s ((reached_sublist specs).subset hs)

/-- Catalogs that judge every index alike reach the same result. -/
theorem indexResult_congr (h : ∀ s ∈ specs, Alike c c' s) :
    indexResult limit c' specs = indexResult limit c specs :=
  indexResult_congr_of_obstacles (fun s hs => (h s hs).obstacle?) fun s hs => (h s hs).lacks

/-- Catalogs that judge every index alike create the same indexes. -/
theorem created_congr (h : ∀ s ∈ specs, Alike c c' s) :
    created limit c' specs = created limit c specs :=
  created_congr_of_obstacles (fun s hs => (h s hs).obstacle?) fun s hs => (h s hs).lacks

end

end DocSchema.Bootstrap
