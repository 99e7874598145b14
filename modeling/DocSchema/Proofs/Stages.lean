import DocSchema.Proofs.AppliedCatalogs
import DocSchema.Proofs.Turns

/-!
# DocSchema.Proofs.Stages

The stages that a catalog goes through while clients apply one schema to it.

Whatever the clients do in whatever order, the catalog has the first of the declared collections,
and once it has all of them, also the first of the indexes that a run alone would reach. A client is
never further than the catalog: what it asks for next has either been done by others, and then
its request changes nothing, or it is the next thing to be done (`passed_or_alike`). So a client
that comes to its end has seen the last stage, with the result of a run alone (`ensures_apply`).
-/

namespace DocSchema.Bootstrap

variable {limit : Duration} {c : Catalog} {s : Schema}

/-- A list between one of its own beginnings and the same with one more is one of the two. -/
theorem eq_or_prefix_of_prefix_cons {α : Type} {before l rest : List α} {a : α}
    (h : before <+: l) (h' : l <+: before ++ a :: rest) : l = before ∨ before ++ [a] <+: l := by
  obtain ⟨more, rfl⟩ := h
  rw [List.prefix_append_right_inj] at h'
  cases more with
  | nil => exact .inl (List.append_nil before)
  | cons b more =>
      obtain ⟨rfl, -⟩ := List.cons_prefix_cons.1 h'
      exact .inr ⟨more, by rw [List.append_assoc, List.singleton_append]⟩

/-! ## Stages -/

/-- How far clients have come with a schema. -/
structure Stage (limit : Duration) (c : Catalog) (s : Schema) where
  collections : List CollectionName
  indexes : List IndexSpec
  collections_prefix : collections <+: s.collections
  indexes_prefix : indexes <+: reached limit c s.indexes
  /-- There are no indexes before all collections are there. -/
  ordered : indexes = [] ∨ collections = s.collections

namespace Stage

/-- The catalog at a stage. -/
def catalog (x : Stage limit c s) : Catalog :=
  (c.addCollections x.collections).addIndexes (x.indexes.filter (lacks c))

/-- The stage before anything is done. -/
def first (limit : Duration) (c : Catalog) (s : Schema) : Stage limit c s :=
  ⟨[], [], List.nil_prefix, List.nil_prefix, .inl rfl⟩

/-- Whether a stage is the last one. -/
def IsLast (x : Stage limit c s) : Prop :=
  x.collections = s.collections ∧ x.indexes = reached limit c s.indexes

/-- Whether a stage has all that another has. -/
def Later (x y : Stage limit c s) : Prop :=
  x.collections <+: y.collections ∧ x.indexes <+: y.indexes

/-- Whether no other collections than these are left to create. -/
def CollectionsLeft (rest : List CollectionName) (x : Stage limit c s) : Prop :=
  ∃ before, s.collections = before ++ rest ∧ before <+: x.collections

/-- Whether all collections are there, and no other indexes than these are left to see to. -/
def IndexesLeft (rest : List IndexSpec) (x : Stage limit c s) : Prop :=
  x.collections = s.collections ∧ ∃ before, s.indexes = before ++ rest ∧ before <+: x.indexes

variable {x y z : Stage limit c s}

theorem Later.refl (x : Stage limit c s) : x.Later x := ⟨List.prefix_rfl, List.prefix_rfl⟩

theorem Later.trans (h : x.Later y) (h' : y.Later z) : x.Later z :=
  ⟨h.1.trans h'.1, h.2.trans h'.2⟩

/-- All collections stay there. -/
theorem Later.collections_eq (h : x.Later y) (hx : x.collections = s.collections) :
    y.collections = s.collections :=
  y.collections_prefix.eq_of_length_le (hx ▸ h.1.length_le)

/-- Nothing comes after the last stage. -/
theorem Later.isLast (h : x.Later y) (hx : x.IsLast) : y.IsLast :=
  ⟨h.collections_eq hx.1, y.indexes_prefix.eq_of_length_le (hx.2 ▸ h.2.length_le)⟩

theorem CollectionsLeft.later {rest : List CollectionName} (hx : x.CollectionsLeft rest)
    (h : x.Later y) : y.CollectionsLeft rest := by
  obtain ⟨before, hsplit, hbefore⟩ := hx
  exact ⟨before, hsplit, hbefore.trans h.1⟩

theorem IndexesLeft.later {rest : List IndexSpec} (hx : x.IndexesLeft rest) (h : x.Later y) :
    y.IndexesLeft rest := by
  obtain ⟨hfull, before, hsplit, hbefore⟩ := hx
  exact ⟨h.collections_eq hfull, before, hsplit, hbefore.trans h.2⟩

theorem IsLast.catalog (h : x.IsLast) : x.catalog = applied limit c s := by
  rw [Stage.catalog, h.1, h.2, applied, created]

theorem frame (x : Stage limit c s) :
    x.catalog.database = c.database ∧ x.catalog.failure = c.failure := by
  obtain ⟨hdatabase, hfailure⟩ := c.frame_addCollections x.collections
  obtain ⟨hdatabase', hfailure'⟩ :=
    (c.addCollections x.collections).frame_addIndexes (x.indexes.filter (lacks c))
  exact ⟨hdatabase'.trans hdatabase, hfailure'.trans hfailure⟩

/-! ## The next collection -/

section

variable {name : CollectionName} {rest : List CollectionName}

/-- The collections of a stage exist. -/
theorem exists_of_mem (h : name ∈ x.collections) : x.catalog.collections.get? name ≠ none := by
  refine Catalog.exists_addIndexes ?_ _
  rw [Catalog.get?_addCollections, if_pos h]
  exact Option.some_ne_none _

/-- Adding the next of the collections leads to a stage that has it. -/
theorem exists_later_of_addCollection (hx : x.CollectionsLeft (name :: rest)) :
    ∃ y : Stage limit c s, x.Later y ∧ x.catalog.addCollection name = y.catalog ∧
      y.CollectionsLeft rest := by
  obtain ⟨before, hsplit, hbefore⟩ := hx
  have hsplit' : s.collections = (before ++ [name]) ++ rest := by
    rw [hsplit, List.append_assoc, List.singleton_append]
  rcases eq_or_prefix_of_prefix_cons hbefore (hsplit ▸ x.collections_prefix) with heq | hpassed
  · have hnone : x.indexes = [] := x.ordered.resolve_right fun hall => by
      rw [heq, hsplit] at hall
      exact absurd (congrArg List.length hall) (by simp)
    have hlater : x.collections <+: before ++ [name] ∧ x.indexes <+: [] := by
      rw [heq, hnone]
      exact ⟨List.prefix_append before [name], List.prefix_rfl⟩
    refine ⟨⟨before ++ [name], [], ⟨rest, hsplit'.symm⟩, List.nil_prefix, .inl rfl⟩, hlater, ?_,
      before ++ [name], hsplit', List.prefix_rfl⟩
    simp only [Stage.catalog, heq, hnone, Catalog.addCollections, List.foldl_append,
      List.foldl_cons, List.foldl_nil, List.filter_nil, Catalog.addIndexes]
  · have hname : name ∈ x.collections :=
      hpassed.subset (List.mem_append_right before List.mem_cons_self)
    have hexists : ∀ n ∈ [name], x.catalog.collections.get? n ≠ none := fun n hn =>
      List.mem_singleton.1 hn ▸ exists_of_mem hname
    exact ⟨x, .refl x, Catalog.addCollections_of_exists hexists, before ++ [name], hsplit', hpassed⟩

end

/-! ## The next index -/

section

variable {i : IndexSpec} {rest : List IndexSpec} {e : BootstrapError}

/-- An index that a stage has is there. -/
theorem stateOf_of_mem (hs : s.Consistent) (hi : i ∈ x.indexes) :
    x.catalog.stateOf i = .identical :=
  stateOf_grown_of_no_obstacle hs x.collections
    (x.indexes_prefix.sublist.trans (reached_sublist s.indexes)) hi
    (obstacle?_of_reached (x.indexes_prefix.subset hi))

/-- The next of the indexes is there, or is the first that a stage does not have, and is judged as
in the beginning. -/
theorem passed_or_alike (hs : s.Consistent) (hx : x.IndexesLeft (i :: rest)) :
    (x.IndexesLeft rest ∧ x.catalog.stateOf i = .identical) ∨
      (s.indexes = x.indexes ++ i :: rest ∧ Alike c x.catalog i) := by
  obtain ⟨hfull, before, hsplit, hbefore⟩ := hx
  have hprefix : x.indexes <+: before ++ i :: rest :=
    hsplit ▸ x.indexes_prefix.trans (List.takeWhile_prefix _)
  rcases eq_or_prefix_of_prefix_cons hbefore hprefix with rfl | hpassed
  · refine .inr ⟨hsplit, alike_grown c x.collections fun j hj hoverlap => ?_⟩
    have hdistinct := hs.distinct
    rw [hsplit] at hdistinct
    exact (List.pairwise_append.1 hdistinct).2.2 j (List.mem_filter.1 hj).1 i List.mem_cons_self
      hoverlap
  · have hi : i ∈ x.indexes := hpassed.subset (List.mem_append_right before List.mem_cons_self)
    refine .inl ⟨⟨hfull, before ++ [i], ?_, hpassed⟩, stateOf_of_mem hs hi⟩
    rw [hsplit, List.append_assoc, List.singleton_append]

/-- Nothing that a stage has has an obstacle. -/
theorem obstacle?_of_mem : ∀ j ∈ x.indexes, obstacle? limit c j = none :=
  fun _ hj => obstacle?_of_reached (x.indexes_prefix.subset hj)

/-- An index without an obstacle leads to a stage that has it. -/
theorem exists_later_of_no_obstacle (hnext : s.indexes = x.indexes ++ i :: rest)
    (hfull : x.collections = s.collections) (hi : obstacle? limit c i = none) :
    ∃ y : Stage limit c s, x.Later y ∧ y.IndexesLeft rest ∧
      y.catalog = x.catalog.addIndexes ([i].filter (lacks c)) := by
  have hreached : x.indexes ++ [i] <+: reached limit c s.indexes := by
    rw [hnext, reached, List.takeWhile_append_of_pos fun j hj =>
      Option.isNone_iff_eq_none.2 (obstacle?_of_mem j hj), List.takeWhile_cons, hi]
    exact (List.prefix_append_right_inj x.indexes).2 ⟨_, rfl⟩
  refine ⟨⟨x.collections, x.indexes ++ [i], x.collections_prefix, hreached, .inr hfull⟩,
    ⟨List.prefix_rfl, List.prefix_append x.indexes [i]⟩,
    ⟨hfull, x.indexes ++ [i], ?_, List.prefix_rfl⟩, ?_⟩
  · rw [hnext, List.append_assoc, List.singleton_append]
  · simp only [Stage.catalog, List.filter_append, Catalog.addIndexes, List.foldl_append]

/-- A stage before an index with an obstacle is the last one, and a run alone ends there too. -/
theorem isLast_of_obstacle (hnext : s.indexes = x.indexes ++ i :: rest)
    (hfull : x.collections = s.collections) (hi : obstacle? limit c i = some e) :
    x.IsLast ∧ result limit c s = .error e :=
  ⟨⟨hfull, by rw [hnext, reached_of_obstacle obstacle?_of_mem hi rest]⟩,
    result_of_obstacle hnext obstacle?_of_mem hi⟩

/-- A stage with no indexes left is the last one, and a run alone has no error. -/
theorem isLast_of_none_left (hx : x.IndexesLeft []) :
    x.IsLast ∧ ∃ outcomes, result limit c s = .ok outcomes := by
  obtain ⟨hfull, before, hsplit, hbefore⟩ := hx
  have hall : s.indexes <+: x.indexes := by
    rw [hsplit, List.append_nil]
    exact hbefore
  have hreached : reached limit c s.indexes = s.indexes :=
    (List.takeWhile_prefix _).eq_of_length_le (hall.trans x.indexes_prefix).length_le
  refine ⟨⟨hfull, x.indexes_prefix.eq_of_length_le (hreached.symm ▸ hall).length_le⟩, _,
    result_of_no_obstacle fun i hi => ?_⟩
  exact obstacle?_of_reached (hreached.symm ▸ hi)

end

end Stage

/-! ## Clients on their way -/

/-- The course of a catalog to which clients apply one schema. They create declared collections and
no others. -/
def applyCourse (limit : Duration) (c : Catalog) (s : Schema) : Course where
  Stage := Stage limit c s
  catalog := Stage.catalog
  Later := Stage.Later
  Permits x r := r.AtHome x.catalog ∧ ∀ name, r = .createCollection name → name ∈ s.collections
  refl := Stage.Later.refl
  trans := Stage.Later.trans

/-- How a client stands that has applied the whole schema: there is nothing left to do, and a run
alone has no error either. -/
def Succeeds (_ : List Outcome) (x : Stage limit c s) : Prop :=
  x.IsLast ∧ ∃ outcomes, result limit c s = .ok outcomes

/-- How a client stands that has come to an error: there is nothing left to do, and a run alone
ends with the same error. -/
def Fails (e : BootstrapError) (x : Stage limit c s) : Prop :=
  x.IsLast ∧ result limit c s = .error e

theorem lasting_succeeds (outcomes : List Outcome) :
    (applyCourse limit c s).Lasting (Succeeds outcomes) :=
  fun _ _ hxy h => ⟨Stage.Later.isLast hxy h.1, h.2⟩

theorem lasting_fails (e : BootstrapError) : (applyCourse limit c s).Lasting (Fails e) :=
  fun _ _ hxy h => ⟨Stage.Later.isLast hxy h.1, h.2⟩

variable {α : Type} {x : Stage limit c s} {good : α → Stage limit c s → Prop}
  {bad : BootstrapError → Stage limit c s → Prop}

/-- A client keeps to the course if its next request does, at all later stages. -/
theorem ensures_ask (hfailure : c.failure = none) {starts : Option String} {r : Request}
    {next : r.Result → Task α}
    (hpermits : ∀ y, x.Later y → (applyCourse limit c s).Permits y r)
    (hnext : ∀ y now, x.Later y → ∃ z, y.Later z ∧ (y.catalog.perform now r).2 = z.catalog ∧
      (next (y.catalog.perform now r).1).Ensures (applyCourse limit c s) good bad z) :
    (Task.ask starts r next).Ensures (applyCourse limit c s) good bad x := by
  intro y hxy
  refine ⟨hpermits y hxy, fun now => ?_⟩
  have hanswer : ((applyCourse limit c s).catalog y).answer now r =
      ((applyCourse limit c s).catalog y).perform now r :=
    Catalog.answer_of_no_failure (y.frame.2.trans hfailure) now r
  rw [hanswer]
  exact hnext y now hxy

/-- A client that asks for the next of the collections finds it afterwards. -/
theorem ensures_ensureCollection (hfailure : c.failure = none) {name : CollectionName}
    {rest : List CollectionName} (hx : x.CollectionsLeft (name :: rest)) :
    (ensureCollection name).Ensures (applyCourse limit c s)
      (fun _ => Stage.CollectionsLeft rest) bad x := by
  have hname : name ∈ s.collections := by
    obtain ⟨before, hsplit, -⟩ := hx
    exact hsplit ▸ List.mem_append_right before List.mem_cons_self
  rw [ensureCollection_eq]
  refine ensures_ask hfailure (fun y _ => ⟨trivial, ?_⟩) fun y now hxy => ?_
  · rintro _ ⟨⟩
    exact hname
  · obtain ⟨z, hyz, hcatalog, hz⟩ := Stage.exists_later_of_addCollection (hx.later hxy)
    have hperform : y.catalog.perform now (.createCollection name) = _ :=
      perform_createCollection y.catalog name
    rw [hperform]
    refine ⟨z, hyz, hcatalog, ?_⟩
    cases (y.catalog.collections.get? name).isSome <;> exact hz

variable {i : IndexSpec} {rest : List IndexSpec}

/-- A client that found the next of the indexes missing and asks for it finds it afterwards, unless
a run alone fails here. -/
theorem ensures_creation (hs : s.Consistent) (hfailure : c.failure = none)
    (hi : i ∈ s.indexes) (hx : x.IndexesLeft (i :: rest)) (hmissing : c.stateOf i = .missing) :
    (finishIndex i .missing).Ensures (applyCourse limit c s)
      (fun _ => Stage.IndexesLeft rest) Fails x := by
  refine ensures_ask hfailure (fun y hxy => ⟨?_, fun _ h => nomatch h⟩) fun y now hxy => ?_
  · have hdeclared := hs.declared i hi
    rw [← (hx.later hxy).1] at hdeclared
    exact Stage.exists_of_mem hdeclared
  · have hperform : y.catalog.perform now (.createIndex i) =
        y.catalog.perform 0 (.createIndex i) := rfl
    rw [hperform]
    rcases Stage.passed_or_alike hs (hx.later hxy) with ⟨hpassed, hstate⟩ | ⟨hnext, halike⟩
    · rw [perform_createIndex_of_identical hstate]
      exact ⟨y, .refl y, rfl, hpassed⟩
    · have hfull := (hx.later hxy).1
      have hobstacle := obstacle?_of_missing limit hfailure hmissing
      rw [perform_createIndex_of_missing (halike.state.trans hmissing), halike.violation]
      cases hkey : c.violation? i with
      | some key =>
          rw [hkey, Option.map_some] at hobstacle
          dsimp only
          rw [halike.duplicateKey]
          exact ⟨y, .refl y, rfl, Stage.isLast_of_obstacle hnext hfull hobstacle⟩
      | none =>
          rw [hkey, Option.map_none] at hobstacle
          obtain ⟨z, hyz, hz, hcatalog⟩ := Stage.exists_later_of_no_obstacle hnext hfull hobstacle
          rw [List.filter_cons_of_pos (lacks_eq_true_iff.2 hmissing)] at hcatalog
          exact ⟨z, hyz, hcatalog.symm, hz⟩

/-- A client that has looked for the next of the indexes is past it if it is there. -/
theorem exists_ensures_finishIndex (hs : s.Consistent) (hfailure : c.failure = none)
    (hx : x.IndexesLeft (i :: rest)) :
    ∃ y, x.Later y ∧ x.catalog = y.catalog ∧
      (finishIndex i (x.catalog.stateOf i)).Ensures (applyCourse limit c s)
        (fun _ => Stage.IndexesLeft rest) Fails y := by
  rcases Stage.passed_or_alike hs hx with ⟨hpassed, hstate⟩ | ⟨hnext, halike⟩
  · rw [hstate]
    exact ⟨x, .refl x, rfl, hpassed⟩
  · rw [halike.state]
    cases hstate : c.stateOf i with
    | identical =>
        have hobstacle : obstacle? limit c i = none := by rw [obstacle?, hstate]
        have hlacks : ¬ lacks c i = true := by
          rw [lacks, hstate]
          exact Bool.false_ne_true
        obtain ⟨y, hxy, hy, hcatalog⟩ := Stage.exists_later_of_no_obstacle hnext hx.1 hobstacle
        rw [List.filter_cons_of_neg hlacks] at hcatalog
        exact ⟨y, hxy, hcatalog.symm, hy⟩
    | conflicting existing =>
        have hobstacle : obstacle? limit c i = some (.conflictingDefinition i.collection.text
            existing.name (difference existing i.definition)) := by
          rw [obstacle?, hstate]
        exact ⟨x, .refl x, rfl, Stage.isLast_of_obstacle hnext hx.1 hobstacle⟩
    | missing =>
        have hi : i ∈ s.indexes := hnext ▸ List.mem_append_right x.indexes List.mem_cons_self
        exact ⟨x, .refl x, rfl, ensures_creation hs hfailure hi hx hstate⟩

/-- A client that has come to the next of the indexes is past it afterwards, unless a run alone
fails here. -/
theorem ensures_ensureIndex (hs : s.Consistent) (hfailure : c.failure = none)
    (hx : x.IndexesLeft (i :: rest)) :
    (ensureIndex i).Ensures (applyCourse limit c s) (fun _ => Stage.IndexesLeft rest) Fails x := by
  rw [ensureIndex_eq]
  refine ensures_ask hfailure (fun y _ => ⟨trivial, fun _ h => nomatch h⟩) fun y now hxy => ?_
  exact exists_ensures_finishIndex hs hfailure (hx.later hxy)

/-- A client that applies the schema keeps to the course, and ends as a run alone does. -/
theorem ensures_apply (hvalid : s.validate = .ok ()) (hfailure : c.failure = none)
    (x : Stage limit c s) : (apply s).Ensures (applyCourse limit c s) Succeeds Fails x := by
  have hs : s.Consistent := Schema.validate_eq_ok_iff.1 hvalid
  have hconnection : checkConnection.Ensures (applyCourse limit c s) (fun _ _ => True) Fails x :=
    ensures_ask hfailure (fun _ _ => ⟨trivial, fun _ h => nomatch h⟩) fun y _ _ =>
      ⟨y, .refl y, rfl, trivial⟩
  rw [apply_of_valid hvalid]
  refine Task.Ensures.bind (hconnection.imp (fun _ x _ _ => ?_) fun _ _ _ he => he)
  have hcollection : ∀ name rest (x : Stage limit c s), x.CollectionsLeft (name :: rest) →
      (ensureCollection name).Ensures (applyCourse limit c s)
        (fun _ => Stage.CollectionsLeft rest) Fails x :=
    fun _ _ _ hx => ensures_ensureCollection hfailure hx
  have hcollections := Task.ensures_each hcollection (x := x) ⟨[], rfl, List.nil_prefix⟩
  refine Task.Ensures.bind (hcollections.imp (fun _ x _ hx => ?_) fun _ _ _ he => he)
  obtain ⟨before, hsplit, hbefore⟩ := hx
  have hfull : x.collections = s.collections :=
    x.collections_prefix.eq_of_length_le (by rw [hsplit, List.append_nil]; exact hbefore.length_le)
  have hindex : ∀ i rest (x : Stage limit c s), x.IndexesLeft (i :: rest) →
      (ensureIndex i).Ensures (applyCourse limit c s) (fun _ => Stage.IndexesLeft rest) Fails x :=
    fun _ _ _ hx => ensures_ensureIndex hs hfailure hx
  have hindexes := Task.ensures_each hindex (x := x) ⟨hfull, [], rfl, List.nil_prefix⟩
  refine Task.Ensures.bind (hindexes.imp (fun _ x _ hx => ?_) fun _ _ _ he => he)
  exact Stage.isLast_of_none_left hx

end DocSchema.Bootstrap
