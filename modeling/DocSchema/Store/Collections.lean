import DocSchema.Index.Definition

/-!
# DocSchema.Store.Collections

The collections of a database, in ascending order of their names. Two families of collections with
the same contents under every name are equal.
-/

namespace DocSchema

/-- What a collection holds: its indexes and its documents, each in the order they came. -/
structure Collection where
  indexes : List IndexDefinition
  documents : List Document

/-- A collection without indexes and documents. -/
def Collection.empty : Collection := ⟨[], []⟩

/-- Collections under their names. -/
structure Collections where
  entries : List (CollectionName × Collection)
  ascending : entries.Pairwise fun a b => a.1 < b.1

namespace Collections

/-- No collections. -/
def empty : Collections := ⟨[], .nil⟩

/-- The collection of a name. -/
def find? (name : CollectionName) : List (CollectionName × Collection) → Option Collection
  | [] => none
  | (n, c) :: rest => if n = name then some c else find? name rest

/-- Puts a collection under a name, in its place in the order. -/
def put (name : CollectionName) (c : Collection) :
    List (CollectionName × Collection) → List (CollectionName × Collection)
  | [] => [(name, c)]
  | (n, d) :: rest =>
    if name < n then (name, c) :: (n, d) :: rest
    else if n = name then (name, c) :: rest
    else (n, d) :: put name c rest

theorem mem_put {name : CollectionName} {c : Collection} {l : List (CollectionName × Collection)}
    {e : CollectionName × Collection} (h : e ∈ put name c l) : e = (name, c) ∨ e ∈ l := by
  induction l with
  | nil => simpa [put] using h
  | cons f rest ih =>
    simp only [put] at h
    split at h
    · simpa using h
    · split at h
      · rcases List.mem_cons.1 h with h | h
        · exact .inl h
        · exact .inr (List.mem_cons_of_mem _ h)
      · rcases List.mem_cons.1 h with h | h
        · exact .inr (h ▸ List.mem_cons_self)
        · exact (ih h).imp id (List.mem_cons_of_mem _)

theorem lt_of_not_lt_of_ne {a b : CollectionName} (h : ¬ a < b) (hne : ¬ b = a) : b < a :=
  Decidable.byContradiction fun hlt =>
    hne (CollectionName.ext (String.le_antisymm h hlt))

theorem pairwise_put (name : CollectionName) (c : Collection)
    (l : List (CollectionName × Collection)) (h : l.Pairwise fun a b => a.1 < b.1) :
    (put name c l).Pairwise fun a b => a.1 < b.1 := by
  induction l with
  | nil => simp [put]
  | cons f rest ih =>
    obtain ⟨hf, hr⟩ := List.pairwise_cons.1 h
    simp only [put]
    split
    · next hlt =>
      refine List.pairwise_cons.2 ⟨fun e he => ?_, h⟩
      rcases List.mem_cons.1 he with rfl | he
      · exact hlt
      · exact String.lt_trans hlt (hf e he)
    · next hlt =>
      split
      · next heq => exact List.pairwise_cons.2 ⟨fun e he => heq ▸ hf e he, hr⟩
      · next hne =>
        refine List.pairwise_cons.2 ⟨fun e he => ?_, ih hr⟩
        rcases mem_put he with rfl | he
        · exact lt_of_not_lt_of_ne hlt hne
        · exact hf e he

/-- The collection of a name, if it exists. -/
def get? (cs : Collections) (name : CollectionName) : Option Collection := find? name cs.entries

/-- Puts a collection under a name, in place of the one that was there. -/
def set (cs : Collections) (name : CollectionName) (c : Collection) : Collections :=
  ⟨put name c cs.entries, pairwise_put name c cs.entries cs.ascending⟩

/-- The names of the collections, in order. -/
def names (cs : Collections) : List CollectionName := cs.entries.map (·.1)

@[simp] theorem get?_empty (name : CollectionName) : empty.get? name = none := rfl

theorem find?_put (name other : CollectionName) (c : Collection)
    (l : List (CollectionName × Collection)) :
    find? other (put name c l) = if name = other then some c else find? other l := by
  induction l with
  | nil => simp [put, find?]
  | cons f rest ih =>
    obtain ⟨n, d⟩ := f
    simp only [put]
    split
    · simp [find?]
    · split
      · next h =>
        subst h
        by_cases hn : n = other <;> simp [find?, hn]
      · next h =>
        simp only [find?, ih]
        by_cases hn : n = other
        · subst hn; simp [Ne.symm h]
        · simp [hn]

@[simp] theorem get?_set_self (cs : Collections) (name : CollectionName) (c : Collection) :
    (cs.set name c).get? name = some c := by simp [get?, set, find?_put]

theorem get?_set_of_ne {name other : CollectionName} (cs : Collections) (c : Collection)
    (h : name ≠ other) : (cs.set name c).get? other = cs.get? other := by
  simp [get?, set, find?_put, h]

/-- A name before every name of an ascending list has no collection in it. -/
theorem find?_eq_none_of_lt {name : CollectionName} {l : List (CollectionName × Collection)}
    (h : ∀ e ∈ l, name < e.1) : find? name l = none := by
  induction l with
  | nil => rfl
  | cons f rest ih =>
    have hf : ¬ f.1 = name := fun he =>
      String.lt_irrefl name.text (he ▸ h f List.mem_cons_self)
    simp only [find?, if_neg hf]
    exact ih fun e he => h e (List.mem_cons_of_mem _ he)

theorem eq_of_find?_eq {l m : List (CollectionName × Collection)}
    (hl : l.Pairwise fun a b => a.1 < b.1) (hm : m.Pairwise fun a b => a.1 < b.1)
    (h : ∀ name, find? name l = find? name m) : l = m := by
  induction l generalizing m with
  | nil =>
    cases m with
    | nil => rfl
    | cons f rest => exact absurd (h f.1) (by simp [find?])
  | cons e l ih =>
    cases m with
    | nil => exact absurd (h e.1) (by simp [find?])
    | cons f m =>
      obtain ⟨he, hl'⟩ := List.pairwise_cons.1 hl
      obtain ⟨hf, hm'⟩ := List.pairwise_cons.1 hm
      have key : e.1 = f.1 := by
        refine Decidable.byContradiction fun hne => ?_
        by_cases hlt : e.1 < f.1
        · have := h e.1
          rw [find?_eq_none_of_lt (l := f :: m)] at this
          · simp [find?] at this
          · intro g hg
            rcases List.mem_cons.1 hg with rfl | hg
            · exact hlt
            · exact String.lt_trans hlt (hf g hg)
        · have hgt := lt_of_not_lt_of_ne hlt (Ne.symm hne)
          have := h f.1
          rw [find?_eq_none_of_lt (l := e :: l)] at this
          · simp [find?] at this
          · intro g hg
            rcases List.mem_cons.1 hg with rfl | hg
            · exact hgt
            · exact String.lt_trans hgt (he g hg)
      have head : e = f := by
        have := h e.1
        simp only [find?, if_true, key] at this
        exact Prod.ext key (Option.some.inj this)
      subst head
      have tail : l = m := ih hl' hm' fun name => by
        by_cases hn : e.1 = name
        · subst hn
          rw [find?_eq_none_of_lt he, find?_eq_none_of_lt hf]
        · have := h name
          simpa [find?, hn] using this
      rw [tail]

/-- Collections are determined by what they hold under every name. -/
@[ext] theorem ext {a b : Collections} (h : ∀ name, a.get? name = b.get? name) : a = b := by
  obtain ⟨l, hl⟩ := a
  obtain ⟨m, hm⟩ := b
  have : l = m := eq_of_find?_eq hl hm h
  subst this
  rfl

end Collections

end DocSchema
