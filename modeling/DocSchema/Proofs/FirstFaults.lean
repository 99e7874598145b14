import DocSchema.Proofs.DeclarationOrder
import DocSchema.Schema.Builtin
import Mathlib.Order.Bounds.Basic

/-!
# DocSchema.Proofs.FirstFaults

What a schema is refused for, and what becomes of one that is not.

A schema is refused for its database, else for the first name that stands among its collections
before, else for the first index that is on no declared collection or on the field of an index
before it (`RefusedFor`). Both lists are scanned with a growing set of what was seen, and one lemma
says of such a scan that it ends with the verdict on the first element that has one
(`scan_eq_some_iff`). A schema that is not refused is created whole on an empty catalog, as nothing
can stand in the way there.
-/

namespace DocSchema

namespace Schema

variable {s : Schema} {names : List CollectionName} {c : CollectionName} {i : IndexSpec}
  {e : SchemaError} {fault : SchemaFault}

/-! ## Positions of faults -/

/-- Whether the name at a position stands before it too. -/
def RepeatsAt (names : List CollectionName) (n : Nat) : Prop :=
  ∃ c, names[n]? = some c ∧ c ∈ names.take n

/-- Whether the index at a position is on no declared collection, or on the field of an index
before it. -/
def FaultyAt (s : Schema) (n : Nat) : Prop :=
  ∃ i, s.indexes[n]? = some i ∧
    (i.collection ∉ s.collections ∨ ∃ j ∈ s.indexes.take n, Overlap j i)

/-- What a schema is refused for: the first fault there is, of the database before the collections
and of these before the indexes. -/
inductive RefusedFor (s : Schema) : SchemaError → Prop where
  | emptyDatabase (hdatabase : Text.isBlankText s.database = true) : RefusedFor s .emptyDatabase
  | duplicateCollection (n : Nat) (c : CollectionName)
      (hdatabase : Text.isBlankText s.database = false)
      (hfirst : IsLeast {n | RepeatsAt s.collections n} n) (hc : s.collections[n]? = some c) :
      RefusedFor s (.duplicateCollection c.text)
  | unknownCollection (n : Nat) (i : IndexSpec)
      (hdatabase : Text.isBlankText s.database = false) (hcollections : s.collections.Nodup)
      (hfirst : IsLeast {n | s.FaultyAt n} n) (hi : s.indexes[n]? = some i)
      (hundeclared : i.collection ∉ s.collections) :
      RefusedFor s (.unknownCollection i.collection.text i.name)
  | duplicateIndex (n : Nat) (i : IndexSpec)
      (hdatabase : Text.isBlankText s.database = false) (hcollections : s.collections.Nodup)
      (hfirst : IsLeast {n | s.FaultyAt n} n) (hi : s.indexes[n]? = some i)
      (hdeclared : i.collection ∈ s.collections) :
      RefusedFor s (.duplicateIndex i.collection.text i.name)

/-! ## Scans -/

section

variable {α κ β : Type} {scan : List κ → List α → Option β} {verdict : List κ → α → Option β}
  {key : α → κ} {l : List α} {b : β}

/-- A scan that judges every element next to the keys of those before it ends with the verdict on
the first that has one. -/
theorem scan_eq_some_iff (hnil : ∀ seen, scan seen [] = none)
    (hcons : ∀ seen a as, scan seen (a :: as) = (verdict seen a).or (scan (key a :: seen) as))
    {seen : List κ} :
    scan seen l = some b ↔ ∃ n a, l[n]? = some a ∧
      verdict (((l.take n).map key).reverse ++ seen) a = some b ∧
        ∀ m < n, ∀ a, l[m]? = some a → verdict (((l.take m).map key).reverse ++ seen) a = none := by
  induction l generalizing seen with
  | nil => simp [hnil]
  | cons a as ih =>
      rw [hcons, ← Nat.or_exists_add_one]
      simp only [Nat.forall_lt_succ_left, List.getElem?_cons_zero, List.getElem?_cons_succ,
        List.take_zero, List.take_succ_cons]
      cases hverdict : verdict seen a with
      | none => simp [hverdict, ih]
      | some v => simp [hverdict]

/-- Where the elements with a verdict are known, the first of them is at the least position of
one. -/
theorem scan_eq_some_iff_isLeast (hnil : ∀ seen, scan seen [] = none)
    (hcons : ∀ seen a as, scan seen (a :: as) = (verdict seen a).or (scan (key a :: seen) as))
    {refused : List α → α → Prop} {fault : α → β}
    (hverdict : ∀ before a b, verdict (before.map key).reverse a = some b ↔
      refused before a ∧ b = fault a) :
    scan [] l = some b ↔ ∃ n a, IsLeast {n | ∃ a, l[n]? = some a ∧ refused (l.take n) a} n ∧
      l[n]? = some a ∧ b = fault a := by
  have hnone (before : List α) (a : α) :
      verdict (before.map key).reverse a = none ↔ ¬ refused before a := by
    simp only [Option.eq_none_iff_forall_ne_some, ne_eq, hverdict, not_and]
    exact ⟨fun h hrefused => h _ hrefused rfl, fun h b hrefused => absurd hrefused h⟩
  rw [scan_eq_some_iff hnil hcons]
  simp only [List.append_nil, hverdict, hnone]
  refine exists_congr fun n => ⟨?_, ?_⟩
  · rintro ⟨a, ha, ⟨hrefused, hb⟩, hfirst⟩
    refine ⟨a, ⟨⟨a, ha, hrefused⟩, ?_⟩, ha, hb⟩
    rintro m ⟨d, hd, hrefused'⟩
    exact Nat.not_lt.1 fun hlt => hfirst m hlt d hd hrefused'
  · rintro ⟨a, ⟨⟨d, hd, hrefused⟩, hleast⟩, ha, hb⟩
    obtain rfl := Option.some.inj (hd.symm.trans ha)
    exact ⟨d, ha, ⟨hrefused, hb⟩, fun m hlt k hk hrefused' =>
      Nat.not_le.2 hlt (hleast ⟨k, hk, hrefused'⟩)⟩

end

/-- The verdict on a name, given those before it. -/
def nameVerdict (seen : List CollectionName) (c : CollectionName) : Option CollectionName :=
  if seen.contains c then some c else none

/-- The scan of names finds the first that is repeated. -/
theorem firstRepeated?_eq_some_iff : firstRepeated? [] names = some c ↔
    ∃ n, IsLeast {n | RepeatsAt names n} n ∧ names[n]? = some c := by
  have hcons (seen : List CollectionName) (d : CollectionName) (ds : List CollectionName) :
      firstRepeated? seen (d :: ds) = (nameVerdict seen d).or (firstRepeated? (d :: seen) ds) := by
    simp only [firstRepeated?, nameVerdict]
    split <;> rfl
  have hverdict (before : List CollectionName) (d e : CollectionName) :
      nameVerdict (before.map id).reverse d = some e ↔ d ∈ before ∧ e = d := by
    simp [nameVerdict, eq_comm]
  refine (scan_eq_some_iff_isLeast (fun _ => rfl) hcons hverdict).trans (exists_congr fun n => ?_)
  simp only [exists_and_left, exists_eq_right']
  rfl

/-- The verdict on an index, given the declared collections and the collection and name of each
index before. -/
def indexVerdict (declared : List CollectionName) (seen : List (CollectionName × String))
    (i : IndexSpec) : Option SchemaFault :=
  if !declared.contains i.collection then some (.unknownCollection i)
  else if seen.contains (i.collection, i.name) then some (.duplicateIndex i) else none

/-- What an index is refused as. -/
def faultOf (declared : List CollectionName) (i : IndexSpec) : SchemaFault :=
  if i.collection ∈ declared then .duplicateIndex i else .unknownCollection i

/-- An index has a verdict next to those before it where it is faulty. -/
theorem indexVerdict_eq_some_iff (declared : List CollectionName) (before : List IndexSpec)
    (i : IndexSpec) (fault : SchemaFault) :
    indexVerdict declared (before.map fun j => (j.collection, j.name)).reverse i = some fault ↔
      (i.collection ∉ declared ∨ ∃ j ∈ before, Overlap j i) ∧ fault = faultOf declared i := by
  have hseen : (i.collection, i.name) ∈ (before.map fun j => (j.collection, j.name)).reverse ↔
      ∃ j ∈ before, Overlap j i := by
    simp [IndexSpec.name_eq_name_iff, Overlap]
  by_cases hdeclared : i.collection ∈ declared
  · have hcontains : declared.contains i.collection = true := List.contains_iff_mem.2 hdeclared
    rw [indexVerdict, faultOf, hcontains, if_pos hdeclared]
    by_cases hoverlap : ∃ j ∈ before, Overlap j i
    · rw [List.contains_iff_mem.2 (hseen.2 hoverlap)]
      simp [hoverlap, eq_comm]
    · rw [Bool.eq_false_iff.2 (mt List.contains_iff_mem.1 (mt hseen.1 hoverlap))]
      simp [hdeclared, hoverlap]
  · rw [indexVerdict, faultOf, Bool.eq_false_iff.2 (mt List.contains_iff_mem.1 hdeclared),
      if_neg hdeclared]
    simp [hdeclared, eq_comm]

/-- The scan of indexes finds the first that is faulty. -/
theorem firstIndexFault?_eq_some_iff : firstIndexFault? s.collections [] s.indexes = some fault ↔
    ∃ n i, IsLeast {n | s.FaultyAt n} n ∧ s.indexes[n]? = some i ∧
      fault = faultOf s.collections i := by
  have hcons (seen : List (CollectionName × String)) (i : IndexSpec) (is : List IndexSpec) :
      firstIndexFault? s.collections seen (i :: is) = (indexVerdict s.collections seen i).or
        (firstIndexFault? s.collections ((i.collection, i.name) :: seen) is) := by
    simp only [firstIndexFault?, indexVerdict]
    cases s.collections.contains i.collection with
    | false => rfl
    | true => cases seen.contains (i.collection, i.name) <;> rfl
  exact scan_eq_some_iff_isLeast (fun _ => rfl) hcons (indexVerdict_eq_some_iff s.collections)

/-! ## The check of a schema -/

/-- A schema that has a fault is refused for it. -/
theorem refusedFor_of_fault (h : s.fault? = some fault) : s.RefusedFor (.ofFault fault) := by
  unfold fault? at h
  cases hdatabase : Text.isBlankText s.database with
  | true =>
      rw [hdatabase, if_pos rfl] at h
      cases h
      exact .emptyDatabase hdatabase
  | false =>
      rw [hdatabase, if_neg Bool.false_ne_true] at h
      cases hrepeated : firstRepeated? [] s.collections with
      | some c =>
          rw [hrepeated] at h
          cases h
          obtain ⟨n, hfirst, hc⟩ := firstRepeated?_eq_some_iff.1 hrepeated
          exact .duplicateCollection n c hdatabase hfirst hc
      | none =>
          rw [hrepeated] at h
          have hcollections := (firstRepeated?_eq_none_iff.1 hrepeated).2
          obtain ⟨n, i, hfirst, hi, rfl⟩ := firstIndexFault?_eq_some_iff.1 h
          by_cases hdeclared : i.collection ∈ s.collections
          · rw [faultOf, if_pos hdeclared]
            exact .duplicateIndex n i hdatabase hcollections hfirst hi hdeclared
          · rw [faultOf, if_neg hdeclared]
            exact .unknownCollection n i hdatabase hcollections hfirst hi hdeclared

/-- The faults of the indexes count where the database and the collections have none. -/
theorem fault?_of_indexes (hdatabase : Text.isBlankText s.database = false)
    (hcollections : s.collections.Nodup) :
    s.fault? = firstIndexFault? s.collections [] s.indexes := by
  have hrepeated : firstRepeated? [] s.collections = none :=
    firstRepeated?_eq_none_iff.2 ⟨fun _ _ => List.not_mem_nil, hcollections⟩
  rw [fault?, hdatabase, if_neg Bool.false_ne_true, hrepeated]

/-- What a schema is refused for is its fault. -/
theorem RefusedFor.exists_fault (h : s.RefusedFor e) :
    ∃ fault, s.fault? = some fault ∧ e = .ofFault fault := by
  cases h with
  | emptyDatabase hdatabase => exact ⟨.emptyDatabase, by rw [fault?, if_pos hdatabase], rfl⟩
  | duplicateCollection n c hdatabase hfirst hc =>
      have hrepeated := firstRepeated?_eq_some_iff.2 ⟨n, hfirst, hc⟩
      refine ⟨.duplicateCollection c, ?_, rfl⟩
      rw [fault?, hdatabase, if_neg Bool.false_ne_true, hrepeated]
  | unknownCollection n i hdatabase hcollections hfirst hi hundeclared =>
      refine ⟨.unknownCollection i, ?_, rfl⟩
      rw [fault?_of_indexes hdatabase hcollections, firstIndexFault?_eq_some_iff]
      exact ⟨n, i, hfirst, hi, (if_neg hundeclared).symm⟩
  | duplicateIndex n i hdatabase hcollections hfirst hi hdeclared =>
      refine ⟨.duplicateIndex i, ?_, rfl⟩
      rw [fault?_of_indexes hdatabase hcollections, firstIndexFault?_eq_some_iff]
      exact ⟨n, i, hfirst, hi, (if_pos hdeclared).symm⟩

/-- The check ends with the error that reports the first fault. -/
theorem validate_eq_error_iff : s.validate = .error e ↔ s.RefusedFor e := by
  constructor
  · intro h
    unfold validate at h
    cases hfault : s.fault? with
    | none =>
        rw [hfault] at h
        contradiction
    | some fault =>
        rw [hfault] at h
        cases h
        exact refusedFor_of_fault hfault
  · intro h
    obtain ⟨fault, hfault, rfl⟩ := h.exists_fault
    rw [validate, hfault]

end Schema

namespace Bootstrap

variable {limit : Duration} {s : Schema}

/-! ## Empty catalogs -/

/-- On an empty catalog every index is missing. -/
theorem stateOf_empty (database : String) (i : IndexSpec) :
    (Catalog.empty database none).stateOf i = .missing := rfl

/-- Nothing stands in the way of an index on an empty catalog. -/
theorem obstacle?_empty (limit : Duration) (database : String) (i : IndexSpec) :
    obstacle? limit (Catalog.empty database none) i = none := by
  have hviolation : (Catalog.empty database none).violation? i = none :=
    Catalog.violation?_eq_none_iff.2 fun _ => List.Pairwise.nil
  rw [obstacle?_of_missing limit rfl (stateOf_empty database i), hviolation, Option.map_none]

/-- On an empty catalog everything is created. -/
theorem outcomesOf_empty (database : String) (s : Schema) :
    outcomesOf s (freeAction (Catalog.empty database none)) = outcomesOf s fun _ => .created := by
  have haction : freeAction (Catalog.empty database none) = fun _ => .created := by
    funext d
    cases d <;> rfl
  rw [haction]

/-- A run on an empty catalog adds all indexes that are declared. -/
theorem created_empty (limit : Duration) (database : String) (specs : List IndexSpec) :
    created limit (Catalog.empty database none) specs = specs := by
  rw [created, reached_of_no_obstacle fun i _ => obstacle?_empty limit database i]
  exact List.filter_eq_self.2 fun i _ => lacks_eq_true_iff.2 (stateOf_empty database i)

/-- The check of a schema accepts exactly the consistent ones and reports the first fault of any
other. A schema that it accepts is created whole on an empty catalog without a failure: every
declaration is reported as created, and the catalog has the declared collections with their indexes
in the order of the schema, and nothing else. -/
theorem refused_or_created (s : Schema) :
    (s.validate = .ok () ↔ s.Consistent) ∧
      (∀ e, s.validate = .error e ↔ s.RefusedFor e) ∧
      (s.validate = .ok () → ∀ (limit : Duration) (database : String) (clock : Nat),
        let run := reportOn limit .apply s ⟨Catalog.empty database none, clock⟩
        (∃ r, run.1 = .ok r ∧ r.outcomes = outcomesOf s fun _ => .created) ∧
          run.2.catalog.database = database ∧ run.2.catalog.failure = none ∧
          ∀ name, run.2.catalog.collections.get? name =
            if name ∈ s.collections then some ⟨(s.indexesOn name).map IndexSpec.definition, []⟩
            else none) := by
  refine ⟨Schema.validate_eq_ok_iff, fun _ => Schema.validate_eq_error_iff, ?_⟩
  intro hvalid limit database clock run
  have hrun : (∃ r, run.1 = .ok r ∧
      r.outcomes = outcomesOf s (freeAction (Catalog.empty database none))) ∧
      run.2.catalog = applied limit (Catalog.empty database none) s :=
    exists_report_of_no_obstacle hvalid (writable_of_no_failure rfl limit) fun i _ =>
      obstacle?_empty limit database i
  rw [outcomesOf_empty] at hrun
  obtain ⟨hreport, hcatalog⟩ := hrun
  obtain ⟨hdatabase, hfailure⟩ := frame_applied limit (Catalog.empty database none) s
  rw [hcatalog]
  refine ⟨hreport, hdatabase, hfailure, fun name => ?_⟩
  rw [get?_applied (Schema.validate_eq_ok_iff.1 hvalid), created_empty]
  rfl

/-- A schema whose third index is on no declared collection; the fourth is on the field of the
first. -/
def muddled : Schema where
  database := "autosrt"
  collections := [Schema.users, Schema.usage]
  indexes :=
    [⟨Schema.users, Schema.userId, true, none⟩,
      ⟨Schema.usage, Schema.userId, true, none⟩,
      ⟨Schema.customer, Schema.userId, true, none⟩,
      ⟨Schema.users, Schema.userId, false, some .null⟩]

/-- The third index is what that schema is refused for, while the built-in one is created whole. -/
theorem refused_or_created_muddled :
    let run := reportOn defaultLimit .apply (.builtin .absent) ⟨Catalog.empty "autosrt" none, 0⟩
    muddled.RefusedFor (.unknownCollection "customer" "user_id_1") ∧
      (Schema.builtin .absent).validate = .ok () ∧
      (∃ r, run.1 = .ok r ∧ r.outcomes = outcomesOf (.builtin .absent) fun _ => .created) ∧
      (run.2.catalog.collections.get? Schema.users).map
        (fun content => content.indexes.map IndexDefinition.name) =
          some ["email_1", "phone_number_1"] ∧
      run.2.catalog.collections.get? ⟨"orders", by decide⟩ = none := by
  intro run
  have hvalid : (Schema.builtin .absent).validate = .ok () := by decide
  obtain ⟨-, hrefused, -⟩ := refused_or_created muddled
  obtain ⟨-, -, hcreated⟩ := refused_or_created (.builtin .absent)
  obtain ⟨hreport, -, -, hcontent⟩ := hcreated hvalid defaultLimit "autosrt" 0
  refine ⟨(hrefused _).1 (by decide), hvalid, hreport, ?_, ?_⟩
  · rw [hcontent]
    decide
  · rw [hcontent]
    decide

end Bootstrap

end DocSchema
