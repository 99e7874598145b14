import DocSchema.SoftDelete
import DocSchema.Value.Path

/-!
# DocSchema.Proofs.Paths

What setting one field of a document does to the values that dotted paths find in it.

Only paths whose first name is the field that was set can find something else, and a path that
goes on after that name finds nothing below a value that has no fields:

* `follow?_insert_of_ne`: paths that begin with another name;
* `getPath?_insert_of_ne`: all paths but the field itself, where no value with fields is involved.
-/

namespace DocSchema

namespace Text

/-- A list that is not taken apart is its own only part. -/
theorem eq_of_splitAll_eq_singleton {α : Type} [DecidableEq α] {mark : α} {cs part : List α}
    (h : splitAll mark cs = [part]) : part = cs := by
  induction cs generalizing part with
  | nil => simpa [splitAll] using h.symm
  | cons c cs ih =>
      simp only [splitAll] at h
      split at h
      · have htail : splitAll mark cs = [] := (List.cons.inj h).2
        exact absurd htail (splitAll_ne_nil mark cs)
      · split at h
        · next hnil => exact absurd hnil (splitAll_ne_nil mark cs)
        · next first others hparts =>
          obtain ⟨hpart, hothers⟩ := List.cons.inj h
          rw [hothers] at hparts
          rw [← hpart, ih hparts]

end Text

namespace Path

theorem segments_ne_nil (path : String) : segments path ≠ [] := by
  simp only [segments, ne_eq, List.map_eq_nil_iff]
  exact Text.splitAll_ne_nil '.' path.toList

/-- A path of one name is that name. -/
theorem eq_of_segments_eq_singleton {path key : String} (h : segments path = [key]) :
    path = key := by
  obtain ⟨part, hpart, hkey⟩ := List.map_eq_singleton_iff.1 h
  rw [← hkey, Text.eq_of_splitAll_eq_singleton hpart, String.ofList_toList]

@[simp] theorem segments_deletedAt : segments deletedAt = [deletedAt] := by decide

end Path

namespace Document

/-- Whether a value has fields of its own. -/
def hasFields : Option Value → Bool
  | some (.document _) => true
  | _ => false

/-- A path finds nothing below a name where there is no document. -/
theorem follow?_cons_cons_of_not_hasFields {d : Document} {key next : String} {rest : List String}
    (h : hasFields (d.get? key) = false) : follow? d (key :: next :: rest) = none := by
  rw [follow?]
  · split
    · next inner hinner => simp [hasFields, hinner] at h
    · rfl
  · exact List.cons_ne_nil next rest

/-- Setting a field leaves alone what is found under other names. -/
theorem follow?_insert_of_ne (d : Document) {key head : String} (v : Value) (rest : List String)
    (h : head ≠ key) : follow? (d.insert key v) (head :: rest) = follow? d (head :: rest) := by
  cases rest with
  | nil => exact get?_insert_of_ne d v h
  | cons next rest => simp only [follow?, get?_insert_of_ne d v h]

@[simp] theorem getPath?_deletedAt (d : Document) : d.getPath? deletedAt = d.get? deletedAt := by
  rw [getPath?, Path.segments_deletedAt, follow?]

/-- Setting a field to a value without fields, where there was none either, changes what is found
at the path of that field alone. -/
theorem getPath?_insert_of_ne (d : Document) {key path : String} {v : Value} (hpath : path ≠ key)
    (hold : hasFields (d.get? key) = false) (hnew : hasFields (some v) = false) :
    (d.insert key v).getPath? path = d.getPath? path := by
  unfold getPath?
  cases hs : Path.segments path with
  | nil => exact absurd hs (Path.segments_ne_nil path)
  | cons head rest =>
      by_cases hhead : head = key
      · subst hhead
        cases rest with
        | nil => exact absurd (Path.eq_of_segments_eq_singleton hs) hpath
        | cons next rest =>
            have hset : hasFields ((d.insert head v).get? head) = false := by
              rw [get?_insert_self]
              exact hnew
            rw [follow?_cons_cons_of_not_hasFields hset, follow?_cons_cons_of_not_hasFields hold]
      · exact follow?_insert_of_ne d v rest hhead

end Document

end DocSchema
