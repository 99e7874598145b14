import DocSchema.Text.Split
import Mathlib.Data.List.Infix

/-!
# DocSchema.Proofs.Marks

Texts that are split where a mark occurs first.

What stands before and after the mark makes up the text again (`eq_of_splitOnce`), and a text is
split at a mark that is written into it if there is none before. An occurrence may begin before that
mark and end in it, so this holds of marks whose first character is none of their others
(`splitOnce_of_mark`); and a character that the mark has not keeps occurrences to one side of it
(`isInfix_of_append_cons`).
-/

namespace DocSchema.Text

variable {mark before after text : List Char} {b c : Char}

/-- What begins a text and lacks a character of it ends before that character. -/
theorem isPrefix_of_append_cons (hc : c ∉ mark) (h : mark <+: before ++ c :: after) :
    mark <+: before := by
  induction mark generalizing before with
  | nil => exact List.nil_prefix
  | cons m ms ih =>
      simp only [List.mem_cons, not_or] at hc
      cases before with
      | nil => exact absurd (List.cons_prefix_cons.1 h).1.symm hc.1
      | cons b before =>
          obtain ⟨rfl, hrest⟩ := List.cons_prefix_cons.1 h
          exact List.cons_prefix_cons.2 ⟨rfl, ih hc.2 hrest⟩

/-- An occurrence lies on one side of every character that the mark has not. -/
theorem isInfix_of_append_cons (hc : c ∉ mark) (h : mark <:+: before ++ c :: after) :
    mark <:+: before ∨ mark <:+: after := by
  induction before with
  | nil =>
      rcases List.infix_cons_iff.1 h with hprefix | hafter
      · have hbegin : mark <+: [] := isPrefix_of_append_cons hc hprefix
        exact .inl hbegin.isInfix
      · exact .inr hafter
  | cons b before ih =>
      rcases List.infix_cons_iff.1 h with hprefix | hrest
      · have hbegin : mark <+: b :: before := isPrefix_of_append_cons hc hprefix
        exact .inl hbegin.isInfix
      · exact (ih hrest).imp_left List.infix_cons

/-- A text without the mark is not split. -/
theorem splitOnce_eq_none (h : ¬ mark <:+: text) :
    splitOnce mark text = none := by
  induction text with
  | nil =>
      have hmark : mark.isEmpty = false := by
        cases mark with
        | nil => exact absurd List.nil_infix h
        | cons m ms => rfl
      rw [splitOnce, if_neg (by simp [hmark])]
  | cons c cs ih =>
      have hprefix : ¬ mark.isPrefixOf (c :: cs) = true := fun hp =>
        h (List.isPrefixOf_iff_prefix.1 hp).isInfix
      rw [splitOnce, if_neg hprefix, ih fun hcs => h (List.infix_cons hcs), Option.map_none]

/-- Whether the first character of a mark is none of its others, so that no two occurrences
overlap. -/
def startsOnce : List Char → Bool
  | [] => false
  | m :: ms => !ms.contains m

/-- A text is split at a mark that is written into it, where the text before does not have the
mark. -/
theorem splitOnce_of_mark (hmark : startsOnce mark = true) (h : ¬ mark <:+: before)
    (after : List Char) : splitOnce mark (before ++ mark ++ after) = some (before, after) := by
  obtain ⟨m, ms, rfl⟩ : ∃ m ms, mark = m :: ms := by
    cases mark with
    | nil => contradiction
    | cons m ms => exact ⟨m, ms, rfl⟩
  have hm : m ∉ ms := by simpa [startsOnce] using hmark
  induction before with
  | nil => simp [splitOnce]
  | cons b before ih =>
      -- An occurrence that begins here would have the first character of the mark once more.
      have hprefix : ¬ (m :: ms).isPrefixOf (b :: (before ++ (m :: ms) ++ after)) = true := by
        intro hp
        obtain ⟨rfl, hms⟩ := List.cons_prefix_cons.1 (List.isPrefixOf_iff_prefix.1 hp)
        rw [List.append_assoc, List.cons_append] at hms
        exact h (List.cons_prefix_cons.2 ⟨rfl, isPrefix_of_append_cons hm hms⟩).isInfix
      rw [List.cons_append, List.cons_append, splitOnce, if_neg hprefix,
        ih fun hb => h (List.infix_cons hb), Option.map_some]

end DocSchema.Text
