import DocSchema.Index.Definition
import DocSchema.Proofs.Paths

/-!
# DocSchema.Proofs.Coverage

Which documents the index of a declaration covers, and under which keys.

A convention is used in two ways: directly on the field `deleted_at`, and as a filter document
that is interpreted condition by condition. `accepts_toFilter` says that the two agree, so the
index of a declaration covers the documents that are active under its convention. Marking a
document as deleted takes it out of every such index, and leaves its key in all others alone
unless they index `deleted_at` itself.
-/

namespace DocSchema

namespace SoftDelete

/-- A document is active under the convention `null` when the condition `null` accepts its field. -/
theorem isActive_null (d : Document) :
    SoftDelete.null.isActive d = Filter.equals (d.get? deletedAt) .null := by
  unfold isActive
  cases d.get? deletedAt with
  | none => rfl
  | some v => cases v <;> rfl

/-- A document is active under the convention `absent` when it does not have the field. -/
theorem isActive_absent (d : Document) :
    SoftDelete.absent.isActive d = (false == (d.get? deletedAt).isSome) := by
  unfold isActive
  cases d.get? deletedAt with
  | none => rfl
  | some v => cases v <;> rfl

/-- A document is active when it has no mark, or a null one under the convention `null`. -/
theorem isActive_iff (convention : SoftDelete) (d : Document) :
    convention.isActive d = true ↔
      d.get? deletedAt = none ∨ convention = .null ∧ d.get? deletedAt = some .null := by
  unfold isActive
  cases d.get? deletedAt with
  | none => simp
  | some v => cases v <;> cases convention <;> simp

/-- A document that is active under some convention is so under the convention `null`. -/
theorem isActive_null_of_isActive {convention : SoftDelete} {d : Document}
    (h : convention.isActive d = true) : SoftDelete.null.isActive d = true :=
  (isActive_iff .null d).2 (((isActive_iff convention d).1 h).imp_right fun hnull => ⟨rfl, hnull.2⟩)

/-- The filter of a convention accepts the active documents. -/
theorem accepts_toFilter (convention : SoftDelete) (d : Document) :
    Filter.accepts convention.toFilter d = convention.isActive d := by
  have hops : ([("$exists", Value.bool false)].any fun o => Filter.isOperator o.1) = true := by
    decide
  cases convention with
  | null =>
      rw [isActive_null]
      simp only [toFilter, Filter.accepts, List.all_cons, List.all_nil, Bool.and_true,
        Document.getPath?_deletedAt, Filter.conditionAccepts]
  | absent =>
      rw [isActive_absent]
      simp only [toFilter, Filter.accepts, List.all_cons, List.all_nil, Bool.and_true,
        Document.getPath?_deletedAt, Filter.conditionAccepts, hops, if_true,
        Filter.operatorAccepts, Filter.isTruthy]

/-- A document that is marked as deleted is active under no convention. -/
theorem isActive_mark (convention : SoftDelete) (d : Document) (now : Int64) :
    convention.isActive (d.insert deletedAt (.dateTime now)) = false := by
  unfold isActive
  rw [Document.get?_insert_self]

/-- The mark of an active document has no fields. -/
theorem not_hasFields_of_isActive {convention : SoftDelete} {d : Document}
    (h : convention.isActive d = true) : Document.hasFields (d.get? deletedAt) = false := by
  unfold isActive at h
  cases hv : d.get? deletedAt with
  | none => rfl
  | some v =>
      rw [hv] at h
      cases v <;> cases convention <;> first | rfl | contradiction

end SoftDelete

namespace IndexSpec

variable (s : IndexSpec) (d : Document)

/-- The index of a declaration covers the documents that are active under its convention. -/
theorem covers_definition :
    s.definition.covers d = s.activeOnly.all fun convention => convention.isActive d := by
  unfold IndexDefinition.covers definition
  cases s.activeOnly with
  | none => rfl
  | some convention => exact convention.accepts_toFilter d

/-- The key of a document in the index of a declaration is the value at the declared path. -/
theorem keyOf_definition : s.definition.keyOf d = [(d.getPath? s.field.text).getD .null] := rfl

@[simp] theorem fields_definition : s.definition.fields = [s.field.text] := rfl

/-- Marking an active document as deleted neither brings it into the index of a declaration nor
changes its key there, unless the index covers everything and is on the mark itself. -/
theorem mark_of_covers {s : IndexSpec} {d : Document} {now : Int64}
    (hs : ¬ (s.activeOnly = none ∧ s.field.text = deletedAt))
    (hactive : SoftDelete.null.isActive d = true)
    (hcovers : s.definition.covers (d.insert deletedAt (.dateTime now)) = true) :
    s.definition.covers d = true ∧
      s.definition.keyOf (d.insert deletedAt (.dateTime now)) = s.definition.keyOf d := by
  rw [covers_definition] at hcovers ⊢
  cases ha : s.activeOnly with
  | some convention =>
      simp only [ha, Option.all_some, SoftDelete.isActive_mark] at hcovers
      contradiction
  | none =>
      have hfield : s.field.text ≠ deletedAt := fun h => hs ⟨ha, h⟩
      have hpath : (d.insert deletedAt (.dateTime now)).getPath? s.field.text =
          d.getPath? s.field.text :=
        Document.getPath?_insert_of_ne d hfield
          (SoftDelete.not_hasFields_of_isActive hactive) rfl
      exact ⟨rfl, by rw [keyOf_definition, keyOf_definition, hpath]⟩

/-- The filter of a convention means what the convention says, whatever stands in the field of the
mark and around it. So the index of a declaration covers the documents that are active under its
convention, and all of them where it has none. -/
theorem filter_means_active :
    (∀ (convention : SoftDelete) (d : Document),
      Filter.accepts convention.toFilter d = convention.isActive d ∧
        (convention.isActive d = true ↔
          d.get? deletedAt = none ∨ convention = .null ∧ d.get? deletedAt = some .null)) ∧
      ∀ (s : IndexSpec) (d : Document), s.definition.covers d = true ↔
        s.activeOnly = none ∨
          ∃ convention, s.activeOnly = some convention ∧ convention.isActive d = true := by
  refine ⟨fun convention d => ⟨convention.accepts_toFilter d, convention.isActive_iff d⟩,
    fun s d => ?_⟩
  rw [covers_definition]
  cases s.activeOnly with
  | none => simp
  | some convention => simp

end IndexSpec

end DocSchema
