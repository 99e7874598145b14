import DocSchema.Proofs.EqualFilters
import DocSchema.Proofs.UniqueKeys

/-!
# DocSchema.Proofs.Agreement

An index that agrees with a declaration does for documents what the declaration says.

The store may hold such an index from elsewhere, with its directions written as other numbers and
its filter with the fields in another order. It does with documents what the index of the
declaration itself would do, so it covers the documents that are active under the convention of the
declaration, under the values at the declared path.
-/

namespace DocSchema

namespace IndexSpec

/-- Whether the index of a declaration is about a document: all are without a convention, and the
active ones with one. -/
def Concerns (s : IndexSpec) (d : Document) : Prop :=
  ∀ convention, s.activeOnly = some convention → convention.isActive d = true

/-- The value of a document at the declared path, null where there is none. -/
def valueIn (s : IndexSpec) (d : Document) : Value := (d.getPath? s.field.text).getD .null

/-- Whether a document has the value of a stored one, where the index is about both. -/
def Taken (s : IndexSpec) (documents : List Document) (d : Document) : Prop :=
  s.Concerns d ∧ ∃ e ∈ documents, s.Concerns e ∧ (s.valueIn e == s.valueIn d) = true

/-- Without a convention nothing is asked of a document. -/
theorem concerns_iff {s : IndexSpec} {d : Document} :
    s.Concerns d ↔ (s.activeOnly.all fun convention => convention.isActive d) = true := by
  unfold Concerns
  cases s.activeOnly <;> simp

instance (s : IndexSpec) (d : Document) : Decidable (s.Concerns d) :=
  decidable_of_iff _ concerns_iff.symm

instance (s : IndexSpec) (documents : List Document) (d : Document) :
    Decidable (s.Taken documents d) := inferInstanceAs (Decidable (_ ∧ _))

variable {s : IndexSpec} {x : IndexDefinition}

/-- An index that agrees with a declaration covers the documents that the declaration is about. -/
theorem covers_of_agrees (h : s.definition.agrees x = true) (d : Document) :
    x.covers d = true ↔ s.Concerns d := by
  rw [← IndexDefinition.covers_of_agrees h, covers_definition, concerns_iff]

/-- An index that agrees with a declaration has the values at the declared path as keys. -/
theorem keyOf_of_agrees (h : s.definition.agrees x = true) (d : Document) :
    x.keyOf d = [s.valueIn d] :=
  (IndexDefinition.keyOf_of_agrees h d).symm.trans (s.keyOf_definition d)

/-- An index that agrees with a declaration refuses the documents whose value is taken, if the
declaration is unique, and no others. -/
theorem refuses_of_agrees (h : s.definition.agrees x = true) (documents : List Document)
    (d : Document) :
    Catalog.refuses documents d x = true ↔ s.unique = true ∧ s.Taken documents d := by
  have hunique : x.unique = s.unique := (IndexDefinition.agrees_iff.1 h).2.2.1.symm
  have hkey : ∀ e, (x.keyOf e == x.keyOf d) = (s.valueIn e == s.valueIn d) := fun e => by
    rw [keyOf_of_agrees h, keyOf_of_agrees h, List.cons_beq_cons]
    exact Bool.and_true _
  simp only [Catalog.refuses, Taken, hunique, hkey, Bool.and_eq_true, List.any_eq_true,
    covers_of_agrees h, and_assoc]

end IndexSpec

end DocSchema
