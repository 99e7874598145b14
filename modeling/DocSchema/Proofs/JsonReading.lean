import DocSchema.Json.Record
import DocSchema.Json.Tree
import DocSchema.Proofs.JsonTokens
import Mathlib.Data.List.Forall2
import Mathlib.Data.List.Nodup

/-!
# DocSchema.Proofs.JsonReading

Reading documents back from their tokens.

A reader reads a document as some value when it takes the tokens of the document from the front of
whatever tokens there are, and leaves the others (`Reads`). So stated the property goes through the
readers of lists and records, each of which asks it of the readers of its parts alone:

* `Reads.list` and `Reads.record`: the typed readers, where a record is read field by field into
  its draft (`Fills`);
* `reads_tree`: the reader of documents of any kind reads a plain document as itself;
* `ofText_of_tokens`: so a plain document is the document in each of its written forms.
-/

namespace DocSchema.Json

/-- A reader takes the tokens of a document for a value, whatever comes after them. -/
def Reads {α : Type} (read : Reader α) (j : Json) (a : α) : Prop :=
  ∀ ts, read (tokensOf j ++ ts) = .ok (a, ts)

variable {α : Type}

/-! ## Whole texts -/

/-- A reader that reads a document reads every text with the tokens of the document. -/
theorem Reads.whole {read : Reader α} {j : Json} {a : α} (h : Reads read j a) {text : String}
    (htext : tokens text = tokensOf j) : readWhole read text = .ok a := by
  have hread := h []
  rw [List.append_nil] at hread
  simp only [readWhole, htext, hread, bind, Except.bind]

/-! ## Words and strings -/

theorem reads_text (s : String) : Reads Decoder.text.read (.string s) s := fun _ => rfl

theorem reads_bool (b : Bool) : Reads Decoder.bool.read (.bool b) b := fun _ => rfl

/-- What is made of a value is read where the value is. -/
theorem Reads.map {β : Type} {d : Decoder α} {j : Json} {a : α} (h : Reads d.read j a)
    (f : α → β) : Reads (d.map f).read j (f a) := by
  intro ts
  simp only [Decoder.map, h ts, bind, Except.bind]

/-- A value that passes its check is read. -/
theorem Reads.checked {β ε : Type} {d : Decoder α} {check : α → Except ε β} {fault : ε → Fault}
    {j : Json} {a : α} {b : β} (h : Reads d.read j a) (hcheck : check a = .ok b) :
    Reads (d.checked check fault).read j b := by
  intro ts
  simp only [Decoder.checked, h ts, hcheck, bind, Except.bind, Except.mapError]

theorem reads_none (d : Decoder α) : Reads d.option.read .null none := fun _ => rfl

/-- A value that is written as a string is read where null might stand. -/
theorem Reads.option {d : Decoder α} {s : String} {a : α} (h : Reads d.read (.string s) a) :
    Reads d.option.read (.string s) (some a) := by
  intro ts
  have hread : d.read (.string s :: ts) = .ok (a, ts) := h ts
  simp only [Decoder.option, tokensOf, List.singleton_append, hread, bind, Except.bind]

/-! ## Lists -/

/-- No document begins like the end of a list. -/
theorem exists_tokensOf_eq_cons (j : Json) :
    ∃ t ts, tokensOf j = t :: ts ∧ t ≠ .closeBracket := by
  cases j <;> exact ⟨_, _, rfl, by nofun⟩

/-- Before an item its comma is passed over. -/
theorem beforeItem_separator (first : Bool) (j : Json) (ts : List Token) :
    beforeItem first (separator first ++ (tokensOf j ++ ts)) = .ok (some (tokensOf j ++ ts)) := by
  obtain ⟨t, us, hj, ht⟩ := exists_tokensOf_eq_cons j
  rw [hj]
  cases first <;> cases t <;> first | rfl | contradiction

/-- A list has more tokens than items. -/
theorem length_le_itemTokens (first : Bool) (js : List Json) :
    js.length ≤ (itemTokens first js).length := by
  induction js generalizing first with
  | nil => exact Nat.le_refl _
  | cons j js ih =>
      obtain ⟨t, us, hj, -⟩ := exists_tokensOf_eq_cons j
      have hrest := ih false
      simp only [itemTokens, hj, List.length_append, List.length_cons]
      omega

/-- Items that are read one by one are read up to the end of their list. -/
theorem readItems_of_reads {read : Reader α} {js : List Json} {as : List α}
    (h : List.Forall₂ (Reads read) js as) (first : Bool) {fuel : Nat} (hfuel : js.length < fuel)
    (ts : List Token) :
    readItems read fuel first (itemTokens first js ++ .closeBracket :: ts) = .ok (as, ts) := by
  induction h generalizing first fuel with
  | nil =>
      cases fuel with
      | zero => exact absurd hfuel (Nat.not_lt_zero _)
      | succ fuel => rfl
  | cons hj _ ih =>
      cases fuel with
      | zero => exact absurd hfuel (Nat.not_lt_zero _)
      | succ fuel =>
          have hrest := ih false (Nat.lt_of_succ_lt_succ hfuel)
          simp only [itemTokens, List.append_assoc, readItems, beforeItem_separator, hj _, hrest,
            bind, Except.bind]

/-- The tokens of a list are fuel enough for it. -/
theorem length_lt_of_items (js : List Json) (ts : List Token) :
    js.length < (itemTokens true js ++ .closeBracket :: ts).length := by
  have hlength := length_le_itemTokens true js
  rw [List.length_append, List.length_cons]
  omega

/-- A list is read when its items are. -/
theorem Reads.list {d : Decoder α} {js : List Json} {as : List α}
    (h : List.Forall₂ (Reads d.read) js as) : Reads d.list.read (.array js) as := by
  intro ts
  have htokens : tokensOf (.array js) ++ ts =
      .openBracket :: (itemTokens true js ++ .closeBracket :: ts) := by
    simp only [tokensOf, List.cons_append, List.append_assoc, List.nil_append]
  rw [htokens]
  exact readItems_of_reads h true (length_lt_of_items js ts) ts

theorem Reads.list_map {d : Decoder α} {toJson : α → Json} {as : List α}
    (h : ∀ a ∈ as, Reads d.read (toJson a) a) : Reads d.list.read (.array (as.map toJson)) as :=
  .list (List.forall₂_map_left_iff.2 (List.forall₂_same.2 h))

/-! ## Records -/

/-- Before a field its comma is passed over. -/
theorem beforeKey_separator (first : Bool) (key : String) (ts : List Token) :
    beforeKey first (separator first ++ .string key :: ts) = .ok (some (key, ts)) := by
  cases first <;> rfl

/-- An object has more tokens than fields. -/
theorem length_le_fieldTokens (first : Bool) (fields : List (String × Json)) :
    fields.length ≤ (fieldTokens first fields).length := by
  induction fields generalizing first with
  | nil => exact Nat.le_refl _
  | cons f fields ih =>
      obtain ⟨key, j⟩ := f
      have hrest := ih false
      simp only [fieldTokens, List.length_append, List.length_cons]
      omega

theorem length_lt_of_fields (fields : List (String × Json)) (ts : List Token) :
    fields.length < (fieldTokens true fields ++ .closeBrace :: ts).length := by
  have hlength := length_le_fieldTokens true fields
  rw [List.length_append, List.length_cons]
  omega

/-- Reading fields one after the other, where some have been given before, turns one draft into
another. Every field is known and given once. -/
inductive Fills {δ : Type} (fields : List (Field δ)) :
    List String → δ → List (String × Json) → δ → Prop where
  | nil (given : List String) (draft : δ) : Fills fields given draft [] draft
  | cons {given : List String} {draft draft' final : δ} {key : String} {j : Json}
      {rest : List (String × Json)} (field : Field δ)
      (hfield : fields.find? (fun f => f.name == key) = some field)
      (hnew : given.contains key = false)
      (hread : Reads (field.decoder draft).read j draft')
      (hrest : Fills fields (key :: given) draft' rest final) :
      Fills fields given draft ((key, j) :: rest) final

/-- A field with a value of its own fills its place in the draft. -/
theorem Fills.value {δ : Type} {fields : List (Field δ)} {given : List String} {draft final : δ}
    {key : String} {j : Json} {rest : List (String × Json)} {required : Bool} {d : Decoder α}
    {set : δ → α → δ} {a : α}
    (hfield : fields.find? (fun f => f.name == key) = some (.of key required d set))
    (hnew : given.contains key = false) (hread : Reads d.read j a)
    (hrest : Fills fields (key :: given) (set draft a) rest final) :
    Fills fields given draft ((key, j) :: rest) final :=
  .cons _ hfield hnew (hread.map (set draft)) hrest

/-- Fields that fill a draft are read up to the end of their object. -/
theorem readFields_of_fills {δ : Type} {fields : List (Field δ)} {given : List String}
    {draft final : δ} {written : List (String × Json)}
    (h : Fills fields given draft written final) (first : Bool) {fuel : Nat}
    (hfuel : written.length < fuel) (ts : List Token) :
    readFields fields fuel first given draft (fieldTokens first written ++ .closeBrace :: ts) =
      .ok (final, ts) := by
  induction h generalizing first fuel with
  | nil given draft =>
      cases fuel with
      | zero => exact absurd hfuel (Nat.not_lt_zero _)
      | succ fuel => rfl
  | cons field hfield hnew hread hrest ih =>
      cases fuel with
      | zero => exact absurd hfuel (Nat.not_lt_zero _)
      | succ fuel =>
          have hrest := ih false (Nat.lt_of_succ_lt_succ hfuel)
          simp only [fieldTokens, List.append_assoc, List.cons_append, List.nil_append, readFields,
            beforeKey_separator, hfield, hnew, readColon, hread _, hrest, bind, Except.bind,
            Bool.false_eq_true, if_false]

/-- A record is read when its fields fill its draft and the draft can be finished. -/
theorem Reads.record {δ : Type} {shape : Shape δ α} {written : List (String × Json)} {draft : δ}
    {a : α} (h : Fills shape.fields [] shape.blank written draft)
    (hfinish : shape.finish draft = .ok a) : Reads shape.read (.object written) a := by
  intro ts
  have htokens : tokensOf (.object written) ++ ts =
      .openBrace :: (fieldTokens true written ++ .closeBrace :: ts) := by
    simp only [tokensOf, List.cons_append, List.append_assoc, List.nil_append]
  have hfields := readFields_of_fills h true (length_lt_of_fields written ts) ts
  rw [htokens]
  simp only [Shape.read, hfields, hfinish, bind, Except.bind]

/-! ## Documents of any kind -/

/-- A field of a new name goes to the end. -/
theorem insertField_of_not_mem {fields : List (String × Json)} {key : String} (j : Json)
    (h : key ∉ fields.map (·.1)) : insertField fields key j = fields ++ [(key, j)] := by
  induction fields with
  | nil => rfl
  | cons f fields ih =>
      obtain ⟨key', j'⟩ := f
      obtain ⟨hne, hrest⟩ := not_or.1 (mt List.mem_cons.2 h)
      rw [insertField, if_neg (Ne.symm hne), ih hrest, List.cons_append]

/-- Fields of different names that are read one by one are read up to the end of their object. -/
theorem readEntries_of_reads {read : Reader Json} {before fields : List (String × Json)}
    (hread : ∀ f ∈ fields, Reads read f.2 f.2) (hnodup : ((before ++ fields).map (·.1)).Nodup)
    (first : Bool) {fuel : Nat} (hfuel : fields.length < fuel) (ts : List Token) :
    readEntries read fuel first before (fieldTokens first fields ++ .closeBrace :: ts) =
      .ok (before ++ fields, ts) := by
  induction fields generalizing before first fuel with
  | nil =>
      cases fuel with
      | zero => exact absurd hfuel (Nat.not_lt_zero _)
      | succ fuel =>
          rw [List.append_nil]
          rfl
  | cons f fields ih =>
      obtain ⟨key, j⟩ := f
      obtain ⟨hj, hfields⟩ := List.forall_mem_cons.1 hread
      cases fuel with
      | zero => exact absurd hfuel (Nat.not_lt_zero _)
      | succ fuel =>
          have hnew : key ∉ before.map (·.1) := by
            rw [List.map_append, List.map_cons] at hnodup
            exact fun hmem => (List.nodup_append.1 hnodup).2.2 key hmem key List.mem_cons_self rfl
          have hshift : before ++ (key, j) :: fields = before ++ [(key, j)] ++ fields := by
            rw [List.append_assoc, List.singleton_append]
          rw [hshift] at hnodup
          have hrest := ih hfields hnodup false (Nat.lt_of_succ_lt_succ hfuel)
          rw [← hshift] at hrest
          simp only [fieldTokens, List.append_assoc, List.cons_append, List.nil_append, readEntries,
            beforeKey_separator, readColon, hj _, insertField_of_not_mem j hnew, hrest, bind,
            Except.bind]

mutual

/-- A plain document is read as itself by a reader that goes deep enough. -/
theorem reads_tree : (j : Json) → IsPlain j → (depth : Nat) → (tokensOf j).length < depth →
    Reads (readTree depth) j j
  | _, _, 0, hdepth => absurd hdepth (Nat.not_lt_zero _)
  | .null, _, _ + 1, _ | .bool _, _, _ + 1, _ | .string _, _, _ + 1, _ => fun _ => rfl
  | .integer _, hplain, _, _ | .real _, hplain, _, _ => hplain.elim
  | .array items, hplain, depth + 1, hdepth => by
      intro ts
      simp only [tokensOf, List.length_append, List.length_cons] at hdepth
      have hitems := reads_treeItems items hplain true depth (by omega)
      have hread := readItems_of_reads hitems true (length_lt_of_items items ts) ts
      simp only [tokensOf, List.cons_append, List.append_assoc, List.nil_append, readTree, hread,
        bind, Except.bind]
  | .object fields, hplain, depth + 1, hdepth => by
      intro ts
      simp only [tokensOf, List.length_append, List.length_cons] at hdepth
      have hfields := reads_treeFields fields hplain.2 true depth (by omega)
      have hread := @readEntries_of_reads _ [] fields hfields hplain.1 true _
        (length_lt_of_fields fields ts) ts
      simp only [tokensOf, List.cons_append, List.append_assoc, List.nil_append, readTree, hread,
        bind, Except.bind]

theorem reads_treeItems : (js : List Json) → ItemsArePlain js → (first : Bool) → (depth : Nat) →
    (itemTokens first js).length < depth → List.Forall₂ (Reads (readTree depth)) js js
  | [], _, _, _, _ => .nil
  | j :: js, hplain, first, depth, hdepth => by
      simp only [itemTokens, List.length_append] at hdepth
      exact .cons (reads_tree j hplain.1 depth (by omega))
        (reads_treeItems js hplain.2 false depth (by omega))

theorem reads_treeFields : (fields : List (String × Json)) → FieldsArePlain fields →
    (first : Bool) → (depth : Nat) → (fieldTokens first fields).length < depth →
      ∀ f ∈ fields, Reads (readTree depth) f.2 f.2
  | [], _, _, _, _ => List.forall_mem_nil _
  | (key, j) :: fields, hplain, first, depth, hdepth => by
      simp only [fieldTokens, List.length_append, List.length_cons] at hdepth
      exact List.forall_mem_cons.2 ⟨reads_tree j hplain.1 depth (by omega),
        reads_treeFields fields hplain.2 false depth (by omega)⟩

end

/-- A text with the tokens of a plain document has this document in it. -/
theorem ofText_of_tokens {j : Json} (hplain : IsPlain j) {text : String}
    (htext : tokens text = tokensOf j) : ofText text = .ok j := by
  have hread : Reads (fun ts => readTree (ts.length + 1) ts) j j := fun ts =>
    reads_tree j hplain _ (by rw [List.length_append]; omega) ts
  exact hread.whole htext

end DocSchema.Json
