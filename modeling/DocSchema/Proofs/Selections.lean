import DocSchema.Proofs.CatalogChanges
import DocSchema.Schema.Builtin
import DocSchema.Server.Wire

/-!
# DocSchema.Proofs.Selections

Which documents a soft deletion by field and value marks, in memory and on a server.

The catalog in memory looks the value up and compares it. A server is sent a filter that has the
value under the name of the field and null under the mark, and the filter is interpreted: null
accepts a missing field, a document with an operator among its names is no value at all, and where
the field is the mark itself the value is replaced by null. `soft_deletions_alike` says that the two
agree where none of this happens, and that they differ on some document where it does.

That operators are always noticed rests on the nesting of values: operators that all accept the very
document that they make up would need an operand equal to it, but equal values are nested equally
deep.
-/

namespace DocSchema

/-! ## Nesting -/

namespace Value

mutual

/-- How deep a value is nested. -/
def depth : Value → Nat
  | .array items => depthItems items + 1
  | .document fields => depthFields fields + 1
  | _ => 0

/-- How deep the items of a list are nested. -/
def depthItems : List Value → Nat
  | [] => 0
  | v :: vs => max (depth v) (depthItems vs)

/-- How deep the values in a document are nested. -/
def depthFields : List (String × Value) → Nat
  | [] => 0
  | (_, v) :: fields => max (depth v) (depthFields fields)

end

/-- A value in a document is nested no deeper than its fields are together. -/
theorem depth_le_of_mem {fields : Document} {f : String × Value} (hf : f ∈ fields) :
    depth f.2 ≤ depthFields fields := by
  induction fields with
  | nil => exact absurd hf List.not_mem_nil
  | cons g fields ih =>
      obtain ⟨key, v⟩ := g
      rw [depthFields]
      cases List.mem_cons.1 hf with
      | inl heq => subst heq; exact Nat.le_max_left _ _
      | inr hf => exact Nat.le_trans (ih hf) (Nat.le_max_right _ _)

mutual

/-- A value is nested no deeper than one that it equals. -/
theorem depth_le_of_test : (v w : Value) → test v w = true → depth v ≤ depth w
  | .array a, w, h => by
      cases w with
      | array b => exact Nat.succ_le_succ (depthItems_le_of_testItems a b h)
      | _ => contradiction
  | .document a, w, h => by
      cases w with
      | document b =>
          exact Nat.succ_le_succ (depthFields_le_of_answers a b ((test_document a b).1 h).1)
      | _ => contradiction
  | .null, _, _ | .undefined, _, _ | .minKey, _, _ | .maxKey, _, _ | .bool _, _, _
  | .int32 _, _, _ | .int64 _, _, _ | .double _, _, _ | .string _, _, _ | .dateTime _, _, _
  | .objectId _, _, _ | .binary _, _, _ | .regex _ _, _, _ | .timestamp _ _, _, _ | .code _, _, _
  | .symbol _, _, _ => Nat.zero_le _

/-- Items are nested no deeper than those that they equal. -/
theorem depthItems_le_of_testItems : (as bs : List Value) → testItems as bs = true →
    depthItems as ≤ depthItems bs
  | [], _, _ => Nat.zero_le _
  | a :: as, bs, h => by
      cases bs with
      | nil => contradiction
      | cons b bs =>
          rw [testItems, Bool.and_eq_true] at h
          have hfirst := depth_le_of_test a b h.1
          have hrest := depthItems_le_of_testItems as bs h.2
          rw [depthItems, depthItems]
          omega

/-- Fields are nested no deeper than those of a document that answers them. -/
theorem depthFields_le_of_answers : (a b : Document) → Answers test a b →
    depthFields a ≤ depthFields b
  | [], _, _ => Nat.zero_le _
  | (key, v) :: a, b, h => by
      obtain ⟨hanswer, hrest⟩ := List.forall_mem_cons.1 h
      cases hw : b.lookup key with
      | none => simp [hw] at hanswer
      | some w =>
          have hvw : test v w = true := by simpa [hw] using hanswer
          have hfirst := depth_le_of_test v w hvw
          have hmem : depth w ≤ depthFields b := depth_le_of_mem (mem_of_lookup hw)
          have hothers := depthFields_le_of_answers a b hrest
          rw [depthFields]
          omega

end

/-- No document equals a value in it. -/
theorem document_beq_of_mem {fields : Document} {f : String × Value} (hf : f ∈ fields) :
    (Value.document fields == f.2) = false := by
  rw [Bool.eq_false_iff]
  intro heq
  have hle := depth_le_of_test (.document fields) f.2 heq
  have hmem := depth_le_of_mem hf
  rw [depth] at hle
  omega

end Value

/-! ## Conditions -/

namespace Filter

/-- Whether a value is read as operators where a filter has a condition. -/
def isOperators : Value → Bool
  | .document ops => ops.any fun o => isOperator o.1
  | _ => false

/-- Equality with a value other than null is equality with what was found. -/
theorem equals_of_ne_null {value : Value} (h : value ≠ .null) (found : Option Value) :
    equals found value = found.any (· == value) := by
  unfold equals
  split
  · contradiction
  · contradiction
  · rfl
  · rfl

/-- A condition that is a value, and not null, accepts that value alone. -/
theorem conditionAccepts_of_value {value : Value} (hnull : value ≠ .null)
    (hoperators : isOperators value = false) (found : Option Value) :
    conditionAccepts found value = found.any (· == value) := by
  rw [← equals_of_ne_null hnull]
  cases value with
  | document ops =>
      have hops : (ops.any fun o => isOperator o.1) = false := hoperators
      simp only [conditionAccepts, hops, Bool.false_eq_true, if_false]
  | _ => rfl

/-- An operator that accepts a document that it is part of asks for something to be there. -/
theorem operatorAccepts_of_mem {ops : Document} {o : String × Value} (ho : o ∈ ops)
    (h : operatorAccepts (some (.document ops)) o.1 o.2 = true) (v : Value) :
    operatorAccepts (some v) o.1 o.2 = true := by
  have hequals : equals (some (.document ops)) o.2 = false := by
    by_cases hnull : o.2 = .null
    · rw [hnull]
      rfl
    · rw [equals_of_ne_null hnull, Option.any_some, Value.document_beq_of_mem ho]
  by_cases hexists : o.1 = "$exists"
  · simpa [operatorAccepts, hexists] using h
  · by_cases heq : o.1 = "$eq"
    · simp [operatorAccepts, heq, hequals] at h
    · simp [operatorAccepts, hexists, heq] at h

/-- Operators do not tell a value from all others as equality does, if their own document equals
itself. -/
theorem exists_conditionAccepts_ne {value : Value} (hoperators : isOperators value = true)
    (hself : (value == value) = true) : ∃ v, conditionAccepts (some v) value ≠ (v == value) := by
  cases value with
  | document ops =>
      have hops : (ops.any fun o => isOperator o.1) = true := hoperators
      cases hall : conditionAccepts (some (.document ops)) (.document ops) with
      | false => exact ⟨.document ops, by simp [hall, hself]⟩
      | true =>
          -- All operators accept their own document, so they accept whatever is there.
          simp only [conditionAccepts, hops, if_true, List.all_eq_true] at hall
          have hnull : conditionAccepts (some .null) (.document ops) = true := by
            simp only [conditionAccepts, hops, if_true, List.all_eq_true]
            exact fun o ho => operatorAccepts_of_mem ho (hall o ho) .null
          refine ⟨.null, ?_⟩
          rw [hnull]
          show true ≠ false
          exact Bool.noConfusion
  | _ => contradiction

end Filter

/-! ## Documents with one value -/

namespace Document

/-- The document with one value, at the path of these names. -/
def nested (key : String) : List String → Value → Document
  | [], v => [(key, v)]
  | next :: rest, v => [(key, .document (nested next rest v))]

theorem follow?_nested (key : String) (rest : List String) (v : Value) :
    follow? (nested key rest v) (key :: rest) = some v := by
  induction rest generalizing key with
  | nil => simp [nested, follow?, get?_cons]
  | cons next rest ih => simp [nested, follow?, get?_cons, ih]

theorem get?_nested_of_ne {key other : String} (h : other ≠ key) (rest : List String) (v : Value) :
    (nested key rest v).get? other = none := by
  cases rest <;> simp [nested, get?_cons, get?_nil, h]

theorem getPath?_nil (path : String) : getPath? [] path = none := by
  unfold getPath?
  cases Path.segments path with
  | nil => rfl
  | cons key rest => cases rest <;> rfl

/-- Outside the mark every value is that of some active document. -/
theorem exists_active {path : String} (hpath : (Path.segments path).head? ≠ some deletedAt)
    (v : Value) : ∃ d : Document, SoftDelete.null.isActive d = true ∧ d.getPath? path = some v := by
  cases hs : Path.segments path with
  | nil => exact absurd hs (Path.segments_ne_nil path)
  | cons key rest =>
      have hkey : deletedAt ≠ key := fun h => hpath (by rw [hs, h, List.head?_cons])
      refine ⟨nested key rest v, ?_, ?_⟩
      · rw [SoftDelete.isActive_null, get?_nested_of_ne hkey]
        rfl
      · rw [getPath?, hs, follow?_nested]

end Document

/-! ## Filters -/

namespace Server

/-- The filter of the first update in a command. -/
def updateFilter? (command : Document) : Option Document :=
  match (command.get? "updates").bind items? with
  | some (.document update :: _) => (update.lookup "q").bind document?
  | _ => none

/-- The filter that a server is sent for a soft deletion. -/
theorem updateFilter?_softDelete (database : String) (now : Int64) (name : CollectionName)
    (field : FieldName) (value : Value) :
    updateFilter? (command database now (.softDelete name field value)) =
      some (selection field value) := rfl

/-- The value is lost where the field is the mark. -/
theorem selection_eq (field : FieldName) (value : Value) : selection field value =
    if field.text = deletedAt then SoftDelete.null.toFilter
    else (field.text, value) :: SoftDelete.null.toFilter := by
  by_cases h : field.text = deletedAt
  · simp [selection, Document.ofFields, Document.insert, SoftDelete.toFilter, h]
  · simp [selection, Document.ofFields, Document.insert, SoftDelete.toFilter, h]

/-- The filter accepts active documents with a value that its condition accepts, if it has one. -/
theorem accepts_selection (field : FieldName) (value : Value) (d : Document) :
    Filter.accepts (selection field value) d =
      ((decide (field.text = deletedAt) ||
          Filter.conditionAccepts (d.getPath? field.text) value) &&
        SoftDelete.null.isActive d) := by
  have hfilter := SoftDelete.accepts_toFilter .null d
  rw [selection_eq]
  by_cases h : field.text = deletedAt
  · simp [h, hfilter]
  · simp only [h, decide_false, Bool.false_or, if_false, ← hfilter]
    rfl

end Server

/-! ## Soft deletions -/

namespace Catalog

/-- The documents of a collection after a soft deletion that is not refused. -/
theorem get?_answer_softDelete {c : Catalog} (hwrite : c.refusal? true = none)
    {name : CollectionName} {content : Collection}
    (hcontent : c.collections.get? name = some content) (now : Int64) (field : FieldName)
    (value : Value) :
    (c.answer now (.softDelete name field value)).2.collections.get? name =
      some { content with documents := content.documents.map (marked now field value) } := by
  have hperform : (c.answer now (.softDelete name field value)).2 = c.setCollection name
      { content with documents := content.documents.map (marked now field value) } := by
    rw [answer_of_no_refusal hwrite]
    simp only [perform, softDelete, hcontent]
    rfl
  rw [hperform, get?_setCollection, if_pos rfl]

/-- Whether a soft deletion by field and value treats a document alike in memory and on a server:
wherever a catalog that takes changes holds the document, it is marked if the filter in the command
that a server is sent accepts it, and is left as it was if not. -/
def DeletedAlike (field : FieldName) (value : Value) (d : Document) : Prop :=
  ∀ (c : Catalog) (now : Int64) (name : CollectionName) (content : Collection) (k : Nat),
    c.refusal? true = none → c.collections.get? name = some content →
      content.documents[k]? = some d →
    ∃ filter content',
      Server.updateFilter? (Server.command c.database now (.softDelete name field value)) =
        some filter ∧
      (c.answer now (.softDelete name field value)).2.collections.get? name = some content' ∧
      content'.documents[k]? =
        some (if Filter.accepts filter d then d.insert deletedAt (.dateTime now) else d)

/-- A mark is always to be seen on a document that was active. -/
theorem insert_deletedAt_ne {d : Document} (h : SoftDelete.null.isActive d = true) (now : Int64) :
    d.insert deletedAt (.dateTime now) ≠ d := by
  intro heq
  have hmark := SoftDelete.isActive_mark .null d now
  rw [heq, h] at hmark
  contradiction

/-- Where only active documents are marked, it is to be seen which ones are. -/
theorem eq_of_mark_eq {d : Document} {now : Int64} {b b' : Bool}
    (hb : b = true → SoftDelete.null.isActive d = true)
    (hb' : b' = true → SoftDelete.null.isActive d = true)
    (h : (if b then d.insert deletedAt (.dateTime now) else d) =
      if b' then d.insert deletedAt (.dateTime now) else d) : b = b' := by
  cases b with
  | false =>
      cases b' with
      | false => rfl
      | true => exact absurd h.symm (insert_deletedAt_ne (hb' rfl) now)
  | true =>
      cases b' with
      | false => exact absurd h (insert_deletedAt_ne (hb rfl) now)
      | true => rfl

/-- A document is treated alike when the catalog and the filter select it alike. -/
theorem deletedAlike_iff {field : FieldName} {value : Value} {d : Document} :
    DeletedAlike field value d ↔
      selects field value d = Filter.accepts (Server.selection field value) d := by
  constructor
  · intro h
    let c := (Catalog.empty "" none).setCollection Schema.users ⟨[], [d]⟩
    obtain ⟨filter, content', hfilter, hcontent', hd⟩ := h c 0 Schema.users ⟨[], [d]⟩ 0 rfl rfl rfl
    rw [Server.updateFilter?_softDelete] at hfilter
    rw [get?_answer_softDelete rfl rfl] at hcontent'
    cases hfilter
    cases hcontent'
    have hmark : marked 0 field value d =
        if Filter.accepts (Server.selection field value) d then
          d.insert deletedAt (.dateTime 0) else d := Option.some.inj hd
    refine eq_of_mark_eq (fun hselects => ?_) (fun haccepts => ?_) hmark
    · exact (Bool.and_eq_true_iff.1 hselects).2
    · rw [Server.accepts_selection] at haccepts
      exact (Bool.and_eq_true_iff.1 haccepts).2
  · intro h c now name content k hwrite hcontent hd
    refine ⟨_, _, Server.updateFilter?_softDelete c.database now name field value,
      get?_answer_softDelete hwrite hcontent now field value, ?_⟩
    rw [List.getElem?_map, hd, Option.map_some, marked, h]

/-- Any active document shows whether a value at its field and the condition for it agree. -/
theorem deletedAlike_iff_of_isActive {field : FieldName} {value : Value} {d : Document}
    (h : SoftDelete.null.isActive d = true) : DeletedAlike field value d ↔
      (d.getPath? field.text).any (· == value) = (decide (field.text = deletedAt) ||
        Filter.conditionAccepts (d.getPath? field.text) value) := by
  rw [deletedAlike_iff, selects, Server.accepts_selection, h, Bool.and_true, Bool.and_true]

/-- Where the filter accepts what is not there, the document without fields shows it. -/
theorem not_deletedAlike_nil {field : FieldName} {value : Value}
    (h : field.text = deletedAt ∨ value = .null) : ¬ DeletedAlike field value [] := by
  rw [deletedAlike_iff_of_isActive rfl, Document.getPath?_nil]
  cases h with
  | inl hfield => simp [hfield]
  | inr hvalue =>
      subst hvalue
      simp [Filter.conditionAccepts, Filter.equals]

/-- A soft deletion marks the same documents in memory and on a server if its field is not the mark
and its value is neither null nor read as operators.

Otherwise it does not. On the mark the value is lost, and null accepts what is not there, so that
already the document without fields is marked only on the server. Operators are not compared but
obeyed: unless the field is below the mark, where no active document has a value, or the value is
not even equal to itself, some document tells the difference. -/
theorem soft_deletions_alike (field : FieldName) (value : Value) :
    (field.text ≠ deletedAt → value ≠ .null → Filter.isOperators value = false →
      ∀ d, DeletedAlike field value d) ∧
    (field.text = deletedAt ∨ value = .null → ¬ DeletedAlike field value []) ∧
    (Filter.isOperators value = true → (value == value) = true →
      (Path.segments field.text).head? ≠ some deletedAt → ∃ d, ¬ DeletedAlike field value d) := by
  refine ⟨fun hfield hnull hoperators d => ?_, not_deletedAlike_nil,
    fun hoperators hself houtside => ?_⟩
  · rw [deletedAlike_iff, selects, Server.accepts_selection, decide_eq_false hfield,
      Bool.false_or, Filter.conditionAccepts_of_value hnull hoperators]
  · obtain ⟨v, hv⟩ := Filter.exists_conditionAccepts_ne hoperators hself
    obtain ⟨d, hactive, hd⟩ := Document.exists_active houtside v
    have hfield : field.text ≠ deletedAt := fun h => houtside (by rw [h]; rfl)
    refine ⟨d, fun halike => hv ?_⟩
    rw [deletedAlike_iff_of_isActive hactive, hd, decide_eq_false hfield, Bool.false_or] at halike
    exact halike.symm

/-- A field for the names that users log in with. -/
def login : FieldName := ⟨"login", by decide⟩

/-- The mark of deletion as a field of its own. -/
def mark : FieldName := ⟨deletedAt, by decide⟩

/-- A name marks the same documents in memory and on a server, while a value of the mark and an
operator in place of a name do not. -/
theorem soft_deletions_alike_login :
    let operator : Value := .document [("$exists", .bool true)]
    login.text ≠ deletedAt ∧ Value.string "a" ≠ .null ∧
      Filter.isOperators (.string "a") = false ∧
      DeletedAlike login (.string "a") [("login", .string "a")] ∧
      mark.text = deletedAt ∧ ¬ DeletedAlike mark (.string "x") [] ∧
      Filter.isOperators operator = true ∧ (operator == operator) = true ∧
      (Path.segments login.text).head? ≠ some deletedAt ∧
      ∃ d, ¬ DeletedAlike login operator d := by
  intro operator
  have hfield : login.text ≠ deletedAt := by decide
  have hoperator : Filter.isOperators operator = true := by decide
  have hself : (operator == operator) = true := by decide
  have houtside : (Path.segments login.text).head? ≠ some deletedAt := by decide
  exact ⟨hfield, nofun, rfl, (soft_deletions_alike login (.string "a")).1 hfield nofun rfl _, rfl,
    (soft_deletions_alike mark (.string "x")).2.1 (.inl rfl), hoperator, hself, houtside,
    (soft_deletions_alike login operator).2.2 hoperator hself houtside⟩

/-- An active document with a name is not treated alike when it is deleted by a value of the mark,
by null in a field that it does not have, or by an operator on the name. In each case a server
selects it, and the catalog in memory does not. -/
theorem soft_deletions_differ :
    let d : Document := [("login", .string "a")]
    ¬ DeletedAlike mark (.string "x") d ∧ ¬ DeletedAlike ⟨"nickname", by decide⟩ .null d ∧
      ¬ DeletedAlike login (.document [("$exists", .bool true)]) d := by
  simp only [deletedAlike_iff]
  decide

end Catalog

end DocSchema
