import DocSchema.Proofs.Marks
import DocSchema.Server.Wire

/-!
# DocSchema.Proofs.DuplicateKeyTexts

The field that is read from the text of a duplicate key.

The text has the name of the index after the mark `index: ` and the refused key after the mark
`dup key: {`. The key begins with the name of the field and a colon, or with the colon alone; then
the field is found in the name of the index, which has its direction at the end. Both marks
are looked for where they occur first. What stands around them may contain them once more, so the
proofs turn on where an occurrence can begin (`Text.splitOnce_of_mark`,
`Text.isInfix_of_append_cons`).
-/

namespace DocSchema

namespace Text

/-- Whether a text contains a mark. -/
def Contains (text mark : String) : Prop := mark.toList <:+: text.toList

instance (text mark : String) : Decidable (Contains text mark) :=
  inferInstanceAs (Decidable (mark.toList <:+: text.toList))

/-! ## Words -/

/-- A word without blanks has none to cut off. -/
theorem trim_ofList {word : List Char} (h : ∀ c ∈ word, isBlank c = false) :
    trim (.ofList word) = .ofList word := by
  have hdrop (cs : List Char) (hcs : ∀ c ∈ cs, isBlank c = false) :
      cs.dropWhile isBlank = cs := by
    cases cs with
    | nil => rfl
    | cons c cs => rw [List.dropWhile_cons, if_neg (by simp [hcs c List.mem_cons_self])]
  rw [trim, String.toList_ofList, hdrop word h,
    hdrop word.reverse fun c hc => h c (List.mem_reverse.1 hc), List.reverse_reverse]

end Text

namespace Server

open Text

/-! ## The two places of the field -/

/-- What stands before the key in the text of a duplicate key. -/
def keyMark : String := "dup key: \x7b"

/-- What stands before the name of the index. -/
def indexMark : String := "index: "

theorem startsOnce_keyMark : startsOnce keyMark.toList = true := by decide

theorem startsOnce_indexMark : startsOnce indexMark.toList = true := by decide

/-- The name before the first colon of the key. -/
def keyField? (text : String) : Option String :=
  match splitOnce keyMark.toList text.toList with
  | none => none
  | some (_, rest) =>
    let field := trim (.ofList ((rest.dropWhile isBlank).takeWhile (· != ':')))
    if field = "" then none else some field

/-- The name of the index without its direction. -/
def indexField? (text : String) : Option String :=
  match splitOnce indexMark.toList text.toList with
  | none => none
  | some (_, rest) =>
    let word := (rest.dropWhile isBlank).takeWhile fun c => !isBlank c
    if word.isEmpty then none
    else if ['1', '_'].isPrefixOf word.reverse then some (.ofList (word.take (word.length - 2)))
    else some (.ofList word)

/-- The key comes first, and the index where the key has no name. -/
theorem duplicateField_eq (text : String) :
    duplicateField text = (keyField? text).or (indexField? text) := by
  simp only [duplicateField, keyField?, keyMark]
  cases splitOnce "dup key: \x7b".toList text.toList with
  | none => rfl
  | some parts =>
      dsimp only
      split
      next hkey => rw [hkey, Option.some_or]
      next hkey =>
        rw [hkey, Option.none_or]
        rfl

/-! ## Texts with a key -/

/-- Whether a name of a field shows where it ends: it is not empty and has neither colons nor
blanks. -/
structure Delimited (field : String) : Prop where
  ne_empty : field ≠ ""
  no_colon : ':' ∉ field.toList
  no_blank : ∀ c ∈ field.toList, isBlank c = false

variable {field : String}

/-- A name that is not empty has a first character, which is no blank. -/
theorem Delimited.dropWhile_isBlank (h : Delimited field) (rest : List Char) :
    (field.toList ++ rest).dropWhile isBlank = field.toList ++ rest := by
  cases hfield : field.toList with
  | nil => exact absurd (String.toList_eq_nil_iff.1 hfield) h.ne_empty
  | cons c cs => simp [h.no_blank c (by simp [hfield])]

/-- The name in the key is found behind blanks and before the first colon, whatever follows. -/
theorem keyField?_of_key {before blanks : String} (h : Delimited field)
    (hbefore : ¬ Contains before keyMark) (hblanks : isBlankText blanks = true) (after : String) :
    keyField? (before ++ keyMark ++ blanks ++ field ++ ":" ++ after) = some field := by
  have htext : (before ++ keyMark ++ blanks ++ field ++ ":" ++ after).toList =
      before.toList ++ keyMark.toList ++
        (blanks.toList ++ (field.toList ++ ':' :: after.toList)) := by
    simp
  have hsplit := splitOnce_of_mark startsOnce_keyMark hbefore
    (blanks.toList ++ (field.toList ++ ':' :: after.toList))
  have hdrop : (blanks.toList ++ (field.toList ++ ':' :: after.toList)).dropWhile isBlank =
      field.toList ++ ':' :: after.toList := by
    rw [List.dropWhile_append_of_pos (List.all_eq_true.1 hblanks), h.dropWhile_isBlank]
  have hname : ∀ c ∈ field.toList, (c != ':') = true := fun c hc =>
    bne_iff_ne.2 fun hcolon => h.no_colon (hcolon ▸ hc)
  have htake : (field.toList ++ ':' :: after.toList).takeWhile (· != ':') = field.toList := by
    rw [List.takeWhile_append_of_pos hname]
    simp
  have htrim : trim (.ofList field.toList) = field := by
    rw [trim_ofList h.no_blank, String.ofList_toList]
  simp only [keyField?, htext, hsplit, hdrop, htake, htrim, if_neg h.ne_empty]

/-! ## Texts without a name in the key -/

/-- What can follow the name of the index: nothing, other words, or a key without a name. -/
inductive AfterIndex : String → Prop where
  | nothing : AfterIndex ""
  | words (rest : String) (hblank : (rest.toList.head?).any isBlank = true)
      (hkey : ¬ Contains rest keyMark) : AfterIndex rest
  | unnamedKey (after : String) : AfterIndex (" " ++ keyMark ++ " :" ++ after)

/-- Where neither side of the name of an index has the mark of a key, the whole text has none. -/
theorem not_isInfix_of_index {before rest : List Char} (h : Delimited field)
    (hbefore : ¬ keyMark.toList <:+: before) (hrest : ¬ keyMark.toList <:+: rest) :
    ¬ keyMark.toList <:+:
      before ++ (indexMark.toList ++ (field.toList ++ '_' :: '1' :: rest)) := by
  intro hall
  -- The mark of a key has no `i`, no `_` and no `1`. So an occurrence would lie before the index,
  -- after it, or between these characters, where one blank stands and the mark has two.
  have hname : ¬ keyMark.toList <:+: "ndex: ".toList ++ field.toList := by
    intro hin
    have hfield : field.toList.count ' ' = 0 :=
      List.count_eq_zero.2 fun hc => absurd (h.no_blank ' ' hc) (by decide)
    have hcount : keyMark.toList.count ' ' ≤ _ := hin.sublist.count_le ' '
    rw [List.count_append, hfield] at hcount
    exact absurd hcount (by decide)
  have houter : keyMark.toList <:+: before ∨
      keyMark.toList <:+: "ndex: ".toList ++ (field.toList ++ '_' :: '1' :: rest) :=
    isInfix_of_append_cons (by decide) hall
  rw [← List.append_assoc] at houter
  rcases houter with hin | hinner
  · exact hbefore hin
  · rcases isInfix_of_append_cons (by decide) hinner with hin | hdirection
    · exact hname hin
    · have hafter : keyMark.toList <:+: [] ∨ keyMark.toList <:+: rest :=
        isInfix_of_append_cons (by decide) hdirection
      exact hafter.elim (by decide) hrest

/-- A text with an index and no name in its key has no field in its key. -/
theorem keyField?_of_index {before rest : String} (h : Delimited field)
    (hbefore : ¬ Contains before keyMark) (hrest : AfterIndex rest) :
    keyField? (before ++ indexMark ++ field ++ "_1" ++ rest) = none := by
  have htext : (before ++ indexMark ++ field ++ "_1" ++ rest).toList = before.toList ++
      (indexMark.toList ++ (field.toList ++ '_' :: '1' :: rest.toList)) := by
    simp
  have hnone (hkey : ¬ Contains rest keyMark) :
      keyField? (before ++ indexMark ++ field ++ "_1" ++ rest) = none := by
    rw [keyField?, htext, splitOnce_eq_none (not_isInfix_of_index h hbefore hkey)]
  cases hrest with
  | nothing => exact hnone (by decide)
  | words rest hblank hkey => exact hnone hkey
  | unnamedKey after =>
      have hindex : ¬ keyMark.toList <:+:
          before.toList ++ (indexMark.toList ++ (field.toList ++ '_' :: '1' :: [' '])) :=
        not_isInfix_of_index h hbefore (by decide)
      have hsplit := splitOnce_of_mark startsOnce_keyMark hindex (' ' :: ':' :: after.toList)
      have hbeyond : (before ++ indexMark ++ field ++ "_1" ++
          (" " ++ keyMark ++ " :" ++ after)).toList =
          before.toList ++ (indexMark.toList ++ (field.toList ++ '_' :: '1' :: [' '])) ++
            keyMark.toList ++ (' ' :: ':' :: after.toList) := by
        simp
      have hblank : isBlank ' ' = true ∧ isBlank ':' = false := by decide
      have htrim : trim (.ofList []) = "" := by decide
      simp only [keyField?, hbeyond, hsplit]
      simp [hblank, htrim]

/-- What follows the name of an index is no part of its word. -/
theorem AfterIndex.takeWhile_eq_nil {rest : String} (h : AfterIndex rest) :
    (rest.toList.takeWhile fun c => !isBlank c) = [] := by
  cases h with
  | nothing => rfl
  | words rest hblank hkey =>
      cases hrest : rest.toList with
      | nil => rfl
      | cons c cs =>
          have hc : isBlank c = true := by simpa [hrest] using hblank
          simp [hc]
  | unnamedKey after =>
      have hblank : isBlank ' ' = true := by decide
      simp [hblank]

/-- The word after the mark of an index is its name, and one direction is cut off. -/
theorem indexField?_of_index {before rest : String} (h : Delimited field)
    (hbefore : ¬ Contains before indexMark) (hrest : AfterIndex rest) :
    indexField? (before ++ indexMark ++ field ++ "_1" ++ rest) = some field := by
  have htext : (before ++ indexMark ++ field ++ "_1" ++ rest).toList =
      before.toList ++ indexMark.toList ++ (field.toList ++ ('_' :: '1' :: rest.toList)) := by
    simp
  have hsplit := splitOnce_of_mark startsOnce_indexMark hbefore
    (field.toList ++ ('_' :: '1' :: rest.toList))
  have hdirection : isBlank '_' = false ∧ isBlank '1' = false := by decide
  have hword : ((field.toList ++ '_' :: '1' :: rest.toList).takeWhile fun c => !isBlank c) =
      field.toList ++ ['_', '1'] := by
    rw [List.takeWhile_append_of_pos fun c hc => by simp [h.no_blank c hc]]
    simp [hdirection, hrest.takeWhile_eq_nil]
  simp only [indexField?, htext, hsplit, h.dropWhile_isBlank, hword]
  simp [List.isPrefixOf]

/-! ## Both forms of the text -/

/-- The field of a duplicate key is recovered from either form of the server's text. With a name
in the key it is that name, whatever the value and the text after it are. Without one it is the name
of the index without its direction, also where the field itself ends like a direction. -/
theorem duplicate_field_recovered (field : String) (hfield : Delimited field) :
    (∀ before blanks after : String, ¬ Contains before keyMark → isBlankText blanks = true →
      duplicateField (before ++ keyMark ++ blanks ++ field ++ ":" ++ after) = some field) ∧
      ∀ before rest : String, ¬ Contains before indexMark → ¬ Contains before keyMark →
        AfterIndex rest →
        duplicateField (before ++ indexMark ++ field ++ "_1" ++ rest) = some field := by
  constructor
  · intro before blanks after hbefore hblanks
    rw [duplicateField_eq, keyField?_of_key hfield hbefore hblanks, Option.some_or]
  · intro before rest hindex hkey hrest
    rw [duplicateField_eq, keyField?_of_index hfield hkey hrest,
      indexField?_of_index hfield hindex hrest, Option.none_or]

/-- A field that ends like a direction: in the key, with a value that has the mark of a key itself,
and in the name of the index alone, before a key without a name. -/
theorem duplicate_field_recovered_rank :
    let value := " \"dup key: \x7b a: 1 \x7d\" \x7d"
    Delimited "rank_1" ∧ ¬ Contains "E11000 " indexMark ∧ ¬ Contains "E11000 " keyMark ∧
      duplicateField ("E11000 " ++ keyMark ++ " " ++ "rank_1" ++ ":" ++ value) = some "rank_1" ∧
      duplicateField ("E11000 " ++ indexMark ++ "rank_1" ++ "_1" ++
        (" " ++ keyMark ++ " :" ++ value)) = some "rank_1" := by
  intro value
  have hfield : Delimited "rank_1" := ⟨by decide, by decide, by simp [isBlank]⟩
  have hindex : ¬ Contains "E11000 " indexMark := by decide
  have hkey : ¬ Contains "E11000 " keyMark := by decide
  obtain ⟨hfromKey, hfromIndex⟩ := duplicate_field_recovered "rank_1" hfield
  exact ⟨hfield, hindex, hkey, hfromKey "E11000 " " " value hkey (by decide),
    hfromIndex "E11000 " _ hindex hkey (.unnamedKey value)⟩

end Server

end DocSchema
