import DocSchema.Json.Token
import DocSchema.Json.Writer

/-!
# DocSchema.Proofs.JsonTokens

The tokens of the written forms of JSON documents.

Both forms of a document, compact and indented, differ in their blanks alone, so they have the same
tokens: those that `tokensOf` lists along the document. This is said of plain documents, which hold
no numbers, since a number may run on into what stands after it; every other piece of text has its
tokens whatever comes after (`Yields`), so the pieces of a document can be put together:

* `readString_escaped`: a string is read back from its escapes, character by character;
* `yields_compact` and `yields_indented`: the tokens of the two forms.
-/

namespace DocSchema.Json

/-! ## Strings -/

/-- A digit of a number below 16 has that number as its value. -/
theorem hexValue?_digitChar {n : Nat} (h : n < 16) : Text.hexValue? (Nat.digitChar n) = some n := by
  have hall : ∀ n < 16, Text.hexValue? (Nat.digitChar n) = some n := by decide
  exact hall n h

/-- A control is read back from its four digits. -/
theorem unescape_control {c : Char} (h : c.toNat < 0x20) (rest : List Char) :
    unescape ('u' :: '0' :: '0' :: Nat.digitChar (c.toNat / 16) :: Nat.digitChar (c.toNat % 16) ::
      rest) = .ok (c, rest) := by
  have hzero : Text.hexValue? '0' = some 0 := by decide
  have hhigh := hexValue?_digitChar (n := c.toNat / 16) (by omega)
  have hlow := hexValue?_digitChar (n := c.toNat % 16) (by omega)
  have hvalue : 0 * 4096 + 0 * 256 + c.toNat / 16 * 16 + c.toNat % 16 = c.toNat := by omega
  have hquad : hexQuad ('0' :: '0' :: Nat.digitChar (c.toNat / 16) ::
      Nat.digitChar (c.toNat % 16) :: rest) = .ok (c.toNat, rest) := by
    simp only [hexQuad, hzero, hhigh, hlow, hvalue]
  have hnot : ¬ (0xDC00 ≤ c.toNat ∧ c.toNat ≤ 0xDFFF) := by omega
  have hlead : c.toNat < 0xD800 ∨ 0xDBFF < c.toNat := by omega
  rw [unescape, hquad]
  simp only [bind, Except.bind, if_neg hnot, if_pos hlead, Char.ofNat_toNat]

/-- A character stands for itself inside a string, unless it ends the string, begins an escape or is
a control; then it has an escape. -/
theorem escapeChar_cases (c : Char) :
    (escapeChar c = [c] ∧ c ≠ '"' ∧ c ≠ '\\' ∧ ¬ c.toNat < 0x20) ∨
      ∃ cs, escapeChar c = '\\' :: cs ∧ ∀ rest, unescape (cs ++ rest) = .ok (c, rest) := by
  unfold escapeChar
  split
  · next h => exact .inr ⟨[c], rfl, fun rest => by rcases h with rfl | rfl <;> rfl⟩
  split
  · next h => exact .inr ⟨['b'], rfl, fun rest => by subst h; rfl⟩
  split
  · next h => exact .inr ⟨['t'], rfl, fun rest => by subst h; rfl⟩
  split
  · next h => exact .inr ⟨['n'], rfl, fun rest => by subst h; rfl⟩
  split
  · next h => exact .inr ⟨['f'], rfl, fun rest => by subst h; rfl⟩
  split
  · next h => exact .inr ⟨['r'], rfl, fun rest => by subst h; rfl⟩
  split
  · next h => exact .inr ⟨_, rfl, unescape_control h⟩
  · next h _ _ _ _ _ hcontrol =>
    exact .inl ⟨rfl, fun hc => h (.inl hc), fun hc => h (.inr hc), hcontrol⟩

/-- A string is read back from its escapes, up to the closing quote. -/
theorem readString_escaped (s rest : List Char) {fuel : Nat}
    (h : (s.flatMap escapeChar).length < fuel) :
    readString fuel (s.flatMap escapeChar ++ '"' :: rest) = .ok (s, rest) := by
  induction s generalizing fuel with
  | nil =>
      cases fuel with
      | zero => exact absurd h (Nat.not_lt_zero _)
      | succ fuel => rfl
  | cons c s ih =>
      cases fuel with
      | zero => exact absurd h (Nat.not_lt_zero _)
      | succ fuel =>
          rw [List.flatMap_cons, List.length_append] at h
          rw [List.flatMap_cons, List.append_assoc]
          rcases escapeChar_cases c with ⟨hself, hquote, hbackslash, hcontrol⟩ | ⟨cs, hcs, hback⟩
          · rw [hself, List.length_singleton] at h
            have hrest : readString fuel (s.flatMap escapeChar ++ '"' :: rest) = .ok (s, rest) :=
              ih (by omega)
            rw [hself, List.singleton_append, readString, if_neg hquote, if_neg hbackslash,
              if_neg hcontrol, hrest]
            rfl
          · rw [hcs, List.length_cons] at h
            have hrest : readString fuel (s.flatMap escapeChar ++ '"' :: rest) = .ok (s, rest) :=
              ih (by omega)
            have hquote : ('\\' : Char) ≠ '"' := by decide
            rw [hcs, List.cons_append, readString, if_neg hquote, if_pos rfl, hback]
            simp only [bind, Except.bind, hrest]

/-- The token at an opening quote is the string. -/
theorem scanString_escaped (s rest : List Char) :
    scanString (s.flatMap escapeChar ++ '"' :: rest) = (.string (.ofList s), some rest) := by
  have hlength : (s.flatMap escapeChar).length < (s.flatMap escapeChar ++ '"' :: rest).length := by
    rw [List.length_append, List.length_cons]
    omega
  simp only [scanString, readString_escaped s rest hlength]

/-! ## Pieces of text -/

/-- Characters with these tokens, whatever comes after them. -/
def Yields (cs : List Char) (ts : List Token) : Prop :=
  ∀ rest fuel, (cs ++ rest).length ≤ fuel →
    ∃ left, rest.length ≤ left ∧ scan fuel (cs ++ rest) = ts ++ scan left rest

theorem yields_nil : Yields [] [] := fun _ fuel h => ⟨fuel, h, rfl⟩

/-- Pieces of text are put together like their tokens. -/
theorem Yields.append {cs ds : List Char} {ts us : List Token} (hcs : Yields cs ts)
    (hds : Yields ds us) : Yields (cs ++ ds) (ts ++ us) := by
  intro rest fuel h
  rw [List.append_assoc] at h ⊢
  obtain ⟨middle, hmiddle, hscan⟩ := hcs (ds ++ rest) fuel h
  obtain ⟨left, hleft, hscan'⟩ := hds rest middle hmiddle
  exact ⟨left, hleft, by rw [hscan, hscan', List.append_assoc]⟩

theorem Yields.cons {c : Char} {cs : List Char} {ts us : List Token} (hc : Yields [c] ts)
    (hcs : Yields cs us) : Yields (c :: cs) (ts ++ us) := hc.append hcs

/-- Characters that may stand between tokens have none. -/
theorem yields_spaces {cs : List Char} (h : ∀ c ∈ cs, isSpace c = true) : Yields cs [] := by
  induction cs with
  | nil => exact yields_nil
  | cons c cs ih =>
      obtain ⟨hc, hcs⟩ := List.forall_mem_cons.1 h
      have hspace : Yields [c] [] := fun rest fuel hfuel => by
        cases fuel with
        | zero => exact absurd hfuel (Nat.not_succ_le_zero _)
        | succ fuel =>
            refine ⟨fuel, Nat.le_of_succ_le_succ hfuel, ?_⟩
            rw [List.singleton_append, scan, if_pos hc, List.nil_append]
      exact hspace.cons (ih hcs)

/-- Characters that are taken as one token have that token. -/
theorem yields_token {c : Char} {cs : List Char} {t : Token} (hc : isSpace c = false)
    (h : ∀ rest, scanToken c (cs ++ rest) = (t, some rest)) : Yields (c :: cs) [t] := by
  intro rest fuel hfuel
  cases fuel with
  | zero => exact absurd hfuel (Nat.not_succ_le_zero _)
  | succ fuel =>
      rw [List.cons_append, List.length_cons, List.length_append] at hfuel
      refine ⟨fuel, by omega, ?_⟩
      rw [List.cons_append, scan, if_neg (Bool.eq_false_iff.1 hc), h]
      rfl

/-- A written string has one token. -/
theorem yields_string (s : String) : Yields (stringChars s) [.string s] := by
  have hchars : stringChars s = '"' :: (s.toList.flatMap escapeChar ++ ['"']) := rfl
  rw [hchars]
  refine yields_token rfl fun rest => ?_
  have hscan := scanString_escaped s.toList rest
  rw [String.ofList_toList] at hscan
  rw [List.append_assoc, List.singleton_append]
  exact hscan

/-- So has a written truth value. -/
theorem yields_bool (b : Bool) : Yields (boolChars b) [.bool b] := by
  cases b with
  | true => exact (yields_token rfl fun _ => rfl : Yields ('t' :: ['r', 'u', 'e']) [.bool true])
  | false =>
      exact (yields_token rfl fun _ => rfl : Yields ('f' :: ['a', 'l', 's', 'e']) [.bool false])

theorem yields_null : Yields "null".toList [.null] :=
  (yields_token rfl fun _ => rfl : Yields ('n' :: ['u', 'l', 'l']) [.null])

/-- The beginning of a line has no token. -/
theorem yields_newline (depth : Nat) : Yields (newline depth) [] := by
  refine yields_spaces fun c hc => ?_
  rcases List.mem_cons.1 hc with rfl | hc
  · rfl
  · rw [List.eq_of_mem_replicate hc]
    rfl

/-- A piece of text keeps its tokens before the beginning of a line. -/
theorem Yields.append_newline {cs : List Char} {ts : List Token} (h : Yields cs ts) (depth : Nat) :
    Yields (cs ++ newline depth) ts := by
  have happend := h.append (yields_newline depth)
  rwa [List.append_nil] at happend

/-! ## Documents -/

/-- The comma before an item or a field that is not the first. -/
def separator (first : Bool) : List Token := if first then [] else [.comma]

theorem yields_separator (first : Bool) :
    Yields (if first then [] else [',']) (separator first) := by
  cases first with
  | true => exact yields_nil
  | false => exact yields_token rfl fun _ => rfl

mutual

/-- The tokens of a document. -/
def tokensOf : Json → List Token
  | .null => [.null]
  | .bool b => [.bool b]
  | .integer n => [.integer n]
  | .real d => [.real d]
  | .string s => [.string s]
  | .array items => .openBracket :: itemTokens true items ++ [.closeBracket]
  | .object fields => .openBrace :: fieldTokens true fields ++ [.closeBrace]

def itemTokens (first : Bool) : List Json → List Token
  | [] => []
  | j :: js => separator first ++ tokensOf j ++ itemTokens false js

def fieldTokens (first : Bool) : List (String × Json) → List Token
  | [] => []
  | (key, j) :: fields =>
    separator first ++ [.string key] ++ .colon :: tokensOf j ++ fieldTokens false fields

end

mutual

/-- Whether no number stands in a document and no object in it gives a name twice. -/
def IsPlain : Json → Prop
  | .null | .bool _ | .string _ => True
  | .integer _ | .real _ => False
  | .array items => ItemsArePlain items
  | .object fields => (fields.map (·.1)).Nodup ∧ FieldsArePlain fields

def ItemsArePlain : List Json → Prop
  | [] => True
  | j :: js => IsPlain j ∧ ItemsArePlain js

def FieldsArePlain : List (String × Json) → Prop
  | [] => True
  | (_, j) :: fields => IsPlain j ∧ FieldsArePlain fields

end

/-- A list is plain when its items are. -/
theorem itemsArePlain_map {α : Type} {toJson : α → Json} {as : List α}
    (h : ∀ a ∈ as, IsPlain (toJson a)) : ItemsArePlain (as.map toJson) := by
  induction as with
  | nil => exact trivial
  | cons a as ih =>
      obtain ⟨ha, has⟩ := List.forall_mem_cons.1 h
      exact ⟨ha, ih has⟩

/-! ## The two forms -/

theorem yields_openBracket : Yields ['['] [.openBracket] := yields_token rfl fun _ => rfl
theorem yields_closeBracket : Yields [']'] [.closeBracket] := yields_token rfl fun _ => rfl
theorem yields_openBrace : Yields ['\x7b'] [.openBrace] := yields_token rfl fun _ => rfl
theorem yields_closeBrace : Yields ['\x7d'] [.closeBrace] := yields_token rfl fun _ => rfl
theorem yields_colon : Yields [':'] [.colon] := yields_token rfl fun _ => rfl

mutual

/-- The compact form has the tokens of the document. -/
theorem yields_compact : (j : Json) → IsPlain j → Yields (compactChars j) (tokensOf j)
  | .null, _ => yields_null
  | .bool b, _ => yields_bool b
  | .string s, _ => yields_string s
  | .integer _, h | .real _, h => h.elim
  | .array items, h =>
      (yields_openBracket.cons (yields_compactItems true items h)).append yields_closeBracket
  | .object fields, h =>
      (yields_openBrace.cons (yields_compactFields true fields h.2)).append yields_closeBrace

theorem yields_compactItems : (first : Bool) → (js : List Json) → ItemsArePlain js →
    Yields (compactItems first js) (itemTokens first js)
  | _, [], _ => yields_nil
  | first, j :: js, h =>
      ((yields_separator first).append (yields_compact j h.1)).append
        (yields_compactItems false js h.2)

theorem yields_compactFields : (first : Bool) → (fields : List (String × Json)) →
    FieldsArePlain fields → Yields (compactFields first fields) (fieldTokens first fields)
  | _, [], _ => yields_nil
  | first, (key, j) :: fields, h =>
      (((yields_separator first).append (yields_string key)).append
        (yields_colon.cons (yields_compact j h.1))).append (yields_compactFields false fields h.2)

end

mutual

/-- The indented form has the same tokens, at every depth. -/
theorem yields_indented : (depth : Nat) → (j : Json) → IsPlain j →
    Yields (indentedChars depth j) (tokensOf j)
  | _, .null, _ => yields_null
  | _, .bool b, _ => yields_bool b
  | _, .string s, _ => yields_string s
  | _, .integer _, h | _, .real _, h => h.elim
  | _, .array [], _ => yields_openBracket.cons yields_closeBracket
  | depth, .array (j :: js), h =>
      have hitems := yields_indentedItems (depth + 1) true (j :: js) h
      ((yields_openBracket.cons hitems).append_newline depth).append yields_closeBracket
  | _, .object [], _ => yields_openBrace.cons yields_closeBrace
  | depth, .object (f :: fields), h =>
      have hfields := yields_indentedFields (depth + 1) true (f :: fields) h.2
      ((yields_openBrace.cons hfields).append_newline depth).append yields_closeBrace

theorem yields_indentedItems : (depth : Nat) → (first : Bool) → (js : List Json) →
    ItemsArePlain js → Yields (indentedItems depth first js) (itemTokens first js)
  | _, _, [], _ => yields_nil
  | depth, first, j :: js, h =>
      (((yields_separator first).append_newline depth).append (yields_indented depth j h.1)).append
        (yields_indentedItems depth false js h.2)

theorem yields_indentedFields : (depth : Nat) → (first : Bool) →
    (fields : List (String × Json)) → FieldsArePlain fields →
      Yields (indentedFields depth first fields) (fieldTokens first fields)
  | _, _, [], _ => yields_nil
  | depth, first, (key, j) :: fields, h =>
      have hblank : Yields [' '] [] := yields_spaces (List.forall_mem_singleton.2 rfl)
      ((((yields_separator first).append_newline depth).append (yields_string key)).append
        (yields_colon.cons (hblank.cons (yields_indented depth j h.1)))).append
          (yields_indentedFields depth false fields h.2)

end

/-! ## Whole texts -/

/-- A text that is one piece has its tokens. -/
theorem Yields.tokens {cs : List Char} {ts : List Token} (h : Yields cs ts) :
    tokens (.ofList cs) = ts := by
  obtain ⟨left, -, hscan⟩ := h [] cs.length (Nat.le_of_eq (by rw [List.append_nil]))
  have hnone : scan left [] = [] := by cases left <;> rfl
  rw [List.append_nil, hnone, List.append_nil] at hscan
  rw [Json.tokens, String.toList_ofList, hscan]

theorem tokens_compact {j : Json} (h : IsPlain j) : tokens j.compact = tokensOf j :=
  (yields_compact j h).tokens

theorem tokens_indented {j : Json} (h : IsPlain j) : tokens j.indented = tokensOf j :=
  (yields_indented 0 j h).tokens

/-- The end of the line after a document has no token. -/
theorem tokens_indented_append_newline {j : Json} (h : IsPlain j) :
    tokens (j.indented ++ "\n") = tokensOf j := by
  have htext : j.indented ++ "\n" = .ofList (indentedChars 0 j ++ newline 0) := by
    rw [String.ofList_append]
    rfl
  rw [htext]
  exact ((yields_indented 0 j h).append_newline 0).tokens

end DocSchema.Json
