import DocSchema.Text.Blank
import DocSchema.Text.Quoted

/-!
# DocSchema.Name

Names of collections and of indexed fields. Both types hold accepted names only: a value carries
the proof that the check of its kind found no fault.
-/

namespace DocSchema

/-- Why a name is refused. -/
inductive NameError where
  | empty
  | forbiddenCharacter (name : String) (character : Char)
  | reservedStart (name start : String)
deriving DecidableEq, Repr

/-- What a refused name is answered with. -/
def NameError.message : NameError → String
  | .empty => "name must not be empty"
  | .forbiddenCharacter name character =>
    "name " ++ Text.quote name ++ " contains forbidden character " ++ Text.quoteChar character
  | .reservedStart name start =>
    "name " ++ Text.quote name ++ " uses reserved prefix " ++ Text.quote start

/-- The fault of a collection name, if it has one: it is empty, it holds `$` or the character
zero (the first of them is named), or it begins like a name of the store's own. -/
def collectionNameFault? (name : String) : Option NameError :=
  if name.toList.isEmpty then some .empty
  else match name.toList.find? fun c => c == '$' || c == '\x00' with
    | some c => some (.forbiddenCharacter name c)
    | none =>
      if Text.beginsWith "system.".toList name then some (.reservedStart name "system.") else none

/-- The fault of a field name, if it has one: it is empty, it begins like an operator, or it holds
the character zero. -/
def fieldNameFault? (name : String) : Option NameError :=
  if name.toList.isEmpty then some .empty
  else if Text.beginsWith ['$'] name then some (.reservedStart name "$")
  else if name.toList.contains '\x00' then some (.forbiddenCharacter name '\x00')
  else none

/-- The name of a collection. -/
structure CollectionName where
  text : String
  accepted : collectionNameFault? text = none
deriving DecidableEq

/-- The name of a document field that an index covers; it may be a dotted path. -/
structure FieldName where
  text : String
  accepted : fieldNameFault? text = none
deriving DecidableEq

namespace CollectionName

/-- The collection name with this text, or the fault of the text. -/
def ofText (s : String) : Except NameError CollectionName :=
  match h : collectionNameFault? s with
  | none => .ok ⟨s, h⟩
  | some e => .error e

/-- Names are ordered by the code points of their texts, which is the order of their bytes. -/
instance : LT CollectionName := ⟨fun a b => a.text < b.text⟩

instance (a b : CollectionName) : Decidable (a < b) := inferInstanceAs (Decidable (a.text < b.text))

@[ext] theorem ext {a b : CollectionName} (h : a.text = b.text) : a = b := by
  cases a; cases b; simp_all

/-- Every name is read back from its own text. -/
@[simp] theorem ofText_text (a : CollectionName) : ofText a.text = .ok a := by
  unfold ofText
  split
  · rfl
  · next e h => simp [a.accepted] at h

/-- The constructor shown around a name. -/
def describe (a : CollectionName) : String := "CollectionName(" ++ a.text ++ ")"

end CollectionName

namespace FieldName

/-- The field name with this text, or the fault of the text. -/
def ofText (s : String) : Except NameError FieldName :=
  match h : fieldNameFault? s with
  | none => .ok ⟨s, h⟩
  | some e => .error e

@[ext] theorem ext {a b : FieldName} (h : a.text = b.text) : a = b := by
  cases a; cases b; simp_all

/-- Every name is read back from its own text. -/
@[simp] theorem ofText_text (a : FieldName) : ofText a.text = .ok a := by
  unfold ofText
  split
  · rfl
  · next e h => simp [a.accepted] at h

/-- The constructor shown around a name. -/
def describe (a : FieldName) : String := "FieldName(" ++ a.text ++ ")"

end FieldName

/-- Puts a name into an ascending list, unless it is there. -/
def insertName (a : CollectionName) : List CollectionName → List CollectionName
  | [] => [a]
  | b :: bs => if a < b then a :: b :: bs else if a = b then b :: bs else b :: insertName a bs

/-- The names in ascending order, each once. -/
def sortNames (names : List CollectionName) : List CollectionName := names.foldr insertName []

end DocSchema
