/-!
# DocSchema.Text.Split

Taking texts apart at a mark, and reading the numerals in them.
-/

namespace DocSchema.Text

/-- The parts of a list between the occurrences of a mark. There is always at least one, and parts
may be empty. -/
def splitAll {α : Type} [DecidableEq α] (mark : α) : List α → List (List α)
  | [] => [[]]
  | c :: cs =>
    if c = mark then [] :: splitAll mark cs
    else match splitAll mark cs with
      | [] => [[c]]
      | part :: parts => (c :: part) :: parts

/-- What stands before and after the first occurrence of a mark. -/
def splitOnce (mark : List Char) : List Char → Option (List Char × List Char)
  | [] => if mark.isEmpty then some ([], []) else none
  | c :: cs =>
    if mark.isPrefixOf (c :: cs) then some ([], (c :: cs).drop mark.length)
    else (splitOnce mark cs).map fun parts => (c :: parts.1, parts.2)

theorem splitAll_ne_nil {α : Type} [DecidableEq α] (mark : α) (cs : List α) :
    splitAll mark cs ≠ [] := by
  cases cs with
  | nil => simp [splitAll]
  | cons c cs =>
    simp only [splitAll]
    split
    · simp
    · split <;> simp

/-- A part before a mark is split off whole. -/
theorem splitAll_append {α : Type} [DecidableEq α] (mark : α) (cs ds : List α) :
    splitAll mark (cs ++ mark :: ds) = splitAll mark cs ++ splitAll mark ds := by
  induction cs with
  | nil => simp [splitAll]
  | cons c cs ih =>
    simp only [List.cons_append, splitAll, ih]
    split
    · rfl
    · cases h : splitAll mark cs with
      | nil => exact absurd h (splitAll_ne_nil mark cs)
      | cons part parts => rfl

/-- The value of decimal digits. -/
def digitsValue (digits : List Char) : Nat := digits.foldl (fun n c => n * 10 + (c.toNat - 48)) 0

/-- An unsigned number below a limit, written in decimal digits with or without a `+`. -/
def unsigned? (limit : Nat) (cs : List Char) : Option Nat :=
  let digits := match cs with
    | '+' :: rest => rest
    | _ => cs
  if digits.isEmpty || !digits.all Char.isDigit then none
  else if digitsValue digits < limit then some (digitsValue digits) else none

/-- Why a text is not a number of a given range. -/
inductive NumeralFault where
  | empty
  | notDigit
  | tooLarge
  | tooSmall
deriving DecidableEq, Repr

/-- How a message says why a text is not a number. -/
def NumeralFault.message : NumeralFault → String
  | .empty => "cannot parse integer from empty string"
  | .notDigit => "invalid digit found in string"
  | .tooLarge => "number too large to fit in target type"
  | .tooSmall => "number too small to fit in target type"

/-- Reads digits after those of `n`, up to the first that is none or leads beyond the limit. -/
def readDigits (limit : Nat) (beyond : NumeralFault) : Nat → List Char → Except NumeralFault Nat
  | n, [] => .ok n
  | n, c :: cs =>
    if !c.isDigit then .error .notDigit
    else
      let m := n * 10 + (c.toNat - 48)
      if limit < m then .error beyond else readDigits limit beyond m cs

/-- A number from `-limit` up to but without `limit`, in decimal digits with or without a sign. -/
def signed? (limit : Nat) (cs : List Char) : Except NumeralFault Int :=
  match cs with
  | [] => .error .empty
  | ['-'] | ['+'] => .error .notDigit
  | '-' :: digits => (readDigits limit .tooSmall 0 digits).map fun n => -(n : Int)
  | '+' :: digits => (readDigits (limit - 1) .tooLarge 0 digits).map fun n => (n : Int)
  | digits => (readDigits (limit - 1) .tooLarge 0 digits).map fun n => (n : Int)

example : signed? 128 "-128".toList = .ok (-128) := rfl
example : signed? 128 "+128".toList = .error .tooLarge := rfl

end DocSchema.Text
