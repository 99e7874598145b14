/-!
# DocSchema.Text.Similarity

How similar two texts are, after Jaro and Winkler: a double from zero for texts without a character
in common to one for equal texts.

Characters match when they are equal and not further apart than a window allows; each character
matches once. The measure is the mean of the share of matches in either text and of the share of
matches that come in the same order in both. Texts that are similar at all gain from a common
beginning.
-/

namespace DocSchema.Text

/-- Takes the first free place from `low` up to, but without, `high` that holds a character, if
there is one. The third number is that of the first place in the list. -/
def takePlace (c : Char) (low high : Nat) : Nat → List (Char × Bool) → Option (List (Char × Bool))
  | _, [] => none
  | i, (d, taken) :: places =>
    if low ≤ i && i < high && c == d && !taken then some ((d, true) :: places)
    else (takePlace c low high (i + 1) places).map ((d, taken) :: ·)

/-- The characters from place `i` on that find a partner, and the places with the partners taken. -/
def findPartners (window : Nat) :
    Nat → List Char → List (Char × Bool) → List Char × List (Char × Bool)
  | _, [], places => ([], places)
  | i, c :: cs, places =>
    match takePlace c (i - window) (i + window + 1) 0 places with
    | some places =>
      let (matched, places) := findPartners window (i + 1) cs places
      (c :: matched, places)
    | none => findPartners window (i + 1) cs places

/-- The similarity without regard to a common beginning. -/
def jaro (a b : List Char) : Float :=
  if a.isEmpty && b.isEmpty then 1
  else
    let window := max a.length b.length / 2 - 1
    let (matched, places) := findPartners window 0 a (b.map (·, false))
    let partners := (places.filter (·.2)).map (·.1)
    let outOfOrder := ((matched.zip partners).filter fun p => p.1 != p.2).length / 2
    let count := matched.length.toFloat
    if matched.isEmpty then 0
    else
      (count / a.length.toFloat + count / b.length.toFloat +
        (matched.length - outOfOrder).toFloat / count) / 3

/-- The number of characters at the beginning that two texts share. -/
def sharedStart : List Char → List Char → Nat
  | a :: as, b :: bs => if a = b then sharedStart as bs + 1 else 0
  | _, _ => 0

/-- The similarity of two texts. Up to four characters at the beginning count. -/
def similarity (a b : String) : Float :=
  let s := jaro a.toList b.toList
  if 0.7 < s then
    s + 0.1 * (sharedStart (a.toList.take 4) b.toList).toFloat * (1 - s)
  else s

end DocSchema.Text
