/-!
# DocSchema.Text.Blank

White space in the sense of Unicode, and texts with the white space at both ends cut off.

A database name made of white space alone counts as no name, and the name of a soft-delete
convention may be padded; both rules speak of this class of characters.
-/

namespace DocSchema.Text

/-- The characters with the Unicode property White_Space. -/
def isBlank (c : Char) : Bool :=
  let n := c.toNat
  (9 ≤ n && n ≤ 13) || n == 0x20 || n == 0x85 || n == 0xA0 || n == 0x1680 ||
    (0x2000 ≤ n && n ≤ 0x200A) || n == 0x2028 || n == 0x2029 || n == 0x202F || n == 0x205F ||
    n == 0x3000

/-- A text without the blanks at its two ends. -/
def trim (s : String) : String :=
  .ofList (((s.toList.dropWhile isBlank).reverse.dropWhile isBlank).reverse)

/-- A text that holds nothing but blanks. -/
def isBlankText (s : String) : Bool := s.toList.all isBlank

/-- The letters `A` to `Z` in lower case; every other character stays. -/
def lowerAscii (s : String) : String := .ofList (s.toList.map Char.toLower)

/-- Whether a text begins with the given characters. -/
def beginsWith (start : List Char) (s : String) : Bool := start.isPrefixOf s.toList

end DocSchema.Text
