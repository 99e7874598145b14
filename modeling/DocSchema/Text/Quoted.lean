import DocSchema.Text.Base16
import DocSchema.Text.Hidden

/-!
# DocSchema.Text.Quoted

Texts and characters in quotes, as messages cite them. Whatever is not visible on its own is
written as an escape, so that the cited text can be told from the words around it.
-/

namespace DocSchema.Text

/-- A character cited between two marks: the mark and the backslash take a backslash, the common
controls have letters, and every other hidden character is shown by its number. -/
def citeChar (mark c : Char) : List Char :=
  if c = mark ∨ c = '\\' then ['\\', c]
  else if c = '\x00' then ['\\', '0']
  else if c = '\t' then ['\\', 't']
  else if c = '\n' then ['\\', 'n']
  else if c = '\r' then ['\\', 'r']
  else if isHidden c then ['\\', 'u', '\x7b'] ++ hexDigits c.toNat ++ ['\x7d']
  else [c]

/-- A text in double quotes. -/
def quote (s : String) : String :=
  .ofList ('"' :: s.toList.flatMap (citeChar '"') ++ ['"'])

/-- A character in single quotes. -/
def quoteChar (c : Char) : String := .ofList ('\'' :: citeChar '\'' c ++ ['\''])

end DocSchema.Text
