import DocSchema.Text.Base16
import DocSchema.Text.Utf8

/-!
# DocSchema.Text.Percent

Percent-encoding: a `%` and two digits of base 16 stand for one byte of a text. A `%` without two
digits after it stands for itself.
-/

namespace DocSchema.Text

/-- The bytes that a text stands for. -/
def percentBytes : List Char → List UInt8
  | [] => []
  | '%' :: a :: b :: rest =>
    match hexValue? a, hexValue? b with
    | some x, some y => UInt8.ofNat (x * 16 + y) :: percentBytes rest
    | _, _ => 0x25 :: percentBytes (a :: b :: rest)
  | c :: rest => String.utf8EncodeChar c ++ percentBytes rest

/-- What a text stands for, which may be no text. -/
def percentDecode (cs : List Char) : SystemText := .ofBytes (percentBytes cs)

/-- Whether every `%` has two digits after it. -/
def isPercentEncoded : List Char → Bool
  | [] => true
  | '%' :: a :: b :: rest =>
    (hexValue? a).isSome && (hexValue? b).isSome && isPercentEncoded rest
  | c :: rest => c != '%' && isPercentEncoded rest

example : percentDecode "a%20b%".toList = .text "a b%" := by decide
example : percentDecode "%ff".toList = .undecodable [0xFF] := by decide

end DocSchema.Text
