/-!
# DocSchema.Duration

Spans of time in nanoseconds and their text: the largest unit that is at least one, with as many
places as the span needs.
-/

namespace DocSchema

/-- A span of time. -/
structure Duration where
  nanoseconds : Nat
deriving DecidableEq, Repr

namespace Duration

/-- A span of whole milliseconds. -/
def ofMillis (n : Nat) : Duration := ⟨n * 1000000⟩

/-- How many milliseconds a span takes, where one that has begun counts as a whole one. -/
def millis (d : Duration) : Nat := (d.nanoseconds + 999999) / 1000000

/-- A span of whole seconds. -/
def ofSeconds (n : Nat) : Duration := ⟨n * 1000000000⟩

/-- The digits of `n` below `10 ^ width`, with leading zeros up to `width` places. -/
def paddedDigits (width n : Nat) : List Char :=
  let digits := Nat.toDigits 10 n
  List.replicate (width - digits.length) '0' ++ digits

/-- Digits after a decimal point without the zeros at their end. -/
def dropTrailingZeros (digits : List Char) : List Char :=
  (digits.reverse.dropWhile (· == '0')).reverse

/-- The fraction `part / 10 ^ width` after a decimal point; nothing when it is zero. -/
def fraction (width part : Nat) : List Char :=
  if part = 0 then [] else '.' :: dropTrailingZeros (paddedDigits width part)

/-- The text of a span, such as `1.5s` or `20ms`. -/
def text (d : Duration) : String :=
  let n := d.nanoseconds
  if 1000000000 ≤ n then
    .ofList (Nat.toDigits 10 (n / 1000000000) ++ fraction 9 (n % 1000000000)) ++ "s"
  else if 1000000 ≤ n then
    .ofList (Nat.toDigits 10 (n / 1000000) ++ fraction 6 (n % 1000000)) ++ "ms"
  else if 1000 ≤ n then
    .ofList (Nat.toDigits 10 (n / 1000) ++ fraction 3 (n % 1000)) ++ "µs"
  else .ofList (Nat.toDigits 10 n) ++ "ns"

end Duration

end DocSchema
