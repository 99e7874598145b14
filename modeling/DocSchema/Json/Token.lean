import DocSchema.Json.Fault
import DocSchema.Text.Base16
import DocSchema.Text.Split

/-!
# DocSchema.Json.Token

The tokens of a JSON text. Between the text and the values read from it stands a list of tokens, in
which blanks are gone and strings and numbers have their values.

A text that goes wrong inside a token still has tokens: the list then ends in a spoilt token with
the fault. A spoilt token knows two faults, as a value that is asked for is looked at more closely
than one that is passed over: `"\ud800"` or `1e999` can be passed over, but have no value.
-/

namespace DocSchema.Json

/-- What a token that went wrong began as. -/
inductive Beginning where
  | string
  | null
  | other
deriving DecidableEq, Repr

/-- A token of a JSON text. -/
inductive Token where
  | openBrace
  | closeBrace
  | openBracket
  | closeBracket
  | comma
  | colon
  | null
  | bool (b : Bool)
  | integer (n : Int)
  | real (d : Binary64)
  | string (s : String)
  /-- A string, number or word without a value: the fault when its value is asked for, and the
  fault when it is passed over, if it cannot be passed over. -/
  | spoilt (began : Beginning) (asked : Fault) (passed : Option Fault)
  /-- A character that begins no token. -/
  | stray
deriving DecidableEq, Repr

/-- A token and the characters after it; none where the text cannot be followed any further. -/
abbrev Scanned := Token × Option (List Char)

/-! ## Strings -/

/-- The four digits after `\u`. A text that ends before four more bytes ends in the string. -/
def hexQuad : List Char → Except Fault (Nat × List Char)
  | a :: b :: c :: d :: rest =>
    match Text.hexValue? a, Text.hexValue? b, Text.hexValue? c, Text.hexValue? d with
    | some a, some b, some c, some d => .ok (a * 4096 + b * 256 + c * 16 + d, rest)
    | _, _, _, _ => .error .invalidEscape
  | cs =>
    if 4 ≤ cs.foldl (fun n c => n + c.utf8Size) 0 then .error .invalidEscape
    else .error .endInString

/-- The character that an escape stands for, after its backslash. Beyond the first 65536 code
points it takes two escapes, a leading and a trailing surrogate. -/
def unescape : List Char → Except Fault (Char × List Char)
  | [] => .error .endInString
  | 'u' :: cs => do
    let (n, cs) ← hexQuad cs
    if 0xDC00 ≤ n ∧ n ≤ 0xDFFF then .error .loneSurrogate
    else if n < 0xD800 ∨ 0xDBFF < n then .ok (Char.ofNat n, cs)
    else match cs with
      | [] => .error .endInString
      | ['\\'] => .error .endInString
      | '\\' :: 'u' :: cs => do
        let (m, cs) ← hexQuad cs
        if 0xDC00 ≤ m ∧ m ≤ 0xDFFF then
          .ok (Char.ofNat (0x10000 + (n - 0xD800) * 1024 + (m - 0xDC00)), cs)
        else .error .loneSurrogate
      | _ => .error .unpairedEscape
  | c :: cs =>
    if c = '"' ∨ c = '\\' ∨ c = '/' then .ok (c, cs)
    else if c = 'b' then .ok ('\x08', cs)
    else if c = 'f' then .ok ('\x0c', cs)
    else if c = 'n' then .ok ('\n', cs)
    else if c = 'r' then .ok ('\r', cs)
    else if c = 't' then .ok ('\t', cs)
    else .error .invalidEscape

/-- The characters of a string after its opening quote, and the text after its closing quote. Each
step takes a character at least, so the length of the text is fuel enough. -/
def readString : Nat → List Char → Except Fault (List Char × List Char)
  | 0, _ => .error .endInString
  | _ + 1, [] => .error .endInString
  | fuel + 1, c :: cs =>
    if c = '"' then .ok ([], cs)
    else if c = '\\' then do
      let (c, cs) ← unescape cs
      let (s, rest) ← readString fuel cs
      .ok (c :: s, rest)
    else if c.toNat < 0x20 then .error .controlCharacter
    else do
      let (s, rest) ← readString fuel cs
      .ok (c :: s, rest)

/-- The text after an escape that is passed over: surrogates need no partner. -/
def passEscape : List Char → Except Fault (List Char)
  | [] => .error .endInString
  | 'u' :: cs => (hexQuad cs).map (·.2)
  | c :: cs => if "\"\\/bfnrt".toList.contains c then .ok cs else .error .invalidEscape

/-- The text after the closing quote of a string that is passed over. -/
def passString : Nat → List Char → Except Fault (List Char)
  | 0, _ => .error .endInString
  | _ + 1, [] => .error .endInString
  | fuel + 1, c :: cs =>
    if c = '"' then .ok cs
    else if c = '\\' then do passString fuel (← passEscape cs)
    else if c.toNat < 0x20 then .error .controlCharacter
    else passString fuel cs

/-- The string token after an opening quote. -/
def scanString (cs : List Char) : Scanned :=
  match readString cs.length cs with
  | .ok (s, rest) => (.string (.ofList s), some rest)
  | .error asked =>
    match passString cs.length cs with
    | .ok rest => (.spoilt .string asked none, some rest)
    | .error passed => (.spoilt .string asked (some passed), none)

/-! ## Words and numbers -/

/-- The rest of a word whose first letter was met. -/
def scanWord (began : Beginning) (value : Token) : List Char → List Char → Scanned
  | [], cs => (value, some cs)
  | _ :: _, [] => (.spoilt began .endInValue (some .endInValue), none)
  | l :: ls, c :: cs =>
    if l = c then scanWord began value ls cs
    else (.spoilt began .expectedWord (some .expectedWord), none)

/-- The parts of a numeral: digits before the point, digits after it, and the exponent. -/
structure Numeral where
  negative : Bool
  whole : List Char
  fraction : List Char
  exponent : Option (Bool × List Char)
deriving DecidableEq, Repr

/-- A numeral that ends where a digit is wanted, or goes on with something else. -/
def brokenNumber (rest : List Char) : Scanned :=
  let asked := if rest.isEmpty then Fault.endInValue else .invalidNumber
  (.spoilt .other asked (some .invalidNumber), none)

/-- Takes digits as long as the number they form stays below `2 ^ 64`: the number, and how many
digits are left over. -/
def takeDigits : Nat → List Char → Nat × Nat
  | n, [] => (n, 0)
  | n, c :: cs =>
    let m := n * 10 + (c.toNat - 48)
    if m < Nat.pow 2 64 then takeDigits m cs else (n, cs.length + 1)

/-- `f * 10 ^ e` in steps of at most 308 powers of ten; none where it is too great. Three steps take
any number below `2 ^ 64` to zero. -/
def scaleDouble : Nat → Float → Int → Option Float
  | 0, _, _ => some 0
  | fuel + 1, f, e =>
    if e.natAbs ≤ 308 then
      let power := Float.ofScientific 1 false e.natAbs
      if 0 ≤ e then (let g := f * power; if g.isInf then none else some g)
      else some (f / power)
    else if f == 0 then some f
    else if 0 ≤ e then none
    else scaleDouble fuel (f / Float.ofScientific 1 false 308) (e + 308)

/-- The double nearest to the leading digits of a numeral, scaled by its exponent. -/
def Numeral.toDouble? (m : Numeral) : Option Float :=
  let (n, dropped) := takeDigits 0 m.whole
  let (n, left) := takeDigits n m.fraction
  let shift : Int := dropped - (m.fraction.length - left : Nat)
  let scaled := match m.exponent with
    | none => scaleDouble 4 (UInt64.ofNat n).toFloat shift
    | some (down, digits) =>
      let e := Text.digitsValue digits
      if Nat.pow 2 31 ≤ e then (if n = 0 ∨ down then some 0 else none)
      else scaleDouble 4 (UInt64.ofNat n).toFloat (if down then shift - e else shift + e)
  scaled.map fun f => if m.negative then -f else f

/-- The token of a numeral: an integer where it is written as one and fits 64 bits, and a double
otherwise. A negative zero is a double. -/
def Numeral.token (m : Numeral) : Token :=
  let n := Text.digitsValue m.whole
  if m.fraction.isEmpty ∧ m.exponent.isNone ∧ !m.negative ∧ n < Nat.pow 2 64 then .integer n
  else if m.fraction.isEmpty ∧ m.exponent.isNone ∧ m.negative ∧ 0 < n ∧ n ≤ Nat.pow 2 63 then
    .integer (-n)
  else match m.toDouble? with
    | some f => .real ⟨f.toBits⟩
    | none => .spoilt .other .numberOutOfRange none

/-- The exponent of a numeral, after the digits before it. -/
def scanExponent (m : Numeral) (cs : List Char) : Scanned :=
  match cs with
  | c :: rest =>
    if c = 'e' ∨ c = 'E' then
      let down := rest.head? == some '-'
      let rest := if down || rest.head? == some '+' then rest.drop 1 else rest
      let digits := rest.takeWhile Char.isDigit
      if digits.isEmpty then brokenNumber rest
      else ({ m with exponent := some (down, digits) : Numeral }.token,
        some (rest.dropWhile Char.isDigit))
    else (m.token, some cs)
  | [] => (m.token, some [])

/-- The fraction of a numeral, after the digits before the point. -/
def scanFraction (m : Numeral) (cs : List Char) : Scanned :=
  match cs with
  | '.' :: rest =>
    let digits := rest.takeWhile Char.isDigit
    if digits.isEmpty then brokenNumber rest
    else scanExponent { m with fraction := digits } (rest.dropWhile Char.isDigit)
  | _ => scanExponent m cs

/-- The number token at its first digit. A zero is not followed by another digit. -/
def scanNumber (negative : Bool) (cs : List Char) : Scanned :=
  let digits := cs.takeWhile Char.isDigit
  if digits.isEmpty then brokenNumber cs
  else if digits.head? == some '0' && 1 < digits.length then
    (.spoilt .other .invalidNumber (some .invalidNumber), none)
  else scanFraction ⟨negative, digits, [], none⟩ (cs.dropWhile Char.isDigit)

/-! ## Texts -/

/-- The characters that may stand between tokens. -/
def isSpace (c : Char) : Bool := c == ' ' || c == '\t' || c == '\n' || c == '\r'

/-- The token at a character that is no space. -/
def scanToken (c : Char) (cs : List Char) : Scanned :=
  if c = '\x7b' then (.openBrace, some cs)
  else if c = '\x7d' then (.closeBrace, some cs)
  else if c = '[' then (.openBracket, some cs)
  else if c = ']' then (.closeBracket, some cs)
  else if c = ',' then (.comma, some cs)
  else if c = ':' then (.colon, some cs)
  else if c = '"' then scanString cs
  else if c = 'n' then scanWord .null .null ['u', 'l', 'l'] cs
  else if c = 't' then scanWord .other (.bool true) ['r', 'u', 'e'] cs
  else if c = 'f' then scanWord .other (.bool false) ['a', 'l', 's', 'e'] cs
  else if c = '-' then scanNumber true cs
  else if c.isDigit then scanNumber false (c :: cs)
  else (.stray, none)

/-- The tokens of a text. Each step takes a character at least, so the length of the text is fuel
enough. -/
def scan : Nat → List Char → List Token
  | 0, _ => []
  | _ + 1, [] => []
  | fuel + 1, c :: cs =>
    if isSpace c then scan fuel cs
    else match scanToken c cs with
      | (t, some rest) => t :: scan fuel rest
      | (t, none) => [t]

/-- The tokens of a JSON text. -/
def tokens (s : String) : List Token := scan s.toList.length s.toList

example : tokens "[1, -0.5e1,\"a\\u00e9\"]" =
    [.openBracket, .integer 1, .comma, .real ⟨0xC014000000000000⟩, .comma, .string "aé",
      .closeBracket] := by
  rfl

end DocSchema.Json
