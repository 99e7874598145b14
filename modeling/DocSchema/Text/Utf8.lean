/-!
# DocSchema.Text.Utf8

Bytes that may be text in UTF-8. Where they are not, the text to show for them has the character
U+FFFD in place of each stretch that begins no character or breaks off inside one.
-/

namespace DocSchema.Text

/-- The bytes that may follow a leading byte: their number after the next one, and the range of the
next one. -/
def afterLead (b : Nat) : Option (Nat × Nat × Nat) :=
  if 0xC2 ≤ b ∧ b ≤ 0xDF then some (0, 0x80, 0xBF)
  else if b = 0xE0 then some (1, 0xA0, 0xBF)
  else if b = 0xED then some (1, 0x80, 0x9F)
  else if 0xE1 ≤ b ∧ b ≤ 0xEF then some (1, 0x80, 0xBF)
  else if b = 0xF0 then some (2, 0x90, 0xBF)
  else if 0xF1 ≤ b ∧ b ≤ 0xF3 then some (2, 0x80, 0xBF)
  else if b = 0xF4 then some (2, 0x80, 0x8F)
  else none

/-- Reads `count` more bytes of a character whose bits so far are `n`: the character if none is
missing, and the bytes left. -/
def readTail : Nat → Nat → List UInt8 → Option Char × List UInt8
  | 0, n, bytes => (some (Char.ofNat n), bytes)
  | _ + 1, _, [] => (none, [])
  | count + 1, n, b :: bytes =>
    if 0x80 ≤ b.toNat ∧ b.toNat ≤ 0xBF then readTail count (n * 64 + b.toNat % 64) bytes
    else (none, b :: bytes)

/-- The bits that a leading byte gives to its character. -/
def leadBits (b : Nat) : Nat := if b < 0xE0 then b % 32 else if b < 0xF0 then b % 16 else b % 8

/-- The first character of some bytes, if they begin one, and the bytes left. -/
def readChar (b : UInt8) (bytes : List UInt8) : Option Char × List UInt8 :=
  if b.toNat < 0x80 then (some (Char.ofNat b.toNat), bytes)
  else match afterLead b.toNat, bytes with
    | some (more, low, high), c :: rest =>
      if low ≤ c.toNat ∧ c.toNat ≤ high then
        readTail more (leadBits b.toNat * 64 + c.toNat % 64) rest
      else (none, bytes)
    | _, _ => (none, bytes)

/-- The characters of some bytes, with `none` for each stretch that is no text. Each step takes a
byte at least, so the number of bytes is fuel enough. -/
def decodeSteps : Nat → List UInt8 → List (Option Char)
  | 0, _ => []
  | _ + 1, [] => []
  | fuel + 1, b :: bytes =>
    let (c, rest) := readChar b bytes
    c :: decodeSteps fuel rest

/-- What the system hands over as text: text, or bytes that are none. -/
inductive SystemText where
  | text (s : String)
  | undecodable (bytes : List UInt8)
deriving DecidableEq, Repr

namespace SystemText

/-- Reads bytes as text. -/
def ofBytes (bytes : List UInt8) : SystemText :=
  let steps := decodeSteps bytes.length bytes
  if steps.all Option.isSome then .text (.ofList (steps.filterMap id)) else .undecodable bytes

/-- The text, where the bytes are text. -/
def text? : SystemText → Option String
  | .text s => some s
  | .undecodable _ => none

/-- Bytes as text, with a mark in place of what is none. -/
def lossyText (bytes : List UInt8) : String :=
  .ofList ((decodeSteps bytes.length bytes).map fun c => c.getD '\ufffd')

/-- What to show. -/
def shown : SystemText → String
  | .text s => s
  | .undecodable bytes => lossyText bytes

/-- The number of bytes. -/
def size : SystemText → Nat
  | .text s => s.utf8ByteSize
  | .undecodable bytes => bytes.length

example : ofBytes [0x61, 0xC3, 0xA9, 0xF0, 0x9F, 0x98, 0x80] = .text "aé😀" := by decide
example : (ofBytes [0x35, 0xFF, 0xE2, 0x82]).shown = "5\ufffd\ufffd" := by decide

end SystemText

end DocSchema.Text
