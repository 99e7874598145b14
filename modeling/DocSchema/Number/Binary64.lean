/-!
# DocSchema.Number.Binary64

The doubles of IEEE 754, as bit patterns read in exact arithmetic. A finite double is
`± significand * 2 ^ exponent`; equality and truncation are stated on that reading, so they can be
reasoned about without the machine's own arithmetic.
-/

namespace DocSchema

/-- A double, by its 64 bits. -/
structure Binary64 where
  bits : UInt64
deriving DecidableEq, Repr

namespace Binary64

/-- The bits without the sign, as a number. -/
def magnitude (d : Binary64) : Nat := d.bits.toNat % Nat.pow 2 63

/-- Whether the sign bit is set. -/
def isNegative (d : Binary64) : Bool := Nat.pow 2 63 ≤ d.bits.toNat

/-- The biased exponent. -/
def biasedExponent (d : Binary64) : Nat := d.magnitude / Nat.pow 2 52

/-- The stored digits of the significand, without its leading one. -/
def storedDigits (d : Binary64) : Nat := d.magnitude % Nat.pow 2 52

def isNaN (d : Binary64) : Bool := d.biasedExponent == 2047 && d.storedDigits != 0

def isInfinite (d : Binary64) : Bool := d.biasedExponent == 2047 && d.storedDigits == 0

def isZero (d : Binary64) : Bool := d.magnitude == 0

/-- The integer `s` in the reading `± s * 2 ^ e` of a finite double. -/
def significand (d : Binary64) : Nat :=
  if d.biasedExponent = 0 then d.storedDigits else Nat.pow 2 52 + d.storedDigits

/-- The integer `e` in the reading `± s * 2 ^ e` of a finite double. -/
def exponent (d : Binary64) : Int :=
  if d.biasedExponent = 0 then -1074 else (d.biasedExponent : Int) - 1075

/-- Equality of doubles: a NaN differs from everything, and the two zeros are equal. -/
def same (a b : Binary64) : Bool :=
  !a.isNaN && !b.isNaN && (a.bits == b.bits || (a.isZero && b.isZero))

theorem same_comm (a b : Binary64) : same a b = same b a := by
  unfold same
  rw [Bool.beq_comm (a := a.bits), Bool.and_comm (x := !a.isNaN), Bool.and_comm (x := a.isZero)]

theorem same_trans {a b c : Binary64} (hab : same a b = true) (hbc : same b c = true) :
    same a c = true := by
  simp only [same, Bool.and_eq_true, Bool.or_eq_true, beq_iff_eq, Bool.not_eq_true'] at *
  obtain ⟨⟨ha, -⟩, hab⟩ := hab
  obtain ⟨⟨-, hc⟩, hbc⟩ := hbc
  refine ⟨⟨ha, hc⟩, ?_⟩
  rcases hab with h | ⟨h, h'⟩ <;> rcases hbc with k | ⟨k, k'⟩
  · exact .inl (h.trans k)
  · refine .inr ⟨?_, k'⟩
    simpa only [isZero, magnitude, h] using k
  · refine .inr ⟨h, ?_⟩
    simpa only [isZero, magnitude, ← k] using h'
  · exact .inr ⟨h, k'⟩

/-- The least and the greatest 64-bit integer. -/
def minInt64 : Int := -9223372036854775808
def maxInt64 : Int := 9223372036854775807

/-- The whole part of a double, brought into the range of 64-bit integers; zero for a NaN. -/
def truncate (d : Binary64) : Int :=
  if d.isNaN then 0
  else
    let whole : Nat :=
      if d.isInfinite then Nat.pow 2 64
      else match d.exponent with
        | .ofNat e => d.significand * Nat.pow 2 e
        | .negSucc e => d.significand / Nat.pow 2 (e + 1)
    let signed : Int := if d.isNegative then -(whole : Int) else whole
    max minInt64 (min maxInt64 signed)

/-- Not zero, in the sense that counts as true: a NaN does not count. -/
def isTruthy (d : Binary64) : Bool := !d.isNaN && !d.isZero

theorem isTruthy_of_same {a b : Binary64} (h : same a b = true) : a.isTruthy = b.isTruthy := by
  simp only [same, Bool.and_eq_true, Bool.or_eq_true, beq_iff_eq, Bool.not_eq_true'] at h
  obtain ⟨⟨ha, hb⟩, hbits | ⟨hza, hzb⟩⟩ := h
  · simp only [isTruthy, ha, hb, isZero, magnitude, hbits]
  · simp only [isTruthy, ha, hb, hza, hzb]

end Binary64

end DocSchema
