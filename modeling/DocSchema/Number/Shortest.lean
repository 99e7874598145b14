import DocSchema.Number.Binary64

/-!
# DocSchema.Number.Shortest

The shortest decimal that reads back as a given double, and its two written forms.

A double stands for every real that rounds to it: the interval between the midpoints to its
neighbours, ends included when its significand is even. For one, two, … seventeen digits the two
decimals next to the value are tried; the first count of digits with one of them in the interval
wins, and of two the nearer. Which of two equally near ones is taken is up to the written form.
-/

namespace DocSchema.Number

/-- The decimal `digits * 10 ^ exponent`. -/
structure Decimal where
  digits : Nat
  exponent : Int
deriving DecidableEq, Repr

/-- The fraction `num / den * 10 ^ k`, as numerator and denominator. -/
def scaleTen (num den : Nat) : Int → Nat × Nat
  | .ofNat k => (num * Nat.pow 10 k, den)
  | .negSucc k => (num, den * Nat.pow 10 (k + 1))

/-- The fraction `num * 2 ^ k`, as numerator and denominator. -/
def scaleTwo (num : Nat) : Int → Nat × Nat
  | .ofNat k => (num * Nat.pow 2 k, 1)
  | .negSucc k => (num, Nat.pow 2 (k + 1))

/-- The reals that read back as one double, over one common denominator. -/
structure Rounding where
  low : Nat
  value : Nat
  high : Nat
  den : Nat
  endsIncluded : Bool

/-- The interval of a finite double other than zero. Its lower half is shorter where the exponent
changes. -/
def Rounding.of (d : Binary64) : Rounding :=
  let narrow := d.storedDigits == 0 && 1 < d.biasedExponent
  let (unit, den) := scaleTwo 1 (d.exponent - 2)
  let s := d.significand
  { low := (4 * s - (if narrow then 1 else 2)) * unit
    value := 4 * s * unit
    high := (4 * s + 2) * unit
    den
    endsIncluded := s % 2 == 0 }

/-- Whether the decimal `c * 10 ^ p` lies in the interval. -/
def Rounding.holds (r : Rounding) (c : Nat) (p : Int) : Bool :=
  let (n, d) := scaleTen c 1 p
  if r.endsIncluded then r.low * d ≤ n * r.den && n * r.den ≤ r.high * d
  else r.low * d < n * r.den && n * r.den < r.high * d

/-- The decimal digits of an integer, after a `-` when it is negative. -/
def signedDigits : Int → List Char
  | .ofNat n => Nat.toDigits 10 n
  | .negSucc n => '-' :: Nat.toDigits 10 (n + 1)

/-- The number of decimal digits of a numeral. -/
def digitCount (n : Nat) : Nat := (Nat.toDigits 10 n).length

/-- The `k` with `10 ^ (k - 1) ≤ num / den < 10 ^ k`, for a positive fraction. -/
def magnitudeTen (num den : Nat) : Int :=
  if den ≤ num then digitCount (num / den)
  else
    let k : Nat := digitCount (den / num)
    -- the fraction is at most `10 ^ (1 - k)`, and more than `10 ^ (-k)`
    if num * Nat.pow 10 (k - 1) = den then 2 - (k : Int) else 1 - (k : Int)

/-- Which of two equally near decimals is taken: the greater, or the one with an even last digit. -/
inductive Tie where
  | up
  | toEven
deriving DecidableEq, Repr

/-- The candidate with `n` digits, if one lies in the interval. -/
def candidate? (tie : Tie) (r : Rounding) (k : Int) (n : Nat) : Option Decimal :=
  let p := k - n
  let (num, den) := scaleTen r.value r.den (-p)
  let c := num / den
  let below := r.holds c p && c != 0
  let above := r.holds (c + 1) p
  let isNearer := 2 * (num % den) < den || (tie == .toEven && 2 * (num % den) == den && c % 2 == 0)
  if below && (!above || isNearer) then some ⟨c, p⟩
  else if above then some ⟨c + 1, p⟩
  else none

/-- The shortest decimal that reads back as a finite double other than zero, taken without its
sign. -/
def shortest (tie : Tie) (d : Binary64) : Decimal :=
  let r := Rounding.of d
  let k := magnitudeTen r.value r.den
  ((List.range 17).findSome? fun n => candidate? tie r k (n + 1)).getD ⟨d.significand, 0⟩

/-- A decimal without the zeros at the end of its digits, using at most `fuel` steps. -/
def Decimal.strip : Nat → Decimal → Decimal
  | 0, d => d
  | fuel + 1, d =>
    if d.digits % 10 = 0 && d.digits != 0 then strip fuel ⟨d.digits / 10, d.exponent + 1⟩ else d

/-- The digits of a decimal with the point in place and never an exponent. -/
def Decimal.positional (d : Decimal) : List Char :=
  let digits := Nat.toDigits 10 d.digits
  match d.exponent with
  | .ofNat e => digits ++ List.replicate e '0'
  | .negSucc e =>
    let places := e + 1
    if places < digits.length then
      digits.take (digits.length - places) ++ '.' :: digits.drop (digits.length - places)
    else '0' :: '.' :: (List.replicate (places - digits.length) '0' ++ digits)

/-- The text of a double as a plain numeral: the shortest digits, of two equally near the greater,
and never an exponent. -/
def plainText (d : Binary64) : String :=
  if d.isNaN then "NaN"
  else
    let body :=
      if d.isInfinite then ['i', 'n', 'f']
      else if d.isZero then ['0']
      else ((shortest .up d).strip 20).positional
    .ofList (if d.isNegative then '-' :: body else body)

/-- The text of a finite double with a point or an exponent always present: positional from
`0.00001` up to sixteen digits before the point, and with a signed exponent beyond. Of two equally
near decimals the even one is taken. -/
def pointedText (d : Binary64) : String :=
  let body :=
    if d.isZero then ['0', '.', '0']
    else
      let dec := (shortest .toEven d).strip 20
      let digits := Nat.toDigits 10 dec.digits
      let point : Int := digits.length + dec.exponent
      if 0 ≤ dec.exponent ∧ point ≤ 16 then dec.positional ++ ['.', '0']
      else if -5 < point ∧ point ≤ 16 then dec.positional
      else
        let tail := if digits.length = 1 then [] else '.' :: digits.drop 1
        let plus := if 0 < point then ['+'] else []
        digits.take 1 ++ tail ++ 'e' :: plus ++ signedDigits (point - 1)
  .ofList (if d.isNegative then '-' :: body else body)

end DocSchema.Number
