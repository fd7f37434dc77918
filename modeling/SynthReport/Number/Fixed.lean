import SynthReport.Number.Arithmetic

/-! # Fixed-place decimal text

Numbers with a given count of places after the point, in two steps that round differently.

* **`Binary64.fixedText`** — the text itself: the exact value, correctly rounded, an exact half
  going to the even digit.
* **`Binary64.roundHalfUp`** — the double to write: an exact decimal half is first moved away from
  zero in floating point, and any other number is rounded correctly to its places.
* **`Binary64.toFixed`** — one after the other, so that `4.125` is written `4.13` and `0.615`,
  which is stored below the half, `0.61`.
* **`percentage`** — a ratio as a percentage, rounded to two places more than it shows.

A decimal half is recognised from the significand alone: `odd * 2 ^ e * 10 ^ places` ends in one
half exactly if `e + places = -1`. -/

namespace SynthReport

/-- The decimal text of a natural number. -/
def decimalDigits (n : Nat) : List Char := Nat.toDigits 10 n

/-- Zeros in front, up to a given length. -/
def zeroPadded (length : Nat) (digits : List Char) : List Char :=
  List.replicate (length - digits.length) '0' ++ digits

/-- **`numerator / 10 ^ places` in full**: at least one digit before the point, exactly `places`
after it, and no point when there are none. -/
def placesText (numerator places : Nat) : List Char :=
  if places = 0 then decimalDigits numerator
  else
    decimalDigits (numerator / Nat.pow 10 places) ++
      '.' :: zeroPadded places (decimalDigits (numerator % Nat.pow 10 places))

/-- A sign in front of the text of a magnitude. -/
def signedText (negative : Bool) (digits : List Char) : List Char :=
  if negative then '-' :: digits else digits

/-- How often two divides a number other than zero. -/
def trailingZeros (n : Nat) : Nat :=
  if _h : n = 0 ∨ n % 2 = 1 then 0 else trailingZeros (n / 2) + 1
termination_by n
decreasing_by omega

namespace Magnitude

/-- The nearest multiple of `10 ^ -places`, as its numerator; ties to even. -/
def fixedNumerator (m : Magnitude) (places : Nat) : Nat :=
  divNearestEven (m.quanta * Nat.pow 10 places) quantaPerOne

/-- **Exactly halfway between two decimals of so many places.** With the significand written
`odd * 2 ^ k`, the number is `odd * 2 ^ (k + shift - 1074)`. -/
def isDecimalTie (m : Magnitude) (places : Nat) : Bool :=
  m.significand ≠ 0 && m.shift + trailingZeros m.significand + places == 1073

end Magnitude

namespace Binary64

/-- Exactly halfway between two decimals of so many places; false unless finite. -/
def isDecimalTie : Binary64 → Nat → Bool
  | finite _ m, places => m.isDecimalTie places
  | _, _ => false

/-- **The number with so many places after the point**, correctly rounded, ties to even. -/
def fixedText : Binary64 → Nat → String
  | nan, _ => "NaN"
  | infinite negative, _ => String.ofList (signedText negative "inf".toList)
  | finite negative m, places =>
    String.ofList (signedText negative (placesText (m.fixedNumerator places) places))

/-- The double nearest to the correctly rounded decimal. -/
def roundCorrectly : Binary64 → Nat → Binary64
  | finite negative m, places =>
    ofFraction negative (m.fixedNumerator places) (Nat.pow 10 places)
  | x, _ => x

/-- **Rounding to decimal places, a half going away from zero.** A half is scaled up, rounded to a
whole number and scaled down in floating point; with many digits the scaling itself rounds, and
when the scale is infinite the result is not-a-number. -/
def roundHalfUp (x : Binary64) (places : Nat) : Binary64 :=
  if x.isDecimalTie places then
    (x * powerOfTen places).roundHalfAway / powerOfTen places
  else x.roundCorrectly places

/-- **Fixed-place text, a half going away from zero.** -/
def toFixed (x : Binary64) (places : Nat) : String :=
  (x.roundHalfUp places).fixedText places

end Binary64

/-- What is shown in place of a value that has no finite number. -/
def notAvailable : String := "n/a"

/-- **`part / whole` as a percentage** with so many decimals; `n/a` if there is no finite ratio. -/
def percentage (part whole : Binary64) (decimals : Nat) : String :=
  let ratio := part / whole
  -- The ratio is rounded first, so that the digits that are shown are exact.
  if whole.isZero || !ratio.isFinite then notAvailable
  else (ratio.roundHalfUp (decimals + 2) * .ofNat 100).fixedText decimals ++ "%"

end SynthReport
