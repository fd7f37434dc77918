import SynthReport.Json.Numeral
import SynthReport.Proofs.Number.Nearest
import SynthReport.Proofs.Traversal

/-! # What numerals stand for

Whatever digits a text has, the number read from it is one that a word of 64 bits holds.

* **`JsonNumber.IsProper`** — an integer of 64 bits, or a finite double;
* **`Yields`** — a reader gives only values with a property;
* **`isFinite_of_scaled?`** — dividing by powers of ten stays finite, and a product is refused if it
  does not;
* **`yields_readNumber`** — every number that is read is proper. -/

namespace SynthReport

/-- **An integer of 64 bits or a finite double.** -/
def JsonNumber.IsProper : JsonNumber → Prop
  | integer i => -0x8000000000000000 ≤ i ∧ i ≤ 0xFFFFFFFFFFFFFFFF
  | double x => x.isFinite = true

/-- Such a number is finite as a double. -/
theorem JsonNumber.IsProper.isFinite {n : JsonNumber} (h : n.IsProper) :
    n.toBinary64.isFinite = true := by
  cases n with
  | integer i =>
    obtain ⟨hlow, hhigh⟩ := h
    exact Binary64.isFinite_ofInt (by omega)
  | double x => exact h

namespace Json

/-! ## Readers -/

/-- **The reader gives only values with the property.** -/
def Yields {α : Type} (P : α → Prop) (read : Reader α) : Prop :=
  ∀ text, ∀ r : Reading α text, read text = .ok r → P r.value

/-! ## Powers of ten -/

/-- The largest power of ten is no larger than the largest double. -/
theorem ten_pow_le_largest {exponent : Nat} (h : exponent ≤ largestTenExponent) :
    10 ^ exponent ≤ (2 * binadeSize - 1) * 2 ^ 971 :=
  calc 10 ^ exponent ≤ 10 ^ largestTenExponent := Nat.pow_le_pow_right (by decide) h
    _ ≤ (2 * binadeSize - 1) * 2 ^ 971 := by decide +kernel

/-- A word is no larger than the largest double. -/
theorem word_le_largest {n : Nat} (h : n ≤ 0xFFFFFFFFFFFFFFFF) :
    n ≤ (2 * binadeSize - 1) * 2 ^ 971 :=
  le_mul_two_pow (show n ≤ 2 ^ 64 by omega) (by decide) (by decide)

/-- The powers of ten that are used are not below one. -/
theorem exists_tenTo {exponent : Nat} (h : exponent ≤ largestTenExponent) :
    ∃ m, tenTo exponent = .finite false m ∧ quantaPerOne ≤ m.quanta := by
  rw [tenTo, Nat.pow_eq]
  exact Binary64.exists_ofFraction_one false (Nat.pow_pos (by decide)) (ten_pow_le_largest h)

/-- A finite number divided by such a power is finite. -/
theorem isFinite_div_tenTo {x : Binary64} (hx : x.isFinite = true) {exponent : Nat}
    (h : exponent ≤ largestTenExponent) : (x / tenTo exponent).isFinite = true := by
  obtain ⟨m, hm, hone⟩ := exists_tenTo h
  rw [hm]
  exact Binary64.isFinite_div hx hone

/-- A finite number divided by ten any number of times is finite. -/
theorem isFinite_dividedByTens {x : Binary64} (hx : x.isFinite = true) (exponent : Nat) :
    (dividedByTens x exponent).isFinite = true := by
  induction x, exponent using dividedByTens.induct with
  | case1 x exponent h =>
    rw [dividedByTens, if_pos h]
    exact isFinite_div_tenTo hx h
  | case2 x exponent h hzero =>
    rw [dividedByTens, if_neg h, if_pos hzero]
    exact hx
  | case3 x exponent h hzero ih =>
    rw [dividedByTens, if_neg h, if_neg hzero]
    exact ih (isFinite_div_tenTo hx (Nat.le_refl _))

/-- **What is scaled by a power of ten is finite.** -/
theorem isFinite_of_scaled? {significand : Nat} (hsignificand : significand ≤ 0xFFFFFFFFFFFFFFFF)
    {exponent : Int} {x : Binary64} (h : scaled? significand exponent = some x) :
    x.isFinite = true := by
  have hfinite : (Binary64.ofNat significand).isFinite = true :=
    Binary64.isFinite_ofFraction_one _ (word_le_largest hsignificand)
  unfold scaled? at h
  dsimp only at h
  split at h
  · -- A negative power divides.
    rw [← Option.some.inj h]
    exact isFinite_dividedByTens hfinite _
  · split at h
    · -- A power that is a double multiplies, and the product was checked.
      split at h
      · rename_i hproduct
        rw [← Option.some.inj h]
        exact hproduct
      · cases h
    · -- With a larger power only zero is left.
      split at h
      · rw [← Option.some.inj h]
        exact hfinite
      · cases h

/-- A double with a sign is proper. -/
theorem isProper_of_signedDouble {negative : Bool} {significand : Nat}
    (hsignificand : significand ≤ 0xFFFFFFFFFFFFFFFF) {exponent : Int} {n : JsonNumber}
    (h : signedDouble negative significand exponent = .ok n) : n.IsProper := by
  unfold signedDouble at h
  split at h
  · rename_i x hx
    have hfinite := isFinite_of_scaled? hsignificand hx
    rw [← Except.ok.inj h]
    cases negative with
    | false => exact hfinite
    | true => exact (Binary64.isFinite_neg x).trans hfinite
  · cases h

/-- A numeral without point and exponent is proper. -/
theorem isProper_wholeNumber {negative : Bool} {significand : Nat}
    (hsignificand : significand ≤ 0xFFFFFFFFFFFFFFFF) :
    (wholeNumber negative significand).IsProper := by
  unfold wholeNumber
  split
  · -- Without a sign.
    exact ⟨by omega, by omega⟩
  · split
    · -- With a sign, and not too long for a signed word.
      exact ⟨by omega, by omega⟩
    · -- Zero with a sign, or too long: the negated double.
      exact (Binary64.isFinite_neg _).trans
        (Binary64.isFinite_ofFraction_one _ (word_le_largest hsignificand))

/-! ## Numerals -/

/-- Gathering digits keeps a significand of 64 bits. -/
theorem gather_fst_le {significand : Nat} (h : significand ≤ 0xFFFFFFFFFFFFFFFF)
    (digits : List Char) : (gather significand digits).1 ≤ 0xFFFFFFFFFFFFFFFF := by
  induction digits generalizing significand with
  | nil => exact h
  | cons c rest ih =>
    rw [gather]
    split
    · rename_i hnext
      exact ih hnext
    · exact h

section Readers

variable {negative : Bool} {significand : Nat}

/-- The end of a numeral with a point or an exponent. -/
theorem yields_readScale (h : significand ≤ 0xFFFFFFFFFFFFFFFF) (exponent : Int) :
    Yields JsonNumber.IsProper (readScale negative significand exponent) := by
  intro text r hr
  unfold readScale at hr
  split at hr
  · -- The text ends here.
    obtain ⟨n, hn, rfl⟩ := bind_pure_eq_ok_iff.1 hr
    exact isProper_of_signedDouble h hn
  · split at hr
    · -- An exponent follows.
      obtain ⟨written, -, hr⟩ := bind_eq_ok_iff.1 hr
      obtain ⟨n, hn, rfl⟩ := bind_pure_eq_ok_iff.1 hr
      exact isProper_of_signedDouble h hn
    · -- Something else follows.
      obtain ⟨n, hn, rfl⟩ := bind_pure_eq_ok_iff.1 hr
      exact isProper_of_signedDouble h hn

/-- The digits after the point. -/
theorem yields_readFraction (h : significand ≤ 0xFFFFFFFFFFFFFFFF) (exponent : Int) :
    Yields JsonNumber.IsProper (readFraction negative significand exponent) := by
  intro text r hr
  obtain ⟨digits, -, hr⟩ := bind_eq_ok_iff.1 hr
  obtain ⟨number, hnumber, rfl⟩ := bind_pure_eq_ok_iff.1 hr
  exact yields_readScale (gather_fst_le h digits.value) _ digits.rest number hnumber

/-- What follows the whole part of a numeral. -/
theorem yields_readAfterWhole (h : significand ≤ 0xFFFFFFFFFFFFFFFF) (dropped : Nat) :
    Yields JsonNumber.IsProper (readAfterWhole negative significand dropped) := by
  intro text r hr
  unfold readAfterWhole at hr
  split at hr
  · -- A point follows.
    obtain ⟨number, hnumber, rfl⟩ := map_eq_ok_iff.1 hr
    exact yields_readFraction h _ _ number hnumber
  · split at hr
    · -- An exponent follows, with its letter in either case.
      exact yields_readScale h _ _ _ hr
    · exact yields_readScale h _ _ _ hr
    · split at hr
      · -- All digits fit, and the numeral stays an integer.
        rw [← Except.ok.inj hr]
        exact isProper_wholeNumber h
      · -- Digits that did not fit were counted as a power of ten.
        exact yields_readScale h _ _ _ hr

/-- A numeral without its sign. -/
theorem yields_readUnsigned : Yields JsonNumber.IsProper (readUnsigned negative) := by
  intro text r hr
  obtain ⟨digits, -, hr⟩ := bind_eq_ok_iff.1 hr
  dsimp only at hr
  split at hr
  · -- A zero in front of other digits.
    cases hr
  · obtain ⟨number, hnumber, rfl⟩ := bind_pure_eq_ok_iff.1 hr
    have hstart := gather_fst_le (Nat.zero_le _) digits.value
    exact yields_readAfterWhole hstart _ digits.rest number hnumber

/-- **Every number that is read is proper.** -/
theorem yields_readNumber : Yields JsonNumber.IsProper readNumber := by
  intro text r hr
  unfold readNumber at hr
  split at hr
  · obtain ⟨number, hnumber, rfl⟩ := map_eq_ok_iff.1 hr
    exact yields_readUnsigned _ number hnumber
  · exact yields_readUnsigned _ _ hr

end Readers

end Json

end SynthReport
