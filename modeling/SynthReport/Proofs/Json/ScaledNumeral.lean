import SynthReport.Proofs.Json.ExactNumeral
import SynthReport.Proofs.Number.Roundings

/-! # How exact the reader of numerals is

The reader rounds the significand and the power of ten, and then their product or quotient; for the
smallest powers it divides twice. So it can miss a numeral, by a few roundings.

* **`isWithin_dividedByTens`**, **`isWithin_of_scaled?`** — it never misses it by more than six
  roundings;
* **`IsEasy`** — a significand and a power of ten that are doubles themselves;
* **`scaled?_eq_of_isEasy`** — of these it makes the nearest double;
* **`Writes.exists_isWithin`** — what comes back of a magnitude that was written is eight roundings
  away at most. -/

namespace SynthReport.Json

open Binary64

/-! ## Powers of ten -/

/-- The powers of ten that are used are near to what they stand for, and not below one. -/
theorem exists_tenTo_isNear {exponent : Nat} (h : exponent ≤ largestTenExponent) :
    ∃ m, tenTo exponent = finite false m ∧ m.IsNear (10 ^ exponent) ∧ quantaPerOne ≤ m.quanta := by
  obtain ⟨m, hm, hone⟩ := exists_tenTo h
  obtain ⟨k, hk, hnear⟩ := exists_ofNat_isNear (ten_pow_le_largest h)
  rw [tenTo, Nat.pow_eq] at hm
  cases hm.symm.trans hk
  refine ⟨m, by rw [tenTo, Nat.pow_eq, hm], ?_, hone⟩
  rwa [Nat.cast_pow] at hnear

/-- Up to `10 ^ 22` they are what they stand for. -/
theorem exists_tenTo_exact {exponent : Nat} (h : exponent ≤ 22) :
    ∃ m, tenTo exponent = finite false m ∧ m.value = 10 ^ exponent ∧ quantaPerOne ≤ m.quanta := by
  have hlargest : exponent ≤ largestTenExponent := h.trans (by decide)
  obtain ⟨m, hm, hone⟩ := exists_tenTo hlargest
  obtain ⟨k, hk, hvalue⟩ := exists_ofNat_exact
    (show 10 ^ exponent = 5 ^ exponent * 2 ^ exponent from mul_pow 5 2 exponent) (five_pow_lt h)
    (ten_pow_le_largest hlargest)
  rw [tenTo, Nat.pow_eq] at hm
  cases hm.symm.trans hk
  refine ⟨m, by rw [tenTo, Nat.pow_eq, hm], ?_, hone⟩
  rw [hvalue, Nat.cast_pow, Nat.cast_ofNat]

/-! ## Six roundings -/

variable {a : Magnitude} {p : ℚ} {significand : Nat} {exponent : Int}

/-- A number to which zero is near is zero. -/
theorem eq_zero_of_isNear (ha : a.IsNear p) (hp : 0 ≤ p) (hzero : a.significand = 0) : p = 0 := by
  rw [Magnitude.IsNear, Magnitude.value_eq_zero hzero, zero_sub, abs_neg, abs_of_nonneg hp] at ha
  linarith

/-- **Dividing by powers of ten** down to the finest grid adds up to six roundings. -/
theorem isWithin_dividedByTens (ha : a.IsNear p) (hp : 0 ≤ p) {count : Nat}
    (hcount : count ≤ finestPlaces) :
    ∃ y, dividedByTens (finite false a) count = finite false y ∧ y.IsWithin 6 (p / 10 ^ count) := by
  rw [dividedByTens]
  split_ifs with hsmall hzero
  · -- One division.
    obtain ⟨b, hb, hnear, hone⟩ := exists_tenTo_isNear hsmall
    obtain ⟨y, hy, hwithin⟩ := exists_div_isWithin (a := a) hone
    rw [hb]
    have hq : 0 ≤ p / 10 ^ count := by positivity
    exact ⟨y, hy, (hwithin.of_moved (ha.div hnear hp (by positivity)) hq).mono (by decide) hq⟩
  · -- Zero stays zero.
    have hsignificand : a.significand = 0 := by simpa [isZero] using hzero
    have hvalue : a.value = p / 10 ^ count := by
      rw [eq_zero_of_isNear ha hp hsignificand, zero_div, Magnitude.value_eq_zero hsignificand]
    exact ⟨a, rfl, hvalue ▸ a.isWithin_self 6⟩
  · -- Two divisions, of which the second one is by an exact power.
    obtain ⟨b, hb, hnear, hone⟩ := exists_tenTo_isNear (Nat.le_refl largestTenExponent)
    obtain ⟨y, hy, hwithin⟩ := exists_div_isWithin (a := a) hone
    have hrest : count - largestTenExponent ≤ 22 := by
      rw [finestPlaces] at hcount
      rw [largestTenExponent]
      omega
    obtain ⟨c, hc, hvalue, hcOne⟩ := exists_tenTo_exact hrest
    obtain ⟨z, hz, hzWithin⟩ := exists_div_isWithin (a := y) hcOne
    have hfirst : y.IsWithin 4 (p / 10 ^ largestTenExponent) :=
      hwithin.of_moved (ha.div hnear hp (by positivity)) (by positivity)
    have hten : (1 : ℚ) ≤ 10 ^ (count - largestTenExponent) := one_le_pow₀ (by norm_num)
    have hsplit : p / 10 ^ count =
        p / 10 ^ largestTenExponent / 10 ^ (count - largestTenExponent) := by
      rw [div_div, ← pow_add, Nat.add_sub_cancel' (Nat.le_of_not_le hsmall)]
    have hsmallRest : count - largestTenExponent ≤ largestTenExponent := hrest.trans (by decide)
    refine ⟨z, by rw [hb, hy, dividedByTens, if_pos hsmallRest, hc, hz], ?_⟩
    rw [hvalue] at hzWithin
    rw [hsplit]
    exact hzWithin.of_within (hfirst.div hten) (by positivity)

/-- **A significand and a power of ten** are missed by six roundings at most. -/
theorem isWithin_of_scaled? (hfits : significand ≤ 0xFFFFFFFFFFFFFFFF)
    (hfinest : -finestPlaces ≤ exponent) {x : Binary64}
    (h : scaled? significand exponent = some x) :
    ∃ y, x = finite false y ∧ y.IsWithin 6 (significand * 10 ^ exponent) := by
  obtain ⟨a, ha, hnear⟩ := exists_ofNat_isNear (word_le_largest hfits)
  have hsignificand : (0 : ℚ) ≤ significand := Nat.cast_nonneg _
  rw [scaled?, ha] at h
  dsimp only at h
  split_ifs at h with hneg hsmall hfinite hzero
  · -- A negative power divides.
    obtain ⟨y, hy, hwithin⟩ := isWithin_dividedByTens hnear hsignificand
      (show exponent.natAbs ≤ finestPlaces by omega)
    have hexponent : exponent = -(exponent.natAbs : Int) := by omega
    refine ⟨y, (Option.some.inj h).symm.trans hy, ?_⟩
    rwa [hexponent, zpow_neg, zpow_natCast, ← div_eq_mul_inv]
  · -- Any other power multiplies.
    obtain ⟨b, hb, hten, -⟩ := exists_tenTo_isNear hsmall
    rw [hb] at hfinite h
    obtain ⟨y, hy, hwithin⟩ := exists_mul_isWithin hfinite
    have hexponent : exponent = (exponent.natAbs : Int) := by omega
    refine ⟨y, (Option.some.inj h).symm.trans hy, ?_⟩
    rw [hexponent, zpow_natCast]
    have hq : (0 : ℚ) ≤ significand * 10 ^ exponent.natAbs := by positivity
    exact (hwithin.of_moved (hnear.mul hten hsignificand (by positivity)) hq).mono (by decide) hq
  · -- Only zero has a product with powers beyond the largest one.
    have hsignificandZero : a.significand = 0 := by simpa [isZero] using hzero
    have hvalue : a.value = significand * 10 ^ exponent := by
      rw [eq_zero_of_isNear hnear hsignificand hsignificandZero, zero_mul,
        Magnitude.value_eq_zero hsignificandZero]
    exact ⟨a, (Option.some.inj h).symm, hvalue ▸ a.isWithin_self 6⟩

/-! ## Significands that are doubles -/

/-- **A significand of 53 bits, up to a power of two, and a power of ten of up to 22.** Both are
doubles, so that only their product or quotient is rounded. -/
structure IsEasy (significand : Nat) (exponent : Int) : Prop where
  bits : ∃ odd shift, odd < 2 ^ 53 ∧ significand = odd * 2 ^ shift
  ten : exponent.natAbs ≤ 22

/-- **They give the double** that their decimal is rounded to. -/
theorem scaled?_eq_of_isEasy {m : Magnitude} (h : IsEasy significand exponent)
    (hfits : significand ≤ 0xFFFFFFFFFFFFFFFF)
    (hm : m.Rounds (significand * 10 ^ exponent * quantaPerOne)) :
    scaled? significand exponent = some (finite false m) := by
  obtain ⟨odd, shift, hodd, hsignificand⟩ := h.bits
  obtain ⟨a, ha, haValue⟩ := exists_ofNat_exact hsignificand hodd (word_le_largest hfits)
  obtain ⟨b, hb, hbValue, hone⟩ := exists_tenTo_exact h.ten
  have hsmall : exponent.natAbs ≤ largestTenExponent := h.ten.trans (by decide)
  rw [scaled?, ha]
  dsimp only
  by_cases hneg : exponent < 0
  · have hexponent : (10 : ℚ) ^ exponent = (10 ^ exponent.natAbs)⁻¹ := by
      rw [← zpow_natCast, ← zpow_neg]
      congr 1
      omega
    rw [hexponent, ← div_eq_mul_inv, ← haValue, ← hbValue] at hm
    rw [if_pos hneg, dividedByTens, if_pos hsmall, hb,
      div_eq_of_rounds (Nat.lt_of_lt_of_le quantaPerOne_pos hone) hm]
  · have hexponent : (10 : ℚ) ^ exponent = 10 ^ exponent.natAbs := by
      rw [← zpow_natCast]
      congr 1
      omega
    rw [hexponent, ← haValue, ← hbValue] at hm
    rw [if_neg hneg, if_pos hsmall, hb, mul_eq_of_rounds hm]
    rfl

/-! ## Magnitudes that were written -/

/-- **What comes back of a magnitude that was written** is eight roundings away at most. -/
theorem Writes.exists_isWithin {m : Magnitude} (h : Writes m significand exponent) :
    ∃ y, scaled? significand exponent = some (finite false y) ∧ y.IsWithin 8 m.value := by
  obtain ⟨x, hx⟩ := h.scales
  obtain ⟨y, rfl, hwithin⟩ := isWithin_of_scaled? h.stands.fits h.finest hx
  exact ⟨y, hx, hwithin.of_rounds h.rounds⟩

end SynthReport.Json
