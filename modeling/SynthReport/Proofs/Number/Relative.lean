import SynthReport.Proofs.Number.Halves

/-! # Relative errors of operations

Away from the ends of the range an operation misses its exact result by one part in `2 ^ 53` at
most.

* **`Magnitude.IsNear`** — a magnitude one rounding away from a rational number;
* **`IsModerate`** — zero, or far from the ends of the range of doubles;
* **`exists_ofQuanta_isNear`** — a moderate number is rounded to a magnitude near to it;
* **`exists_ofFraction_isNear`**, **`exists_div_isNear`**, **`exists_mul_isNear`** — so are
  fractions, quotients and products. -/

namespace SynthReport

/-- **A magnitude near to a number**: by one part in `2 ^ 53` at most. -/
def Magnitude.IsNear (m : Magnitude) (q : ℚ) : Prop := |m.value - q| ≤ q / 2 ^ 53

/-- **A number of moderate size**: zero, or far from the ends of the range of doubles. -/
def IsModerate (q : ℚ) : Prop := q = 0 ∨ 1 / 2 ^ 128 ≤ q ∧ q ≤ 2 ^ 128

/-- A quotient of quanta is a value times the quanta in one. -/
theorem Magnitude.quanta_eq_value_mul (m : Magnitude) :
    (m.quanta : ℚ) = m.value * quantaPerOne := by
  rw [value, div_mul_cancel₀ _ quantaPerOne_cast_pos.ne']

/-- The distance of a magnitude from a number, in quanta. -/
theorem Magnitude.abs_quanta_sub_mul (m : Magnitude) (q : ℚ) :
    |(m.quanta : ℚ) - q * quantaPerOne| = |m.value - q| * quantaPerOne := by
  rw [m.quanta_eq_value_mul, ← sub_mul, abs_mul, abs_of_pos quantaPerOne_cast_pos]

/-- A magnitude that is near to a number of quanta is near to the number. -/
theorem Magnitude.isNear_of_quanta {m : Magnitude} {q : ℚ}
    (h : |(m.quanta : ℚ) - q * quantaPerOne| ≤ q * quantaPerOne / 2 ^ 53) : m.IsNear q := by
  rw [abs_quanta_sub_mul, mul_div_right_comm] at h
  exact le_of_mul_le_mul_right h quantaPerOne_cast_pos

/-- A quotient of magnitudes, in quanta. -/
theorem Magnitude.quotient_quanta (a : Magnitude) {b : Magnitude} (hb : 0 < b.quanta) :
    ((a.quanta * quantaPerOne : Nat) : ℚ) / b.quanta = a.value / b.value * quantaPerOne := by
  have hone := quantaPerOne_cast_pos
  have hpos : (0 : ℚ) < b.quanta := Nat.cast_pos.2 hb
  rw [Nat.cast_mul, value, value, div_div_div_cancel_right₀ hone.ne', mul_div_right_comm]

/-- A product of magnitudes, in quanta. -/
theorem Magnitude.product_quanta (a b : Magnitude) :
    ((a.quanta * b.quanta : Nat) : ℚ) / quantaPerOne = a.value * b.value * quantaPerOne := by
  have hone := quantaPerOne_cast_pos
  rw [Nat.cast_mul, a.quanta_eq_value_mul, b.quanta_eq_value_mul]
  field_simp

namespace Binary64

/-- A moderate number is no larger than the largest double. -/
theorem le_largest_of_moderate {q : ℚ} (h : IsModerate q) :
    q * quantaPerOne ≤ Magnitude.largestQuanta := by
  have hlargest : (2 : ℚ) ^ 128 ≤ ((2 * binadeSize - 1) * 2 ^ 971 : Nat) := by
    have : 2 ^ 128 ≤ (2 * binadeSize - 1) * 2 ^ 971 := le_mul_two_pow le_rfl (by decide) (by decide)
    exact_mod_cast this
  have hq : q ≤ 2 ^ 128 := by
    rcases h with rfl | ⟨-, hhigh⟩
    · positivity
    · exact hhigh
  rw [largestQuanta_eq, Nat.cast_mul]
  exact mul_le_mul_of_nonneg_right (hq.trans hlargest) quantaPerOne_cast_pos.le

/-- A moderate number other than zero has 53 bits of quanta. -/
theorem binadeSize_le_of_moderate {q : ℚ} (h : 1 / 2 ^ 128 ≤ q) :
    (binadeSize : ℚ) ≤ q * quantaPerOne := by
  have hbits : binadeSize * 2 ^ 128 ≤ quantaPerOne := by
    rw [quantaPerOne_eq, ← Nat.one_mul (2 ^ 1074)]
    exact le_mul_two_pow (show binadeSize * 2 ^ 128 ≤ 2 ^ 180 by decide) (by decide) Nat.one_pos
  calc (binadeSize : ℚ) = 1 / 2 ^ 128 * (binadeSize * 2 ^ 128 : Nat) := by
        push_cast
        ring
    _ ≤ 1 / 2 ^ 128 * quantaPerOne := by gcongr
    _ ≤ q * quantaPerOne := mul_le_mul_of_nonneg_right h quantaPerOne_cast_pos.le

/-- **A moderate number is rounded to a magnitude near to it.** -/
theorem exists_ofQuanta_isNear {num den : Nat} {q : ℚ} (negative : Bool) (hden : 0 < den)
    (hq : (num : ℚ) / den = q * quantaPerOne) (h : IsModerate q) :
    ∃ m, ofQuanta negative num den = finite negative m ∧ m.IsNear q := by
  have hpos : (0 : ℚ) < den := Nat.cast_pos.2 hden
  have hbound : num ≤ Magnitude.largestQuanta * den := by
    have := le_largest_of_moderate h
    rw [← hq, div_le_iff₀ hpos] at this
    exact_mod_cast this
  obtain ⟨m, hm⟩ := Option.isSome_iff_exists.1 (Magnitude.nearest?_isSome hden hbound)
  refine ⟨m, by rw [ofQuanta, hm]; rfl, ?_⟩
  have hquanta : |(m.quanta : ℚ) - num / den| ≤ num / den / 2 ^ 53 := by
    rcases h with rfl | ⟨hlow, -⟩
    · -- Zero is a magnitude, so no other one is nearer.
      rw [zero_mul] at hq
      simpa [hq] using Magnitude.abs_quanta_sub_le_abs hden hm Magnitude.zero
    · refine Magnitude.abs_quanta_sub_le_div hden hm ?_
      have := binadeSize_le_of_moderate hlow
      rw [← hq, le_div_iff₀ hpos] at this
      exact_mod_cast this
  rw [hq] at hquanta
  exact Magnitude.isNear_of_quanta hquanta

/-- **A fraction** is rounded to a magnitude near to it. -/
theorem exists_ofFraction_isNear {num den : Nat} (negative : Bool) (hden : 0 < den)
    (h : IsModerate (num / den)) :
    ∃ m, ofFraction negative num den = finite negative m ∧ m.IsNear (num / den) := by
  refine exists_ofQuanta_isNear negative hden ?_ h
  rw [Nat.cast_mul, mul_div_right_comm]

/-- **A quotient** is rounded to a magnitude near to it. -/
theorem exists_div_isNear {a b : Magnitude} (negative negative' : Bool) (hb : 0 < b.value)
    (h : IsModerate (a.value / b.value)) :
    ∃ m, finite negative a / finite negative' b = finite (negative ^^ negative') m ∧
      m.IsNear (a.value / b.value) := by
  have hone := quantaPerOne_cast_pos
  have hquanta : 0 < b.quanta := by
    have : (0 : ℚ) < b.quanta := by
      rw [b.quanta_eq_value_mul]
      positivity
    exact_mod_cast this
  have hsignificand : b.significand ≠ 0 := mt Magnitude.quanta_eq_zero.2 hquanta.ne'
  change ∃ m, (finite negative a).div (finite negative' b) = _ ∧ _
  rw [Binary64.div, if_neg hsignificand]
  exact exists_ofQuanta_isNear _ hquanta (a.quotient_quanta hquanta) h

/-- **A product** is rounded to a magnitude near to it. -/
theorem exists_mul_isNear {a b : Magnitude} (negative negative' : Bool)
    (h : IsModerate (a.value * b.value)) :
    ∃ m, finite negative a * finite negative' b = finite (negative ^^ negative') m ∧
      m.IsNear (a.value * b.value) := by
  change ∃ m, (finite negative a).mul (finite negative' b) = _ ∧ _
  rw [Binary64.mul]
  exact exists_ofQuanta_isNear _ quantaPerOne_pos (a.product_quanta b) h

end Binary64

end SynthReport
