import SynthReport.Proofs.Number.FixedText
import SynthReport.Proofs.Number.Interval

/-! # Several roundings in a row

A rounding misses a number by one part in `2 ^ 53`, or by half a quantum where doubles are sparse.
Counted in such roundings, the bounds hold down to zero and up to the largest double.

* **`roundingError`** — what one rounding can miss a number by;
* **`Magnitude.IsWithin`** — a magnitude that is so many roundings away from a number;
* **`isWithin_of_nearest?`**, **`exists_div_isWithin`**, **`exists_mul_isWithin`** — one rounding,
  that of a quotient and that of a product;
* **`IsNear.div`**, **`IsNear.mul`** — quotients and products of magnitudes that were rounded
  themselves;
* **`IsWithin.of_moved`**, **`IsWithin.of_within`**, **`IsWithin.of_rounds`** — one rounding more;
* **`div_eq_of_rounds`**, **`mul_eq_of_rounds`** — operations that give the nearest magnitude;
* **`exists_ofNat_isNear`**, **`exists_ofNat_exact`** — whole numbers as doubles. -/

namespace SynthReport

/-- **Half a quantum**, the distance at which small numbers are missed. -/
def halfQuantum : ℚ := 1 / (2 * quantaPerOne)

/-- **What one rounding can miss a number by.** -/
def roundingError (q : ℚ) : ℚ := q / 2 ^ 53 + halfQuantum

/-- **A magnitude that is so many roundings away from a number.** -/
def Magnitude.IsWithin (m : Magnitude) (roundings : ℕ) (q : ℚ) : Prop :=
  |m.value - q| ≤ roundings * roundingError q

/-- Half a quantum is something. -/
theorem halfQuantum_pos : 0 < halfQuantum := by
  have := quantaPerOne_cast_pos
  rw [halfQuantum]
  positivity

/-- Half a quantum, in quanta. -/
theorem halfQuantum_mul : halfQuantum * quantaPerOne = 1 / 2 := by
  have := quantaPerOne_cast_pos
  rw [halfQuantum]
  field_simp

/-- A quantum is `2 ^ -1074`. -/
theorem halfQuantum_eq : halfQuantum = 1 / 2 ^ 1075 := by
  rw [halfQuantum, quantaPerOne_eq, Nat.cast_pow, Nat.cast_ofNat, ← pow_succ']

/-- A magnitude that is the number is no rounding away, nor any count of them. -/
theorem Magnitude.isWithin_self (m : Magnitude) (roundings : ℕ) : m.IsWithin roundings m.value := by
  have := halfQuantum_pos
  have := m.value_nonneg
  rw [IsWithin, roundingError, sub_self, abs_zero]
  positivity

namespace Magnitude

variable {a b m : Magnitude} {num den : Nat} {p q r : ℚ}

/-! ## One rounding -/

/-- **The nearest magnitude is one rounding away.** -/
theorem isWithin_of_nearest? (hden : 0 < den) (hq : (num : ℚ) / den = q * quantaPerOne)
    (h : nearest? num den = some m) : m.IsWithin 1 q := by
  have hquanta := abs_quanta_sub_le_add hden h
  rw [hq, abs_quanta_sub_mul, ← halfQuantum_mul, mul_div_right_comm, ← add_mul] at hquanta
  rw [IsWithin, roundingError, Nat.cast_one, one_mul]
  exact le_of_mul_le_mul_right hquanta quantaPerOne_cast_pos

/-- A number that is rounded to a magnitude is one rounding away, seen from the magnitude. -/
theorem Rounds.abs_value_sub_le (h : m.Rounds (q * quantaPerOne)) :
    |m.value - q| ≤ roundingError m.value := by
  have hquanta := h.abs_quanta_sub_le
  rw [abs_quanta_sub_mul, m.quanta_eq_value_mul, ← halfQuantum_mul, mul_div_right_comm,
    ← add_mul] at hquanta
  exact le_of_mul_le_mul_right hquanta quantaPerOne_cast_pos

/-! ## Further roundings -/

/-- A magnitude near to a number that is not negative is at least four fifths of it. -/
theorem IsNear.le_value (h : b.IsNear r) (hr : 0 ≤ r) : 4 * r ≤ 5 * b.value := by
  have := (abs_le.1 h).1
  linarith

/-- **A quotient of magnitudes that were rounded.** -/
theorem IsNear.div (ha : a.IsNear p) (hb : b.IsNear r) (hp : 0 ≤ p) (hr : 0 < r) :
    |a.value / b.value - p / r| ≤ 5 / 2 * (p / r / 2 ^ 53) := by
  have hlow := hb.le_value hr.le
  have hpos : 0 < b.value := by linarith
  have hcross : |a.value * r - p * b.value| ≤ 2 * (p * r / 2 ^ 53) := by
    calc |a.value * r - p * b.value| = |(a.value - p) * r - p * (b.value - r)| := by ring_nf
      _ ≤ |(a.value - p) * r| + |p * (b.value - r)| := abs_sub _ _
      _ = |a.value - p| * r + p * |b.value - r| := by
        rw [abs_mul, abs_mul, abs_of_pos hr, abs_of_nonneg hp]
      _ ≤ p / 2 ^ 53 * r + p * (r / 2 ^ 53) := by
        gcongr
        · exact ha
        · exact hb
      _ = 2 * (p * r / 2 ^ 53) := by ring
  rw [div_sub_div _ _ hpos.ne' hr.ne', abs_div, abs_of_pos (mul_pos hpos hr),
    div_le_iff₀ (mul_pos hpos hr), mul_comm b.value p]
  calc |a.value * r - p * b.value| ≤ 2 * (p * r / 2 ^ 53) := hcross
    _ = 1 / 2 * (p / 2 ^ 53) * (4 * r) := by ring
    _ ≤ 1 / 2 * (p / 2 ^ 53) * (5 * b.value) := by gcongr
    _ = 5 / 2 * (p / r / 2 ^ 53) * (b.value * r) := by
      field_simp

/-- **A product of magnitudes that were rounded.** -/
theorem IsNear.mul (ha : a.IsNear p) (hb : b.IsNear r) (hp : 0 ≤ p) (hr : 0 ≤ r) :
    |a.value * b.value - p * r| ≤ 5 / 2 * (p * r / 2 ^ 53) := by
  have hhigh : b.value ≤ 3 / 2 * r := by
    have := (abs_le.1 hb).2
    linarith
  calc |a.value * b.value - p * r| = |(a.value - p) * b.value + p * (b.value - r)| := by ring_nf
    _ ≤ |(a.value - p) * b.value| + |p * (b.value - r)| := abs_add_le _ _
    _ = |a.value - p| * b.value + p * |b.value - r| := by
      rw [abs_mul, abs_mul, abs_of_nonneg b.value_nonneg, abs_of_nonneg hp]
    _ ≤ p / 2 ^ 53 * (3 / 2 * r) + p * (r / 2 ^ 53) := by
      gcongr
      · exact b.value_nonneg
      · exact ha
      · exact hb
    _ = 5 / 2 * (p * r / 2 ^ 53) := by ring

/-- **One rounding more**: a number that is moved by five halves of a rounding at most, and then
rounded. -/
theorem IsWithin.of_moved (h : m.IsWithin 1 r) (hr : |r - q| ≤ 5 / 2 * (q / 2 ^ 53)) (hq : 0 ≤ q) :
    m.IsWithin 4 q := by
  have hhalf := halfQuantum_pos
  have hmoved := (abs_le.1 hr).2
  rw [IsWithin, roundingError] at h ⊢
  calc |m.value - q| ≤ |m.value - r| + |r - q| := abs_sub_le _ _ _
    _ ≤ (1 : ℕ) * (r / 2 ^ 53 + halfQuantum) + 5 / 2 * (q / 2 ^ 53) := add_le_add h hr
    _ ≤ (4 : ℕ) * (q / 2 ^ 53 + halfQuantum) := by
      push_cast
      linarith

/-- Dividing by a number that is not below one does not add to the distance. -/
theorem IsWithin.div {roundings : ℕ} (h : m.IsWithin roundings q) (hr : 1 ≤ r) :
    |m.value / r - q / r| ≤ roundings * roundingError (q / r) := by
  have hpos : 0 < r := one_pos.trans_le hr
  have hhalf := halfQuantum_pos
  rw [IsWithin, roundingError] at h
  rw [← sub_div, abs_div, abs_of_pos hpos, roundingError, div_le_iff₀ hpos]
  calc |m.value - q| ≤ roundings * (q / 2 ^ 53 + halfQuantum) := h
    _ ≤ roundings * (q / 2 ^ 53 + halfQuantum * r) := by
      gcongr
      exact le_mul_of_one_le_right hhalf.le hr
    _ = roundings * (q / r / 2 ^ 53 + halfQuantum) * r := by
      field_simp

/-- **One rounding more**, after four. -/
theorem IsWithin.of_within (h : m.IsWithin 1 r) (hr : |r - q| ≤ (4 : ℕ) * roundingError q)
    (hq : 0 ≤ q) : m.IsWithin 6 q := by
  have hhalf := halfQuantum_pos
  have hmoved := (abs_le.1 hr).2
  rw [IsWithin, roundingError] at h ⊢
  rw [roundingError] at hr hmoved
  push_cast at *
  calc |m.value - q| ≤ |m.value - r| + |r - q| := abs_sub_le _ _ _
    _ ≤ 1 * (r / 2 ^ 53 + halfQuantum) + 4 * (q / 2 ^ 53 + halfQuantum) := add_le_add h hr
    _ ≤ 6 * (q / 2 ^ 53 + halfQuantum) := by linarith

/-- More roundings are no nearer. -/
theorem IsWithin.mono {few many : ℕ} (h : m.IsWithin few q) (hle : few ≤ many) (hq : 0 ≤ q) :
    m.IsWithin many q := by
  have hhalf := halfQuantum_pos
  refine h.trans (mul_le_mul_of_nonneg_right (Nat.cast_le.2 hle) ?_)
  rw [roundingError]
  positivity

/-- **Two magnitudes for one number**: one is so many roundings away from it, to the other one it is
rounded. -/
theorem IsWithin.of_rounds (h : a.IsWithin 6 q) (hm : m.Rounds (q * quantaPerOne)) :
    a.IsWithin 8 m.value := by
  have hhalf := halfQuantum_pos
  have hrounds := hm.abs_value_sub_le
  have hnear := (abs_le.1 hrounds).1
  rw [abs_sub_comm] at hrounds
  rw [IsWithin, roundingError] at h ⊢
  rw [roundingError] at hrounds hnear
  push_cast at *
  calc |a.value - m.value| ≤ |a.value - q| + |q - m.value| := abs_sub_le _ _ _
    _ ≤ 6 * (q / 2 ^ 53 + halfQuantum) + (m.value / 2 ^ 53 + halfQuantum) :=
      add_le_add h hrounds
    _ ≤ 8 * (m.value / 2 ^ 53 + halfQuantum) := by linarith [m.value_nonneg]

end Magnitude

namespace Binary64

variable {a b : Magnitude} {num den : Nat}

/-! ## Operations -/

/-- A quotient of magnitudes, in quanta. -/
theorem div_eq_ofQuanta (hb : 0 < b.quanta) :
    finite false a / finite false b = ofQuanta false (a.quanta * quantaPerOne) b.quanta := by
  have hsignificand : b.significand ≠ 0 := mt Magnitude.quanta_eq_zero.2 hb.ne'
  change (finite false a).div (finite false b) = _
  rw [Binary64.div, if_neg hsignificand, Bool.xor_self, ofFraction]

/-- A product of magnitudes, in quanta. -/
theorem mul_eq_ofQuanta (a b : Magnitude) :
    finite false a * finite false b = ofQuanta false (a.quanta * b.quanta) quantaPerOne := by
  change (finite false a).mul (finite false b) = _
  rw [Binary64.mul, Bool.xor_self]

/-- **A quotient is one rounding away**, if the divisor is not below one. -/
theorem exists_div_isWithin (hb : quantaPerOne ≤ b.quanta) :
    ∃ m, finite false a / finite false b = finite false m ∧ m.IsWithin 1 (a.value / b.value) := by
  have hpos : 0 < b.quanta := Nat.lt_of_lt_of_le quantaPerOne_pos hb
  have hfinite : (finite false a / finite false b).isFinite = true := isFinite_div rfl hb
  rw [div_eq_ofQuanta hpos] at hfinite ⊢
  obtain ⟨m, hm, hnearest⟩ := exists_nearest?_of_isFinite hfinite
  exact ⟨m, hm, Magnitude.isWithin_of_nearest? hpos (a.quotient_quanta hpos) hnearest⟩

/-- **A product is one rounding away**, if it is finite. -/
theorem exists_mul_isWithin (hfinite : (finite false a * finite false b).isFinite = true) :
    ∃ m, finite false a * finite false b = finite false m ∧ m.IsWithin 1 (a.value * b.value) := by
  rw [mul_eq_ofQuanta] at hfinite ⊢
  obtain ⟨m, hm, hnearest⟩ := exists_nearest?_of_isFinite hfinite
  exact ⟨m, hm, Magnitude.isWithin_of_nearest? quantaPerOne_pos (a.product_quanta b) hnearest⟩

/-- **A quotient is the magnitude** that the exact one is rounded to. -/
theorem div_eq_of_rounds {m : Magnitude} (hb : 0 < b.quanta)
    (h : m.Rounds (a.value / b.value * quantaPerOne)) :
    finite false a / finite false b = finite false m := by
  rw [← a.quotient_quanta hb] at h
  rw [div_eq_ofQuanta hb, ofQuanta, Magnitude.nearest?_eq_some hb h]
  rfl

/-- **A product is the magnitude** that the exact one is rounded to. -/
theorem mul_eq_of_rounds {m : Magnitude} (h : m.Rounds (a.value * b.value * quantaPerOne)) :
    finite false a * finite false b = finite false m := by
  rw [← a.product_quanta b] at h
  rw [mul_eq_ofQuanta, ofQuanta, Magnitude.nearest?_eq_some quantaPerOne_pos h]
  rfl

/-! ## Whole numbers -/

/-- **A whole number up to the largest double** is near as a double. -/
theorem exists_ofNat_isNear {n : Nat} (h : n ≤ (2 * binadeSize - 1) * 2 ^ 971) :
    ∃ m, ofNat n = finite false m ∧ m.IsNear n := by
  have hfinite : (ofNat n).isFinite = true := isFinite_ofFraction_one false h
  rw [ofNat, ofFraction] at hfinite ⊢
  obtain ⟨m, hm, hnearest⟩ := exists_nearest?_of_isFinite hfinite
  refine ⟨m, hm, ?_⟩
  have hquanta : |(m.quanta : ℚ) - (n * quantaPerOne : Nat) / (1 : Nat)| ≤
      (n * quantaPerOne : Nat) / (1 : Nat) / 2 ^ 53 := by
    rcases Nat.eq_zero_or_pos n with rfl | hpos
    · -- Zero is a magnitude, so no other one is nearer.
      simpa using Magnitude.abs_quanta_sub_le_abs Nat.one_pos hnearest Magnitude.zero
    · refine Magnitude.abs_quanta_sub_le_div Nat.one_pos hnearest ?_
      rw [Nat.mul_one, quantaPerOne_eq]
      exact le_mul_two_pow (show binadeSize ≤ 2 ^ 52 by decide) (by decide) hpos
  rw [Nat.cast_one, div_one, Nat.cast_mul] at hquanta
  exact Magnitude.isNear_of_quanta hquanta

/-- **A whole number of 53 bits with a power of two** is a double. -/
theorem exists_ofNat_exact {n significand shift : Nat} (hn : n = significand * 2 ^ shift)
    (hsignificand : significand < 2 ^ 53) (h : n ≤ (2 * binadeSize - 1) * 2 ^ 971) :
    ∃ m, ofNat n = finite false m ∧ m.value = n := by
  have hquanta : n * quantaPerOne = significand * 2 ^ (shift + 1074) := by
    rw [hn, quantaPerOne_eq, Nat.mul_assoc, pow_add]
  have hle : significand * 2 ^ (shift + 1074) ≤ Magnitude.largestQuanta := by
    rw [← hquanta, largestQuanta_eq]
    exact Nat.mul_le_mul_right _ h
  obtain ⟨m, hm, hmQuanta⟩ := Magnitude.exists_nearest?_exact Nat.one_pos hsignificand hle
  rw [Nat.mul_one, ← hquanta] at hm
  refine ⟨m, ?_, ?_⟩
  · rw [ofNat, ofFraction, ofQuanta, hm]
    rfl
  · rw [Magnitude.value, hmQuanta, ← hquanta, Nat.cast_mul,
      mul_div_cancel_right₀ _ quantaPerOne_cast_pos.ne']

end Binary64

end SynthReport
