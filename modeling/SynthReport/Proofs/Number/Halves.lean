import SynthReport.Number.Fixed
import SynthReport.Proofs.Number.Closest

/-! # Values and decimal halves

The exact value of a number is rational, and so is what it is rounded to.

* **`Magnitude.value`**, **`Binary64.value`** — the exact value of a number;
* **`IsHalf`** — exactly halfway between two whole numbers;
* **`nearestHalfUp`** — the nearest whole number, an exact half going up;
* **`Magnitude.isDecimalTie_iff`** — the test for a decimal half, which looks at exponents only,
  finds exactly the numbers that are one at so many places;
* **`Magnitude.abs_fixedNumerator_sub_le`**, **`Magnitude.fixedNumerator_eq_nearestHalfUp`** — the
  numerator of the fixed-place text is the nearest whole number, unless there is a tie. -/

namespace SynthReport

/-! ## Exact values -/

/-- **The exact value of a magnitude.** -/
def Magnitude.value (m : Magnitude) : ℚ := m.quanta / quantaPerOne

/-- The sign of a number, which zeros and infinities have as well. -/
def Binary64.isNegative : Binary64 → Bool
  | nan => false
  | infinite negative => negative
  | finite negative _ => negative

/-- **The exact value of a finite number**, and zero for any other. -/
def Binary64.value : Binary64 → ℚ
  | finite negative m => if negative then -m.value else m.value
  | _ => 0

/-- There are quanta in one, as a rational number. -/
theorem quantaPerOne_cast_pos : (0 : ℚ) < quantaPerOne := Nat.cast_pos.2 quantaPerOne_pos

/-- No magnitude is negative. -/
theorem Magnitude.value_nonneg (m : Magnitude) : 0 ≤ m.value :=
  div_nonneg (Nat.cast_nonneg _) (Nat.cast_nonneg _)

/-- Zero has the value zero. -/
theorem Magnitude.value_eq_zero {m : Magnitude} (h : m.significand = 0) : m.value = 0 := by
  rw [value, quanta_eq_zero.2 h, Nat.cast_zero, zero_div]

/-- Without its sign, a finite number has the value of its magnitude. -/
theorem Binary64.abs_value_finite (negative : Bool) (m : Magnitude) :
    |(finite negative m).value| = m.value := by
  rw [value]
  split
  · rw [abs_neg, abs_of_nonneg m.value_nonneg]
  · rw [abs_of_nonneg m.value_nonneg]

/-- A value moved to the left by so many places, as a quotient. -/
theorem Magnitude.value_mul_pow (m : Magnitude) (places : Nat) :
    m.value * 10 ^ places = ((m.quanta * 10 ^ places : Nat) : ℚ) / quantaPerOne := by
  rw [value, div_mul_eq_mul_div]
  push_cast
  rfl

/-! ## Halves -/

/-- **Exactly halfway between two whole numbers.** -/
def IsHalf (q : ℚ) : Prop := ∃ n : ℤ, q = n + 1 / 2

/-- **The nearest whole number**, an exact half going up. -/
def nearestHalfUp (q : ℚ) : ℕ := ⌊q + 1 / 2⌋₊

/-- Halves do not depend on the sign. -/
theorem isHalf_neg_iff {q : ℚ} : IsHalf (-q) ↔ IsHalf q := by
  have hneg : ∀ {r : ℚ}, IsHalf r → IsHalf (-r) := by
    rintro r ⟨n, rfl⟩
    exact ⟨-n - 1, by push_cast; ring⟩
  exact ⟨fun h => neg_neg q ▸ hneg h, hneg⟩

/-- **A half that is not negative** follows a natural number. -/
theorem IsHalf.exists_nat {q : ℚ} (h : IsHalf q) (hq : 0 ≤ q) : ∃ n : ℕ, q = n + 1 / 2 := by
  obtain ⟨i, rfl⟩ := h
  have hlow : (-1 : ℚ) < i := by linarith
  have hpos : 0 ≤ i := by
    have : -1 < i := by exact_mod_cast hlow
    omega
  obtain ⟨n, rfl⟩ := Int.eq_ofNat_of_zero_le hpos
  exact ⟨n, by rw [Int.cast_natCast]⟩

/-- A half goes up. -/
theorem nearestHalfUp_add_half (n : ℕ) : nearestHalfUp (n + 1 / 2) = n + 1 := by
  rw [nearestHalfUp, Nat.floor_eq_iff (by positivity)]
  push_cast
  constructor <;> linarith

/-- The same for a quotient of whole numbers. -/
theorem divNearestUp_half {half : Nat} (hpos : 0 < half) (n : Nat) :
    divNearestUp ((2 * n + 1) * half) (2 * half) = n + 1 := by
  rw [divNearestUp, show 2 * ((2 * n + 1) * half) + 2 * half = (n + 1) * (2 * (2 * half)) by ring]
  exact Nat.mul_div_cancel _ (by positivity)

/-- A number less than one half away from a whole number is rounded to it. -/
theorem nearestHalfUp_eq_of_lt {q : ℚ} (hq : 0 ≤ q) {n : Nat} (h : |(n : ℚ) - q| < 1 / 2) :
    nearestHalfUp q = n := by
  obtain ⟨hlow, hhigh⟩ := abs_lt.1 h
  rw [nearestHalfUp, Nat.floor_eq_iff (by linarith)]
  constructor <;> linarith

/-- The distance of a number that is no half from a whole number is not one half. -/
theorem abs_sub_ne_half {q : ℚ} (hq : ¬ IsHalf q) (n : Nat) : |(n : ℚ) - q| ≠ 1 / 2 := by
  intro h
  apply hq
  rcases (abs_eq (by norm_num)).1 h with h | h
  · exact ⟨(n : ℤ) - 1, by push_cast; linarith⟩
  · exact ⟨n, by push_cast; linarith⟩

/-! ## The test for a half -/

/-- An odd number and a power of two determine each other in their product. -/
theorem eq_of_odd_mul_two_pow {a b : ℤ} {i j : Nat} (ha : Odd a) (hb : Odd b)
    (h : a * 2 ^ i = b * 2 ^ j) : i = j := by
  -- Otherwise the larger power would leave a factor of two to the odd number beside the smaller.
  have hle : ∀ {a b : ℤ} {i j : Nat}, Odd a → a * 2 ^ i = b * 2 ^ j → j ≤ i := by
    intro a b i j ha h
    by_contra hlt
    obtain ⟨k, rfl⟩ : ∃ k, j = i + (k + 1) := ⟨j - i - 1, by omega⟩
    have hcancel : a = b * 2 ^ k * 2 := by
      refine mul_right_cancel₀ (pow_ne_zero i (two_ne_zero (α := ℤ))) ?_
      rw [h]
      ring
    rw [hcancel] at ha
    exact Int.not_odd_iff_even.2 (even_two.mul_left _) ha
  exact Nat.le_antisymm (hle hb h.symm) (hle ha h)

/-- A number other than zero is an odd number with its power of two. -/
theorem exists_odd_of_trailingZeros {n : Nat} (h : n ≠ 0) :
    ∃ odd, odd % 2 = 1 ∧ n = odd * 2 ^ trailingZeros n := by
  induction n using Nat.strongRecOn with
  | ind n ih =>
    rw [trailingZeros]
    split
    · rename_i hodd
      exact ⟨n, hodd.resolve_left h, by rw [Nat.pow_zero, Nat.mul_one]⟩
    · obtain ⟨odd, hodd, hhalf⟩ := ih (n / 2) (by omega) (by omega)
      refine ⟨odd, hodd, ?_⟩
      rw [pow_succ, ← Nat.mul_assoc, ← hhalf]
      omega

namespace Magnitude

variable {m : Magnitude}

/-- **A magnitude moved to the left** is an odd number of quanta with a power of two. -/
theorem exists_odd_quanta_mul_pow (h : m.significand ≠ 0) (places : Nat) :
    ∃ odd, odd % 2 = 1 ∧
      m.quanta * 10 ^ places = odd * 2 ^ (m.shift + trailingZeros m.significand + places) := by
  obtain ⟨odd, hodd, hsignificand⟩ := exists_odd_of_trailingZeros h
  refine ⟨odd * 5 ^ places, ?_, ?_⟩
  · have hfive : Odd (5 ^ places) := Odd.pow (by decide)
    exact Nat.odd_iff.1 ((Nat.odd_iff.2 hodd).mul hfive)
  · rw [quanta, Nat.pow_eq, show (10 : Nat) = 5 * 2 from rfl, mul_pow, pow_add, pow_add]
    nth_rewrite 1 [hsignificand]
    ring

/-- **The test finds exactly the decimal halves** of so many places. -/
theorem isDecimalTie_iff {places : Nat} :
    m.isDecimalTie places = true ↔ IsHalf (m.value * 10 ^ places) := by
  rw [isDecimalTie, Bool.and_eq_true, decide_eq_true_eq, beq_iff_eq]
  by_cases hzero : m.significand = 0
  · -- Zero is a whole number.
    have hvalue : m.value * 10 ^ places = 0 := by
      rw [value_eq_zero hzero, zero_mul]
    rw [hvalue]
    constructor
    · exact fun h => absurd hzero h.1
    · rintro ⟨n, hn⟩
      have hodd : (2 * n + 1 : ℚ) = 0 := by linarith
      have : 2 * n + 1 = 0 := by exact_mod_cast hodd
      omega
  · obtain ⟨odd, hodd, hquanta⟩ := exists_odd_quanta_mul_pow hzero places
    have hoddInt : Odd (odd : ℤ) := (Nat.odd_iff.2 hodd).natCast
    rw [value_mul_pow, hquanta, and_iff_right hzero]
    generalize m.shift + trailingZeros m.significand + places = exponent
    have hone : (quantaPerOne : ℤ) = 2 ^ 1074 := by
      rw [quantaPerOne_eq, Nat.cast_pow, Nat.cast_ofNat]
    -- A half is an odd number of halves, and one has `2 ^ 1074` quanta.
    have hcross : ∀ n : ℤ, ((odd * 2 ^ exponent : Nat) : ℚ) / quantaPerOne = n + 1 / 2 ↔
        (odd : ℤ) * 2 ^ (exponent + 1) = (2 * n + 1) * 2 ^ 1074 := by
      intro n
      rw [div_eq_iff quantaPerOne_cast_pos.ne', ← hone, ← Int.cast_inj (α := ℚ)]
      push_cast
      rw [pow_succ]
      constructor
      · intro h
        linear_combination 2 * h
      · intro h
        linear_combination h / 2
    constructor
    · intro hexponent
      obtain ⟨n, hn⟩ := hoddInt
      refine ⟨n, (hcross n).2 ?_⟩
      rw [hexponent, hn]
    · rintro ⟨n, hn⟩
      have := eq_of_odd_mul_two_pow hoddInt ⟨n, rfl⟩ ((hcross n).1 hn)
      omega

/-! ## Numerators -/

variable {places n : Nat}

/-- **The numerator of the fixed-place text** is at most one half away from the value. -/
theorem abs_fixedNumerator_sub_le (m : Magnitude) (places : Nat) :
    |(m.fixedNumerator places : ℚ) - m.value * 10 ^ places| ≤ 1 / 2 := by
  rw [value_mul_pow, fixedNumerator, Nat.pow_eq]
  exact abs_divNearestEven_sub_le quantaPerOne_pos

/-- A whole number less than one half away from the value is that numerator. -/
theorem fixedNumerator_eq_of_lt (h : |(n : ℚ) - m.value * 10 ^ places| < 1 / 2) :
    m.fixedNumerator places = n := by
  rw [value_mul_pow] at h
  rw [fixedNumerator, Nat.pow_eq]
  exact divNearestEven_eq_of_lt quantaPerOne_pos h

/-- An even number at most one half away from the value is that numerator. -/
theorem fixedNumerator_eq_of_even (h : |(n : ℚ) - m.value * 10 ^ places| ≤ 1 / 2)
    (heven : n % 2 = 0) : m.fixedNumerator places = n := by
  rw [value_mul_pow] at h
  rw [fixedNumerator, Nat.pow_eq]
  exact divNearestEven_eq_of_even quantaPerOne_pos h heven

/-- Without a tie the numerator is less than one half away. -/
theorem abs_fixedNumerator_sub_lt (h : ¬ IsHalf (m.value * 10 ^ places)) :
    |(m.fixedNumerator places : ℚ) - m.value * 10 ^ places| < 1 / 2 :=
  lt_of_le_of_ne (abs_fixedNumerator_sub_le m places)
    (abs_sub_ne_half h _)

/-- **Without a tie the numerator is the nearest whole number.** -/
theorem fixedNumerator_eq_nearestHalfUp (h : ¬ IsHalf (m.value * 10 ^ places)) :
    m.fixedNumerator places = nearestHalfUp (m.value * 10 ^ places) :=
  (nearestHalfUp_eq_of_lt (mul_nonneg m.value_nonneg (by positivity))
    (abs_fixedNumerator_sub_lt h)).symm

end Magnitude

end SynthReport
