import SynthReport.Proofs.Number.Nearest

/-! # Distances of rounded numbers

How far a rounded quotient is from the exact one, in rational numbers.

* **`divNearestEven_eq_of_lt`**, **`divNearestEven_eq_of_even`** — a whole number within one half of
  a quotient is what the even rounding gives, an even one also at a distance of exactly one half;
* **`Magnitude.abs_quanta_sub_le`**, **`Magnitude.abs_quanta_sub_le_div`** — the nearest magnitude
  misses a quotient by half a unit, which is one part in `2 ^ 53` if the quotient has 53 bits;
* **`Magnitude.abs_quanta_sub_le_add`** — and else half a quantum;
* **`Magnitude.abs_quanta_sub_le_abs`** — no other magnitude is closer;
* **`Magnitude.exists_nearest?_exact`** — a quotient that fits into 53 bits is not rounded. -/

namespace SynthReport

/-! ## Whole numbers -/

section Quotients

variable {num den : Nat}

/-- The distance of a whole number from a quotient, over the denominator. -/
theorem abs_sub_div_eq (hden : 0 < den) (n : Nat) :
    |(n : ℚ) - num / den| = |(n * den - num : ℚ)| / den := by
  have hpos : (0 : ℚ) < den := Nat.cast_pos.2 hden
  rw [← abs_of_pos hpos, ← abs_div, abs_of_pos hpos, sub_div, mul_div_cancel_right₀ _ hpos.ne']

/-- A whole number within one half of a quotient, in whole numbers. -/
theorem abs_sub_div_le_half_iff (hden : 0 < den) {n : Nat} :
    |(n : ℚ) - num / den| ≤ 1 / 2 ↔
      2 * num ≤ 2 * (n * den) + den ∧ 2 * (n * den) ≤ 2 * num + den := by
  have hpos : (0 : ℚ) < den := Nat.cast_pos.2 hden
  rw [abs_sub_div_eq hden, div_le_iff₀ hpos, abs_le]
  constructor
  · rintro ⟨hlow, hhigh⟩
    constructor
    · have : (2 * num : ℚ) ≤ 2 * (n * den) + den := by linarith
      exact_mod_cast this
    · have : (2 * (n * den) : ℚ) ≤ 2 * num + den := by linarith
      exact_mod_cast this
  · rintro ⟨hlow, hhigh⟩
    have hlow' : (2 * num : ℚ) ≤ 2 * (n * den) + den := by exact_mod_cast hlow
    have hhigh' : (2 * (n * den) : ℚ) ≤ 2 * num + den := by exact_mod_cast hhigh
    constructor <;> linarith

/-- **The even rounding misses a quotient by at most one half.** -/
theorem abs_divNearestEven_sub_le (hden : 0 < den) :
    |(divNearestEven num den : ℚ) - num / den| ≤ 1 / 2 :=
  (abs_sub_div_le_half_iff hden).2 (divNearestEven_within hden)

/-- **A whole number less than one half away from a quotient** is what the even rounding gives. -/
theorem divNearestEven_eq_of_lt (hden : 0 < den) {n : Nat} (h : |(n : ℚ) - num / den| < 1 / 2) :
    divNearestEven num den = n := by
  have hrounded : |(divNearestEven num den : ℚ) - num / den| ≤ 1 / 2 :=
    abs_divNearestEven_sub_le hden
  -- Two whole numbers less than one apart are the same.
  have hdistance : |((divNearestEven num den : ℤ) - n : ℚ)| < 1 := by
    calc |((divNearestEven num den : ℤ) - n : ℚ)|
        ≤ |(divNearestEven num den : ℚ) - num / den| + |(num / den : ℚ) - n| := by
          simpa using abs_sub_le (divNearestEven num den : ℚ) (num / den) n
      _ < 1 / 2 + 1 / 2 := by
          rw [abs_sub_comm (num / den : ℚ)]
          exact add_lt_add_of_le_of_lt hrounded h
      _ = 1 := by norm_num
  have hzero : |(divNearestEven num den : ℤ) - n| < 1 := by exact_mod_cast hdistance
  have := Int.abs_lt_one_iff.1 hzero
  omega

/-- **An even number at most one half away from a quotient** is what the even rounding gives. -/
theorem divNearestEven_eq_of_even (hden : 0 < den) {n : Nat} (h : |(n : ℚ) - num / den| ≤ 1 / 2)
    (heven : n % 2 = 0) : divNearestEven num den = n := by
  obtain ⟨hlow, hhigh⟩ := (abs_sub_div_le_half_iff hden).1 h
  have hdiv := Nat.div_add_mod num den
  have hmod := Nat.mod_lt num hden
  rw [Nat.mul_comm] at hdiv
  -- The number is the quotient without its fraction, or the next one.
  have hle : num / den ≤ n := by
    by_contra hlt
    have := Nat.mul_le_mul_right den (Nat.succ_le_of_lt (Nat.lt_of_not_le hlt))
    rw [Nat.succ_mul] at this
    omega
  have hge : n ≤ num / den + 1 := by
    by_contra hlt
    have := Nat.mul_le_mul_right den (Nat.succ_le_of_lt (Nat.lt_of_not_le hlt))
    rw [Nat.succ_mul, Nat.succ_mul] at this
    omega
  rw [divNearestEven]
  rcases Nat.lt_or_ge (num / den) n with hlt | hge'
  · obtain rfl : n = num / den + 1 := by omega
    rw [Nat.add_mul (num / den) 1 den] at hhigh
    rw [if_neg (by omega)]
  · obtain rfl : n = num / den := by omega
    rw [if_pos (by omega)]

/-- **No whole number is closer to a quotient** than the even rounding. -/
theorem abs_divNearestEven_sub_le_abs (hden : 0 < den) (n : Nat) :
    |(divNearestEven num den : ℚ) - num / den| ≤ |(n : ℚ) - num / den| := by
  by_contra hlt
  have hcloser := lt_of_not_ge hlt
  have hn := divNearestEven_eq_of_lt hden (hcloser.trans_le (abs_divNearestEven_sub_le hden))
  rw [hn] at hcloser
  exact lt_irrefl _ hcloser

end Quotients

/-! ## Magnitudes -/

namespace Magnitude

variable {num den : Nat} {m : Magnitude}

/-- The distance of a multiple of a unit from a quotient, counted in units. -/
theorem abs_mul_sub_div_eq {unit : Nat} (hunit : 0 < unit) (n : Nat) :
    |((n * unit : Nat) : ℚ) - num / den| = |(n : ℚ) - num / (den * unit : Nat)| * unit := by
  have hpos : (0 : ℚ) < unit := Nat.cast_pos.2 hunit
  have hunits : ((n * unit : Nat) : ℚ) - num / den =
      ((n : ℚ) - num / (den * unit : Nat)) * unit := by
    rw [sub_mul, Nat.cast_mul, Nat.cast_mul, ← div_div, div_mul_cancel₀ _ hpos.ne']
  rw [hunits, abs_mul, abs_of_pos hpos]

/-- **The nearest magnitude misses a quotient by half a unit** at most. -/
theorem abs_quanta_sub_le (hden : 0 < den) (h : nearest? num den = some m) :
    |(m.quanta : ℚ) - num / den| ≤ 2 ^ roundingShift num den / 2 := by
  have hunit : 0 < 2 ^ roundingShift num den := Nat.two_pow_pos _
  rw [quanta_of_nearest? hden h, abs_mul_sub_div_eq hunit]
  have hrounded : |(roundedSignificand num den : ℚ) -
      num / (den * 2 ^ roundingShift num den : Nat)| ≤ 1 / 2 :=
    abs_divNearestEven_sub_le (shifted_pos hden)
  calc |(roundedSignificand num den : ℚ) - num / (den * 2 ^ roundingShift num den : Nat)| *
        (2 ^ roundingShift num den : Nat)
      ≤ 1 / 2 * (2 ^ roundingShift num den : Nat) :=
        mul_le_mul_of_nonneg_right hrounded (Nat.cast_nonneg _)
    _ = 2 ^ roundingShift num den / 2 := by
        push_cast
        ring

/-- A power of two that a numerator reaches is reached by the quotient. -/
theorem binadeSize_mul_le (hden : 0 < den)
    (h : binadeSize * (den * 2 ^ roundingShift num den) ≤ num) :
    (binadeSize * 2 ^ roundingShift num den : ℚ) ≤ num / den := by
  rw [le_div_iff₀ (Nat.cast_pos.2 hden), mul_assoc, mul_comm _ (den : ℚ)]
  exact_mod_cast h

/-- **A quotient of at least 53 bits is missed by little**: by one part in `2 ^ 53` at most. -/
theorem abs_quanta_sub_le_div (hden : 0 < den) (h : nearest? num den = some m)
    (hlarge : binadeSize * den ≤ num) :
    |(m.quanta : ℚ) - num / den| ≤ num / den / 2 ^ 53 := by
  have hunits : (binadeSize * 2 ^ roundingShift num den : ℚ) ≤ num / den := by
    apply binadeSize_mul_le hden
    by_cases hshift : roundingShift num den = 0
    · rwa [hshift, Nat.pow_zero, Nat.mul_one]
    · exact mul_shifted_le hshift
  calc |(m.quanta : ℚ) - num / den| ≤ 2 ^ roundingShift num den / 2 := abs_quanta_sub_le hden h
    _ = binadeSize * 2 ^ roundingShift num den / 2 ^ 53 := by
      rw [show (binadeSize : ℚ) = 2 ^ 52 by rw [show binadeSize = 2 ^ 52 from rfl]; norm_num]
      ring
    _ ≤ num / den / 2 ^ 53 := by gcongr

/-- **Any quotient is missed by little**: by one part in `2 ^ 53`, or half a quantum, at most. -/
theorem abs_quanta_sub_le_add (hden : 0 < den) (h : nearest? num den = some m) :
    |(m.quanta : ℚ) - num / den| ≤ num / den / 2 ^ 53 + 1 / 2 := by
  have hnonneg : (0 : ℚ) ≤ num / den := div_nonneg (Nat.cast_nonneg _) (Nat.cast_nonneg _)
  by_cases hshift : roundingShift num den = 0
  · -- Without a shift a unit is a quantum.
    have hhalf := abs_quanta_sub_le hden h
    rw [hshift, pow_zero] at hhalf
    exact hhalf.trans (le_add_of_nonneg_left (by positivity))
  · have hlarge : binadeSize * den ≤ num :=
      (Nat.mul_le_mul_left _ (Nat.le_mul_of_pos_right den (Nat.two_pow_pos _))).trans
        (mul_shifted_le hshift)
    exact (abs_quanta_sub_le_div hden h hlarge).trans (le_add_of_nonneg_right (by norm_num))

/-- No multiple of the unit is closer to a quotient than the nearest magnitude. -/
theorem abs_quanta_sub_le_abs_mul (hden : 0 < den) (h : nearest? num den = some m) (n : Nat) :
    |(m.quanta : ℚ) - num / den| ≤
      |((n * 2 ^ roundingShift num den : Nat) : ℚ) - num / den| := by
  have hunit : 0 < 2 ^ roundingShift num den := Nat.two_pow_pos _
  rw [quanta_of_nearest? hden h, abs_mul_sub_div_eq hunit, abs_mul_sub_div_eq hunit]
  exact mul_le_mul_of_nonneg_right (abs_divNearestEven_sub_le_abs (shifted_pos hden) n)
    (Nat.cast_nonneg _)

/-- **No magnitude is closer to a quotient** than the nearest one. -/
theorem abs_quanta_sub_le_abs (hden : 0 < den) (h : nearest? num den = some m)
    (other : Magnitude) : |(m.quanta : ℚ) - num / den| ≤ |(other.quanta : ℚ) - num / den| := by
  obtain ⟨hsignificand, -, -⟩ := other.canonical
  by_cases hshift : roundingShift num den ≤ other.shift
  · -- The other magnitude is a multiple of the unit.
    have hquanta : other.quanta = other.significand *
        2 ^ (other.shift - roundingShift num den) * 2 ^ roundingShift num den := by
      rw [quanta, Nat.pow_eq, Nat.mul_assoc, ← pow_add, Nat.sub_add_cancel hshift]
    rw [hquanta]
    exact abs_quanta_sub_le_abs_mul hden h _
  · -- The other magnitude lies below a power of two that the quotient reaches.
    have hreached := binadeSize_mul_le hden
      (mul_shifted_le (show roundingShift num den ≠ 0 by omega))
    have hbelow : other.quanta ≤ binadeSize * 2 ^ roundingShift num den := by
      obtain ⟨k, hk⟩ : ∃ k, roundingShift num den = k + 1 :=
        ⟨roundingShift num den - 1, by omega⟩
      calc other.quanta = other.significand * 2 ^ other.shift := by rw [quanta, Nat.pow_eq]
        _ ≤ 2 * binadeSize * 2 ^ k :=
          Nat.mul_le_mul hsignificand.le (Nat.pow_le_pow_right two_pos (by omega))
        _ = binadeSize * 2 ^ roundingShift num den := by
          rw [hk, pow_succ]
          ring
    have hbelow' : (other.quanta : ℚ) ≤ binadeSize * 2 ^ roundingShift num den := by
      exact_mod_cast hbelow
    calc |(m.quanta : ℚ) - num / den|
        ≤ |((binadeSize * 2 ^ roundingShift num den : Nat) : ℚ) - num / den| :=
          abs_quanta_sub_le_abs_mul hden h binadeSize
      _ = num / den - binadeSize * 2 ^ roundingShift num den := by
          push_cast
          rw [abs_sub_comm, abs_of_nonneg (sub_nonneg.2 hreached)]
      _ ≤ num / den - other.quanta := sub_le_sub_left hbelow' _
      _ = |(other.quanta : ℚ) - num / den| := by
          rw [abs_sub_comm, abs_of_nonneg (sub_nonneg.2 (hbelow'.trans hreached))]

/-- **A quotient that fits into 53 bits is not rounded.** -/
theorem exists_nearest?_exact {significand shift : Nat} (hden : 0 < den)
    (hsignificand : significand < 2 ^ 53) (h : significand * 2 ^ shift ≤ largestQuanta) :
    ∃ m, nearest? (significand * 2 ^ shift * den) den = some m ∧
      m.quanta = significand * 2 ^ shift := by
  obtain ⟨m, hm⟩ := Option.isSome_iff_exists.1
    (nearest?_isSome hden (Nat.mul_le_mul_right den h))
  refine ⟨m, hm, ?_⟩
  -- The shift that leaves 53 bits is no larger than the one there is.
  have hle : roundingShift (significand * 2 ^ shift * den) den ≤ shift := by
    rw [roundingShift, Nat.mul_div_cancel _ hden]
    by_cases hzero : significand * 2 ^ shift = 0
    · rw [hzero]
      exact Nat.zero_le _
    · have hlt : significand * 2 ^ shift < 2 ^ (53 + shift) := by
        rw [pow_add]
        exact Nat.mul_lt_mul_of_pos_right hsignificand (Nat.two_pow_pos shift)
      have := (Nat.log2_lt hzero).2 hlt
      omega
  have hsplit : 2 ^ shift = 2 ^ (shift - roundingShift (significand * 2 ^ shift * den) den) *
      2 ^ roundingShift (significand * 2 ^ shift * den) den := by
    rw [← pow_add, Nat.sub_add_cancel hle]
  rw [quanta_of_nearest? hden hm, roundedSignificand]
  generalize roundingShift (significand * 2 ^ shift * den) den = unit at hsplit
  rw [show significand * 2 ^ shift * den =
      significand * 2 ^ (shift - unit) * (den * 2 ^ unit) by rw [hsplit]; ring,
    divNearestEven_mul _ (Nat.mul_pos hden (Nat.two_pow_pos unit)), Nat.mul_assoc, ← hsplit]

end Magnitude

end SynthReport
