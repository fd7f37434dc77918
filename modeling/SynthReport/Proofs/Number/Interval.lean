import SynthReport.Proofs.Number.Closest
import SynthReport.Proofs.Number.Shortest

/-! # The interval around a magnitude

The numbers that are rounded to a magnitude form an interval around it, which reaches half a unit up
and down, and a quarter down from a power of two.

* **`Magnitude.Rounds`** — a number in that interval;
* **`nearest?_eq_some`**, **`Rounds.unique`** — it is rounded to the magnitude, and to no other;
* **`Rounds.abs_quanta_sub_le`** — how far it can be from it;
* **`RoundsTo.rounds`** — the test of decimals is that of the interval. -/

namespace SynthReport.Magnitude

variable {m : Magnitude} {num den : Nat} {q : ℚ}

/-- **A number of quanta in the interval around a magnitude.** In units of the shift it is no more
than one half away from the significand, and less than that if the significand is odd; and below a
power of two, where magnitudes are twice as dense, it is no more than one quarter away. -/
structure Rounds (m : Magnitude) (q : ℚ) : Prop where
  half : |(m.significand : ℚ) - q / 2 ^ m.shift| ≤ 1 / 2
  odd : m.significand % 2 = 1 → |(m.significand : ℚ) - q / 2 ^ m.shift| < 1 / 2
  quarter : m.significand = binadeSize → m.shift ≠ 0 →
    (binadeSize : ℚ) - 1 / 4 ≤ q / 2 ^ m.shift

/-! ## Rounding -/

/-- A quotient of 53 bits has the shift that leaves these. -/
theorem roundingShift_eq {shift : Nat} (hden : 0 < den)
    (hlow : shift ≠ 0 → binadeSize * (den * 2 ^ shift) ≤ num)
    (hhigh : num < 2 * binadeSize * (den * 2 ^ shift)) : roundingShift num den = shift := by
  have hbinade : binadeSize = 2 ^ 52 := rfl
  have hlt : num / den < 2 ^ (53 + shift) := by
    rw [Nat.div_lt_iff_lt_mul hden, pow_add]
    calc num < 2 * binadeSize * (den * 2 ^ shift) := hhigh
      _ = 2 ^ 53 * 2 ^ shift * den := by
        rw [hbinade]
        ring
  rw [roundingShift]
  by_cases hzero : num / den = 0
  · -- Only without a shift the quotient can be zero.
    have hshift : shift = 0 := by
      by_contra hne
      have hle := hlow hne
      have hsmall := (Nat.div_eq_zero_iff_lt hden).1 hzero
      have hunits : den ≤ binadeSize * (den * 2 ^ shift) :=
        (Nat.le_mul_of_pos_right den (Nat.two_pow_pos shift)).trans
          (Nat.le_mul_of_pos_left _ (by decide))
      omega
    rw [hzero, hshift]
    rfl
  · have hupper := (Nat.log2_lt hzero).2 hlt
    by_cases hshift : shift = 0
    · omega
    · have hge : 2 ^ (52 + shift) ≤ num / den := by
        rw [Nat.le_div_iff_mul_le hden, pow_add]
        calc 2 ^ 52 * 2 ^ shift * den = binadeSize * (den * 2 ^ shift) := by
              rw [hbinade]
              ring
          _ ≤ num := hlow hshift
      have hlower := (Nat.le_log2 hzero).2 hge
      omega

/-- A magnitude is made of its parts. -/
theorem ofParts?_self (m : Magnitude) : ofParts? m.significand m.shift = some m := by
  rw [ofParts?, dif_pos m.canonical]

/-- A number in the interval has no more than 53 bits at the shift of the magnitude. -/
theorem Rounds.lt (hden : 0 < den) (h : m.Rounds (num / den)) :
    num < 2 * binadeSize * (den * 2 ^ m.shift) := by
  have hunit : (0 : ℚ) < (den * 2 ^ m.shift : Nat) := by positivity
  have hsignificand : (m.significand : ℚ) + 1 ≤ (2 * binadeSize : Nat) := by
    exact_mod_cast m.canonical.1
  have hbelow : (num : ℚ) / (den * 2 ^ m.shift : Nat) < (2 * binadeSize : Nat) := by
    have hhalf := (abs_le.1 h.half).1
    rw [div_div] at hhalf
    push_cast at hsignificand ⊢
    linarith
  rw [div_lt_iff₀ hunit] at hbelow
  exact_mod_cast hbelow

/-- With the shift of the magnitude the significand is what the quotient is rounded to. -/
theorem nearest?_of_shift (hden : 0 < den) (h : m.Rounds (num / den))
    (hshift : roundingShift num den = m.shift) : nearest? num den = some m := by
  have hunit : 0 < den * 2 ^ m.shift := Nat.mul_pos hden (Nat.two_pow_pos _)
  have hdistance : (num : ℚ) / den / 2 ^ m.shift = num / (den * 2 ^ m.shift : Nat) := by
    rw [div_div]
    push_cast
    rfl
  have hhalf := h.half
  have hodd := h.odd
  rw [hdistance] at hhalf hodd
  have hrounded : roundedSignificand num den = m.significand := by
    rw [roundedSignificand, hshift]
    rcases Nat.mod_two_eq_zero_or_one m.significand with heven | hone
    · exact divNearestEven_eq_of_even hunit hhalf heven
    · exact divNearestEven_eq_of_lt hunit (hodd hone)
  rw [nearest?_eq, hrounded, hshift, ofParts?_self]
  rfl

/-- Below a power of two the shift is one less, and rounding carries into a 54th bit. -/
theorem nearest?_of_carry {shift : Nat} (hden : 0 < den) (hsignificand : m.significand = binadeSize)
    (hshift : m.shift = shift + 1) (hlt : num < binadeSize * (den * 2 ^ (shift + 1)))
    (hquarter : (binadeSize : ℚ) - 1 / 4 ≤ num / den / 2 ^ (shift + 1)) :
    nearest? num den = some m := by
  have hunit : 0 < den * 2 ^ shift := Nat.mul_pos hden (Nat.two_pow_pos _)
  have hunitCast : (0 : ℚ) < (den * 2 ^ shift : Nat) := Nat.cast_pos.2 hunit
  have hdouble : (num : ℚ) / (den * 2 ^ shift : Nat) = 2 * (num / den / 2 ^ (shift + 1)) := by
    push_cast
    rw [pow_succ]
    field_simp
  have hbelow : (num : ℚ) / (den * 2 ^ shift : Nat) < 2 * binadeSize := by
    rw [div_lt_iff₀ hunitCast]
    have : num < 2 * binadeSize * (den * 2 ^ shift) := by
      calc num < binadeSize * (den * 2 ^ (shift + 1)) := hlt
        _ = 2 * binadeSize * (den * 2 ^ shift) := by ring
    exact_mod_cast this
  have habove : 2 * (binadeSize : ℚ) - 1 / 2 ≤ num / (den * 2 ^ shift : Nat) := by
    rw [hdouble]
    linarith
  have hrounding : roundingShift num den = shift := by
    refine roundingShift_eq hden (fun _ => ?_) ?_
    · have hone : (1 : ℚ) ≤ binadeSize := by exact_mod_cast (by decide : 1 ≤ binadeSize)
      have hle : (binadeSize : ℚ) ≤ num / (den * 2 ^ shift : Nat) := by linarith
      rw [le_div_iff₀ hunitCast] at hle
      exact_mod_cast hle
    · rw [div_lt_iff₀ hunitCast] at hbelow
      exact_mod_cast hbelow
  have hrounded : roundedSignificand num den = 2 * binadeSize := by
    rw [roundedSignificand, hrounding]
    refine divNearestEven_eq_of_even hunit ?_ (by decide)
    rw [Nat.cast_mul, Nat.cast_two, abs_le]
    constructor
    · linarith
    · linarith
  have hself := ofParts?_self m
  rw [hsignificand, hshift] at hself
  rw [nearest?_eq, hrounded, hrounding, Nat.mul_div_cancel_left _ Nat.two_pos, hself, ofParts?,
    dif_neg fun hcanonical => Nat.lt_irrefl _ hcanonical.1]
  rfl

/-- **A number in the interval is rounded to the magnitude.** -/
theorem nearest?_eq_some (hden : 0 < den) (h : m.Rounds (num / den)) :
    nearest? num den = some m := by
  by_cases hdense : m.shift ≠ 0 ∧ num < binadeSize * (den * 2 ^ m.shift)
  · obtain ⟨hshift, hlt⟩ := hdense
    obtain ⟨shift, hsucc⟩ := Nat.exists_eq_succ_of_ne_zero hshift
    -- Only a power of two has numbers with fewer bits in its interval.
    have hsignificand : m.significand = binadeSize := by
      have hbelow : (num : ℚ) / den / 2 ^ m.shift < binadeSize := by
        rw [div_div, div_lt_iff₀ (by positivity)]
        exact_mod_cast hlt
      have hle : (m.significand : ℚ) < (binadeSize + 1 : Nat) := by
        have hhalf := (abs_le.1 h.half).2
        push_cast
        linarith
      have hge := m.canonical.2.2.resolve_right hshift
      have : m.significand < binadeSize + 1 := by exact_mod_cast hle
      omega
    have hquarter := h.quarter hsignificand hshift
    rw [hsucc] at hlt hquarter
    exact nearest?_of_carry hden hsignificand hsucc hlt hquarter
  · refine nearest?_of_shift hden h (roundingShift_eq hden (fun hshift => ?_) (h.lt hden))
    exact Nat.le_of_not_lt fun hlt => hdense ⟨hshift, hlt⟩

/-- **A number is rounded to one magnitude** only. -/
theorem Rounds.unique {other : Magnitude} (hq : 0 ≤ q) (h : m.Rounds q) (hother : other.Rounds q) :
    m = other := by
  have hden : 0 < q.den := q.den_pos
  have hnum : ((q.num.toNat : Nat) : ℚ) = q.num := by
    exact_mod_cast Int.toNat_of_nonneg (Rat.num_nonneg.2 hq)
  have hfraction : q = (q.num.toNat : Nat) / q.den := by rw [hnum, Rat.num_div_den]
  rw [hfraction] at h hother
  have hsame := (nearest?_eq_some hden h).symm.trans (nearest?_eq_some hden hother)
  exact Option.some.inj hsame

/-! ## Distance -/

/-- **A number in the interval** is one part in `2 ^ 53` away from the magnitude at most, or half a
quantum. -/
theorem Rounds.abs_quanta_sub_le (h : m.Rounds q) :
    |(m.quanta : ℚ) - q| ≤ m.quanta / 2 ^ 53 + 1 / 2 := by
  have hunit : (0 : ℚ) < 2 ^ m.shift := by positivity
  have hquanta : (m.quanta : ℚ) = m.significand * 2 ^ m.shift := by
    rw [quanta, Nat.pow_eq]
    push_cast
    rfl
  have hdistance : |(m.quanta : ℚ) - q| ≤ 2 ^ m.shift / 2 := by
    have hscaled : (m.quanta : ℚ) - q = (m.significand - q / 2 ^ m.shift) * 2 ^ m.shift := by
      rw [hquanta, sub_mul, div_mul_cancel₀ _ hunit.ne']
    rw [hscaled, abs_mul, abs_of_pos hunit]
    calc |(m.significand : ℚ) - q / 2 ^ m.shift| * 2 ^ m.shift
        ≤ 1 / 2 * 2 ^ m.shift := mul_le_mul_of_nonneg_right h.half hunit.le
      _ = 2 ^ m.shift / 2 := by ring
  refine hdistance.trans ?_
  rcases m.canonical.2.2 with hbits | hzero
  · -- A unit is one part in `2 ^ 52` of the magnitude.
    have hbinade : (2 : ℚ) ^ 52 ≤ m.significand := by exact_mod_cast hbits
    calc (2 : ℚ) ^ m.shift / 2 = 2 ^ 52 * 2 ^ m.shift / 2 ^ 53 := by ring
      _ ≤ m.significand * 2 ^ m.shift / 2 ^ 53 := by gcongr
      _ ≤ m.quanta / 2 ^ 53 + 1 / 2 := by
        rw [hquanta]
        linarith
  · rw [hzero, pow_zero]
    linarith [show (0 : ℚ) ≤ m.quanta / 2 ^ 53 by positivity]

/-! ## Decimals -/

/-- The interval counted in quarters of a unit. -/
theorem rounds_of_quarters (hlow : 4 * m.significand ≤ 4 * (q / 2 ^ m.shift) + m.lowerQuarters)
    (hhigh : 4 * (q / 2 ^ m.shift) ≤ 4 * m.significand + 2)
    (hodd : m.significand % 2 = 1 →
      4 * m.significand < 4 * (q / 2 ^ m.shift) + m.lowerQuarters ∧
        4 * (q / 2 ^ m.shift) < 4 * m.significand + 2) : m.Rounds q where
  half := by
    have hlower : (m.lowerQuarters : ℚ) ≤ 2 := by exact_mod_cast m.lowerQuarters_le
    rw [abs_le]
    constructor <;> linarith
  odd h := by
    obtain ⟨hlow, hhigh⟩ := hodd h
    have hlower : (m.lowerQuarters : ℚ) ≤ 2 := by exact_mod_cast m.lowerQuarters_le
    rw [abs_lt]
    constructor <;> linarith
  quarter hsignificand hshift := by
    have hlower : m.lowerQuarters = 1 := by rw [lowerQuarters, if_pos ⟨hsignificand, hshift⟩]
    rw [hsignificand, hlower, Nat.cast_one] at hlow
    linarith

/-- **A decimal that passes the test is in the interval.** -/
theorem RoundsTo.rounds {coefficient place : Nat} (h : m.RoundsTo coefficient place) :
    m.Rounds (coefficient * 10 ^ place * quantaPerOne / 10 ^ finestPlaces) := by
  have hscale : (0 : ℚ) < (2 ^ m.shift * 10 ^ finestPlaces : Nat) := by positivity
  -- Four times the number, in units of the shift, is the decimal on the grid of the test.
  have hdecimal : 4 * (coefficient * 10 ^ place * quantaPerOne / 10 ^ finestPlaces / 2 ^ m.shift) =
      ((coefficient * 10 ^ place * (4 * quantaPerOne) : Nat) : ℚ) /
        (2 ^ m.shift * 10 ^ finestPlaces : Nat) := by
    generalize quantaPerOne = one
    push_cast
    field_simp
  rw [RoundsTo] at h
  simp only [Nat.pow_eq] at h
  generalize coefficient * 10 ^ place * (4 * quantaPerOne) = decimal at h hdecimal
  generalize 2 ^ m.shift * 10 ^ finestPlaces = scale at h hscale hdecimal
  have hsub : (4 * m.significand : ℚ) ≤
      (4 * m.significand - m.lowerQuarters : Nat) + m.lowerQuarters := by
    exact_mod_cast (by omega : 4 * m.significand ≤
      4 * m.significand - m.lowerQuarters + m.lowerQuarters)
  -- An even significand has both ends of the interval, an odd one neither.
  have hclosed : ((4 * m.significand - m.lowerQuarters : Nat) : ℚ) ≤ decimal / scale ∧
      (decimal / scale : ℚ) ≤ 4 * m.significand + 2 := by
    rw [le_div_iff₀ hscale, div_le_iff₀ hscale]
    split at h
    · exact_mod_cast h
    · exact_mod_cast And.imp Nat.le_of_lt Nat.le_of_lt h
  have hopen (hodd : m.significand % 2 = 1) :
      ((4 * m.significand - m.lowerQuarters : Nat) : ℚ) < decimal / scale ∧
        (decimal / scale : ℚ) < 4 * m.significand + 2 := by
    rw [lt_div_iff₀ hscale, div_lt_iff₀ hscale]
    rw [if_neg (by omega)] at h
    exact_mod_cast h
  refine rounds_of_quarters ?_ ?_ fun hodd => ⟨?_, ?_⟩
  · rw [hdecimal]
    linarith [hclosed.1]
  · rw [hdecimal]
    exact hclosed.2
  · rw [hdecimal]
    linarith [(hopen hodd).1]
  · rw [hdecimal]
    exact (hopen hodd).2

end SynthReport.Magnitude
