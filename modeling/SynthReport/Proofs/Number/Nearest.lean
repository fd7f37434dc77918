import Mathlib
import SynthReport.Number.Arithmetic

/-! # Rounding to the nearest magnitude

The rounding of an exact quotient in full: which pair it gives, and when it gives one at all.

* **`roundingShift`**, **`roundedSignificand`** — the shift that leaves 53 bits of a quotient, and
  the quotient rounded at that shift;
* **`quanta_of_nearest?`** — the nearest magnitude is that rounded quotient;
* **`nearest?_isSome`** — there is one up to the largest magnitude;
* **`two_pow_le_quanta`** — it does not fall below a power of two that the quotient reaches;
* **`isZero_ofInt_iff`**, **`isFinite_ofInt`** — integers as doubles: only zero becomes a zero, and
  what fits into 64 bits stays finite;
* **`isFinite_ofNat_mul`**, **`isFinite_div`** — products and quotients that stay finite. -/

namespace SynthReport

/-- The quanta in one are a power of two. -/
theorem quantaPerOne_eq : quantaPerOne = 2 ^ 1074 := by rw [quantaPerOne, Nat.pow_eq]

/-- There are quanta in one. -/
theorem quantaPerOne_pos : 0 < quantaPerOne := by
  rw [quantaPerOne_eq]
  positivity

/-- A power of two does not exceed a multiple of a larger one. -/
theorem le_mul_two_pow {n k l factor : Nat} (h : n ≤ 2 ^ k) (hk : k ≤ l) (hfactor : 0 < factor) :
    n ≤ factor * 2 ^ l :=
  calc n ≤ 2 ^ k := h
    _ ≤ 2 ^ l := Nat.pow_le_pow_right two_pos hk
    _ ≤ factor * 2 ^ l := Nat.le_mul_of_pos_left _ hfactor

/-! ## Bounds of the even rounding -/

/-- A quotient that reaches a whole number is not rounded below it. -/
theorem le_divNearestEven {num den bound : Nat} (hden : 0 < den) (h : bound * den ≤ num) :
    bound ≤ divNearestEven num den := by
  have hquotient : bound ≤ num / den := (Nat.le_div_iff_mul_le hden).2 h
  rcases divNearestEven_eq_or num den with heq | heq
  · rw [heq]
    exact hquotient
  · rw [heq]
    exact Nat.le_succ_of_le hquotient

/-- A quotient that does not exceed a whole number is not rounded above it. -/
theorem divNearestEven_le {num den bound : Nat} (hden : 0 < den) (h : num ≤ bound * den) :
    divNearestEven num den ≤ bound := by
  rcases Nat.lt_or_eq_of_le h with hlt | rfl
  · have hquotient : num / den < bound := (Nat.div_lt_iff_lt_mul hden).2 hlt
    rcases divNearestEven_eq_or num den with heq | heq
    · rw [heq]
      exact hquotient.le
    · rw [heq]
      exact hquotient
  · exact (divNearestEven_mul bound hden).le

namespace Magnitude

/-! ## The rounded quotient -/

/-- **The shift that leaves 53 bits** of a quotient, or all of them if there are fewer. -/
def roundingShift (num den : Nat) : Nat := (num / den).log2 - 52

/-- **The quotient rounded at its shift.** -/
def roundedSignificand (num den : Nat) : Nat :=
  divNearestEven num (den * 2 ^ roundingShift num den)

/-- The nearest magnitude has the rounded quotient and its shift, or half the quotient and one
shift more. -/
theorem nearest?_eq (num den : Nat) :
    nearest? num den =
      (ofParts? (roundedSignificand num den) (roundingShift num den)).or
        (ofParts? (roundedSignificand num den / 2) (roundingShift num den + 1)) := rfl

variable {num den : Nat}

/-- A unit of the shifted quotient is positive. -/
theorem shifted_pos (hden : 0 < den) : 0 < den * 2 ^ roundingShift num den :=
  Nat.mul_pos hden (Nat.two_pow_pos _)

/-- The shift leaves at most 53 bits. -/
theorem le_mul_shifted (hden : 0 < den) :
    num ≤ 2 * binadeSize * (den * 2 ^ roundingShift num den) := by
  have hbits : (num / den).log2 + 1 ≤ 53 + roundingShift num den := by
    rw [roundingShift]
    omega
  have hquotient : num / den < 2 ^ (53 + roundingShift num den) :=
    Nat.lt_of_lt_of_le Nat.lt_log2_self (Nat.pow_le_pow_right (by decide) hbits)
  have hnum : num < 2 ^ (53 + roundingShift num den) * den :=
    (Nat.div_lt_iff_lt_mul hden).1 hquotient
  calc num ≤ 2 ^ (53 + roundingShift num den) * den := hnum.le
    _ = 2 * binadeSize * (den * 2 ^ roundingShift num den) := by
      rw [pow_add, show 2 * binadeSize = 2 ^ 53 from rfl]
      ring

/-- A shift leaves at least 53 bits. -/
theorem mul_shifted_le (hshift : roundingShift num den ≠ 0) :
    binadeSize * (den * 2 ^ roundingShift num den) ≤ num := by
  have hbits : 52 + roundingShift num den = (num / den).log2 := by
    rw [roundingShift] at hshift ⊢
    omega
  have hquotient : num / den ≠ 0 := by
    intro hzero
    rw [roundingShift, hzero] at hshift
    exact hshift rfl
  calc binadeSize * (den * 2 ^ roundingShift num den)
      = 2 ^ (52 + roundingShift num den) * den := by
        rw [pow_add, show binadeSize = 2 ^ 52 from rfl]
        ring
    _ ≤ num / den * den := by
        rw [hbits]
        exact Nat.mul_le_mul_right den (Nat.log2_self_le hquotient)
    _ ≤ num := Nat.div_mul_le_self num den

/-- The rounded quotient has 53 bits, or is the least number with 54. -/
theorem roundedSignificand_le (hden : 0 < den) : roundedSignificand num den ≤ 2 * binadeSize :=
  divNearestEven_le (shifted_pos hden) (le_mul_shifted hden)

/-- After a shift the rounded quotient has all of its 53 bits. -/
theorem le_roundedSignificand (hden : 0 < den) (hshift : roundingShift num den ≠ 0) :
    binadeSize ≤ roundedSignificand num den :=
  le_divNearestEven (shifted_pos hden) (mul_shifted_le hshift)

/-- A rounded quotient of 53 bits makes a canonical pair, unless its shift is too large. -/
theorem isCanonical_rounded (hden : 0 < den) (hlt : roundedSignificand num den < 2 * binadeSize)
    (hshift : roundingShift num den ≤ 2045) :
    IsCanonical (roundedSignificand num den) (roundingShift num den) := by
  refine ⟨hlt, hshift, ?_⟩
  by_cases hzero : roundingShift num den = 0
  · exact Or.inr hzero
  · exact Or.inl (le_roundedSignificand hden hzero)

/-- The parts of a magnitude are the ones it is made of. -/
theorem eq_of_ofParts? {significand shift : Nat} {m : Magnitude}
    (h : ofParts? significand shift = some m) :
    IsCanonical significand shift ∧ m.quanta = significand * 2 ^ shift := by
  rw [ofParts?] at h
  split at h
  · rename_i hcanonical
    obtain rfl := Option.some.inj h
    exact ⟨hcanonical, rfl⟩
  · cases h

/-- **The nearest magnitude is the rounded quotient.** -/
theorem quanta_of_nearest? {m : Magnitude} (hden : 0 < den) (h : nearest? num den = some m) :
    m.quanta = roundedSignificand num den * 2 ^ roundingShift num den := by
  rw [nearest?_eq, Option.or_eq_some_iff] at h
  rcases h with h | ⟨hnone, h⟩
  · exact (eq_of_ofParts? h).2
  · obtain ⟨⟨-, hshift, -⟩, hquanta⟩ := eq_of_ofParts? h
    -- The first pair can only fail to be canonical because rounding carried into a 54th bit.
    have hcarry : roundedSignificand num den = 2 * binadeSize := by
      refine Nat.le_antisymm (roundedSignificand_le hden) (Nat.le_of_not_lt fun hlt => ?_)
      rw [ofParts?, dif_pos (isCanonical_rounded hden hlt (by omega))] at hnone
      cases hnone
    rw [hquanta, hcarry, Nat.mul_div_cancel_left binadeSize two_pos, pow_succ]
    ring

/-- The quanta of the largest magnitude. -/
def largestQuanta : Nat := (2 * binadeSize - 1) * 2 ^ 2045

/-- **Up to the largest magnitude there is a nearest one.** -/
theorem nearest?_isSome (hden : 0 < den) (h : num ≤ largestQuanta * den) :
    (nearest? num den).isSome = true := by
  have hshift : roundingShift num den ≤ 2045 := by
    have hquotient : num / den < 2 ^ (53 + 2045) :=
      calc num / den ≤ largestQuanta := Nat.div_le_of_le_mul (by rwa [Nat.mul_comm])
        _ < 2 ^ 53 * 2 ^ 2045 := by
          have hbits : 2 * binadeSize - 1 < 2 ^ 53 := by decide
          rw [largestQuanta]
          gcongr
        _ = 2 ^ (53 + 2045) := by rw [pow_add]
    by_cases hzero : num / den = 0
    · rw [roundingShift, hzero]
      decide
    · have := (Nat.log2_lt hzero).2 hquotient
      rw [roundingShift]
      omega
  rw [nearest?_eq, Option.isSome_or]
  by_cases hlt : roundedSignificand num den < 2 * binadeSize
  · rw [ofParts?, dif_pos (isCanonical_rounded hden hlt hshift)]
    rfl
  · have hcarry : roundedSignificand num den = 2 * binadeSize :=
      Nat.le_antisymm (roundedSignificand_le hden) (Nat.le_of_not_lt hlt)
    -- At the largest shift the quotient lies below the carry.
    have hsmaller : roundingShift num den ≠ 2045 := by
      intro heq
      have hbound : roundedSignificand num den ≤ 2 * binadeSize - 1 := by
        refine divNearestEven_le (shifted_pos hden) ?_
        rwa [heq, Nat.mul_comm den, ← Nat.mul_assoc, ← largestQuanta]
      exact hlt (Nat.lt_of_le_of_lt hbound (by decide))
    have hcanonical : IsCanonical (roundedSignificand num den / 2) (roundingShift num den + 1) := by
      rw [hcarry, Nat.mul_div_cancel_left binadeSize two_pos]
      exact ⟨by decide, by omega, Or.inl (Nat.le_refl binadeSize)⟩
    rw [ofParts?, ofParts?, dif_pos hcanonical]
    simp

/-- **A quotient that reaches a power of two is not rounded below it.** -/
theorem two_pow_le_quanta {m : Magnitude} {n : Nat} (hden : 0 < den) (hle : 2 ^ n * den ≤ num)
    (h : nearest? num den = some m) : 2 ^ n ≤ m.quanta := by
  rw [quanta_of_nearest? hden h]
  by_cases hshift : roundingShift num den ≤ n
  · have hsplit : 2 ^ n = 2 ^ (n - roundingShift num den) * 2 ^ roundingShift num den := by
      rw [← pow_add, Nat.sub_add_cancel hshift]
    rw [hsplit]
    refine Nat.mul_le_mul_right _ (le_divNearestEven (shifted_pos hden) ?_)
    rwa [Nat.mul_comm den, ← Nat.mul_assoc, ← hsplit]
  · -- A larger shift leaves all 53 bits.
    have hbits : binadeSize ≤ roundedSignificand num den := le_roundedSignificand hden (by omega)
    calc 2 ^ n ≤ 2 ^ roundingShift num den := Nat.pow_le_pow_right two_pos (by omega)
      _ ≤ roundedSignificand num den * 2 ^ roundingShift num den :=
        Nat.le_mul_of_pos_left _ (Nat.lt_of_lt_of_le (by decide) hbits)

/-- **A whole number of quanta is rounded up by little**: by one part in `2 ^ 53` at most. -/
theorem quanta_le_of_nearest? {m : Magnitude} (h : nearest? num 1 = some m) :
    m.quanta * 2 ^ 53 ≤ num * (2 ^ 53 + 1) := by
  rw [quanta_of_nearest? Nat.one_pos h]
  have hunits : 0 < 1 * 2 ^ roundingShift num 1 := shifted_pos Nat.one_pos
  obtain ⟨-, hwithin⟩ := @divNearestEven_within num _ hunits
  rw [← roundedSignificand, Nat.one_mul] at hwithin
  by_cases hshift : roundingShift num 1 = 0
  · -- Without a shift nothing is rounded.
    have hexact : roundedSignificand num 1 = num := by
      have hmul := divNearestEven_mul num Nat.one_pos
      rw [roundedSignificand, hshift, Nat.pow_zero, Nat.mul_one]
      rwa [Nat.mul_one] at hmul
    rw [hexact, hshift, Nat.pow_zero, Nat.mul_one]
    exact Nat.mul_le_mul_left num (Nat.le_succ _)
  · have hunit := mul_shifted_le hshift
    rw [Nat.one_mul, show binadeSize = 2 ^ 52 from rfl] at hunit
    calc roundedSignificand num 1 * 2 ^ roundingShift num 1 * 2 ^ 53
        = 2 * (roundedSignificand num 1 * 2 ^ roundingShift num 1) * 2 ^ 52 := by ring
      _ ≤ (2 * num + 2 ^ roundingShift num 1) * 2 ^ 52 := Nat.mul_le_mul_right _ hwithin
      _ = num * 2 ^ 53 + 2 ^ 52 * 2 ^ roundingShift num 1 := by ring
      _ ≤ num * 2 ^ 53 + num := Nat.add_le_add_left hunit _
      _ = num * (2 ^ 53 + 1) := by ring

/-- No magnitude is larger than the largest one. -/
theorem quanta_le_largestQuanta (m : Magnitude) : m.quanta ≤ largestQuanta := by
  obtain ⟨hsignificand, hshift, -⟩ := m.canonical
  rw [quanta, largestQuanta, Nat.pow_eq]
  exact Nat.mul_le_mul (Nat.le_sub_one_of_lt hsignificand) (Nat.pow_le_pow_right two_pos hshift)

end Magnitude

/-! ## Integers as doubles -/

namespace Binary64

/-- A number is finite if its exact value does not exceed the largest magnitude. -/
theorem isFinite_ofQuanta {num den : Nat} (negative : Bool) (hden : 0 < den)
    (h : num ≤ Magnitude.largestQuanta * den) : (ofQuanta negative num den).isFinite = true := by
  obtain ⟨m, hm⟩ := Option.isSome_iff_exists.1 (Magnitude.nearest?_isSome hden h)
  rw [ofQuanta, hm]
  rfl

/-- A rounded quotient that is finite is the nearest magnitude. -/
theorem exists_nearest?_of_isFinite {negative : Bool} {num den : Nat}
    (h : (ofQuanta negative num den).isFinite = true) :
    ∃ m, ofQuanta negative num den = finite negative m ∧ Magnitude.nearest? num den = some m := by
  rw [ofQuanta] at h ⊢
  cases hm : Magnitude.nearest? num den with
  | none =>
    rw [hm] at h
    cases h
  | some m => exact ⟨m, rfl, rfl⟩

/-- An exact value of at least one quantum does not become a zero. -/
theorem isZero_ofQuanta {num den : Nat} (negative : Bool) (hden : 0 < den) (h : den ≤ num) :
    (ofQuanta negative num den).isZero = false := by
  rw [ofQuanta]
  cases hm : Magnitude.nearest? num den with
  | none => rfl
  | some m =>
    have hpos : 2 ^ 0 ≤ m.quanta := Magnitude.two_pow_le_quanta hden (by simpa using h) hm
    have hsignificand : m.significand ≠ 0 := by
      intro hzero
      rw [Magnitude.quanta_eq_zero.2 hzero] at hpos
      exact absurd hpos (by decide)
    simpa [isZero] using hsignificand

/-- **Only the integer zero is a zero as a double.** -/
theorem isZero_ofInt_iff {i : Int} : (ofInt i).isZero = true ↔ i = 0 := by
  constructor
  · intro hzero
    by_contra hi
    have hquanta : 1 ≤ i.natAbs * quantaPerOne :=
      Nat.mul_pos (Int.natAbs_pos.2 hi) quantaPerOne_pos
    rw [ofInt, ofFraction, isZero_ofQuanta _ Nat.one_pos hquanta] at hzero
    cases hzero
  · rintro rfl
    rw [ofInt, ofFraction, Int.natAbs_zero, Nat.zero_mul]
    rfl

/-- **Whole numbers up to the largest double** are finite as doubles, and if they are positive, not
below one. -/
theorem exists_ofFraction_one {n : Nat} (negative : Bool) (hpos : 0 < n)
    (h : n ≤ (2 * binadeSize - 1) * 2 ^ 971) :
    ∃ m, ofFraction negative n 1 = .finite negative m ∧ quantaPerOne ≤ m.quanta := by
  have hbound : n * quantaPerOne ≤ Magnitude.largestQuanta * 1 :=
    calc n * quantaPerOne ≤ (2 * binadeSize - 1) * 2 ^ 971 * quantaPerOne :=
          Nat.mul_le_mul_right _ h
      _ = (2 * binadeSize - 1) * 2 ^ (971 + 1074) := by
          rw [quantaPerOne_eq, Nat.mul_assoc, pow_add]
      _ = Magnitude.largestQuanta * 1 := by rw [Nat.mul_one, Magnitude.largestQuanta]
  obtain ⟨m, hm⟩ := Option.isSome_iff_exists.1 (Magnitude.nearest?_isSome Nat.one_pos hbound)
  refine ⟨m, ?_, ?_⟩
  · rw [ofFraction, ofQuanta, hm]
    rfl
  · rw [quantaPerOne_eq] at hm ⊢
    refine Magnitude.two_pow_le_quanta Nat.one_pos ?_ hm
    rw [Nat.mul_one]
    exact Nat.le_mul_of_pos_left _ hpos

/-- Whole numbers up to the largest double are finite as doubles. -/
theorem isFinite_ofFraction_one {n : Nat} (negative : Bool)
    (h : n ≤ (2 * binadeSize - 1) * 2 ^ 971) : (ofFraction negative n 1).isFinite = true := by
  rcases Nat.eq_zero_or_pos n with rfl | hpos
  · rw [ofFraction, Nat.zero_mul]
    rfl
  · obtain ⟨m, hm, -⟩ := exists_ofFraction_one negative hpos h
    rw [hm]
    rfl

/-- **An integer of 64 bits is finite as a double.** -/
theorem isFinite_ofInt {i : Int} (h : i.natAbs ≤ 2 ^ 64) : (ofInt i).isFinite = true :=
  isFinite_ofFraction_one _ (le_mul_two_pow h (by decide) (by decide))

/-! ## Products of whole numbers -/

/-- A positive whole number up to the largest double is hardly larger as a double. -/
theorem exists_ofNat {n : Nat} (hpos : 0 < n) (h : n ≤ (2 * binadeSize - 1) * 2 ^ 971) :
    ∃ m, ofNat n = .finite false m ∧ m.quanta * 2 ^ 53 ≤ n * quantaPerOne * (2 ^ 53 + 1) := by
  obtain ⟨k, hk, -⟩ := exists_ofFraction_one false hpos h
  have hfinite : (ofQuanta false (n * quantaPerOne) 1).isFinite = true := by
    rw [← ofFraction, hk]
    rfl
  obtain ⟨m, hm, hnearest⟩ := exists_nearest?_of_isFinite hfinite
  exact ⟨m, hm, Magnitude.quanta_le_of_nearest? hnearest⟩

/-- The largest double is a whole number. -/
theorem largestQuanta_eq :
    Magnitude.largestQuanta = (2 * binadeSize - 1) * 2 ^ 971 * quantaPerOne := by
  rw [Magnitude.largestQuanta, quantaPerOne_eq, Nat.mul_assoc, ← pow_add]

/-- **A product of two whole numbers is finite**, if it stays below the largest double by two
roundings. -/
theorem isFinite_ofNat_mul {a b : Nat} (ha : 0 < a) (hb : 0 < b)
    (haLe : a ≤ (2 * binadeSize - 1) * 2 ^ 971) (hbLe : b ≤ (2 * binadeSize - 1) * 2 ^ 971)
    (h : a * b * (2 ^ 53 + 1) ^ 2 ≤ (2 * binadeSize - 1) * 2 ^ 971 * 2 ^ 106) :
    (ofNat a * ofNat b).isFinite = true := by
  obtain ⟨m, hm, hmLe⟩ := exists_ofNat ha haLe
  obtain ⟨k, hk, hkLe⟩ := exists_ofNat hb hbLe
  rw [hm, hk]
  change ((finite false m).mul (finite false k)).isFinite = true
  rw [Binary64.mul]
  refine isFinite_ofQuanta _ quantaPerOne_pos ?_
  refine Nat.le_of_mul_le_mul_right ?_ (show 0 < 2 ^ 106 by positivity)
  calc m.quanta * k.quanta * 2 ^ 106 = (m.quanta * 2 ^ 53) * (k.quanta * 2 ^ 53) := by ring
    _ ≤ (a * quantaPerOne * (2 ^ 53 + 1)) * (b * quantaPerOne * (2 ^ 53 + 1)) :=
      Nat.mul_le_mul hmLe hkLe
    _ = a * b * (2 ^ 53 + 1) ^ 2 * quantaPerOne * quantaPerOne := by ring
    _ ≤ (2 * binadeSize - 1) * 2 ^ 971 * 2 ^ 106 * quantaPerOne * quantaPerOne := by gcongr
    _ = (2 * binadeSize - 1) * 2 ^ 971 * quantaPerOne * quantaPerOne * 2 ^ 106 := by
      rw [Nat.mul_right_comm _ (2 ^ 106), Nat.mul_right_comm _ (2 ^ 106)]
    _ = Magnitude.largestQuanta * quantaPerOne * 2 ^ 106 := by rw [← largestQuanta_eq]

/-! ## Signs and quotients -/

/-- Negation keeps numbers finite. -/
@[simp] theorem isFinite_neg (x : Binary64) : (-x).isFinite = x.isFinite := by
  change x.neg.isFinite = x.isFinite
  cases x <;> rfl

/-- **A finite number divided by one that is not below one is finite.** -/
theorem isFinite_div {x : Binary64} (hx : x.isFinite = true) {negative : Bool} {m : Magnitude}
    (hm : quantaPerOne ≤ m.quanta) : (x / finite negative m).isFinite = true := by
  cases x with
  | nan => cases hx
  | infinite sign => cases hx
  | finite sign k =>
    have hpos : 0 < m.quanta := Nat.lt_of_lt_of_le quantaPerOne_pos hm
    have hsignificand : m.significand ≠ 0 := by
      intro hzero
      rw [Magnitude.quanta_eq_zero.2 hzero] at hpos
      exact Nat.lt_irrefl 0 hpos
    change ((finite sign k).div (finite negative m)).isFinite = true
    rw [Binary64.div, if_neg hsignificand]
    exact isFinite_ofQuanta _ hpos (Nat.mul_le_mul k.quanta_le_largestQuanta hm)

end Binary64

end SynthReport
