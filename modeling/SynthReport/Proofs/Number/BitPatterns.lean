import SynthReport.Proofs.Number.FixedText

/-! # Decimal halves among bit patterns

The 64 bits of a number give its exact value directly, and the test for a decimal half finds exactly
the patterns whose value is one.

* **`exponentField`**, **`fractionField`**, **`patternSignificand`** — the parts of a pattern;
* **`patternValue`** — the exact value that a pattern stands for, unless its exponent is the largest;
* **`isFinite_ofBits_iff`**, **`value_ofBits`** — the number read from a pattern has that value;
* **`isDecimalTie_exact`** — the test is true exactly of the finite numbers that lie halfway between
  two decimals of so many places. -/

namespace SynthReport.Binary64

/-! ## The parts of a pattern -/

/-- The eleven bits of the exponent. -/
def exponentField (bits : BitVec 64) : Nat := bits.toNat / 2 ^ 52 % 2 ^ 11

/-- The 52 bits of the fraction. -/
def fractionField (bits : BitVec 64) : Nat := bits.toNat % 2 ^ 52

/-- **The significand of a pattern**: its fraction, behind a hidden bit unless the exponent is
zero. -/
def patternSignificand (bits : BitVec 64) : Nat :=
  if exponentField bits = 0 then fractionField bits else fractionField bits + 2 ^ 52

/-- **The exact value of a pattern.** The smallest normal numbers and the subnormal ones, whose
exponent is zero, have the same scale. -/
def patternValue (bits : BitVec 64) : ℚ :=
  (if bits.msb then -1 else 1) * patternSignificand bits *
    2 ^ ((max 1 (exponentField bits) : ℤ) - 1075)

/-- The exponent has eleven bits. -/
theorem exponentField_lt (bits : BitVec 64) : exponentField bits < 2048 :=
  Nat.mod_lt _ (by norm_num)

/-- The fraction has 52 bits. -/
theorem fractionField_lt (bits : BitVec 64) : fractionField bits < binadeSize :=
  Nat.mod_lt _ (by norm_num)

/-! ## Numbers read from patterns -/

/-- The largest exponent stands for no finite number. -/
theorem isFinite_ofBits_of_eq {bits : BitVec 64} (h : exponentField bits = 2047) :
    (ofBits bits).isFinite = false := by
  have hexponent : bits.toNat / binadeSize % 2048 = 2047 := h
  rw [ofBits]
  dsimp only
  rw [if_pos hexponent]
  split <;> rfl

/-- **Any other exponent stands for a finite number** with the sign and the significand of the
pattern. -/
theorem exists_ofBits_eq_finite {bits : BitVec 64} (h : exponentField bits ≠ 2047) :
    ∃ m : Magnitude, ofBits bits = finite bits.msb m ∧
      m.significand = patternSignificand bits ∧ m.shift = exponentField bits - 1 := by
  have hlt := exponentField_lt bits
  have hcanonical : IsCanonical (patternSignificand bits) (exponentField bits - 1) :=
    isCanonical_of_fields (by omega) (fractionField_lt bits)
  refine ⟨⟨_, _, hcanonical⟩, ?_, rfl, rfl⟩
  have hparts : Magnitude.ofParts? (patternSignificand bits) (exponentField bits - 1) =
      some ⟨_, _, hcanonical⟩ := dif_pos hcanonical
  have hexponent : ¬ bits.toNat / binadeSize % 2048 = 2047 := h
  rw [ofBits]
  dsimp only
  rw [if_neg hexponent]
  split
  · rename_i m hm
    rw [Option.some.inj (hm.symm.trans hparts)]
  · rename_i hnone
    cases hnone.symm.trans hparts

/-- **A pattern stands for a finite number** unless its exponent is the largest. -/
theorem isFinite_ofBits_iff {bits : BitVec 64} :
    (ofBits bits).isFinite = true ↔ exponentField bits ≠ 2047 := by
  by_cases h : exponentField bits = 2047
  · simp [isFinite_ofBits_of_eq h, h]
  · obtain ⟨m, hm, -⟩ := exists_ofBits_eq_finite h
    simp [hm, isFinite, h]

/-- **The number read from a pattern has its value.** -/
theorem value_ofBits {bits : BitVec 64} (h : exponentField bits ≠ 2047) :
    (ofBits bits).value = patternValue bits := by
  obtain ⟨m, hm, hsignificand, hshift⟩ := exists_ofBits_eq_finite h
  -- Counted in quanta the scale is a power of two, and one has `2 ^ 1074` quanta.
  have hscale : ((max 1 (exponentField bits) : ℤ) - 1075) = (m.shift : ℤ) - (1074 : ℕ) := by
    rw [hshift]
    push_cast
    omega
  have hmagnitude : m.value =
      patternSignificand bits * 2 ^ ((max 1 (exponentField bits) : ℤ) - 1075) := by
    rw [hscale, zpow_sub₀ two_ne_zero, zpow_natCast, zpow_natCast, Magnitude.value, Magnitude.quanta,
      Nat.pow_eq, quantaPerOne_eq, hsignificand, Nat.cast_mul, Nat.cast_pow, Nat.cast_pow,
      Nat.cast_ofNat, mul_div_assoc]
  rw [hm, value, hmagnitude, patternValue]
  cases bits.msb <;> simp

/-! ## The test -/

/-- **The test for a decimal half is exact.** It is true of the finite numbers whose exact value,
moved to the left by so many places, lies halfway between two whole numbers, and of no others. Told
by patterns, these are the ones whose exponent is not the largest and whose own value is such a half,
normal or subnormal and of either sign. -/
theorem isDecimalTie_exact (places : Nat) :
    (∀ x : Binary64, x.isDecimalTie places = true ↔
        x.isFinite = true ∧ IsHalf (x.value * 10 ^ places)) ∧
      ∀ bits : BitVec 64, (ofBits bits).isDecimalTie places = true ↔
        exponentField bits ≠ 2047 ∧ IsHalf (patternValue bits * 10 ^ places) := by
  have hnumbers : ∀ x : Binary64, x.isDecimalTie places = true ↔
      x.isFinite = true ∧ IsHalf (x.value * 10 ^ places) := by
    intro x
    cases x with
    | nan => simp [isDecimalTie, isFinite]
    | infinite negative => simp [isDecimalTie, isFinite]
    | finite negative m =>
      rw [isHalf_value_mul_iff, ← Magnitude.isDecimalTie_iff]
      simp [isDecimalTie, isFinite]
  refine ⟨hnumbers, ?_⟩
  intro bits
  rw [hnumbers, isFinite_ofBits_iff]
  apply and_congr_right
  intro hexponent
  rw [value_ofBits hexponent]

/-- The smallest number is a half at 1073 places, and one place earlier or later it is none. -/
example : [1072, 1073, 1074].map (ofBits 1).isDecimalTie = [false, true, false] := by
  decide +kernel

end SynthReport.Binary64
