import SynthReport.Proofs.Json.Digits
import SynthReport.Proofs.Number.Relative

/-! # Fixed-place text is correctly rounded

A number is rounded to a double before it is written, so its text is rounded twice. The second
rounding undoes the first one as long as that stays less than one half of the last place away.

* **`DigitsOfFraction`** — the digits of a fraction, whole part and places;
* **`exists_digitsOfFraction`** — the text of a fraction consists of these digits;
* **`IsTenTo`** — a power of ten without rounding, which repeated squaring gives up to `10 ^ 22`;
* **`exists_roundHalfUp_of_not_isHalf`** — without a tie, the double nearest to the rounded decimal
  is written as that decimal, because the number itself is a double near to it;
* **`exists_isNear_of_isHalf`**, **`exists_roundHalfUp_of_isHalf`** — a tie below `2 ^ 52` is scaled
  without rounding, so only the last division rounds;
* **`exists_roundHalfUp_isNear`** — a number below `2 ^ 52` becomes the double near to a decimal;
* **`toFixed_correctly_rounded`** — so the text is the nearest decimal, unless a tie is larger. -/

namespace SynthReport

/-! ## Digits of a fraction -/

/-- **The digits of `numerator / 10 ^ places`**: at least one before the point, without a zero in
front of others, and exactly `places` after it. -/
structure DigitsOfFraction (numerator places : Nat) (whole fraction : List Char) : Prop where
  length_fraction : fraction.length = places
  whole_ne_nil : whole ≠ []
  head_whole : whole.head? = some '0' → whole = ['0']
  isDigit : ∀ c ∈ whole ++ fraction, c.isDigit = true
  value : Json.digitsValue (whole ++ fraction) = numerator

/-- The digits of a natural number start with a zero only if it is zero. -/
theorem decimalDigits_eq_of_head? {n : Nat} (h : (decimalDigits n).head? = some '0') :
    decimalDigits n = ['0'] := by
  by_cases hn : n = 0
  · rw [hn]
    rfl
  · exact absurd h (Json.head?_decimalDigits_ne hn)

/-- Zeros in front do not change the value of digits. -/
theorem digitsValue_zeroPadded (length : Nat) (digits : List Char) :
    Json.digitsValue (zeroPadded length digits) = Json.digitsValue digits := by
  have hzeros : ∀ count, Json.valueFrom 0 (List.replicate count '0') = 0 := by
    intro count
    induction count with
    | zero => rfl
    | succ count ih => exact ih
  rw [zeroPadded, Json.digitsValue_eq, Json.valueFrom_append, hzeros, ← Json.digitsValue_eq]

/-- **The text of a fraction consists of its digits**, with a point if there are places. -/
theorem exists_digitsOfFraction (numerator places : Nat) :
    ∃ whole fraction, DigitsOfFraction numerator places whole fraction ∧
      placesText numerator places = whole ++ if places = 0 then [] else '.' :: fraction := by
  rw [placesText]
  by_cases hplaces : places = 0
  · refine ⟨decimalDigits numerator, [], ⟨hplaces.symm, Json.decimalDigits_ne_nil _,
      decimalDigits_eq_of_head?, ?_, ?_⟩, ?_⟩
    · rw [List.append_nil]
      exact Json.isDigit_of_mem_decimalDigits
    · rw [List.append_nil]
      exact Json.digitsValue_decimalDigits numerator
    · rw [if_pos hplaces, if_pos hplaces, List.append_nil]
  · have hpow : 0 < 10 ^ places := Nat.pow_pos (by decide)
    -- The places hold the remainder, which has no more digits than there are places.
    have hlength : (decimalDigits (numerator % 10 ^ places)).length ≤ places :=
      (Nat.length_toDigits_le_iff (by decide) (Nat.pos_of_ne_zero hplaces)).2
        (Nat.mod_lt numerator hpow)
    have hpadded :
        (zeroPadded places (decimalDigits (numerator % 10 ^ places))).length = places := by
      rw [zeroPadded, List.length_append, List.length_replicate]
      omega
    refine ⟨decimalDigits (numerator / 10 ^ places),
      zeroPadded places (decimalDigits (numerator % 10 ^ places)),
      ⟨hpadded, Json.decimalDigits_ne_nil _, decimalDigits_eq_of_head?, ?_, ?_⟩, ?_⟩
    · intro c hc
      rcases List.mem_append.1 hc with hc | hc
      · exact Json.isDigit_of_mem_decimalDigits c hc
      · rcases List.mem_append.1 hc with hc | hc
        · rw [List.eq_of_mem_replicate hc]
          decide
        · exact Json.isDigit_of_mem_decimalDigits c hc
    · rw [Json.digitsValue_eq, Json.valueFrom_append, ← Json.digitsValue_eq,
        Json.valueFrom_eq_add, hpadded, digitsValue_zeroPadded, Json.digitsValue_decimalDigits,
        Json.digitsValue_decimalDigits, Nat.mul_comm, Nat.div_add_mod]
    · rw [if_neg hplaces, if_neg hplaces, Nat.pow_eq]

namespace Binary64

/-! ## Operations without rounding -/

/-- A number of 53 bits with a power of two is no larger than the largest magnitude, unless the
power is. -/
theorem mul_two_pow_le_largestQuanta {significand shift : Nat} (hsignificand : significand < 2 ^ 53)
    (hshift : shift ≤ 1992) : significand * 2 ^ shift ≤ Magnitude.largestQuanta := by
  have hbits : significand * 2 ^ shift ≤ 2 ^ (53 + shift) := by
    rw [pow_add]
    exact Nat.mul_le_mul_right _ hsignificand.le
  rw [Magnitude.largestQuanta]
  exact le_mul_two_pow hbits (by omega) (by decide)

/-- **A whole number of 53 bits is a double.** -/
theorem exists_ofFraction_exact {n : Nat} (negative : Bool) (h : n < 2 ^ 53) :
    ∃ m, ofFraction negative n 1 = finite negative m ∧ m.quanta = n * quantaPerOne := by
  obtain ⟨m, hm, hquanta⟩ := Magnitude.exists_nearest?_exact Nat.one_pos h
    (mul_two_pow_le_largestQuanta h (show 1074 ≤ 1992 by decide))
  rw [Nat.mul_one, ← quantaPerOne_eq] at hm
  rw [← quantaPerOne_eq] at hquanta
  refine ⟨m, ?_, hquanta⟩
  rw [ofFraction, ofQuanta, hm]
  rfl

/-- **A product with a whole number that fits into 53 bits** is not rounded. -/
theorem exists_mul_exact {a b : Magnitude} {n significand shift : Nat} (negative negative' : Bool)
    (hb : b.quanta = n * quantaPerOne) (hproduct : a.quanta * n = significand * 2 ^ shift)
    (hsignificand : significand < 2 ^ 53) (hshift : shift ≤ 1992) :
    ∃ c, finite negative a * finite negative' b = finite (negative ^^ negative') c ∧
      c.quanta = a.quanta * n := by
  obtain ⟨c, hc, hquanta⟩ := Magnitude.exists_nearest?_exact quantaPerOne_pos hsignificand
    (mul_two_pow_le_largestQuanta hsignificand hshift)
  refine ⟨c, ?_, hquanta.trans hproduct.symm⟩
  change (finite negative a).mul (finite negative' b) = _
  rw [Binary64.mul, hb, ← Nat.mul_assoc, hproduct, ofQuanta, hc]
  rfl

/-! ## Powers of ten -/

/-- **A number is a power of ten**, without rounding. -/
def IsTenTo (x : Binary64) (exponent : Nat) : Prop :=
  ∃ m, x = finite false m ∧ m.quanta = 10 ^ exponent * quantaPerOne

/-- Up to `10 ^ 22` a power of ten has 53 bits besides its power of two. -/
theorem five_pow_lt {exponent : Nat} (h : exponent ≤ 22) : 5 ^ exponent < 2 ^ 53 :=
  Nat.lt_of_le_of_lt (Nat.pow_le_pow_right (by decide) h) (by decide)

/-- Products of powers of ten are powers of ten. -/
theorem IsTenTo.mul {x y : Binary64} {i j : Nat} (hx : IsTenTo x i) (hy : IsTenTo y j)
    (h : i + j ≤ 22) : IsTenTo (x * y) (i + j) := by
  obtain ⟨a, rfl, ha⟩ := hx
  obtain ⟨b, rfl, hb⟩ := hy
  have hproduct : a.quanta * 10 ^ j = 5 ^ (i + j) * 2 ^ (i + j + 1074) := by
    rw [ha, quantaPerOne_eq, pow_add 2, ← Nat.mul_assoc (5 ^ (i + j)), ← mul_pow,
      show 5 * 2 = 10 from rfl, pow_add _ i j, Nat.mul_right_comm]
  obtain ⟨c, hc, hquanta⟩ := exists_mul_exact false false hb hproduct (five_pow_lt h) (by omega)
  refine ⟨c, hc, ?_⟩
  rw [hquanta, ha, pow_add, Nat.mul_right_comm]

/-- **Repeated squaring multiplies powers of ten** as long as all of them are exact. -/
theorem IsTenTo.powerFrom {x y : Binary64} {i j exponent : Nat} (hx : IsTenTo x i)
    (hy : IsTenTo y j) (h : i + j * exponent ≤ 22) :
    IsTenTo (powerFrom x y exponent) (i + j * exponent) := by
  induction exponent using Nat.strongRecOn generalizing x y i j with
  | ind exponent ih =>
    have hhalf := Nat.div_add_mod exponent 2
    have hsplit : i + j * exponent = i + j * (exponent % 2) + (j + j) * (exponent / 2) := by
      conv_lhs => rw [← hhalf]
      ring
    -- The lowest bit of the exponent decides whether the base goes into the product.
    have hproduct : IsTenTo (if exponent % 2 = 1 then x * y else x) (i + j * (exponent % 2)) := by
      split
      · rename_i hodd
        rw [hodd, Nat.mul_one] at hsplit ⊢
        exact hx.mul hy (by omega)
      · rename_i heven
        rwa [show exponent % 2 = 0 by omega, Nat.mul_zero, Nat.add_zero]
    rw [Binary64.powerFrom]
    split
    · rename_i hlast
      rwa [hsplit, hlast, Nat.mul_zero, Nat.add_zero]
    · rename_i hmore
      have hbase : j + j ≤ (j + j) * (exponent / 2) :=
        Nat.le_mul_of_pos_right _ (Nat.pos_of_ne_zero hmore)
      rw [hsplit] at h ⊢
      exact ih (exponent / 2) (by omega) hproduct (hy.mul hy (by omega)) h

/-- A power of ten of 53 bits is read without rounding. -/
theorem isTenTo_ofNat {n i : Nat} (hn : n = 10 ^ i) (h : n < 2 ^ 53) : IsTenTo (ofNat n) i := by
  rw [hn] at h ⊢
  exact exists_ofFraction_exact false h

/-- **A power of ten up to `10 ^ 22` is exact.** -/
theorem isTenTo_powerOfTen {exponent : Nat} (h : exponent ≤ 22) :
    IsTenTo (powerOfTen exponent) exponent := by
  have hone : IsTenTo (ofNat 1) 0 := isTenTo_ofNat (pow_zero 10).symm (by decide)
  have hten : IsTenTo (ofNat 10) 1 := isTenTo_ofNat (pow_one 10).symm (by decide)
  have hpower := hone.powerFrom hten (by omega : 0 + 1 * exponent ≤ 22)
  rwa [Nat.one_mul, Nat.zero_add] at hpower

/-! ## Rounding twice -/

section Twice

variable {m : Magnitude} {places : Nat}

/-- The distance of a magnitude from a decimal, counted in the last place. -/
theorem abs_value_mul_pow_sub (m : Magnitude) (places numerator : Nat) :
    |(numerator : ℚ) - m.value * 10 ^ places| =
      |(m.quanta : ℚ) - (numerator * quantaPerOne : Nat) / (10 ^ places : Nat)| *
        (10 ^ places / quantaPerOne) := by
  have hone := quantaPerOne_cast_pos
  have hpow : (0 : ℚ) < 10 ^ places := by positivity
  have hdistance : m.value * 10 ^ places - numerator =
      ((m.quanta : ℚ) - (numerator * quantaPerOne : Nat) / (10 ^ places : Nat)) *
        (10 ^ places / quantaPerOne) := by
    rw [Magnitude.value]
    push_cast
    generalize (quantaPerOne : ℚ) = one at hone ⊢
    field_simp
  rw [abs_sub_comm, hdistance, abs_mul, abs_of_pos (div_pos hpow hone)]

/-- **Without a tie the second rounding undoes the first one.** The number is a double less than
one half of the last place away from its rounded decimal, so the double nearest to that decimal is
too. -/
theorem exists_roundHalfUp_of_not_isHalf (negative : Bool) (h : ¬ IsHalf (m.value * 10 ^ places)) :
    ∃ w, (finite negative m).roundHalfUp places = finite negative w ∧
      w.fixedNumerator places = nearestHalfUp (m.value * 10 ^ places) := by
  have hpow : 0 < 10 ^ places := Nat.pow_pos (by decide)
  -- The decimal does not exceed the largest double, since that is a whole number.
  have hbound : m.fixedNumerator places * quantaPerOne ≤ Magnitude.largestQuanta * 10 ^ places := by
    have hnumerator : m.fixedNumerator places ≤ (2 * binadeSize - 1) * 2 ^ 971 * 10 ^ places := by
      refine divNearestEven_le quantaPerOne_pos ?_
      rw [Nat.pow_eq, Nat.mul_right_comm, ← largestQuanta_eq]
      exact Nat.mul_le_mul_right _ m.quanta_le_largestQuanta
    calc m.fixedNumerator places * quantaPerOne
        ≤ (2 * binadeSize - 1) * 2 ^ 971 * 10 ^ places * quantaPerOne :=
          Nat.mul_le_mul_right _ hnumerator
      _ = Magnitude.largestQuanta * 10 ^ places := by rw [Nat.mul_right_comm, ← largestQuanta_eq]
  obtain ⟨w, hw⟩ := Option.isSome_iff_exists.1 (Magnitude.nearest?_isSome hpow hbound)
  refine ⟨w, ?_, ?_⟩
  · have htie : ¬ m.isDecimalTie places = true := mt Magnitude.isDecimalTie_iff.1 h
    rw [roundHalfUp, isDecimalTie, if_neg htie, roundCorrectly, ofFraction, ofQuanta, Nat.pow_eq,
      hw]
    rfl
  · rw [← Magnitude.fixedNumerator_eq_nearestHalfUp h]
    apply Magnitude.fixedNumerator_eq_of_lt
    calc |(m.fixedNumerator places : ℚ) - w.value * 10 ^ places|
        ≤ |(m.fixedNumerator places : ℚ) - m.value * 10 ^ places| := by
          rw [abs_value_mul_pow_sub w, abs_value_mul_pow_sub m]
          exact mul_le_mul_of_nonneg_right (Magnitude.abs_quanta_sub_le_abs hpow hw m)
            (div_nonneg (by positivity) quantaPerOne_cast_pos.le)
      _ < 1 / 2 := Magnitude.abs_fixedNumerator_sub_lt h

/-- There are twice as many quanta in one as in a half. -/
theorem quantaPerOne_eq_two_mul : quantaPerOne = 2 * 2 ^ 1073 := by
  rw [quantaPerOne_eq, show 1074 = 1073 + 1 from rfl, pow_succ']

/-- A value that is a half, in quanta. -/
theorem quanta_mul_pow_of_half {n : Nat} (h : m.value * 10 ^ places = n + 1 / 2) :
    m.quanta * 10 ^ places = (2 * n + 1) * 2 ^ 1073 := by
  have htwice : 2 * (m.quanta * 10 ^ places) = (2 * n + 1) * quantaPerOne := by
    rw [Magnitude.value_mul_pow, div_eq_iff quantaPerOne_cast_pos.ne'] at h
    have : (2 * (m.quanta * 10 ^ places : Nat) : ℚ) = (2 * n + 1) * quantaPerOne := by
      linear_combination 2 * h
    exact_mod_cast this
  refine Nat.eq_of_mul_eq_mul_left two_pos ?_
  rw [htwice, quantaPerOne_eq_two_mul, Nat.mul_left_comm]

/-- A half below `2 ^ 52` has at most 22 places. -/
theorem places_le_of_half {n : Nat} (h : m.quanta * 10 ^ places = (2 * n + 1) * 2 ^ 1073)
    (hn : n < 2 ^ 52) : places ≤ 22 := by
  have hdvd : 5 ^ places ∣ 2 * n + 1 := by
    have hcoprime : Nat.Coprime (5 ^ places) (2 ^ 1073) :=
      (Nat.coprime_pow_primes _ _ Nat.prime_five Nat.prime_two (by decide))
    refine hcoprime.dvd_of_dvd_mul_right ?_
    rw [← h]
    exact ((pow_dvd_pow_of_dvd (by decide : 5 ∣ 10) places).mul_left _)
  by_contra hlarge
  have hpow : 5 ^ 23 ≤ 5 ^ places := Nat.pow_le_pow_right (by decide) (by omega)
  have := Nat.le_of_dvd (by omega) hdvd
  omega

/-- A decimal of at most 22 places is of moderate size, if its numerator is at most `2 ^ 52`. -/
theorem isModerate_decimal {n : Nat} (hn : n ≤ 2 ^ 52) (hplaces : places ≤ 22) :
    IsModerate (n / 10 ^ places) := by
  rcases Nat.eq_zero_or_pos n with rfl | hpos
  · exact Or.inl (by rw [Nat.cast_zero, zero_div])
  · have hpow : (0 : ℚ) < 10 ^ places := by positivity
    have hlow : (1 : ℚ) ≤ n := Nat.one_le_cast.2 hpos
    have hhigh : (n : ℚ) ≤ 2 ^ 52 := by exact_mod_cast hn
    have hscale : (10 : ℚ) ^ places ≤ 2 ^ 128 :=
      calc (10 : ℚ) ^ places ≤ 10 ^ 22 := pow_le_pow_right₀ (by norm_num) hplaces
        _ ≤ 2 ^ 128 := by norm_num
    have hone : (1 : ℚ) ≤ 10 ^ places := one_le_pow₀ (by norm_num)
    refine Or.inr ⟨?_, ?_⟩
    · rw [div_le_div_iff₀ (by positivity) hpow]
      nlinarith
    · rw [div_le_iff₀ hpow]
      nlinarith

/-- **A double near to a decimal is written as that decimal.** It is off by one part in `2 ^ 53` at
most, which is less than one half of the last place, or one half if the numerator is `2 ^ 52`, which
is even. -/
theorem fixedNumerator_of_isNear {n : Nat} (h : m.IsNear (n / 10 ^ places)) (hn : n ≤ 2 ^ 52) :
    m.fixedNumerator places = n := by
  have hpow : (0 : ℚ) < 10 ^ places := by positivity
  have hmiss : |(n : ℚ) - m.value * 10 ^ places| ≤ n / 2 ^ 53 := by
    have hscaled : (n : ℚ) - m.value * 10 ^ places = (n / 10 ^ places - m.value) * 10 ^ places := by
      rw [sub_mul, div_mul_cancel₀ _ hpow.ne']
    calc |(n : ℚ) - m.value * 10 ^ places|
        = |m.value - n / 10 ^ places| * 10 ^ places := by
          rw [hscaled, abs_mul, abs_of_pos hpow, abs_sub_comm]
      _ ≤ n / 10 ^ places / 2 ^ 53 * 10 ^ places := mul_le_mul_of_nonneg_right h hpow.le
      _ = n / 2 ^ 53 := by rw [mul_comm, ← mul_div_assoc, mul_div_cancel₀ _ hpow.ne']
  rcases Nat.lt_or_eq_of_le hn with hlt | rfl
  · refine Magnitude.fixedNumerator_eq_of_lt (hmiss.trans_lt ?_)
    have : (n : ℚ) < 2 ^ 52 := by exact_mod_cast hlt
    linarith
  · refine Magnitude.fixedNumerator_eq_of_even (hmiss.trans ?_) (by decide)
    norm_num

/-- A whole number as a magnitude has that value. -/
theorem value_eq_of_quanta_eq {n : Nat} (h : m.quanta = n * quantaPerOne) : m.value = n := by
  rw [Magnitude.value, h, Nat.cast_mul, mul_div_cancel_right₀ _ quantaPerOne_cast_pos.ne']

/-- **A tie below `2 ^ 52` is rounded away from zero.** Scaling it up and rounding it to a whole
number are exact, so only the last quotient rounds. -/
theorem exists_isNear_of_isHalf (negative : Bool) (h : IsHalf (m.value * 10 ^ places))
    (hsmall : m.value * 10 ^ places < 2 ^ 52) :
    ∃ w, (finite negative m).roundHalfUp places = finite negative w ∧
      w.IsNear (nearestHalfUp (m.value * 10 ^ places) / 10 ^ places) ∧
      nearestHalfUp (m.value * 10 ^ places) ≤ 2 ^ 52 := by
  have htie := Magnitude.isDecimalTie_iff.2 h
  obtain ⟨n, hn⟩ := h.exists_nat (mul_nonneg m.value_nonneg (by positivity))
  have hlt : n < 2 ^ 52 := by
    rw [hn] at hsmall
    have : (n : ℚ) < 2 ^ 52 := by linarith
    exact_mod_cast this
  have hquanta := quanta_mul_pow_of_half hn
  have hplaces := places_le_of_half hquanta hlt
  obtain ⟨scale, hscale, hscaleQuanta⟩ := isTenTo_powerOfTen hplaces
  obtain ⟨product, hproduct, hproductQuanta⟩ := exists_mul_exact negative false hscaleQuanta hquanta
    (show 2 * n + 1 < 2 ^ 53 by omega) (by decide)
  -- The product is a half, so it is rounded up to the next whole number.
  have hup : divNearestUp product.quanta quantaPerOne = n + 1 := by
    rw [hproductQuanta, hquanta, quantaPerOne_eq_two_mul]
    refine divNearestUp_half ?_ n
    positivity
  obtain ⟨whole, hwhole, hwholeQuanta⟩ := exists_ofFraction_exact negative
    (show n + 1 < 2 ^ 53 by omega)
  have hwholeValue := value_eq_of_quanta_eq hwholeQuanta
  have hscaleValue := value_eq_of_quanta_eq hscaleQuanta
  rw [Nat.cast_pow, Nat.cast_ofNat] at hscaleValue
  have hmoderate : IsModerate (whole.value / scale.value) := by
    rw [hwholeValue, hscaleValue]
    exact isModerate_decimal hlt hplaces
  obtain ⟨w, hw, hnear⟩ := exists_div_isNear negative false
    (by rw [hscaleValue]; positivity) hmoderate
  rw [hn, nearestHalfUp_add_half]
  rw [hwholeValue, hscaleValue] at hnear
  refine ⟨w, ?_, hnear, hlt⟩
  rw [roundHalfUp, isDecimalTie, if_pos htie, hscale, hproduct, Bool.xor_false, roundHalfAway, hup,
    hwhole, hw, Bool.xor_false]

/-- **A number below `2 ^ 52` is rounded to the double nearest to a decimal** of up to 22 places. -/
theorem exists_roundHalfUp_isNear (negative : Bool) (hplaces : places ≤ 22)
    (hsmall : m.value * 10 ^ places < 2 ^ 52) :
    ∃ w, (finite negative m).roundHalfUp places = finite negative w ∧
      w.IsNear (nearestHalfUp (m.value * 10 ^ places) / 10 ^ places) := by
  by_cases htie : IsHalf (m.value * 10 ^ places)
  · obtain ⟨w, hw, hnear, -⟩ := exists_isNear_of_isHalf negative htie hsmall
    exact ⟨w, hw, hnear⟩
  · have hnumerator := Magnitude.fixedNumerator_eq_nearestHalfUp htie
    have hle : m.fixedNumerator places ≤ 2 ^ 52 := by
      have hclose := (abs_lt.1 (Magnitude.abs_fixedNumerator_sub_lt htie)).2
      have hlt : (m.fixedNumerator places : ℚ) < 2 ^ 52 + 1 := by linarith
      have : m.fixedNumerator places < 2 ^ 52 + 1 := by exact_mod_cast hlt
      omega
    have hmoderate := isModerate_decimal hle hplaces
    rw [← Nat.cast_ofNat (n := 10), ← Nat.cast_pow] at hmoderate
    obtain ⟨w, hw, hnear⟩ := exists_ofFraction_isNear negative (Nat.pow_pos (by decide)) hmoderate
    refine ⟨w, ?_, ?_⟩
    · rw [roundHalfUp, isDecimalTie, if_neg (mt Magnitude.isDecimalTie_iff.1 htie), roundCorrectly,
        Nat.pow_eq, hw]
    · rwa [← hnumerator, ← Nat.cast_ofNat (n := 10), ← Nat.cast_pow]

/-- **A tie below `2 ^ 52` is written as the next decimal.** -/
theorem exists_roundHalfUp_of_isHalf (negative : Bool) (h : IsHalf (m.value * 10 ^ places))
    (hsmall : m.value * 10 ^ places < 2 ^ 52) :
    ∃ w, (finite negative m).roundHalfUp places = finite negative w ∧
      w.fixedNumerator places = nearestHalfUp (m.value * 10 ^ places) := by
  obtain ⟨w, hw, hnear, hle⟩ := exists_isNear_of_isHalf negative h hsmall
  exact ⟨w, hw, fixedNumerator_of_isNear hnear hle⟩

/-- **Rounding to decimal places gives the nearest decimal**, unless a tie is too large. -/
theorem exists_roundHalfUp (negative : Bool)
    (h : ¬ IsHalf (m.value * 10 ^ places) ∨ m.value * 10 ^ places < 2 ^ 52) :
    ∃ w, (finite negative m).roundHalfUp places = finite negative w ∧
      w.fixedNumerator places = nearestHalfUp (m.value * 10 ^ places) := by
  by_cases htie : IsHalf (m.value * 10 ^ places)
  · exact exists_roundHalfUp_of_isHalf negative htie (h.resolve_left (not_not.2 htie))
  · exact exists_roundHalfUp_of_not_isHalf negative htie

end Twice

/-- The value of a finite number is a half if its magnitude is one. -/
theorem isHalf_value_mul_iff (negative : Bool) (m : Magnitude) (scale : ℚ) :
    IsHalf ((finite negative m).value * scale) ↔ IsHalf (m.value * scale) := by
  rw [value]
  split
  · rw [neg_mul, isHalf_neg_iff]
  · rfl

/-- **Fixed-place text is correctly rounded.** The digits of a finite number are those of the
nearest decimal of its exact value, a half going away from zero, behind a minus sign if and only if
the number has one, negative zeros included. Only ties of `2 ^ 52` and more are left out. -/
theorem toFixed_correctly_rounded {x : Binary64} {places : Nat} (hx : x.isFinite = true)
    (h : ¬ IsHalf (x.value * 10 ^ places) ∨ |x.value| * 10 ^ places < 2 ^ 52) :
    ∃ whole fraction,
      DigitsOfFraction (nearestHalfUp (|x.value| * 10 ^ places)) places whole fraction ∧
      (x.toFixed places).toList = (if x.isNegative then ['-'] else []) ++ whole ++
        if places = 0 then [] else '.' :: fraction := by
  cases x with
  | nan => cases hx
  | infinite negative => cases hx
  | finite negative m =>
    rw [isHalf_value_mul_iff, abs_value_finite] at h
    obtain ⟨w, hw, hnumerator⟩ := exists_roundHalfUp negative h
    obtain ⟨whole, fraction, hdigits, htext⟩ :=
      exists_digitsOfFraction (w.fixedNumerator places) places
    rw [abs_value_finite]
    refine ⟨whole, fraction, hnumerator ▸ hdigits, ?_⟩
    rw [toFixed, hw, fixedText, String.toList_ofList, htext, isNegative, signedText]
    cases negative with
    | false => rw [if_neg Bool.false_ne_true, if_neg Bool.false_ne_true, List.nil_append]
    | true => rw [if_pos rfl, if_pos rfl, List.append_assoc, List.singleton_append]

/-- The magnitude `4.125`. -/
def sampleMagnitude : Magnitude := ⟨33 * 2 ^ 47, 1024, by decide⟩

/-- The number `-4.125`, a tie at two places. -/
def sampleTie : Binary64 := finite true sampleMagnitude

/-- Its value is exact. -/
theorem abs_value_sampleTie : |sampleTie.value| = 33 / 8 := by
  have hquanta : sampleMagnitude.quanta * 8 = 33 * quantaPerOne := by decide +kernel
  rw [sampleTie, abs_value_finite, Magnitude.value,
    div_eq_div_iff quantaPerOne_cast_pos.ne' (by norm_num)]
  exact_mod_cast hquanta

/-- The tie is rounded away from zero. -/
theorem toFixed_correctly_rounded_of_sampleTie :
    sampleTie.isFinite = true ∧ |sampleTie.value| * 10 ^ 2 < 2 ^ 52 ∧
      ∃ whole fraction, DigitsOfFraction 413 2 whole fraction ∧
        (sampleTie.toFixed 2).toList = '-' :: whole ++ '.' :: fraction := by
  have habs : |sampleTie.value| * 10 ^ 2 = 825 / 2 := by
    rw [abs_value_sampleTie]
    norm_num
  have hsmall : |sampleTie.value| * 10 ^ 2 < 2 ^ 52 := by
    rw [habs]
    norm_num
  have hnearest : nearestHalfUp (|sampleTie.value| * 10 ^ 2) = 413 := by
    rw [nearestHalfUp, habs, Nat.floor_eq_iff (by norm_num)]
    norm_num
  obtain ⟨whole, fraction, hdigits, htext⟩ :=
    toFixed_correctly_rounded (x := sampleTie) rfl (Or.inr hsmall)
  exact ⟨rfl, hsmall, whole, fraction, hnearest ▸ hdigits, htext⟩

end Binary64

end SynthReport
