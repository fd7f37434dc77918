import SynthReport.Record
import SynthReport.Proofs.Number.FixedText

/-! # Percentages of counts

A share of counts is divided, rounded to thousandths, multiplied by a hundred and written with one
place, and each of these steps rounds. Together they give a nearest tenth of a percent.

* **`tenths`** — the tenths of a percent that are shown for a count out of a total;
* **`add_one_div_le_div`** — different fractions with one denominator keep their distance;
* **`abs_tenths_sub_le`** — so rounding a share first does not carry it over a half;
* **`exists_hundredfold`** — a hundred times a rounded thousandth is written as its tenths;
* **`percentage_nearest`** — the text is a nearest tenth of the exact share. -/

namespace SynthReport

/-- **The text of a percentage with one decimal**, from its tenths. -/
def tenthsText (tenths : Nat) : String :=
  toString (tenths / 10) ++ "." ++ toString (tenths % 10) ++ "%"

/-- A fixed-place text with one place. -/
theorem placesText_one (tenths : Nat) :
    String.ofList (placesText tenths 1) ++ "%" = tenthsText tenths := by
  have hlength := List.length_pos_of_ne_nil (Json.decimalDigits_ne_nil (tenths % 10))
  have hpadded : zeroPadded 1 (decimalDigits (tenths % 10)) = decimalDigits (tenths % 10) := by
    rw [zeroPadded, show 1 - (decimalDigits (tenths % 10)).length = 0 by omega]
    rfl
  rw [← String.toList_inj, tenthsText, placesText, if_neg one_ne_zero, Nat.pow_eq, pow_one, hpadded]
  simp [decimalDigits]

/-- **Fractions with one denominator** are one part of it apart if they are different. -/
theorem add_one_div_le_div {a b : Nat} (den : Nat) (h : a < b) :
    (a : ℚ) / den + 1 / den ≤ b / den := by
  rw [← add_div]
  gcongr
  exact_mod_cast h

namespace Binary64

/-! ## The ratio -/

/-- **The tenths of a percent** that are shown for a count out of a total: the rounded ratio in
thousandths, a half going up. -/
def tenths (count total : Nat) : Nat :=
  nearestHalfUp ((ofNat count / ofNat total).value * 10 ^ 3)

/-- A count of 53 bits is a double. -/
theorem exists_ofNat_value {n : Nat} (h : n < 2 ^ 53) :
    ∃ m, ofNat n = finite false m ∧ m.value = n := by
  obtain ⟨m, hm, hquanta⟩ := exists_ofFraction_exact false h
  exact ⟨m, hm, value_eq_of_quanta_eq hquanta⟩

section Share

variable {count total : Nat}

/-- A share is at most one. -/
theorem share_le_one (hpos : 0 < total) (hcount : count ≤ total) : (count / total : ℚ) ≤ 1 := by
  rw [div_le_one (Nat.cast_pos.2 hpos)]
  exact Nat.cast_le.2 hcount

/-- A share is of moderate size. -/
theorem isModerate_share (hpos : 0 < total) (hcount : count ≤ total) (htotal : total ≤ 2 ^ 40) :
    IsModerate (count / total) := by
  rcases Nat.eq_zero_or_pos count with rfl | hcountPos
  · exact Or.inl (by rw [Nat.cast_zero, zero_div])
  · have hlow : (1 : ℚ) ≤ count := Nat.one_le_cast.2 hcountPos
    have hhigh : (total : ℚ) ≤ 2 ^ 40 := by exact_mod_cast htotal
    refine Or.inr ⟨?_, (share_le_one hpos hcount).trans (by norm_num)⟩
    rw [div_le_div_iff₀ (by positivity) (Nat.cast_pos.2 hpos)]
    linarith

/-- **The ratio of two counts** is a double near to their share. -/
theorem exists_ratio (hpos : 0 < total) (hcount : count ≤ total) (htotal : total ≤ 2 ^ 40) :
    ∃ m, ofNat count / ofNat total = finite false m ∧ m.IsNear (count / total) := by
  obtain ⟨a, ha, haValue⟩ := exists_ofNat_value (show count < 2 ^ 53 by omega)
  obtain ⟨b, hb, hbValue⟩ := exists_ofNat_value (show total < 2 ^ 53 by omega)
  have hmoderate := isModerate_share hpos hcount htotal
  rw [← haValue, ← hbValue] at hmoderate ⊢
  rw [ha, hb]
  refine exists_div_isNear false false ?_ hmoderate
  rw [hbValue]
  exact Nat.cast_pos.2 hpos

/-- **Rounding a share first does not carry it over a half.** A share with a total of at most
`2 ^ 40` is a half of a thousandth, or further away from it than the first rounding goes. -/
theorem abs_nearestHalfUp_sub_le {m : Magnitude} (hpos : 0 < total) (hcount : count ≤ total)
    (htotal : total ≤ 2 ^ 40) (h : m.IsNear (count / total)) :
    |(nearestHalfUp (m.value * 10 ^ 3) : ℚ) - 1000 * count / total| ≤ 1 / 2 := by
  have hden : (0 : ℚ) < total := Nat.cast_pos.2 hpos
  have hgap : (1 : ℚ) / 2 ^ 40 ≤ 1 / total := by
    have : (total : ℚ) ≤ 2 ^ 40 := by exact_mod_cast htotal
    gcongr
  obtain ⟨hlow, hhigh⟩ := abs_le.1 (h.trans (div_le_div_of_nonneg_right
    (share_le_one hpos hcount) (by positivity)))
  have hfloor := Nat.floor_le (show (0 : ℚ) ≤ m.value * 10 ^ 3 + 1 / 2 by
    have := m.value_nonneg
    positivity)
  have hceil := Nat.lt_floor_add_one (m.value * 10 ^ 3 + 1 / 2)
  rw [← nearestHalfUp] at hfloor hceil
  generalize nearestHalfUp (m.value * 10 ^ 3) = n at hfloor hceil ⊢
  rw [mul_div_assoc, abs_le]
  constructor
  · by_contra hlt
    -- The share lies above the next half, so by one part of the total.
    have hcross : (2 * n + 1) * total < 2000 * count := by
      have : ((2 * n + 1) * total : ℚ) < 2000 * (count / total) * total :=
        mul_lt_mul_of_pos_right (by linarith) hden
      rw [mul_assoc 2000, div_mul_cancel₀ _ hden.ne'] at this
      exact_mod_cast this
    have hparts := add_one_div_le_div total hcross
    push_cast at hparts
    rw [mul_div_cancel_right₀ _ hden.ne', mul_div_assoc] at hparts
    linarith
  · by_contra hlt
    -- The share lies below the half in front, so by one part of the total.
    have hcross : 2000 * count + total < 2 * n * total := by
      have : (2000 * (count / total) * total + total : ℚ) < 2 * n * total := by
        rw [← add_one_mul]
        exact mul_lt_mul_of_pos_right (by linarith) hden
      rw [mul_assoc 2000, div_mul_cancel₀ _ hden.ne'] at this
      exact_mod_cast this
    have hparts := add_one_div_le_div total hcross
    push_cast at hparts
    rw [mul_div_cancel_right₀ _ hden.ne', add_div, div_self hden.ne', mul_div_assoc] at hparts
    linarith

/-- **The tenths are nearest** to the exact share. -/
theorem abs_tenths_sub_le (hpos : 0 < total) (hcount : count ≤ total) (htotal : total ≤ 2 ^ 40) :
    |(tenths count total : ℚ) - 1000 * count / total| ≤ 1 / 2 := by
  obtain ⟨m, hm, hnear⟩ := exists_ratio hpos hcount htotal
  rw [tenths, hm]
  exact abs_nearestHalfUp_sub_le hpos hcount htotal hnear

/-- The tenths do not exceed a hundred percent. -/
theorem tenths_le (hpos : 0 < total) (hcount : count ≤ total) (htotal : total ≤ 2 ^ 40) :
    tenths count total ≤ 1000 := by
  have hnear := (abs_le.1 (abs_tenths_sub_le hpos hcount htotal)).2
  have hshare := share_le_one hpos hcount
  rw [mul_div_assoc] at hnear
  have hlt : (tenths count total : ℚ) < 1000 + 1 := by linarith
  have : tenths count total < 1000 + 1 := by exact_mod_cast hlt
  omega

/-- **The tenths do not decrease with the count.** Both are nearest to their shares, so they cannot
be a whole tenth apart the other way. -/
theorem tenths_mono {more : Nat} (hpos : 0 < total) (hle : count ≤ more) (hmore : more ≤ total)
    (htotal : total ≤ 2 ^ 40) : tenths count total ≤ tenths more total := by
  rcases Nat.eq_or_lt_of_le hle with rfl | hlt
  · exact Nat.le_refl _
  · have hfew := (abs_le.1 (abs_tenths_sub_le hpos (hle.trans hmore) htotal)).2
    have hmany := (abs_le.1 (abs_tenths_sub_le hpos hmore htotal)).1
    have hshares : (count / total : ℚ) < more / total := by
      have := Nat.cast_pos (α := ℚ).2 hpos
      gcongr
    rw [mul_div_assoc] at hfew hmany
    have hclose : (tenths count total : ℚ) < tenths more total + 1 := by linarith
    have : tenths count total < tenths more total + 1 := by exact_mod_cast hclose
    omega

end Share

/-! ## The text -/

/-- **A hundred times a rounded thousandth** is written as its tenths. -/
theorem exists_hundredfold {w : Magnitude} {n : Nat} (hn : n ≤ 1000) (h : w.IsNear (n / 10 ^ 3)) :
    ∃ p, finite false w * ofNat 100 = finite false p ∧ p.fixedNumerator 1 = n := by
  obtain ⟨hundred, hhundred, hvalue⟩ := exists_ofNat_value (show 100 < 2 ^ 53 by decide)
  rw [Nat.cast_ofNat] at hvalue
  have hn' : (n : ℚ) ≤ 1000 := by exact_mod_cast hn
  obtain ⟨hlow, hhigh⟩ := abs_le.1 h
  have hmoderate : IsModerate (w.value * hundred.value) := by
    rw [hvalue]
    rcases Nat.eq_zero_or_pos n with rfl | hpos
    · exact Or.inl (by linarith)
    · have : (1 : ℚ) ≤ n := Nat.one_le_cast.2 hpos
      exact Or.inr ⟨by linarith, by linarith⟩
  obtain ⟨p, hp, hnear⟩ := exists_mul_isNear false false hmoderate
  rw [hhundred]
  refine ⟨p, hp, Magnitude.fixedNumerator_eq_of_lt ?_⟩
  obtain ⟨hlow', hhigh'⟩ := abs_le.1 hnear
  rw [hvalue] at hlow' hhigh'
  rw [abs_lt]
  constructor <;> linarith

/-- A percentage of counts is written from their ratio, unless the total is zero. -/
theorem percentage_of_counts {count total : Nat} (hpos : 0 < total) (hcount : count ≤ total)
    (htotal : total < 2 ^ 64) (decimals : Nat) :
    percentage (ofNat count) (ofNat total) decimals =
      ((ofNat count / ofNat total).roundHalfUp (decimals + 2) * ofNat 100).fixedText decimals ++
        "%" := by
  have hbound : total ≤ (2 * binadeSize - 1) * 2 ^ 971 :=
    le_mul_two_pow htotal.le (by decide) (by decide)
  obtain ⟨m, hm, hone⟩ := exists_ofFraction_one false hpos hbound
  have hfinite : (ofNat count / ofNat total).isFinite = true := by
    rw [ofNat, ofNat, hm]
    exact isFinite_div (isFinite_ofFraction_one _ (hcount.trans hbound)) hone
  have hzero : (ofNat total).isZero = false := by
    rw [ofNat, ofFraction]
    refine isZero_ofQuanta _ Nat.one_pos ?_
    exact Nat.mul_pos hpos quantaPerOne_pos
  rw [percentage, hfinite, hzero]
  rfl

end Binary64

/-- **A total of zero** has no percentage. -/
theorem percentage_zero (x : Binary64) (decimals : Nat) :
    percentage x (.ofNat 0) decimals = notAvailable := by
  have hzero : (Binary64.ofNat 0).isZero = true := by
    rw [Binary64.ofNat, Binary64.ofFraction, Nat.zero_mul]
    rfl
  rw [percentage, hzero]
  rfl

/-- A percentage that is written with its sign is available. -/
theorem append_percent_ne_notAvailable (text : String) : text ++ "%" ≠ notAvailable := by
  intro h
  have hlast := congrArg (fun s : String => s.toList.getLast?) h
  simp [notAvailable] at hlast

open Binary64 in
/-- **The percentage of counts up to `2 ^ 40`** is written from its tenths. -/
theorem percentage_eq_tenthsText {count total : Nat} (hpos : 0 < total) (hcount : count ≤ total)
    (htotal : total ≤ 2 ^ 40) :
    percentage (ofNat count) (ofNat total) 1 = tenthsText (tenths count total) := by
  obtain ⟨m, hm, hnear⟩ := exists_ratio hpos hcount htotal
  have htenths : tenths count total = nearestHalfUp (m.value * 10 ^ 3) := by
    rw [tenths, hm]
    rfl
  have hle := tenths_le hpos hcount htotal
  rw [htenths] at hle
  have hvalue : m.value ≤ 2 := by
    have hshare := share_le_one hpos hcount
    have := (abs_le.1 hnear).2
    linarith
  obtain ⟨w, hw, hnearDecimal⟩ := exists_roundHalfUp_isNear false (show 3 ≤ 22 by decide)
    (show m.value * 10 ^ 3 < 2 ^ 52 by linarith)
  obtain ⟨p, hp, hnumerator⟩ := exists_hundredfold hle hnearDecimal
  rw [percentage_of_counts hpos hcount (Nat.lt_of_le_of_lt htotal (by decide)), hm, hw, hp,
    fixedText, hnumerator, ← htenths, signedText, if_neg Bool.false_ne_true, placesText_one]

/-- The derivable rules are some of those that were tried. -/
theorem Derivability.length_can_le_total (d : Derivability) : d.can.length ≤ d.total :=
  Nat.le_add_right _ _

/-- **Shares are shown as nearest tenths of a percent.** A share is not available exactly if nothing
was tried; counts are words of 64 bits. Up to a total of `2 ^ 40` it is the text of a number of
tenths, which is nearest to the exact share and does not decrease when more rules of the same total
can be derived. -/
theorem Derivability.percentage_nearest :
    (∀ d : Derivability, d.total < 2 ^ 64 → (d.percentage = "n/a" ↔ d.total = 0)) ∧
    ∀ total, 0 < total → total ≤ 2 ^ 40 →
      ∃ tenths : Nat → Nat,
        (∀ few many, few ≤ many → many ≤ total → tenths few ≤ tenths many) ∧
        ∀ d : Derivability, d.total = total →
          d.percentage = tenthsText (tenths d.can.length) ∧ tenths d.can.length ≤ 1000 ∧
          |(tenths d.can.length : ℚ) - 1000 * d.can.length / total| ≤ 1 / 2 := by
  constructor
  · intro d htotal
    constructor
    · intro hpercentage
      by_contra hzero
      rw [percentage, Binary64.percentage_of_counts (Nat.pos_of_ne_zero hzero)
        d.length_can_le_total htotal] at hpercentage
      exact append_percent_ne_notAvailable _ hpercentage
    · intro hzero
      rw [percentage, hzero, percentage_zero]
      rfl
  · intro total hpos htotal
    refine ⟨(Binary64.tenths · total), ?_, ?_⟩
    · intro few many hle hmany
      exact Binary64.tenths_mono hpos hle hmany htotal
    · rintro d rfl
      have hcount := d.length_can_le_total
      exact ⟨percentage_eq_tenthsText hpos hcount htotal, Binary64.tenths_le hpos hcount htotal,
        Binary64.abs_tenths_sub_le hpos hcount htotal⟩

/-- A tie of thousandths goes up, and a share that is no double goes to its nearest tenth. -/
example : percentage (.ofNat 1) (.ofNat 16) 1 = "6.3%" ∧
    percentage (.ofNat 2) (.ofNat 3) 1 = "66.7%" := by decide +kernel

/-- Two rules of three could be derived. -/
def sampleDerivability : Derivability := ⟨["a ==> b", "c ==> d"], ["e ==> f"], .zero⟩

/-- The sample is shown as its nearest tenth, which is no more than for all three. -/
theorem Derivability.percentage_nearest_of_sampleDerivability :
    sampleDerivability.total < 2 ^ 64 ∧
      (sampleDerivability.percentage = "n/a" ↔ sampleDerivability.total = 0) ∧
      0 < 3 ∧ 3 ≤ 2 ^ 40 ∧ sampleDerivability.total = 3 ∧ 2 ≤ 3 ∧
      ∃ tenths : Nat → Nat, tenths 2 ≤ tenths 3 ∧
        sampleDerivability.percentage = tenthsText (tenths 2) ∧ tenths 2 ≤ 1000 ∧
        |(tenths 2 : ℚ) - 1000 * 2 / 3| ≤ 1 / 2 := by
  obtain ⟨havailable, hnearest⟩ := Derivability.percentage_nearest
  obtain ⟨tenths, hmono, htext⟩ := hnearest 3 (by decide) (by decide)
  have htotal : sampleDerivability.total < 2 ^ 64 := by decide
  obtain ⟨hpercentage, hle, hnear⟩ := htext sampleDerivability rfl
  exact ⟨htotal, havailable sampleDerivability htotal, by decide, by decide, rfl, by decide, tenths,
    hmono 2 3 (by decide) (by decide), hpercentage, hle, by exact_mod_cast hnear⟩

end SynthReport
