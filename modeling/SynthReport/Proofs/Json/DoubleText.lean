import SynthReport.Proofs.Json.NumberText
import SynthReport.Proofs.Json.Numeral
import SynthReport.Proofs.Number.Shortest

/-! # Doubles are read back as doubles

The text of a finite double is read as some finite double. The digits are those of a decimal near
the double, so reading them can only fail if rounding them takes the result beyond the largest
double.

* **`scales_of_reaches`** — below the three largest magnitudes there is room for the two roundings
  of a reading;
* **`exists_digits_of_isTop`** — the largest three are read without trouble;
* **`exists_legible_jsonText`** — the text of every finite double is read as a finite double. -/

namespace SynthReport

/-! ## The digits of a decimal -/

/-- **The digits of a decimal** are those of its coefficient up to zeros at the end. -/
theorem Decimal.exists_zeros {d : Decimal} (h : d.coefficient ≠ 0) :
    ∃ count, decimalDigits d.coefficient = d.digitsAndPoint.1 ++ List.replicate count '0' ∧
      d.digitsAndPoint.2 = (d.digitsAndPoint.1.length + count : Nat) + d.exponent ∧
      d.digitsAndPoint.1 ≠ [] := by
  have hsplit : decimalDigits d.coefficient = d.digitsAndPoint.1 ++
      ((decimalDigits d.coefficient).reverse.takeWhile (· == '0')).reverse := by
    rw [digitsAndPoint, ← List.reverse_append, List.takeWhile_append_dropWhile,
      List.reverse_reverse]
  have hzeros : ∀ c ∈ ((decimalDigits d.coefficient).reverse.takeWhile (· == '0')).reverse,
      c = '0' := fun c hc => by simpa using List.mem_takeWhile_imp (List.mem_reverse.1 hc)
  rw [List.eq_replicate_of_mem hzeros] at hsplit
  refine ⟨_, hsplit, ?_, ?_⟩
  · have hlength := congrArg List.length hsplit
    rw [List.length_append, List.length_replicate] at hlength
    rw [← hlength]
    rfl
  · -- Otherwise the coefficient would have no digit but zeros.
    intro hnil
    rw [hnil, List.nil_append] at hsplit
    obtain ⟨c, rest, hcons⟩ := List.exists_cons_of_ne_nil (Json.decimalDigits_ne_nil d.coefficient)
    rw [hcons] at hsplit
    have hzero : c = '0' := List.eq_of_mem_replicate (hsplit ▸ List.mem_cons_self)
    exact Json.head?_decimalDigits_ne h (by rw [hcons, hzero]; rfl)

namespace Json

/-! ## Room for roundings -/

/-- **The three largest magnitudes.** -/
def IsTop (m : Magnitude) : Prop := m.shift = 2045 ∧ 2 * binadeSize ≤ m.significand + 3

/-- Below the largest magnitudes, the interval around a magnitude stays below the largest double by
two roundings. -/
theorem upper_mul_le {m : Magnitude} (hm : ¬ IsTop m) :
    (4 * m.significand + 2) * 2 ^ m.shift * (2 ^ 53 + 1) ^ 2 ≤
      (2 * binadeSize - 1) * 2 ^ 971 * 2 ^ 106 * (4 * 2 ^ 1074) := by
  obtain ⟨hsignificand, hshift, -⟩ := m.canonical
  have hbinade : binadeSize = 2 ^ 52 := rfl
  -- Either the shift is smaller, which leaves a factor of two, or the significand is by three.
  rw [IsTop, not_and_or] at hm
  by_cases htop : m.shift = 2045
  · have hquarters : 4 * m.significand + 2 ≤ 2 ^ 55 - 14 := by
      have := hm.resolve_left (not_not_intro htop)
      omega
    calc (4 * m.significand + 2) * 2 ^ m.shift * (2 ^ 53 + 1) ^ 2
        ≤ (2 ^ 55 - 14) * 2 ^ 2045 * (2 ^ 53 + 1) ^ 2 := by
          rw [htop]
          exact Nat.mul_le_mul_right _ (Nat.mul_le_mul_right _ hquarters)
      _ ≤ (2 * binadeSize - 1) * 2 ^ 971 * 2 ^ 106 * (4 * 2 ^ 1074) := by decide +kernel
  · have hquarters : 4 * m.significand + 2 ≤ 2 ^ 55 := by omega
    have hpow := Nat.pow_le_pow_right Nat.two_pos (show m.shift ≤ 2044 by omega)
    calc (4 * m.significand + 2) * 2 ^ m.shift * (2 ^ 53 + 1) ^ 2
        ≤ 2 ^ 55 * 2 ^ 2044 * (2 ^ 53 + 1) ^ 2 :=
          Nat.mul_le_mul_right _ (Nat.mul_le_mul hquarters hpow)
      _ ≤ (2 * binadeSize - 1) * 2 ^ 971 * 2 ^ 106 * (4 * 2 ^ 1074) := by decide +kernel

/-- **A significand and a power of ten give a double** if their product stays below the largest
double by two roundings. -/
theorem scales_of_mul_le {significand exponent : Nat} (hpos : 0 < significand)
    (h : significand * 10 ^ exponent * (2 ^ 53 + 1) ^ 2 ≤
      (2 * binadeSize - 1) * 2 ^ 971 * 2 ^ 106) :
    Scales significand exponent := by
  have hproduct : significand * 10 ^ exponent ≤ (2 * binadeSize - 1) * 2 ^ 971 := by
    have hsquare : 2 ^ 106 ≤ (2 ^ 53 + 1) ^ 2 := by decide +kernel
    exact Nat.le_of_mul_le_mul_right ((Nat.mul_le_mul_left _ hsquare).trans h) (Nat.two_pow_pos 106)
  have hten : 10 ^ exponent ≤ (2 * binadeSize - 1) * 2 ^ 971 :=
    (Nat.le_mul_of_pos_left _ hpos).trans hproduct
  have hexponent : exponent ≤ largestTenExponent := by
    by_contra hlarge
    rw [largestTenExponent, Nat.not_le] at hlarge
    have hbeyond : (2 * binadeSize - 1) * 2 ^ 971 < 10 ^ 309 := by decide +kernel
    have hpow := Nat.pow_le_pow_right (show 0 < 10 by decide) (Nat.succ_le_of_lt hlarge)
    omega
  -- Both factors are rounded, and then their product once more.
  have hfinite := Binary64.isFinite_ofNat_mul hpos (Nat.pow_pos (by decide))
    ((Nat.le_mul_of_pos_right _ (Nat.pow_pos (by decide))).trans hproduct) hten h
  rw [Scales, scaled?, if_neg (by omega), Int.natAbs_natCast, if_pos hexponent, tenTo, Nat.pow_eq,
    if_pos hfinite]
  exact ⟨_, rfl⟩

/-- A decimal near a magnitude stays below the upper end of its interval, and so does every smaller
number with the same power of ten. -/
theorem mul_le_of_reaches {m : Magnitude} {coefficient place value length exponent : Nat}
    (h : m.Reaches coefficient place) (hvalue : value * 10 ^ length ≤ coefficient)
    (hexponent : length + place = exponent + finestPlaces) :
    value * 10 ^ exponent * (4 * 2 ^ 1074) ≤ (4 * m.significand + 2) * 2 ^ m.shift := by
  -- Both sides are compared on the finest grid, where powers of ten are whole.
  refine Nat.le_of_mul_le_mul_right ?_ (show 0 < 10 ^ finestPlaces from Nat.pow_pos (by decide))
  calc value * 10 ^ exponent * (4 * 2 ^ 1074) * 10 ^ finestPlaces
      = value * 10 ^ (exponent + finestPlaces) * (4 * 2 ^ 1074) := by
        rw [pow_add, Nat.mul_right_comm, Nat.mul_assoc value]
    _ = value * 10 ^ length * 10 ^ place * (4 * 2 ^ 1074) := by
        rw [← hexponent, pow_add, ← Nat.mul_assoc value]
    _ ≤ coefficient * 10 ^ place * (4 * 2 ^ 1074) :=
        Nat.mul_le_mul_right _ (Nat.mul_le_mul_right _ hvalue)
    _ ≤ (4 * m.significand + 2) * 2 ^ m.shift * 10 ^ finestPlaces := by
        rw [← quantaPerOne_eq, Nat.mul_assoc (4 * m.significand + 2)]
        exact h.le

/-- **Digits in front of a decimal near a magnitude** give a double with their power of ten. -/
theorem scales_of_reaches {m : Magnitude} (hm : ¬ IsTop m) {coefficient place : Nat}
    (h : m.Reaches coefficient place) {taken dropped : List Char}
    (hdigits : decimalDigits coefficient = taken ++ dropped) (htaken : taken ≠ []) :
    Scales (digitsValue taken) ((dropped.length + place : Nat) - (finestPlaces : Int)) := by
  by_cases hneg : ((dropped.length + place : Nat) - (finestPlaces : Int)) < 0
  · exact scales_of_neg _ hneg
  · obtain ⟨exponent, hexponent⟩ : ∃ exponent, dropped.length + place = exponent + finestPlaces :=
      ⟨dropped.length + place - finestPlaces, by omega⟩
    have hcast : ((dropped.length + place : Nat) - (finestPlaces : Int)) = (exponent : Nat) := by
      omega
    have hupper := mul_le_of_reaches h (digitsValue_mul_pow_le hdigits) hexponent
    rw [hcast]
    apply scales_of_mul_le (digitsValue_pos_of_append htaken hdigits h.ne_zero)
    refine Nat.le_of_mul_le_mul_right ?_ (show 0 < 4 * 2 ^ 1074 by positivity)
    calc digitsValue taken * 10 ^ exponent * (2 ^ 53 + 1) ^ 2 * (4 * 2 ^ 1074)
        = digitsValue taken * 10 ^ exponent * (4 * 2 ^ 1074) * (2 ^ 53 + 1) ^ 2 :=
          Nat.mul_right_comm _ _ _
      _ ≤ (4 * m.significand + 2) * 2 ^ m.shift * (2 ^ 53 + 1) ^ 2 :=
          Nat.mul_le_mul_right _ hupper
      _ ≤ (2 * binadeSize - 1) * 2 ^ 971 * 2 ^ 106 * (4 * 2 ^ 1074) := upper_mul_le hm

/-- A magnitude with the largest shift. -/
def largeMagnitude (significand : Nat)
    (h : binadeSize ≤ significand ∧ significand < 2 * binadeSize) : Magnitude :=
  ⟨significand, 2045, h.2, Nat.le_refl _, Or.inl h.1⟩

/-- **The largest three magnitudes** have decimals of seventeen digits, each of which gives a
double. -/
theorem exists_digits_of_isTop {m : Magnitude} (hm : IsTop m) :
    ∃ digits : List Char, (m.shortest .even).digitsAndPoint = (digits, 309) ∧
      digits.length = 17 ∧ Scales (digitsValue digits) 292 := by
  obtain ⟨significand, shift, hcanonical⟩ := m
  obtain ⟨rfl, hsignificand⟩ : shift = 2045 ∧ _ := hm
  have hbinade : binadeSize = 2 ^ 52 := rfl
  have hbound := hcanonical.1
  dsimp only at hsignificand
  -- For these the bound is too coarse, so each of them is computed.
  obtain rfl | rfl | rfl : significand = 0x1FFFFFFFFFFFFF ∨ significand = 0x1FFFFFFFFFFFFE ∨
      significand = 0x1FFFFFFFFFFFFD := by omega
  · refine ⟨"17976931348623157".toList, ?_, rfl, Option.isSome_iff_exists.1 (by decide +kernel)⟩
    change ((largeMagnitude 0x1FFFFFFFFFFFFF (by decide)).shortest .even).digitsAndPoint = _
    decide +kernel
  · refine ⟨"17976931348623155".toList, ?_, rfl, Option.isSome_iff_exists.1 (by decide +kernel)⟩
    change ((largeMagnitude 0x1FFFFFFFFFFFFE (by decide)).shortest .even).digitsAndPoint = _
    decide +kernel
  · refine ⟨"17976931348623153".toList, ?_, rfl, Option.isSome_iff_exists.1 (by decide +kernel)⟩
    change ((largeMagnitude 0x1FFFFFFFFFFFFD (by decide)).shortest .even).digitsAndPoint = _
    decide +kernel

/-- **What the notation of a magnitude rests on**: its digits start with none that is zero, and
those of them that fit into a significand give a double with their power of ten. -/
structure Readable (digits : List Char) (point : Int) : Prop where
  ne_nil : digits ≠ []
  isDigit : ∀ c ∈ digits, c.isDigit = true
  head? : digits.head? ≠ some '0'
  scales : Scales (gather 0 digits).1 (point - (digits.length - (gather 0 digits).2.length))

/-- The digits of the shortest decimal have that. -/
theorem exists_readable_shortest {m : Magnitude} (hm : m.significand ≠ 0) :
    ∃ digits point, (m.shortest .even).digitsAndPoint = (digits, point) ∧
      Readable digits point := by
  obtain ⟨coefficient, place, hshortest, hreaches⟩ := m.exists_shortest_reaches hm .even
  obtain ⟨count, hdigits, hpoint, hne⟩ := Decimal.exists_zeros (d := m.shortest .even)
    (by rw [hshortest]; exact hreaches.ne_zero)
  rcases hpair : (m.shortest .even).digitsAndPoint with ⟨digits, point⟩
  rw [hpair, hshortest] at hdigits hpoint
  rw [hpair] at hne
  dsimp only at hdigits hpoint hne
  have hisDigit : ∀ c ∈ digits, c.isDigit = true := fun c hc =>
    isDigit_of_mem_decimalDigits c (by rw [hdigits]; exact List.mem_append_left _ hc)
  refine ⟨digits, point, rfl, hne, hisDigit, ?_, ?_⟩
  · rw [← List.head?_append_of_ne_nil _ hne, ← hdigits]
    exact head?_decimalDigits_ne hreaches.ne_zero
  · by_cases htop : IsTop m
    · obtain ⟨top, htopPair, hlength, hscales⟩ := exists_digits_of_isTop htop
      cases hpair.symm.trans htopPair
      rw [gather_of_length_le hisDigit (by omega), hlength]
      exact hscales
    · -- The digits that do not fit count like the zeros behind them.
      obtain ⟨taken, htaken, hvalue⟩ := gather_eq 0 digits
      have hlength := congrArg List.length htaken
      have hlt := length_gather_lt hne hisDigit (show 0 * 10 + 9 ≤ _ by decide)
      rw [List.length_append] at hlength
      have htakenNe : taken ≠ [] := by
        rintro rfl
        rw [List.length_nil] at hlength
        omega
      rw [htaken, List.append_assoc] at hdigits
      have hscales := scales_of_reaches htop hreaches hdigits htakenNe
      have hexponent : (((gather 0 digits).2 ++ List.replicate count '0').length + place : Nat) -
          (finestPlaces : Int) = point - (digits.length - (gather 0 digits).2.length) := by
        rw [List.length_append, List.length_replicate, hpoint]
        omega
      rwa [hexponent, digitsValue_eq, ← hvalue] at hscales

section Notation

variable {digits : List Char} {point : Int}

/-- Zeros are digits. -/
theorem isDigit_of_mem_append_replicate (hdigits : ∀ c ∈ digits, c.isDigit = true) (count : Nat) :
    ∀ c ∈ digits ++ List.replicate count '0', c.isDigit = true := by
  intro c hc
  rcases List.mem_append.1 hc with hc | hc
  · exact hdigits c hc
  · rw [List.eq_of_mem_replicate hc]
    decide

/-- **Digits in place** are read as some double. -/
theorem exists_legible_positional (negative : Bool) (hne : digits ≠ [])
    (hdigits : ∀ c ∈ digits, c.isDigit = true) (hlead : digits.head? ≠ some '0')
    (hpoint : point ≤ 16) :
    ∃ y, Legible (readUnsigned negative) (Decimal.positional ['.', '0'] digits point)
      (.double y) := by
  have hzero : ∀ c ∈ ['0'], c.isDigit = true := List.forall_mem_singleton.2 (by decide)
  rw [Decimal.positional]
  split_ifs with hsmall hwhole
  · -- All digits stand after the point.
    refine exists_legible_point (List.cons_ne_nil '0' []) hzero (show 1 ≤ 16 by decide)
      (fun _ => rfl) ?_ ?_
    · simp [hne]
    · intro c hc
      rcases List.mem_append.1 hc with hc | hc
      · rw [List.eq_of_mem_replicate hc]
        decide
      · exact hdigits c hc
  · -- All digits stand before the point, with zeros behind them.
    refine exists_legible_point (by simp [hne]) (isDigit_of_mem_append_replicate hdigits _) ?_ ?_
      (List.cons_ne_nil '0' []) hzero
    · rw [List.length_append, List.length_replicate]
      omega
    · intro hhead
      rw [List.head?_append_of_ne_nil _ hne] at hhead
      exact absurd hhead hlead
  · -- The point stands among the digits.
    refine exists_legible_point ?_ (fun c hc => hdigits c (List.mem_of_mem_take hc)) ?_ ?_ ?_
      (fun c hc => hdigits c (List.mem_of_mem_drop hc))
    · rw [ne_eq, List.take_eq_nil_iff, not_or]
      exact ⟨by omega, hne⟩
    · rw [List.length_take]
      omega
    · intro hhead
      rw [List.head?_take, if_neg (by omega)] at hhead
      exact absurd hhead hlead
    · rw [ne_eq, List.drop_eq_nil_iff]
      exact hwhole

/-- In both notations the digits are read as some double. -/
theorem Readable.exists_legible (h : Readable digits point) (negative : Bool) :
    ∃ y, Legible (readUnsigned negative)
      (if -5 < point ∧ point ≤ 16 then Decimal.positional ['.', '0'] digits point
        else Decimal.scientific digits point) (.double y) := by
  split
  · rename_i hsmall
    exact exists_legible_positional negative h.ne_nil h.isDigit h.head? hsmall.2
  · obtain ⟨lead, more, rfl⟩ := List.exists_cons_of_ne_nil h.ne_nil
    have hexponent : point - ((lead :: more).length - (gather 0 (lead :: more)).2.length) =
        point - 1 - (more.length - (gather 0 (lead :: more)).2.length) := by
      rw [List.length_cons]
      omega
    have hscales := h.scales
    rw [hexponent] at hscales
    exact exists_legible_scientific h.isDigit hscales

end Notation

/-- **The text of a finite double is read as a finite double.** -/
theorem exists_legible_jsonText {x : Binary64} (hx : x.isFinite = true) :
    ∃ y, Legible readNumber x.jsonText (.double y) ∧ y.isFinite = true := by
  obtain ⟨y, hy⟩ : ∃ y, Legible readNumber x.jsonText (.double y) := by
    cases x with
    | nan => cases hx
    | infinite negative => cases hx
    | finite negative m =>
      rw [Binary64.jsonText]
      by_cases hm : m.significand = 0
      · rw [if_pos hm]
        have hzero : ∀ c ∈ ['0'], c.isDigit = true := List.forall_mem_singleton.2 (by decide)
        obtain ⟨y, hy⟩ := exists_legible_point (List.cons_ne_nil '0' []) hzero
          (show 1 ≤ 16 by decide) (fun _ => rfl) (List.cons_ne_nil '0' []) hzero
        exact ⟨y, legible_signedText hy⟩
      · rw [if_neg hm]
        obtain ⟨digits, point, hpair, hreadable⟩ := exists_readable_shortest hm
        obtain ⟨y, hy⟩ := hreadable.exists_legible negative
        rw [hpair]
        exact ⟨y, legible_signedText hy⟩
  -- A reader of numerals gives no other doubles.
  obtain ⟨_, hr⟩ := hy [] nofun
  exact ⟨y, hy, yields_readNumber _ _ hr⟩

end Json

end SynthReport
