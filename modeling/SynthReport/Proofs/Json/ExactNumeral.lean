import SynthReport.Proofs.Json.DoubleText
import SynthReport.Proofs.Number.Interval

/-! # What the text of a double stands for

The reader rounds a numeral more than once. Read exactly instead, the text of a finite double stands
for a decimal that rounds to it, so the writer loses nothing.

* **`exactNumeral`** — all digits of a numeral and its power of ten, without rounding;
* **`Stands`** — a numeral with so many digits that the reader has the same two numbers;
* **`stands_point`**, **`stands_scientific`** — the two layouts of a numeral;
* **`Writes`**, **`exists_writes`** — the text of every magnitude stands for a decimal that is
  rounded to it. -/

namespace SynthReport.Json

/-! ## Exact reading -/

/-- The power of ten after the letter `e`. -/
def writtenExponent : List Char → Int
  | 'e' :: '-' :: digits => -digitsValue digits
  | 'e' :: '+' :: digits => digitsValue digits
  | _ => 0

/-- **What a numeral stands for**: the number of all its digits, and the power of ten by which it is
multiplied. -/
def exactNumeral (text : List Char) : Nat × Int :=
  let (whole, rest) := spanDigits text
  match rest with
  | '.' :: more =>
    let (fraction, rest) := spanDigits more
    (digitsValue (whole ++ fraction), writtenExponent rest - fraction.length)
  | rest => (digitsValue whole, writtenExponent rest)

/-- **A numeral stands for a significand and a power of ten**: these are read exactly, and the
reader, whose word all digits fit into, gives the double that it makes of them. -/
structure Stands (text : List Char) (significand : Nat) (exponent : Int) : Prop where
  exact : exactNumeral text = (significand, exponent)
  fits : significand ≤ 0xFFFFFFFFFFFFFFFF
  legible : ∀ {negative : Bool} {n : JsonNumber},
    signedDouble negative significand exponent = .ok n → Legible (readUnsigned negative) text n

section Layouts

variable {whole digits : List Char}

/-- An exponent of either sign is written so that it is read. -/
theorem writtenExponent_eq (exponent : Int) :
    writtenExponent ('e' :: (if exponent < 0 then '-' else '+') :: decimalDigits exponent.natAbs) =
      exponent := by
  split
  · rw [writtenExponent, digitsValue_decimalDigits]
    omega
  · rw [writtenExponent, digitsValue_decimalDigits]
    omega

/-- Digits with a point among them, and what follows. -/
theorem exactNumeral_point {rest : List Char} (hwhole : ∀ c ∈ whole, c.isDigit = true)
    (hdigits : ∀ c ∈ digits, c.isDigit = true) (hrest : EndsDigits rest) :
    exactNumeral (whole ++ '.' :: (digits ++ rest)) =
      (digitsValue (whole ++ digits), writtenExponent rest - digits.length) := by
  rw [exactNumeral, spanDigits_append_of_ends hwhole (endsDigits_cons (by decide) _)]
  change (digitsValue (whole ++ (spanDigits (digits ++ rest)).1),
    writtenExponent (spanDigits (digits ++ rest)).2 - (spanDigits (digits ++ rest)).1.length) = _
  rw [spanDigits_append_of_ends hdigits hrest]

/-- A number of digits that is no larger than a word is read without dropping any of them. -/
theorem gather_gather (hfits : digitsValue (whole ++ digits) ≤ 0xFFFFFFFFFFFFFFFF) :
    gather 0 whole = (digitsValue whole, []) ∧
      gather (digitsValue whole) digits = (digitsValue (whole ++ digits), []) := by
  rw [digitsValue_eq, valueFrom_append] at hfits
  have hwhole : valueFrom 0 whole ≤ 0xFFFFFFFFFFFFFFFF :=
    ((Nat.le_mul_of_pos_right _ (Nat.pow_pos (by decide))).trans
      (mul_pow_le_valueFrom _ digits)).trans hfits
  refine ⟨gather_of_le hwhole, ?_⟩
  rw [digitsValue_eq, digitsValue_eq, valueFrom_append]
  exact gather_of_le hfits

/-- **Digits with a point among them.** -/
theorem stands_point (hne : whole ≠ []) (hwhole : ∀ c ∈ whole, c.isDigit = true)
    (hzero : whole.head? = some '0' → whole.length = 1) (hdigitsNe : digits ≠ [])
    (hdigits : ∀ c ∈ digits, c.isDigit = true)
    (hfits : digitsValue (whole ++ digits) ≤ 0xFFFFFFFFFFFFFFFF) :
    Stands (whole ++ '.' :: digits) (digitsValue (whole ++ digits)) (-(digits.length : Int)) where
  exact := by
    have hnone : writtenExponent [] = 0 := rfl
    have hexact := exactNumeral_point hwhole hdigits (show EndsDigits [] from nofun)
    rwa [List.append_nil, hnone, zero_sub] at hexact
  fits := hfits
  legible h := by
    obtain ⟨hfirst, hsecond⟩ := gather_gather hfits
    refine legible_point hne hwhole hzero hdigitsNe hdigits ?_
    rw [hfirst, hsecond]
    simpa using h

/-- **Digits with an exponent.** -/
theorem stands_scientific {lead : Char} {point : Int}
    (hdigits : ∀ c ∈ lead :: digits, c.isDigit = true)
    (hfits : digitsValue (lead :: digits) ≤ 0xFFFFFFFFFFFFFFFF) :
    Stands (Decimal.scientific (lead :: digits) point) (digitsValue (lead :: digits))
      (point - (lead :: digits).length) where
  exact := by
    obtain ⟨hlead, hdigits⟩ := List.forall_mem_cons.1 hdigits
    have hleadDigits : ∀ c ∈ [lead], c.isDigit = true := List.forall_mem_singleton.2 hlead
    have hexponent := writtenExponent_eq (point - 1)
    have hends : EndsDigits ('e' :: (if point - 1 < 0 then '-' else '+') ::
        decimalDigits (point - 1).natAbs) := endsDigits_cons (by decide) _
    cases digits with
    | nil =>
      change exactNumeral ([lead] ++ 'e' :: (if point - 1 < 0 then '-' else '+') ::
        decimalDigits (point - 1).natAbs) = _
      rw [exactNumeral, spanDigits_append_of_ends hleadDigits hends]
      change (digitsValue [lead], writtenExponent ('e' :: (if point - 1 < 0 then '-' else '+') ::
        decimalDigits (point - 1).natAbs)) = _
      rw [hexponent]
      rfl
    | cons d more =>
      change exactNumeral ([lead] ++ '.' :: (d :: more ++ 'e' ::
        (if point - 1 < 0 then '-' else '+') :: decimalDigits (point - 1).natAbs)) = _
      rw [exactNumeral_point hleadDigits hdigits hends, hexponent, List.singleton_append,
        List.length_cons (a := lead)]
      congr 1
      omega
  fits := hfits
  legible h := by
    refine legible_scientific hdigits ?_
    have hgather : gather 0 (lead :: digits) = (digitsValue (lead :: digits), []) :=
      gather_of_le hfits
    rw [hgather]
    have hexponent : point - 1 - ((digits.length : Int) - ([] : List Char).length) =
        point - (lead :: digits).length := by
      rw [List.length_nil, List.length_cons]
      omega
    rwa [hexponent]

/-! ## Notations of a decimal -/

variable {point : Int}

/-- **Digits in place** stand for their decimal, as a significand and a negative power of ten. -/
theorem exists_stands_positional (hne : digits ≠ []) (hdigits : ∀ c ∈ digits, c.isDigit = true)
    (hlead : digits.head? ≠ some '0') (hpoint : point ≤ 16)
    (hfits : digitsValue digits ≤ 0xFFFFFFFFFFFFFFFF)
    (hfinest : -finestPlaces ≤ point - digits.length) :
    ∃ significand exponent,
      Stands (Decimal.positional ['.', '0'] digits point) significand exponent ∧
      (significand * 10 ^ exponent : ℚ) = digitsValue digits * 10 ^ (point - digits.length) ∧
      -finestPlaces ≤ exponent ∧ exponent < 0 := by
  have hzero : ∀ c ∈ ['0'], c.isDigit = true := List.forall_mem_singleton.2 (by decide)
  have hlength : 0 < digits.length := List.length_pos_iff.2 hne
  rw [Decimal.positional]
  split_ifs with hsmall hwhole
  · -- All digits stand after the point, with zeros in front of them.
    have hvalue : digitsValue (['0'] ++ (List.replicate (-point).toNat '0' ++ digits)) =
        digitsValue digits := by
      rw [digitsValue_eq, valueFrom_append, valueFrom_append, show valueFrom 0 ['0'] = 0 from rfl,
        valueFrom_replicate, Nat.zero_mul, digitsValue_eq]
    have hexponent : -((List.replicate (-point).toNat '0' ++ digits).length : Int) =
        point - digits.length := by
      rw [List.length_append, List.length_replicate]
      omega
    refine ⟨_, _, stands_point (List.cons_ne_nil '0' []) hzero (fun _ => rfl) (by simp [hne]) ?_
      (hvalue ▸ hfits), ?_⟩
    · intro c hc
      rcases List.mem_append.1 hc with hc | hc
      · rw [List.eq_of_mem_replicate hc]
        decide
      · exact hdigits c hc
    · rw [hvalue, hexponent]
      exact ⟨rfl, hfinest, by omega⟩
  · -- All digits stand before the point, with zeros behind them.
    have hvalue : digitsValue
        (digits ++ List.replicate (point.toNat - digits.length) '0' ++ ['0']) =
          digitsValue digits * 10 ^ (point.toNat - digits.length) * 10 := by
      rw [digitsValue_eq, valueFrom_append, valueFrom_append, valueFrom_replicate, digitsValue_eq]
      rfl
    have hshort : digitsValue digits * 10 ^ (point.toNat - digits.length) < 10 ^ 16 := by
      have hall := valueFrom_lt (isDigit_of_mem_append_replicate hdigits
        (point.toNat - digits.length)) 0
      rw [valueFrom_append, valueFrom_replicate, List.length_append, List.length_replicate,
        Nat.zero_add, Nat.one_mul] at hall
      exact hall.trans_le (Nat.pow_le_pow_right (by decide) (by omega))
    refine ⟨_, _, stands_point (by simp [hne]) (isDigit_of_mem_append_replicate hdigits _) ?_
      (List.cons_ne_nil '0' []) hzero (by omega), ?_⟩
    · intro hhead
      rw [List.head?_append_of_ne_nil _ hne] at hhead
      exact absurd hhead hlead
    · have hexponent : point - digits.length = (point.toNat - digits.length : Nat) := by omega
      rw [hvalue, hexponent, zpow_natCast]
      refine ⟨?_, by decide, by decide⟩
      push_cast
      norm_num
      ring
  · -- The point stands among the digits.
    have hvalue : digitsValue (digits.take point.toNat ++ digits.drop point.toNat) =
        digitsValue digits := by rw [List.take_append_drop]
    have hexponent : -((digits.drop point.toNat).length : Int) = point - digits.length := by
      rw [List.length_drop]
      omega
    refine ⟨_, _, stands_point ?_ (fun c hc => hdigits c (List.mem_of_mem_take hc)) ?_ ?_
      (fun c hc => hdigits c (List.mem_of_mem_drop hc)) (hvalue ▸ hfits), ?_⟩
    · rw [ne_eq, List.take_eq_nil_iff, not_or]
      exact ⟨by omega, hne⟩
    · intro hhead
      rw [List.head?_take, if_neg (by omega)] at hhead
      exact absurd hhead hlead
    · rw [ne_eq, List.drop_eq_nil_iff]
      exact hwhole
    · rw [hvalue, hexponent]
      exact ⟨rfl, hfinest, by omega⟩

end Layouts

/-! ## Doubles -/

/-- **A decimal that is written for a magnitude**: its text stands for it, it is rounded to the
magnitude, and the reader makes a double of it. -/
structure Writes (m : Magnitude) (significand : Nat) (exponent : Int) : Prop where
  stands : Stands (Binary64.finite false m).jsonText significand exponent
  rounds : m.Rounds (significand * 10 ^ exponent * quantaPerOne)
  scales : Scales significand exponent
  finest : -finestPlaces ≤ exponent

/-- The text of a number is that of its magnitude with its sign. -/
theorem jsonText_finite (negative : Bool) (m : Magnitude) :
    (Binary64.finite negative m).jsonText =
      signedText negative (Binary64.finite false m).jsonText := by
  rw [Binary64.jsonText, Binary64.jsonText]
  by_cases hm : m.significand = 0
  · rw [if_pos hm, if_pos hm]
    rfl
  · rw [if_neg hm, if_neg hm]
    rcases (m.shortest .even).digitsAndPoint with ⟨digits, point⟩
    rfl

/-- Zero is written. -/
theorem writes_zero {m : Magnitude} (hm : m.significand = 0) : Writes m 0 (-1) where
  stands := by
    have hzero : ∀ c ∈ ['0'], c.isDigit = true := List.forall_mem_singleton.2 (by decide)
    rw [Binary64.jsonText, if_pos hm]
    exact stands_point (List.cons_ne_nil '0' []) hzero (fun _ => rfl) (List.cons_ne_nil '0' [])
      hzero (by decide)
  rounds := by
    have hbinade : binadeSize ≠ 0 := by decide
    constructor
    · rw [hm, Nat.cast_zero, zero_mul, zero_mul, zero_div, sub_zero, abs_zero]
      exact one_half_pos.le
    · intro hodd
      omega
    · intro hsignificand
      omega
  scales := scales_of_neg 0 (by decide)
  finest := by decide

/-- **The digits of the shortest decimal** fit into a word, and with their power of ten they are
rounded to the magnitude. -/
theorem exists_digits_rounds {m : Magnitude} (hm : m.significand ≠ 0) :
    ∃ digits point, (m.shortest .even).digitsAndPoint = (digits, point) ∧ Readable digits point ∧
      digitsValue digits ≤ 0xFFFFFFFFFFFFFFFF ∧ -finestPlaces ≤ point - digits.length ∧
      m.Rounds (digitsValue digits * 10 ^ (point - digits.length) * quantaPerOne) := by
  obtain ⟨digits, point, hpair, hreadable⟩ := exists_readable_shortest hm
  obtain ⟨coefficient, place, hshortest, hroundsTo, hle⟩ := m.exists_shortest_roundsTo hm .even
  obtain ⟨count, hzeros, hpoint, -⟩ := Decimal.exists_zeros (d := m.shortest .even)
    (by rw [hshortest]; exact (hroundsTo.reaches hm).ne_zero)
  rw [hpair, hshortest] at hzeros hpoint
  dsimp only at hzeros hpoint
  have hvalue : digitsValue digits * 10 ^ count = coefficient := by
    rw [← digitsValue_decimalDigits coefficient, hzeros, digitsValue_eq, digitsValue_eq,
      valueFrom_append, valueFrom_replicate]
  refine ⟨digits, point, hpair, hreadable, ?_, by omega, ?_⟩
  · calc digitsValue digits ≤ digitsValue digits * 10 ^ count :=
          Nat.le_mul_of_pos_right _ (Nat.pow_pos (by decide))
      _ ≤ 10 ^ 17 := hvalue.trans_le hle
      _ ≤ 0xFFFFFFFFFFFFFFFF := by decide
  · -- The zeros that are not written count as powers of ten.
    have hexponent : point - digits.length = (count + place : Nat) - (finestPlaces : Nat) := by
      omega
    have hdecimal : (digitsValue digits * 10 ^ (point - digits.length) * quantaPerOne : ℚ) =
        coefficient * 10 ^ place * quantaPerOne / 10 ^ finestPlaces := by
      rw [hexponent, zpow_sub₀ (by norm_num), zpow_natCast, zpow_natCast, ← hvalue]
      generalize finestPlaces = finest
      generalize quantaPerOne = one
      push_cast
      ring
    rw [hdecimal]
    exact hroundsTo.rounds

/-- **Every magnitude is written** as a decimal that is rounded to it. -/
theorem exists_writes (m : Magnitude) : ∃ significand exponent, Writes m significand exponent := by
  by_cases hm : m.significand = 0
  · exact ⟨_, _, writes_zero hm⟩
  · obtain ⟨digits, point, hpair, hreadable, hfits, hfinest, hrounds⟩ := exists_digits_rounds hm
    have htext : (Binary64.finite false m).jsonText =
        if -5 < point ∧ point ≤ 16 then Decimal.positional ['.', '0'] digits point
        else Decimal.scientific digits point := by
      rw [Binary64.jsonText, if_neg hm, hpair]
      rfl
    split at htext
    · rename_i hsmall
      obtain ⟨significand, exponent, hstands, hvalue, hfinest, hneg⟩ := exists_stands_positional
        hreadable.ne_nil hreadable.isDigit hreadable.head? hsmall.2 hfits hfinest
      exact ⟨significand, exponent, htext ▸ hstands, hvalue ▸ hrounds, scales_of_neg _ hneg,
        hfinest⟩
    · obtain ⟨lead, more, rfl⟩ := List.exists_cons_of_ne_nil hreadable.ne_nil
      have hgather : gather 0 (lead :: more) = (digitsValue (lead :: more), []) :=
        gather_of_le hfits
      have hscales := hreadable.scales
      rw [hgather, List.length_nil, Nat.cast_zero, sub_zero] at hscales
      exact ⟨_, _, htext ▸ stands_scientific hreadable.isDigit hfits, hrounds, hscales, hfinest⟩

end SynthReport.Json
