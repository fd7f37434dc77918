import SynthReport.Proofs.Json.Grammar
import SynthReport.Proofs.Json.NumberText
import SynthReport.Proofs.Json.Numeral

/-! # The numerals that are read

The reader of numerals takes the numerals of the grammar that are in range, and no others.

* **`Recognises`** — a reader takes the texts of a language;
* **`IsLongestFit.unique`**, **`exists_isLongestFit`** — the digits that are gathered are the longest
  start that 64 bits hold;
* **`fitsDouble_iff`** — what is not too large for a double is what can be scaled;
* **`recognises_readNumber`** — the numerals that are read. -/

namespace SynthReport.Json

open JsonText

/-- **A reader recognises a language** by values of some kind: where it finds one, it has taken a
text of the language, and wherever such a text stands, it finds one. -/
structure Recognises {α : Type} (read : Reader α) (kind : α → Prop) (texts : Language Char) :
    Prop where
  exists_taken : ∀ {text : List Char} {value : α} {rest : List Char}, Reads read text value rest →
    kind value → ∃ taken ∈ texts, text = taken ++ rest
  exists_legible : ∀ {taken : List Char}, taken ∈ texts →
    ∃ value, kind value ∧ Legible read taken value

/-! ## Digits and exponents -/

/-- The longest run of digits has nothing else in it. -/
theorem isDigit_of_mem_spanDigits (text : List Char) :
    ∀ c ∈ (spanDigits text).1, c.isDigit = true := by
  induction text with
  | nil => exact List.forall_mem_nil _
  | cons c rest ih =>
    rw [spanDigits]
    split
    · rename_i hc
      exact List.forall_mem_cons.2 ⟨hc, ih⟩
    · exact List.forall_mem_nil _

/-- A run of digits was taken. -/
theorem taken_of_readDigits {text : List Char} {r : Reading (List Char) text}
    (h : readDigits text = .ok r) : r.value ∈ decimal ∧ text = r.value ++ r.rest := by
  rw [readDigits] at h
  split at h
  · cases h
  · rename_i hne hspan _
    cases h
    have hdigits := isDigit_of_mem_spanDigits text
    have happend := spanDigits_append text
    rw [hspan] at hdigits happend
    exact ⟨⟨hne, hdigits⟩, happend.symm⟩

/-- The digits of an exponent were taken. -/
theorem taken_of_readExponentDigits {negative : Bool} {text : List Char} {r : Reading Int text}
    (h : readExponentDigits negative text = .ok r) :
    ∃ digits ∈ decimal, text = digits ++ r.rest ∧
      r.value = if negative then -(digitsValue digits : Int) else digitsValue digits := by
  obtain ⟨digits, hdigits, rfl⟩ := bind_pure_eq_ok_iff.1 h
  obtain ⟨hmem, htext⟩ := taken_of_readDigits hdigits
  exact ⟨digits.value, hmem, htext, rfl⟩

/-- **An exponent was taken**, after its letter. -/
theorem taken_of_readExponent {letter : Char} (hletter : letter ∈ ['e', 'E']) {text : List Char}
    {r : Reading Int text} (h : readExponent text = .ok r) :
    ∃ exponent : Exponent, letter :: text = exponent.text ++ r.rest ∧
      r.value = exponent.value := by
  unfold readExponent at h
  split at h
  · obtain ⟨tail, htail, rfl⟩ := map_eq_ok_iff.1 h
    obtain ⟨digits, hdigits, htext, hvalue⟩ := taken_of_readExponentDigits htail
    refine ⟨⟨letter, ['+'], digits, hletter, by simp, hdigits⟩, ?_, hvalue⟩
    simp [Exponent.text, htext, Reading.widen]
  · obtain ⟨tail, htail, rfl⟩ := map_eq_ok_iff.1 h
    obtain ⟨digits, hdigits, htext, hvalue⟩ := taken_of_readExponentDigits htail
    refine ⟨⟨letter, ['-'], digits, hletter, by simp, hdigits⟩, ?_, hvalue⟩
    simp [Exponent.text, htext, Reading.widen]
  · obtain ⟨digits, hdigits, htext, hvalue⟩ := taken_of_readExponentDigits h
    refine ⟨⟨letter, [], digits, hletter, by simp, hdigits⟩, ?_, hvalue⟩
    simp [Exponent.text, ← htext]

/-! ## Range -/

/-- There is only one longest start. -/
theorem isLongestFit_unique {n : Nat} {digits first second : List Char}
    (h : IsLongestFit n digits first) (h' : IsLongestFit n digits second) : first = second := by
  have hle := h'.length_le first h.isPrefix h.lt
  have hge := h.length_le second h'.isPrefix h'.lt
  exact (List.prefix_of_prefix_length_le h.isPrefix h'.isPrefix hle).eq_of_length (hle.antisymm hge)

/-- **The digits that are gathered** are the longest start that 64 bits hold. -/
theorem exists_isLongestFit {n : Nat} (hn : n < 2 ^ 64) (digits : List Char) :
    ∃ start, IsLongestFit n digits start ∧ (gather n digits).1 = valueFrom n start ∧
      start.length + (gather n digits).2.length = digits.length := by
  induction digits generalizing n with
  | nil =>
    refine ⟨[], ⟨List.nil_prefix, hn, ?_⟩, rfl, rfl⟩
    intro other hother _
    exact hother.length_le
  | cons c rest ih =>
    rw [gather]
    split
    · -- The next digit still fits, and the longest start goes on from there.
      rename_i hnext
      obtain ⟨start, hstart, hvalue, hlength⟩ := ih (n := n * 10 + digitValue c) (by omega)
      refine ⟨c :: start, ⟨List.cons_prefix_cons.2 ⟨rfl, hstart.isPrefix⟩, hstart.lt, ?_⟩, hvalue, ?_⟩
      · intro other hother hlt
        cases other with
        | nil => exact Nat.zero_le _
        | cons d other =>
          obtain ⟨rfl, hmore⟩ := List.cons_prefix_cons.1 hother
          exact Nat.succ_le_succ (hstart.length_le other hmore hlt)
      · rw [List.length_cons, List.length_cons]
        omega
    · -- It does not, and what begins with it is larger still.
      rename_i hnext
      refine ⟨[], ⟨List.nil_prefix, hn, ?_⟩, rfl, Nat.zero_add _⟩
      intro other hother hlt
      cases other with
      | nil => exact Nat.zero_le _
      | cons d other =>
        obtain ⟨rfl, -⟩ := List.cons_prefix_cons.1 hother
        have hle : n * 10 + digitValue d ≤ valueFrom n (d :: other) :=
          (Nat.le_mul_of_pos_right _ (Nat.pow_pos (by decide))).trans (mul_pow_le_valueFrom _ other)
        omega

/-- The power of ten of a numeral, by the digits that were not gathered. -/
def gatheredPower (numeral : Numeral) : Int :=
  (gather 0 numeral.whole).2.length -
    (numeral.fraction.length - (gather (gather 0 numeral.whole).1 numeral.fraction).2.length) +
    Exponent.valueOf numeral.exponent

/-- **A numeral is in range** if what is gathered of it is not too large for a double. -/
theorem inRange_iff (numeral : Numeral) :
    numeral.InRange ↔
      FitsDouble (gather (gather 0 numeral.whole).1 numeral.fraction).1
        (gatheredPower numeral) := by
  obtain ⟨whole, hwhole, hwholeValue, hwholeLength⟩ :=
    exists_isLongestFit (show 0 < 2 ^ 64 by decide) numeral.whole
  have hlt : (gather 0 numeral.whole).1 < 2 ^ 64 := hwholeValue ▸ hwhole.lt
  obtain ⟨fraction, hfraction, hfractionValue, hfractionLength⟩ :=
    exists_isLongestFit hlt numeral.fraction
  have hpower : gatheredPower numeral = numeral.whole.length - whole.length - fraction.length +
      Exponent.valueOf numeral.exponent := by
    rw [gatheredPower]
    omega
  have hvalue : (gather (gather 0 numeral.whole).1 numeral.fraction).1 =
      digitsValue (whole ++ fraction) := by
    rw [hfractionValue, hwholeValue, digitsValue_eq, valueFrom_append]
  rw [hwholeValue, ← digitsValue_eq] at hfraction
  rw [hpower, hvalue]
  constructor
  · -- The two starts are the only ones.
    rintro ⟨whole', fraction', hwhole', hfraction', hfits⟩
    cases isLongestFit_unique hwhole hwhole'
    cases isLongestFit_unique hfraction hfraction'
    exact hfits
  · exact fun hfits => ⟨whole, fraction, hwhole, hfraction, hfits⟩

/-- Zero times a power of ten that is used is finite. -/
theorem isFinite_zero_mul_tenTo {exponent : Nat} (h : exponent ≤ largestTenExponent) :
    (Binary64.ofNat 0 * tenTo exponent).isFinite = true := by
  obtain ⟨m, hm, -⟩ := exists_tenTo h
  have hzero : Binary64.ofNat 0 = .finite false .zero := by decide +kernel
  rw [hzero, hm]
  change (Binary64.mul _ _).isFinite = true
  rw [Binary64.mul, Magnitude.quanta_zero, Nat.zero_mul]
  exact Binary64.isFinite_ofQuanta _ quantaPerOne_pos (Nat.zero_le _)

/-- **What is not too large for a double** is what can be scaled. -/
theorem fitsDouble_iff {significand : Nat} {power : Int} :
    FitsDouble significand power ↔ Scales significand power := by
  by_cases hnegative : power < 0
  · exact ⟨fun _ => scales_of_neg significand hnegative, fun _ => Or.inr (Or.inl hnegative)⟩
  have hnat : power.natAbs = power.toNat := by omega
  have hzero : (Binary64.ofNat significand).isZero = true ↔ significand = 0 := by
    have hint := @Binary64.isZero_ofInt_iff significand
    rw [Binary64.ofInt, decide_eq_false (Int.not_ofNat_neg significand), Int.natAbs_natCast,
      Int.natCast_eq_zero] at hint
    exact hint
  rw [FitsDouble, Scales, scaled?, if_neg hnegative, or_iff_right hnegative, hnat]
  dsimp only
  by_cases hsmall : power.toNat ≤ largestTenExponent
  · have hle : power ≤ 308 := by
      rw [largestTenExponent] at hsmall
      omega
    rw [if_pos hsmall, and_iff_right hle]
    change significand = 0 ∨ (Binary64.ofNat significand * tenTo power.toNat).isFinite = true ↔ _
    constructor
    · -- The product with zero is finite as well.
      intro hfits
      have hfinite : (Binary64.ofNat significand * tenTo power.toNat).isFinite = true := by
        rcases hfits with rfl | hfinite
        · exact isFinite_zero_mul_tenTo hsmall
        · exact hfinite
      exact ⟨_, if_pos hfinite⟩
    · rintro ⟨x, hx⟩
      split at hx
      · exact Or.inr ‹_›
      · cases hx
  · have hlt : ¬ power ≤ 308 := by
      rw [largestTenExponent] at hsmall
      omega
    rw [if_neg hsmall]
    constructor
    · intro hfits
      exact ⟨_, if_pos (hzero.2 (hfits.resolve_right fun h => hlt h.1))⟩
    · rintro ⟨x, hx⟩
      split at hx
      · exact Or.inl (hzero.1 ‹_›)
      · cases hx

/-- What 64 bits hold is not too large by itself. -/
theorem fitsDouble_zero {significand : Nat} (h : significand ≤ 0xFFFFFFFFFFFFFFFF) :
    FitsDouble significand 0 := by
  rcases Nat.eq_zero_or_pos significand with rfl | hpos
  · exact Or.inl rfl
  · refine Or.inr (Or.inr ⟨by decide, ?_⟩)
    refine Binary64.isFinite_ofNat_mul hpos (by decide) (word_le_largest h)
      (word_le_largest (by decide)) ?_
    calc significand * 10 ^ (0 : Int).toNat * (2 ^ 53 + 1) ^ 2
        ≤ 2 ^ 64 * 1 * (2 ^ 53 + 1) ^ 2 := by
          have hle : significand ≤ 2 ^ 64 := by omega
          exact Nat.mul_le_mul_right _ (Nat.mul_le_mul_right _ hle)
      _ ≤ (2 * binadeSize - 1) * 2 ^ 971 * 2 ^ 106 := by decide +kernel

/-! ## Numerals -/

section Numerals

variable {negative : Bool} {significand : Nat} {text : List Char}

/-- A double was made of a significand that is not too large with its power of ten. -/
theorem fitsDouble_of_signedDouble {power : Int} {n : JsonNumber}
    (h : signedDouble negative significand power = .ok n) : FitsDouble significand power := by
  rw [signedDouble] at h
  split at h
  · rename_i x hx
    exact fitsDouble_iff.2 ⟨x, hx⟩
  · cases h

/-- The end of a numeral was taken. -/
theorem taken_of_readScale {power : Int} {r : Reading JsonNumber text}
    (h : readScale negative significand power text = .ok r) :
    ∃ exponent, text = Exponent.textOf exponent ++ r.rest ∧
      FitsDouble significand (power + Exponent.valueOf exponent) := by
  unfold readScale at h
  split at h
  · -- The text ends here.
    obtain ⟨n, hn, rfl⟩ := bind_pure_eq_ok_iff.1 h
    refine ⟨none, rfl, ?_⟩
    rw [Exponent.valueOf, Option.elim_none, add_zero]
    exact fitsDouble_of_signedDouble hn
  · rename_i letter rest
    split at h
    · -- An exponent follows.
      rename_i hletter
      obtain ⟨written, hwritten, h⟩ := bind_eq_ok_iff.1 h
      obtain ⟨n, hn, rfl⟩ := bind_pure_eq_ok_iff.1 h
      obtain ⟨exponent, htext, hvalue⟩ :=
        taken_of_readExponent (show letter ∈ ['e', 'E'] by simpa using hletter) hwritten
      refine ⟨some exponent, htext, ?_⟩
      rw [hvalue] at hn
      exact fitsDouble_of_signedDouble hn
    · -- Something else follows.
      obtain ⟨n, hn, rfl⟩ := bind_pure_eq_ok_iff.1 h
      refine ⟨none, rfl, ?_⟩
      rw [Exponent.valueOf, Option.elim_none, add_zero]
      exact fitsDouble_of_signedDouble hn

/-- **What follows the whole part of a numeral was taken.** -/
theorem taken_of_readAfterWhole {dropped : Nat} (hsignificand : significand ≤ 0xFFFFFFFFFFFFFFFF)
    {r : Reading JsonNumber text} (h : readAfterWhole negative significand dropped text = .ok r) :
    ∃ fraction exponent, (∀ c ∈ fraction, c.isDigit = true) ∧
      text = pointText fraction ++ (Exponent.textOf exponent ++ r.rest) ∧
      FitsDouble (gather significand fraction).1
        (dropped - (fraction.length - (gather significand fraction).2.length) +
          Exponent.valueOf exponent) := by
  -- Without a point, there are no digits that could be gathered.
  have hscale (h : readScale negative significand dropped text = .ok r) :
      ∃ fraction exponent, (∀ c ∈ fraction, c.isDigit = true) ∧
        text = pointText fraction ++ (Exponent.textOf exponent ++ r.rest) ∧
        FitsDouble (gather significand fraction).1
          (dropped - (fraction.length - (gather significand fraction).2.length) +
            Exponent.valueOf exponent) := by
    obtain ⟨exponent, htext, hfits⟩ := taken_of_readScale h
    exact ⟨[], exponent, List.forall_mem_nil _, htext, by simpa [gather] using hfits⟩
  unfold readAfterWhole at h
  split at h
  · obtain ⟨tail, htail, rfl⟩ := map_eq_ok_iff.1 h
    obtain ⟨digits, hdigits, htail⟩ := bind_eq_ok_iff.1 htail
    obtain ⟨number, hnumber, rfl⟩ := bind_pure_eq_ok_iff.1 htail
    obtain ⟨⟨hne, hmem⟩, htext⟩ := taken_of_readDigits hdigits
    obtain ⟨exponent, hrest, hfits⟩ := taken_of_readScale hnumber
    refine ⟨digits.value, exponent, hmem, ?_, hfits⟩
    rw [pointText, if_neg hne, List.cons_append]
    exact congrArg ('.' :: ·) (htext.trans (congrArg (digits.value ++ ·) hrest))
  · split at h
    · exact hscale h
    · exact hscale h
    · split at h
      · -- All digits fit, and the numeral stays an integer.
        rename_i hdropped
        cases h
        subst hdropped
        refine ⟨[], none, List.forall_mem_nil _, rfl, ?_⟩
        simpa [gather, Exponent.valueOf] using fitsDouble_zero hsignificand
      · exact hscale h

/-- A sign stands in front of everything. -/
theorem signedText_append (negative : Bool) (text rest : List Char) :
    signedText negative (text ++ rest) = signedText negative text ++ rest := by
  cases negative <;> rfl

/-- **A numeral without its sign was taken.** -/
theorem taken_of_readUnsigned {r : Reading JsonNumber text}
    (h : readUnsigned negative text = .ok r) :
    ∃ numeral : Numeral, numeral.negative = negative ∧ numeral.InRange ∧
      signedText negative text = numeral.text ++ r.rest := by
  obtain ⟨digits, hdigits, h⟩ := bind_eq_ok_iff.1 h
  dsimp only at h
  split at h
  · cases h
  · rename_i hzero
    obtain ⟨number, hnumber, rfl⟩ := bind_pure_eq_ok_iff.1 h
    obtain ⟨hmem, htext⟩ := taken_of_readDigits hdigits
    have hgathered := gather_fst_le (Nat.zero_le _) digits.value
    obtain ⟨fraction, exponent, hfraction, hrest, hfits⟩ :=
      taken_of_readAfterWhole hgathered hnumber
    have hlength : digits.value.head? = some '0' → digits.value.length = 1 :=
      fun hhead => by_contra fun hne => hzero ⟨hhead, hne⟩
    refine ⟨⟨negative, digits.value, fraction, exponent, hmem, hlength, hfraction⟩, rfl,
      (inRange_iff _).2 hfits, ?_⟩
    have hunsigned : text = digits.value ++ (pointText fraction ++ Exponent.textOf exponent) ++
        number.rest := by
      rw [List.append_assoc, List.append_assoc, ← hrest]
      exact htext
    exact (congrArg (signedText negative) hunsigned).trans (signedText_append negative _ _)

/-- **A numeral was taken.** -/
theorem taken_of_readNumber {r : Reading JsonNumber text} (h : readNumber text = .ok r) :
    ∃ taken ∈ numeral Numeral.InRange, text = taken ++ r.rest := by
  unfold readNumber at h
  split at h
  · obtain ⟨number, hnumber, rfl⟩ := map_eq_ok_iff.1 h
    obtain ⟨n, -, hrange, htext⟩ := taken_of_readUnsigned hnumber
    exact ⟨n.text, ⟨n, hrange, rfl⟩, htext⟩
  · obtain ⟨n, -, hrange, htext⟩ := taken_of_readUnsigned h
    exact ⟨n.text, ⟨n, hrange, rfl⟩, htext⟩

/-- An exponent ends the digits in front of it, as does what follows a numeral without one. -/
theorem endsDigits_textOf_append {rest : List Char} (exponent : Option Exponent)
    (hrest : EndsNumber rest) : EndsDigits (Exponent.textOf exponent ++ rest) := by
  cases exponent with
  | none => exact hrest.endsDigits
  | some exponent =>
    refine endsDigits_cons ?_ _
    rcases List.mem_pair.1 exponent.letter_mem with h | h <;> rw [h] <;> rfl

/-- So does a point. -/
theorem endsDigits_pointText_append {rest : List Char} (fraction : List Char)
    (exponent : Option Exponent) (hrest : EndsNumber rest) :
    EndsDigits (pointText fraction ++ (Exponent.textOf exponent ++ rest)) := by
  rw [pointText]
  split
  · exact endsDigits_textOf_append exponent hrest
  · exact endsDigits_cons (by decide) _

/-- The end of a numeral is read. -/
theorem reads_readScale_textOf {power : Int} (exponent : Option Exponent) {n : JsonNumber}
    {rest : List Char} (hrest : EndsNumber rest)
    (h : signedDouble negative significand (power + Exponent.valueOf exponent) = .ok n) :
    Reads (readScale negative significand power) (Exponent.textOf exponent ++ rest) n rest := by
  cases exponent with
  | none =>
    rw [Exponent.valueOf, Option.elim_none, add_zero] at h
    exact reads_readScale_of_ends h hrest
  | some exponent =>
    have hwritten := reads_readExponent exponent.sign_mem exponent.digits_mem.1
      exponent.digits_mem.2 hrest.endsDigits
    rw [← List.append_assoc] at hwritten
    exact reads_readScale_of_exponent (List.mem_pair.1 exponent.letter_mem) hwritten h

/-- **What follows the whole part of a numeral is read**, unless the numeral is an integer. -/
theorem reads_readAfterWhole_pointText {fraction rest : List Char} {exponent : Option Exponent}
    {dropped : Nat} {n : JsonNumber} (hfraction : ∀ c ∈ fraction, c.isDigit = true)
    (hsome : ¬ (fraction = [] ∧ exponent = none ∧ dropped = 0)) (hrest : EndsNumber rest)
    (h : signedDouble negative (gather significand fraction).1
      (dropped - (fraction.length - (gather significand fraction).2.length) +
        Exponent.valueOf exponent) = .ok n) :
    Reads (readAfterWhole negative significand dropped)
      (pointText fraction ++ (Exponent.textOf exponent ++ rest)) n rest := by
  by_cases hempty : fraction = []
  · subst hempty
    have hpower : (dropped : Int) - (([] : List Char).length - ([] : List Char).length) = dropped :=
      by simp
    rw [gather, hpower] at h
    rw [pointText, if_pos rfl, List.nil_append]
    cases exponent with
    | none =>
      rw [Exponent.valueOf, Option.elim_none, add_zero] at h
      exact reads_readAfterWhole_of_dropped (fun hzero => hsome ⟨rfl, rfl, hzero⟩) hrest h
    | some exponent =>
      exact reads_readAfterWhole_of_exponent (List.mem_pair.1 exponent.letter_mem)
        (reads_readScale_textOf (some exponent) hrest h)
  · rw [pointText, if_neg hempty]
    exact reads_readAfterWhole_of_point (reads_readFraction hempty hfraction
      (endsDigits_textOf_append exponent hrest) (reads_readScale_textOf exponent hrest h))

/-- A numeral is read if what follows its whole part is. -/
theorem legible_numeral (numeral : Numeral) {n : JsonNumber}
    (h : ∀ rest, EndsNumber rest →
      Reads (readAfterWhole numeral.negative (gather 0 numeral.whole).1
        (gather 0 numeral.whole).2.length)
        (pointText numeral.fraction ++ (Exponent.textOf numeral.exponent ++ rest)) n rest) :
    Legible readNumber numeral.text n := by
  refine legible_signedText ?_
  intro rest hrest
  rw [List.append_assoc, List.append_assoc]
  exact reads_readUnsigned numeral.whole_mem.1 numeral.whole_mem.2 numeral.length_whole
    (endsDigits_pointText_append _ _ hrest) (h rest hrest)

/-- **A numeral in range is read.** -/
theorem exists_legible_numeral {numeral : Numeral} (h : numeral.InRange) :
    ∃ n, Legible readNumber numeral.text n := by
  by_cases hinteger : numeral.fraction = [] ∧ numeral.exponent = none ∧
      (gather 0 numeral.whole).2.length = 0
  · obtain ⟨hfraction, hexponent, hdropped⟩ := hinteger
    refine ⟨wholeNumber numeral.negative (gather 0 numeral.whole).1,
      legible_numeral numeral fun rest hrest => ?_⟩
    rw [hfraction, hexponent, hdropped]
    exact reads_readAfterWhole_whole hrest
  · obtain ⟨y, hy⟩ := (fitsDouble_iff.1 ((inRange_iff numeral).1 h)).exists_signedDouble
      numeral.negative
    exact ⟨_, legible_numeral numeral fun rest hrest =>
      reads_readAfterWhole_pointText numeral.isDigit_of_mem_fraction hinteger hrest hy⟩

/-- **The reader of numerals recognises those in range.** -/
theorem recognises_readNumber :
    Recognises readNumber (fun _ => True) (numeral Numeral.InRange) where
  exists_taken := by
    rintro text n rest ⟨_, h⟩ -
    exact taken_of_readNumber h
  exists_legible := by
    rintro _ ⟨n, hrange, rfl⟩
    obtain ⟨value, hvalue⟩ := exists_legible_numeral hrange
    exact ⟨value, trivial, hvalue⟩

end Numerals

end SynthReport.Json
