import SynthReport.Number.Shortest
import SynthReport.Proofs.Json.Digits
import SynthReport.Proofs.Json.Strings

/-! # Numerals are read back

A numeral in a text ends where neither a digit nor a point nor an exponent follows.

* **`EndsNumber`** — a text that does not go on with a numeral;
* **`Legible`** — a text that is read as a value wherever it stands;
* **`legible_integer`** — an integer of 64 bits is read as that integer;
* **`legible_point`**, **`exists_legible_point`** — digits with a point among them are read as the
  double of those that fit, which is always some double;
* **`legible_scientific`**, **`exists_legible_scientific`** — so are digits with an exponent, if the
  number is not too large. -/

namespace SynthReport.Json

/-- **What follows is no digit.** -/
def EndsDigits (rest : List Char) : Prop := ∀ c, rest.head? = some c → c.isDigit = false

/-- **What follows is not part of a numeral.** -/
def EndsNumber (rest : List Char) : Prop :=
  ∀ c, rest.head? = some c → c.isDigit = false ∧ c ≠ '.' ∧ c ≠ 'e' ∧ c ≠ 'E'

/-- Where a numeral ends, its digits do. -/
theorem EndsNumber.endsDigits {rest : List Char} (h : EndsNumber rest) : EndsDigits rest :=
  fun c hc => (h c hc).1

/-- Nothing follows at the end of a text. -/
theorem endsNumber_nil : EndsNumber [] := by
  intro c hc
  cases hc

/-- A character that is not part of a numeral ends it. -/
theorem endsNumber_cons {c : Char} {rest : List Char}
    (h : c.isDigit = false ∧ c ≠ '.' ∧ c ≠ 'e' ∧ c ≠ 'E') : EndsNumber (c :: rest) := by
  intro d hd
  rwa [← Option.some.inj hd]

/-- **The text is read as the value wherever it stands**, if it is not followed by what would make a
numeral longer. -/
def Legible {α : Type} (read : Reader α) (text : List Char) (value : α) : Prop :=
  ∀ rest, EndsNumber rest → Reads read (text ++ rest) value rest

section Readers

variable {digits rest : List Char}

/-! ## Digits -/

/-- The longest run of digits ends where no digit follows. -/
theorem spanDigits_append_of_ends (hdigits : ∀ c ∈ digits, c.isDigit = true)
    (hrest : EndsDigits rest) : spanDigits (digits ++ rest) = (digits, rest) := by
  induction digits with
  | nil =>
    cases rest with
    | nil => rfl
    | cons c rest =>
      rw [List.nil_append, spanDigits, if_neg]
      rw [hrest c rfl]
      exact Bool.false_ne_true
  | cons c digits ih =>
    obtain ⟨hc, hdigits⟩ := List.forall_mem_cons.1 hdigits
    rw [List.cons_append, spanDigits, if_pos hc, ih hdigits]

/-- A run of digits is read. -/
theorem reads_readDigits (hne : digits ≠ []) (hdigits : ∀ c ∈ digits, c.isDigit = true)
    (hrest : EndsDigits rest) : Reads readDigits (digits ++ rest) digits rest := by
  have hspan := spanDigits_append_of_ends hdigits hrest
  rw [Reads, readDigits]
  split
  · rename_i hempty _
    rw [hspan] at hempty
    exact absurd (congrArg Prod.fst hempty) hne
  · rename_i hfound _
    rw [hspan] at hfound
    cases hfound
    exact ⟨by simp, rfl⟩

/-! ## Numerals -/

variable {negative : Bool}

/-- A numeral without its sign is its digits and what follows them. -/
theorem reads_readUnsigned {n : JsonNumber} {after : List Char} (hne : digits ≠ [])
    (hdigits : ∀ c ∈ digits, c.isDigit = true) (hzero : digits.head? = some '0' → digits.length = 1)
    (hends : EndsDigits after)
    (hafter : Reads (readAfterWhole negative (gather 0 digits).1 (gather 0 digits).2.length)
      after n rest) :
    Reads (readUnsigned negative) (digits ++ after) n rest := by
  obtain ⟨_, hfound⟩ := reads_readDigits hne hdigits hends
  obtain ⟨_, hnumber⟩ := hafter
  rw [Reads, readUnsigned, hfound, ok_bind]
  dsimp only
  rw [if_neg fun h => h.2 (hzero h.1), hnumber]
  exact ⟨_, rfl⟩

/-- A sign is no numeral without its sign. -/
theorem not_reads_readUnsigned_minus {n : JsonNumber} {text : List Char} :
    ¬ Reads (readUnsigned negative) ('-' :: text) n rest := by
  rintro ⟨_, h⟩
  cases h

/-- **A numeral with its sign.** -/
theorem legible_signedText {n : JsonNumber} {chars : List Char}
    (h : Legible (readUnsigned negative) chars n) :
    Legible readNumber (signedText negative chars) n := by
  intro rest hrest
  have hreads := h rest hrest
  cases negative with
  | true =>
    obtain ⟨_, hr⟩ := hreads
    change Reads readNumber ('-' :: (chars ++ rest)) n rest
    rw [Reads, readNumber, hr]
    exact ⟨_, rfl⟩
  | false =>
    -- A text that is read without a sign does not start with one, so the second equation applies.
    change Reads readNumber (chars ++ rest) n rest
    rw [Reads, readNumber]
    · exact hreads
    · intro text hminus
      rw [hminus] at hreads
      exact not_reads_readUnsigned_minus hreads

/-! ## Integers -/

/-- Digits alone are a whole number. -/
theorem reads_readAfterWhole_whole {significand : Nat} (hrest : EndsNumber rest) :
    Reads (readAfterWhole negative significand 0) rest (wholeNumber negative significand) rest := by
  cases rest with
  | nil => exact ⟨_, rfl⟩
  | cons c rest =>
    obtain ⟨-, hpoint, hlower, hupper⟩ := hrest c rfl
    refine ⟨Nat.le_refl _, ?_⟩
    rw [readAfterWhole]
    · simp [hlower, hupper]
    · rintro _ ⟨rfl, -⟩
      exact hpoint rfl

/-- A natural number of 64 bits without its sign. -/
theorem legible_decimalDigits {n : Nat} (hn : n ≤ 0xFFFFFFFFFFFFFFFF) :
    Legible (readUnsigned negative) (decimalDigits n) (wholeNumber negative n) := by
  intro rest hrest
  have hgather : gather 0 (decimalDigits n) = (n, []) := by
    have h := digitsValue_decimalDigits n
    rw [digitsValue_eq] at h
    rw [gather_of_le (by rwa [h]), h]
  refine reads_readUnsigned (decimalDigits_ne_nil n) isDigit_of_mem_decimalDigits ?_
    hrest.endsDigits ?_
  · -- Only the number zero starts with a zero.
    intro hhead
    by_cases hzero : n = 0
    · rw [hzero]
      rfl
    · exact absurd hhead (head?_decimalDigits_ne hzero)
  · rw [hgather]
    exact reads_readAfterWhole_whole hrest

/-- **An integer of 64 bits is read as that integer.** -/
theorem legible_integer {i : Int} (hlow : -0x8000000000000000 ≤ i)
    (hhigh : i ≤ 0xFFFFFFFFFFFFFFFF) :
    Legible readNumber (toString i).toList (.integer i) := by
  cases i with
  | ofNat n =>
    have htext : (toString (Int.ofNat n)).toList = signedText false (decimalDigits n) :=
      Nat.toList_repr
    rw [htext]
    exact legible_signedText (legible_decimalDigits (Int.ofNat_le.1 hhigh))
  | negSucc n =>
    have htext : (toString (Int.negSucc n)).toList = signedText true (decimalDigits (n + 1)) := by
      change ("-" ++ Nat.repr (n + 1)).toList = _
      rw [String.toList_append, Nat.toList_repr]
      rfl
    have hnumber : wholeNumber true (n + 1) = .integer (Int.negSucc n) := by
      rw [wholeNumber, Bool.not_true, if_neg Bool.false_ne_true, if_pos (by omega)]
      rfl
    rw [htext, ← hnumber]
    exact legible_signedText (legible_decimalDigits (by omega))

/-! ## Doubles -/

/-- **A significand and a power of ten give a double**: it is not too large. -/
def Scales (significand : Nat) (exponent : Int) : Prop :=
  ∃ x, scaled? significand exponent = some x

/-- A negative power of ten always gives a double. -/
theorem scales_of_neg (significand : Nat) {exponent : Int} (h : exponent < 0) :
    Scales significand exponent := by
  rw [Scales, scaled?, if_pos h]
  exact ⟨_, rfl⟩

variable {significand : Nat} {exponent : Int}

/-- With a sign it gives one as well. -/
theorem Scales.exists_signedDouble (h : Scales significand exponent) (negative : Bool) :
    ∃ y, signedDouble negative significand exponent = .ok (.double y) := by
  obtain ⟨x, hx⟩ := h
  rw [signedDouble, hx]
  exact ⟨_, rfl⟩

/-- A numeral without an exponent ends. -/
theorem reads_readScale_of_ends {n : JsonNumber}
    (h : signedDouble negative significand exponent = .ok n) (hrest : EndsNumber rest) :
    Reads (readScale negative significand exponent) rest n rest := by
  cases rest with
  | nil =>
    rw [Reads, readScale, h]
    exact ⟨_, rfl⟩
  | cons c rest =>
    obtain ⟨-, -, hlower, hupper⟩ := hrest c rfl
    rw [Reads, readScale, if_neg (by simp [hlower, hupper]), h]
    exact ⟨_, rfl⟩

/-- **A written exponent is read**: its digits, and the sign before them if there is one. -/
theorem reads_readExponent {sign : List Char} (hsign : sign ∈ [[], ['+'], ['-']])
    (hne : digits ≠ []) (hdigits : ∀ c ∈ digits, c.isDigit = true) (hrest : EndsDigits rest) :
    Reads readExponent (sign ++ (digits ++ rest))
      (if sign = ['-'] then -digitsValue digits else digitsValue digits) rest := by
  obtain ⟨hle, hfound⟩ := reads_readDigits hne hdigits hrest
  have hread (negative : Bool) : readExponentDigits negative (digits ++ rest) =
      .ok ⟨if negative then -digitsValue digits else digitsValue digits, rest, hle⟩ := by
    rw [readExponentDigits, hfound]
    rfl
  rw [Reads]
  obtain rfl | rfl | rfl : sign = [] ∨ sign = ['+'] ∨ sign = ['-'] := by simpa using hsign
  · -- Without a sign the text starts with a digit, so only the last equation applies.
    obtain ⟨c, more, rfl⟩ := List.exists_cons_of_ne_nil hne
    have hc := hdigits c List.mem_cons_self
    rw [List.nil_append, readExponent, hread false]
    · exact ⟨hle, rfl⟩
    all_goals
      rintro _ ⟨rfl, -⟩
      exact absurd hc (by decide)
  · rw [List.singleton_append, readExponent, hread false]
    exact ⟨Nat.le_succ_of_le hle, rfl⟩
  · rw [List.singleton_append, readExponent, hread true]
    exact ⟨Nat.le_succ_of_le hle, rfl⟩

/-- An integer is read as an exponent. -/
theorem reads_readExponent_int (exponent : Int) (hrest : EndsDigits rest) :
    Reads readExponent
      ((if exponent < 0 then '-' else '+') :: (decimalDigits exponent.natAbs ++ rest))
      exponent rest := by
  have hread (sign : Char) (hsign : [sign] ∈ [[], ['+'], ['-']]) :=
    reads_readExponent hsign (decimalDigits_ne_nil exponent.natAbs) isDigit_of_mem_decimalDigits
      hrest
  rw [digitsValue_decimalDigits] at hread
  by_cases hneg : exponent < 0
  · have hvalue : -(exponent.natAbs : Int) = exponent := by omega
    have hminus := hread '-' (by decide)
    rw [if_pos rfl, hvalue] at hminus
    rwa [if_pos hneg]
  · have hvalue : (exponent.natAbs : Int) = exponent := by omega
    have hplus := hread '+' (by decide)
    rw [if_neg (by decide), hvalue] at hplus
    rwa [if_neg hneg]

/-- A numeral with an exponent. -/
theorem reads_readScale_of_exponent {n : JsonNumber} {letter : Char} {text : List Char}
    {written : Int} (hletter : letter = 'e' ∨ letter = 'E')
    (hread : Reads readExponent text written rest)
    (h : signedDouble negative significand (exponent + written) = .ok n) :
    Reads (readScale negative significand exponent) (letter :: text) n rest := by
  obtain ⟨_, hwritten⟩ := hread
  rw [Reads, readScale, if_pos hletter, hwritten, ok_bind]
  dsimp only
  rw [h]
  exact ⟨_, rfl⟩

/-- The digits after the point. -/
theorem reads_readFraction {n : JsonNumber} {after : List Char} (hne : digits ≠ [])
    (hdigits : ∀ c ∈ digits, c.isDigit = true) (hends : EndsDigits after)
    (hafter : Reads (readScale negative (gather significand digits).1
      (exponent - (digits.length - (gather significand digits).2.length))) after n rest) :
    Reads (readFraction negative significand exponent) (digits ++ after) n rest := by
  obtain ⟨_, hfound⟩ := reads_readDigits hne hdigits hends
  obtain ⟨_, hnumber⟩ := hafter
  rw [Reads, readFraction, hfound, ok_bind]
  dsimp only
  rw [hnumber]
  exact ⟨_, rfl⟩

/-- A point after the whole part. -/
theorem reads_readAfterWhole_of_point {n : JsonNumber} {text : List Char} {dropped : Nat}
    (h : Reads (readFraction negative significand dropped) text n rest) :
    Reads (readAfterWhole negative significand dropped) ('.' :: text) n rest := by
  obtain ⟨_, hr⟩ := h
  rw [Reads, readAfterWhole, hr]
  exact ⟨_, rfl⟩

/-- An exponent after the whole part. -/
theorem reads_readAfterWhole_of_exponent {n : JsonNumber} {letter : Char} {text : List Char}
    {dropped : Nat} (hletter : letter = 'e' ∨ letter = 'E')
    (h : Reads (readScale negative significand dropped) (letter :: text) n rest) :
    Reads (readAfterWhole negative significand dropped) (letter :: text) n rest := by
  rw [Reads, readAfterWhole]
  · rcases hletter with rfl | rfl <;> exact h
  · intro _ hpoint
    rcases hletter with rfl | rfl <;> exact absurd (List.cons.inj hpoint).1 (by decide)

/-- Digits that did not fit are counted, and the numeral ends. -/
theorem reads_readAfterWhole_of_dropped {n : JsonNumber} {dropped : Nat} (hdropped : dropped ≠ 0)
    (hrest : EndsNumber rest) (h : signedDouble negative significand dropped = .ok n) :
    Reads (readAfterWhole negative significand dropped) rest n rest := by
  obtain ⟨hle, hscale⟩ := reads_readScale_of_ends h hrest
  refine ⟨hle, ?_⟩
  cases rest with
  | nil =>
    rw [readAfterWhole, List.head?_nil]
    · exact (if_neg hdropped).trans hscale
    · exact nofun
  | cons c rest =>
    obtain ⟨-, hpoint, hlower, hupper⟩ := hrest c rfl
    rw [readAfterWhole]
    · simpa [hlower, hupper, hdropped] using hscale
    · rintro _ ⟨rfl, -⟩
      exact hpoint rfl

/-- What follows a point ends the digits in front of it. -/
theorem endsDigits_cons {c : Char} (h : c.isDigit = false) (text : List Char) :
    EndsDigits (c :: text) := by
  intro d hd
  rwa [← Option.some.inj hd]

/-- **Digits with a point among them** are read as the double of those that fit. -/
theorem legible_point {whole : List Char} {n : JsonNumber} (hwhole : whole ≠ [])
    (hwholeDigits : ∀ c ∈ whole, c.isDigit = true)
    (hzero : whole.head? = some '0' → whole.length = 1) (hne : digits ≠ [])
    (hdigits : ∀ c ∈ digits, c.isDigit = true)
    (h : signedDouble negative (gather (gather 0 whole).1 digits).1 ((gather 0 whole).2.length -
      (digits.length - (gather (gather 0 whole).1 digits).2.length)) = .ok n) :
    Legible (readUnsigned negative) (whole ++ '.' :: digits) n := by
  intro rest hrest
  rw [List.append_assoc]
  exact reads_readUnsigned hwhole hwholeDigits hzero (endsDigits_cons (by decide) _)
    (reads_readAfterWhole_of_point
      (reads_readFraction hne hdigits hrest.endsDigits (reads_readScale_of_ends h hrest)))

/-- **Digits with a point among them are read as some double**, if there are not many in front of
the point. -/
theorem exists_legible_point {whole : List Char} (hwhole : whole ≠ [])
    (hwholeDigits : ∀ c ∈ whole, c.isDigit = true) (hshort : whole.length ≤ 16)
    (hzero : whole.head? = some '0' → whole.length = 1) (hne : digits ≠ [])
    (hdigits : ∀ c ∈ digits, c.isDigit = true) :
    ∃ y, Legible (readUnsigned negative) (whole ++ '.' :: digits) (.double y) := by
  have hgather := gather_of_length_le hwholeDigits (by omega)
  have hvalue : digitsValue whole < 10 ^ 16 :=
    calc digitsValue whole < (0 + 1) * 10 ^ whole.length := valueFrom_lt hwholeDigits 0
      _ = 10 ^ whole.length := by rw [Nat.zero_add, Nat.one_mul]
      _ ≤ 10 ^ 16 := Nat.pow_le_pow_right (by decide) hshort
  -- The first digit after the point still fits, so the power of ten is negative.
  have hlength := length_gather_lt hne hdigits (show digitsValue whole * 10 + 9 ≤ _ by omega)
  obtain ⟨y, hy⟩ := (scales_of_neg (gather (digitsValue whole) digits).1
    (show ((0 : Nat) : Int) - (digits.length - (gather (digitsValue whole) digits).2.length) < 0
      by omega)).exists_signedDouble negative
  refine ⟨y, legible_point hwhole hwholeDigits hzero hne hdigits ?_⟩
  rw [hgather]
  exact hy

/-- **Digits with an exponent** are read as the double of those that fit. -/
theorem legible_scientific {lead : Char} {point : Int} {n : JsonNumber}
    (hdigits : ∀ c ∈ lead :: digits, c.isDigit = true)
    (h : signedDouble negative (gather 0 (lead :: digits)).1
      (point - 1 - (digits.length - (gather 0 (lead :: digits)).2.length)) = .ok n) :
    Legible (readUnsigned negative) (Decimal.scientific (lead :: digits) point) n := by
  obtain ⟨hlead, hdigits⟩ := List.forall_mem_cons.1 hdigits
  have hfits : 0 * 10 + digitValue lead ≤ 0xFFFFFFFFFFFFFFFF := by
    have := digitValue_lt hlead
    omega
  have hgather : gather 0 (lead :: digits) = gather (digitValue lead) digits := by
    rw [gather, if_pos hfits, Nat.zero_mul, Nat.zero_add]
  have hone : gather 0 [lead] = (digitValue lead, []) := by
    rw [gather, if_pos hfits, Nat.zero_mul, Nat.zero_add, gather]
  have hleadDigits : ∀ c ∈ [lead], c.isDigit = true := List.forall_mem_singleton.2 hlead
  rw [hgather] at h
  intro rest hrest
  -- With one digit there is no point, and the exponent follows at once.
  cases digits with
  | nil =>
    have hexponent : ((0 : Nat) : Int) + (point - 1) =
        point - 1 - (([] : List Char).length - (gather (digitValue lead) []).2.length) := by
      rw [gather]
      simp
    rw [← hexponent] at h
    change Reads _ ([lead] ++ 'e' :: (if point - 1 < 0 then '-' else '+') ::
      (decimalDigits (point - 1).natAbs ++ rest)) _ _
    refine reads_readUnsigned (List.cons_ne_nil lead []) hleadDigits (fun _ => rfl)
      (endsDigits_cons (by decide) _) ?_
    rw [hone]
    exact reads_readAfterWhole_of_exponent (Or.inl rfl) (reads_readScale_of_exponent (Or.inl rfl)
      (reads_readExponent_int _ hrest.endsDigits) h)
  | cons d more =>
    have hexponent : ((0 : Nat) : Int) -
        ((d :: more).length - (gather (digitValue lead) (d :: more)).2.length) + (point - 1) =
        point - 1 - ((d :: more).length - (gather (digitValue lead) (d :: more)).2.length) := by
      omega
    rw [← hexponent] at h
    rw [Decimal.scientific, List.append_assoc, List.cons_append, List.cons_append]
    refine reads_readUnsigned (List.cons_ne_nil lead []) hleadDigits (fun _ => rfl)
      (endsDigits_cons (by decide) _) ?_
    rw [hone]
    exact reads_readAfterWhole_of_point (reads_readFraction (List.cons_ne_nil d more) hdigits
      (endsDigits_cons (by decide) _) (reads_readScale_of_exponent (Or.inl rfl)
        (reads_readExponent_int _ hrest.endsDigits) h))

/-- **Digits with an exponent are read as some double**, if it is not too large. -/
theorem exists_legible_scientific {lead : Char} {point : Int}
    (hdigits : ∀ c ∈ lead :: digits, c.isDigit = true)
    (hscales : Scales (gather 0 (lead :: digits)).1
      (point - 1 - (digits.length - (gather 0 (lead :: digits)).2.length))) :
    ∃ y, Legible (readUnsigned negative) (Decimal.scientific (lead :: digits) point)
      (.double y) := by
  obtain ⟨y, hy⟩ := hscales.exists_signedDouble negative
  exact ⟨y, legible_scientific hdigits hy⟩

end Readers

end SynthReport.Json
