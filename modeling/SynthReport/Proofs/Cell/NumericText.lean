import SynthReport.Cell

/-! # Characters of numbers

A number is shown in digits, with a sign and a point, or as a word if it is not finite.

* **`IsNumeric`** — these characters;
* **`isNumeric_of_mem_plainText`**, **`isNumeric_of_mem_toString_int`** — doubles and integers are
  shown in them. -/

namespace SynthReport

/-- The signs of numbers that are no digits, and the words for what is not finite. -/
def numericSigns : List Char := "-.NaNinf".toList

/-- **A character of numbers.** -/
def IsNumeric (c : Char) : Prop := c.isDigit = true ∨ c ∈ numericSigns

instance (c : Char) : Decidable (IsNumeric c) := inferInstanceAs (Decidable (_ ∨ _))

/-- Signs and words are numeric. -/
theorem isNumeric_of_mem_word {word : List Char} (h : word <:+: numericSigns) :
    ∀ c ∈ word, IsNumeric c :=
  fun _ hc => Or.inr (h.subset hc)

/-- The digits of a natural number are numeric. -/
theorem isNumeric_of_mem_decimalDigits {n : Nat} : ∀ c ∈ decimalDigits n, IsNumeric c :=
  fun _ hc => Or.inl (Nat.isDigit_of_mem_toDigits (by decide) (by decide) hc)

/-- A sign in front stays numeric. -/
theorem isNumeric_of_mem_signedText {negative : Bool} {digits : List Char}
    (hdigits : ∀ c ∈ digits, IsNumeric c) : ∀ c ∈ signedText negative digits, IsNumeric c := by
  rw [signedText]
  split
  · exact List.forall_mem_cons.2 ⟨by decide, hdigits⟩
  · exact hdigits

/-- Digits in place are numeric. -/
theorem isNumeric_of_mem_positional {digits : List Char} {point : Int}
    (hdigits : ∀ c ∈ digits, IsNumeric c) :
    ∀ c ∈ Decimal.positional [] digits point, IsNumeric c := by
  have hpoint : IsNumeric '.' := by decide
  have hzeros : ∀ n, ∀ c ∈ List.replicate n '0', IsNumeric c := by
    intro n c hc
    rw [List.eq_of_mem_replicate hc]
    decide
  intro c hc
  unfold Decimal.positional at hc
  split at hc
  · simp only [List.mem_cons, List.mem_append] at hc
    rcases hc with rfl | rfl | hc | hc
    · decide
    · exact hpoint
    · exact hzeros _ c hc
    · exact hdigits c hc
  · split at hc
    · simp only [List.append_nil, List.mem_append] at hc
      rcases hc with hc | hc
      · exact hdigits c hc
      · exact hzeros _ c hc
    · simp only [List.mem_cons, List.mem_append] at hc
      rcases hc with hc | rfl | hc
      · exact hdigits c (List.mem_of_mem_take hc)
      · exact hpoint
      · exact hdigits c (List.mem_of_mem_drop hc)

/-- **A number is shown in numeric characters.** -/
theorem isNumeric_of_mem_plainText (x : Binary64) : ∀ c ∈ x.plainText.toList, IsNumeric c := by
  cases x with
  | nan =>
    have hword : "NaN".toList <:+: numericSigns := by decide +kernel
    exact isNumeric_of_mem_word hword
  | infinite negative =>
    rw [Binary64.plainText, String.toList_ofList]
    have hword : "inf".toList <:+: numericSigns := by decide +kernel
    exact isNumeric_of_mem_signedText (isNumeric_of_mem_word hword)
  | finite negative m =>
    rw [Binary64.plainText]
    split
    · rw [String.toList_ofList]
      exact isNumeric_of_mem_signedText (List.forall_mem_singleton.2 (by decide))
    · dsimp only
      rw [String.toList_ofList]
      refine isNumeric_of_mem_signedText (isNumeric_of_mem_positional fun c hc => ?_)
      rw [Decimal.digitsAndPoint] at hc
      have hdigits := (List.dropWhile_suffix _).subset (List.mem_reverse.1 hc)
      exact isNumeric_of_mem_decimalDigits c (List.mem_reverse.1 hdigits)

/-- A natural number is shown in numeric characters. -/
theorem isNumeric_of_mem_toString (n : Nat) : ∀ c ∈ (toString n).toList, IsNumeric c := by
  rw [Nat.toString_eq_repr, Nat.toList_repr]
  exact isNumeric_of_mem_decimalDigits

/-- So there is no line feed in it. -/
theorem lineFeed_notMem_toString (n : Nat) : '\n' ∉ (toString n).toList :=
  fun h => absurd (isNumeric_of_mem_toString n _ h) (by decide +kernel)

/-- An integer is shown in numeric characters. -/
theorem isNumeric_of_mem_toString_int (i : Int) : ∀ c ∈ (toString i).toList, IsNumeric c := by
  cases i with
  | ofNat n => exact isNumeric_of_mem_toString n
  | negSucc n =>
    have htext : toString (Int.negSucc n) = "-" ++ toString (n + 1) := rfl
    rw [htext, String.toList_append]
    exact List.forall_mem_append.2
      ⟨isNumeric_of_mem_word (by decide +kernel), isNumeric_of_mem_toString (n + 1)⟩

end SynthReport
