import SynthReport.Proofs.Text.FoldedWidth

/-! # Texts brought to a width

* **`takeColumns_maximal`** — no longer start of a text fits than the one that is kept;
* **`IsBroughtTo`** — what a text cut or padded to a width is meant to be;
* **`fitted_shape_and_width`** — a text that fits is padded to exactly the width. One that is cut is
  off by what its kept characters are drawn narrower or wider together than one by one;
* **`isBroughtTo_fitted_of_steady`** — so a text whose characters keep their width is brought to any
  width;
* **`IsShown`**, **`isShown_fitted`** — and no more of it is cut than the width asks for. -/

namespace SynthReport

/-! ## What is kept -/

/-- **No longer start fits** into the room than the one that is kept. -/
theorem takeColumns_maximal {room : Nat} {text longer : List Char} (hstart : longer <+: text)
    (hlonger : (takeColumns room text).1.length < longer.length) : room < columns longer := by
  induction text generalizing room longer with
  | nil =>
    rw [List.prefix_nil.1 hstart] at hlonger
    exact absurd hlonger (Nat.not_lt_zero _)
  | cons c rest ih =>
    cases longer with
    | nil => exact absurd hlonger (Nat.not_lt_zero _)
    | cons d more =>
      obtain ⟨rfl, hmore⟩ := List.cons_prefix_cons.1 hstart
      rw [columns_cons]
      unfold takeColumns at hlonger
      dsimp only at hlonger
      split at hlonger
      · have hrest := ih hmore (Nat.lt_of_succ_lt_succ hlonger)
        omega
      · omega

/-- The mark that ends a text cut to a width. -/
def cutMark (width : Nat) : List Char := if 3 ≤ width then ellipsis else []

/-- There is room for the mark. -/
theorem length_cutMark_le (width : Nat) : (cutMark width).length ≤ width := by
  unfold cutMark
  split
  · assumption
  · exact Nat.zero_le width

/-- The start that is kept of a text cut to a width. -/
def keptOf (text : String) (width : Nat) : List Char :=
  (takeColumns (width - (cutMark width).length) text.toList).1

theorem keptOf_isPrefix (text : String) (width : Nat) : keptOf text width <+: text.toList :=
  takeColumns_prefix _ _

/-- What is kept and the mark fit, one by one. -/
theorem columns_keptOf_le (text : String) (width : Nat) :
    columns (keptOf text width) + (cutMark width).length ≤ width := by
  have hmark := length_cutMark_le width
  have hkept := takeColumns_le (width - (cutMark width).length) text.toList
  rw [← columns_takeColumns] at hkept
  unfold keptOf
  omega

/-- **No longer start** has room beside the mark. -/
theorem lt_columns_of_keptOf_lt {text : String} {width : Nat} {longer : List Char}
    (hstart : longer <+: text.toList) (hlonger : (keptOf text width).length < longer.length) :
    width < columns longer + (cutMark width).length := by
  have hwide := takeColumns_maximal hstart hlonger
  omega

/-- What stands behind the start that is kept. -/
def cutEnd (text : String) (width : Nat) : List Char :=
  cutMark width ++ blanks (width - (columns (keptOf text width) + (cutMark width).length))

/-- **A cut text** is the start that is kept with its end. -/
theorem fitted_of_lt {text : String} {width : Nat} (h : width < displayWidth text) :
    fitted text width = String.ofList (keptOf text width ++ cutEnd text width) := by
  rw [fitted, if_pos h, cutEnd, keptOf, columns_takeColumns, ← List.append_assoc]
  rfl

/-- Its characters: the kept ones, the mark and spaces. -/
theorem toList_fitted_of_lt {text : String} {width : Nat} (h : width < displayWidth text) :
    (fitted text width).toList = keptOf text width ++ cutMark width ++
      blanks (width - (columns (keptOf text width) + (cutMark width).length)) := by
  rw [fitted_of_lt h, String.toList_ofList, cutEnd, List.append_assoc]

/-- A text that fits is padded with spaces. -/
theorem fitted_of_le {text : String} {width : Nat} (h : displayWidth text ≤ width) :
    fitted text width = text ++ String.ofList (blanks (width - displayWidth text)) := by
  rw [fitted, if_neg (Nat.not_lt.2 h), String.ofList_append, String.ofList_toList]

/-- What stands in a fitted text stands in the text, or is a dot or a space. -/
theorem mem_fitted {text : String} {width : Nat} {c : Char} (h : c ∈ (fitted text width).toList) :
    c ∈ text.toList ∨ c = '.' ∨ c = ' ' := by
  rcases Nat.lt_or_ge width (displayWidth text) with hlt | hle
  · rw [toList_fitted_of_lt hlt, List.mem_append, List.mem_append] at h
    rcases h with (h | h) | h
    · exact Or.inl ((keptOf_isPrefix text width).subset h)
    · unfold cutMark at h
      split at h
      · exact Or.inr (Or.inl (List.eq_of_mem_replicate (n := 3) h))
      · cases h
    · exact Or.inr (Or.inr (List.eq_of_mem_replicate h))
  · rw [fitted_of_le hle, String.toList_append, String.toList_ofList, List.mem_append] at h
    rcases h with h | h
    · exact Or.inl h
    · exact Or.inr (Or.inr (List.eq_of_mem_replicate h))

/-- **A start of a text that has room beside the mark stands in the fitted text.** -/
theorem prefix_fitted {text : String} {start : List Char} {width : Nat}
    (hstart : start <+: text.toList) (hroom : columns start + (cutMark width).length ≤ width) :
    start <+: (fitted text width).toList := by
  rcases Nat.lt_or_ge width (displayWidth text) with hlt | hle
  · rw [toList_fitted_of_lt hlt, List.append_assoc]
    refine List.IsPrefix.trans ?_ (List.prefix_append _ _)
    refine List.prefix_of_prefix_length_le hstart (keptOf_isPrefix text width) ?_
    exact Nat.not_lt.1 fun hshort => Nat.not_lt.2 hroom (lt_columns_of_keptOf_lt hstart hshort)
  · rw [fitted_of_le hle, String.toList_append]
    exact hstart.trans (List.prefix_append _ _)

/-! ## How wide a fitted text is -/

/-- Spaces fill a column each. -/
theorem fills_blanks (n : Nat) : Fills (String.ofList (blanks n)) n :=
  fills_replicate (by decide) (by decide) n

/-- So do the dots of the mark. -/
theorem fills_cutMark (width : Nat) :
    Fills (String.ofList (cutMark width)) (cutMark width).length := by
  unfold cutMark
  split
  · exact fills_replicate (c := '.') (by decide) (by decide) 3
  · exact fills_blanks 0

/-- **The end of a cut text** fills what the kept characters leave, one by one. -/
theorem fills_cutEnd (text : String) (width : Nat) :
    Fills (String.ofList (cutEnd text width)) (width - columns (keptOf text width)) := by
  have hroom := columns_keptOf_le text width
  have hend := (fills_cutMark width).append
    (fills_blanks (width - (columns (keptOf text width) + (cutMark width).length)))
  rw [← String.ofList_append] at hend
  rwa [show width - columns (keptOf text width) = (cutMark width).length +
    (width - (columns (keptOf text width) + (cutMark width).length)) by omega]

/-- **A text that is padded has exactly the width.** -/
theorem displayWidth_fitted_of_le {text : String} {width : Nat} (h : displayWidth text ≤ width) :
    displayWidth (fitted text width) = width := by
  have hblanks := fills_blanks (width - displayWidth text)
  rw [fitted_of_le h, displayWidth_append_of_steady text hblanks.steady, hblanks.width_eq]
  omega

/-- **A text that is cut is off by as much as what is kept of it.** -/
theorem displayWidth_fitted_of_lt {text : String} {width : Nat} (h : width < displayWidth text) :
    displayWidth (fitted text width) + columns (keptOf text width) =
      width + displayWidth (String.ofList (keptOf text width)) := by
  have hend := fills_cutEnd text width
  have hroom := columns_keptOf_le text width
  rw [fitted_of_lt h, String.ofList_append, displayWidth_append_of_steady _ hend.steady,
    hend.width_eq]
  omega

/-! ## Texts brought to a width -/

/-- **A text brought to a width.** It fills exactly the width. Where the text fits it is the text
and spaces, else a start of the text that is not all of it, the mark where there is room for one,
and spaces. -/
structure IsBroughtTo (text : String) (width : Nat) (result : String) : Prop where
  width_eq : displayWidth result = width
  padded : displayWidth text ≤ width → ∃ n, result.toList = text.toList ++ blanks n
  shortened : width < displayWidth text → ∃ kept n, kept <+: text.toList ∧ kept ≠ text.toList ∧
    result.toList = kept ++ cutMark width ++ blanks n

/-- A text that fits is brought to the width. -/
theorem isBroughtTo_fitted_of_le {text : String} {width : Nat} (h : displayWidth text ≤ width) :
    IsBroughtTo text width (fitted text width) where
  width_eq := displayWidth_fitted_of_le h
  padded _ := by
    refine ⟨width - displayWidth text, ?_⟩
    rw [fitted_of_le h, String.toList_append, String.toList_ofList]
  shortened hlt := absurd hlt (Nat.not_lt.2 h)

/-- **A text that is cut is brought to the width** if and only if what is kept of it is as wide as
its characters are one by one. -/
theorem isBroughtTo_fitted_iff {text : String} {width : Nat} (h : width < displayWidth text) :
    IsBroughtTo text width (fitted text width) ↔
      displayWidth (String.ofList (keptOf text width)) = columns (keptOf text width) := by
  have hwidth := displayWidth_fitted_of_lt h
  have hroom := columns_keptOf_le text width
  constructor
  · intro hbrought
    have hexact := hbrought.width_eq
    omega
  · intro hkept
    refine ⟨by omega, fun hle => absurd h (Nat.not_lt.2 hle), fun _ => ?_⟩
    refine ⟨keptOf text width, width - (columns (keptOf text width) + (cutMark width).length),
      keptOf_isPrefix text width, fun hall => ?_, toList_fitted_of_lt h⟩
    -- The whole text is wider than the width, what is kept is not.
    rw [hall, String.ofList_toList] at hkept
    rw [hall] at hroom
    omega

/-- A start of a text of steady characters is as wide as they are one by one. -/
theorem SteadyText.displayWidth_start {text : String} (h : SteadyText text) {start : List Char}
    (hstart : start <+: text.toList) : displayWidth (String.ofList start) = columns start := by
  have hsteady : SteadyText (String.ofList start) := by
    intro c hc
    rw [String.toList_ofList] at hc
    exact h c (hstart.subset hc)
  rw [displayWidth_of_steady hsteady, String.toList_ofList]

/-- **Texts of steady characters are brought to any width.** -/
theorem isBroughtTo_fitted_of_steady {text : String} (hsteady : SteadyText text) (width : Nat) :
    IsBroughtTo text width (fitted text width) := by
  rcases Nat.lt_or_ge width (displayWidth text) with hlt | hle
  · exact (isBroughtTo_fitted_iff hlt).2 (hsteady.displayWidth_start (keptOf_isPrefix text width))
  · exact isBroughtTo_fitted_of_le hle

/-- **A text of steady characters is cut or padded to exactly the width**, and stays steady. -/
theorem fills_fitted {text : String} (h : SteadyText text) (width : Nat) :
    Fills (fitted text width) width where
  steady c hc := by
    rcases mem_fitted hc with hc | rfl | rfl
    · exact h c hc
    · decide
    · decide
  width_eq := (isBroughtTo_fitted_of_steady h width).width_eq

/-- **A text shown in a column.** It is brought to the width of the column, and where it is cut, the
start that is kept is the longest one that has room beside the mark. -/
structure IsShown (text : String) (width : Nat) (shown : String) : Prop
    extends IsBroughtTo text width shown where
  longest : width < displayWidth text → ∃ kept n, kept <+: text.toList ∧
    shown.toList = kept ++ cutMark width ++ blanks n ∧
    ∀ longer, longer <+: text.toList → kept.length < longer.length →
      width < displayWidth (String.ofList longer) + (cutMark width).length

/-- **Texts of steady characters are shown in columns of any width.** -/
theorem isShown_fitted {text : String} (hsteady : SteadyText text) (width : Nat) :
    IsShown text width (fitted text width) where
  toIsBroughtTo := isBroughtTo_fitted_of_steady hsteady width
  longest hlt := by
    refine ⟨keptOf text width, width - (columns (keptOf text width) + (cutMark width).length),
      keptOf_isPrefix text width, toList_fitted_of_lt hlt, ?_⟩
    intro longer hstart hlonger
    rw [hsteady.displayWidth_start hstart]
    exact lt_columns_of_keptOf_lt hstart hlonger

/-- **What a fitted text is.** One that fits is brought to the width. Of one that does not fit, the
longest start is kept whose characters fit one by one beside the mark; the mark and spaces fill the
rest of the columns that were counted. Its width is off by as much as the width of what is kept is
off the count, so it is brought to the width if and only if that is what was counted. -/
theorem fitted_shape_and_width (text : String) (width : Nat) :
    (displayWidth text ≤ width → IsBroughtTo text width (fitted text width)) ∧
      (width < displayWidth text →
        ∃ kept n, kept <+: text.toList ∧
          (fitted text width).toList = kept ++ cutMark width ++ blanks n ∧
          columns kept + (cutMark width).length + n = width ∧
          (∀ longer, longer <+: text.toList → kept.length < longer.length →
            width < columns longer + (cutMark width).length) ∧
          displayWidth (fitted text width) + columns kept =
            width + displayWidth (String.ofList kept) ∧
          (IsBroughtTo text width (fitted text width) ↔
            displayWidth (String.ofList kept) = columns kept)) := by
  refine ⟨isBroughtTo_fitted_of_le, fun h => ?_⟩
  have hroom := columns_keptOf_le text width
  refine ⟨keptOf text width, width - (columns (keptOf text width) + (cutMark width).length),
    keptOf_isPrefix text width, toList_fitted_of_lt h, by omega,
    fun _ hstart hlonger => lt_columns_of_keptOf_lt hstart hlonger,
    displayWidth_fitted_of_lt h, isBroughtTo_fitted_iff h⟩

/-- Four hearts, each a sign of one column that a selector makes a picture of two. -/
def sampleHearts : String := "\u2764\ufe0f\u2764\ufe0f\u2764\ufe0f\u2764\ufe0f"

/-- They do not fit into seven columns, but the signs do beside the mark: nothing is cut, and the
mark makes the text wider still. -/
theorem fitted_sampleHearts_not_isBroughtTo :
    displayWidth sampleHearts = 8 ∧ fitted sampleHearts 7 = sampleHearts ++ "..." ∧
      displayWidth (fitted sampleHearts 7) = 11 ∧
      ¬ IsBroughtTo sampleHearts 7 (fitted sampleHearts 7) := by
  have hwidth : displayWidth (fitted sampleHearts 7) = 11 := by decide +kernel
  refine ⟨by decide +kernel, by decide +kernel, hwidth, fun hbrought => ?_⟩
  exact absurd (hwidth.symm.trans hbrought.width_eq) (by decide)

end SynthReport
