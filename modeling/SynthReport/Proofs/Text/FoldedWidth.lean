import Mathlib.Tactic.SplitIfs
import SynthReport.Proofs.Text.Steady

/-! # The width as a fold from the end

A character that merges two glyphs into one takes columns back that the text after it was given.

* **`Following.reserve`** — the columns that may still be taken back from a text, told from what it
  starts with;
* **`reserve_advance_le`** — one character keeps the reserve covered;
* **`natCast_displayWidth`** — so the fold never ends below zero, and the width of a text is what
  was folded;
* **`displayWidth_append_of_steady`** — in front of steady characters, widths add up. -/

namespace SynthReport

/-! ## The fold, character by character -/

@[simp] theorem foldWidth_nil : foldWidth [] = (0, .plain) := rfl

theorem foldWidth_cons (c : Char) (rest : List Char) :
    foldWidth (c :: rest) =
      ((foldWidth rest).1 + (advance c (foldWidth rest).2).1, (advance c (foldWidth rest).2).2) :=
  rfl

/-- **Widths add up in front of plain text**, whatever stands there. -/
theorem foldWidth_append_of_plain (first : List Char) {second : List Char}
    (hsecond : (foldWidth second).2 = .plain) :
    foldWidth (first ++ second) =
      ((foldWidth first).1 + (foldWidth second).1, (foldWidth first).2) := by
  induction first with
  | nil =>
    rw [List.nil_append, foldWidth_nil, Int.zero_add, ← hsecond]
  | cons c rest ih =>
    rw [List.cons_append, foldWidth_cons, ih, foldWidth_cons, Int.add_right_comm]

/-! ## What may be taken back -/

/-- **The columns that may still be taken back** from a text that starts like this: by a coeng sign
under its letter, by the first of two consonants, and by the second letter of a flag. -/
def Following.reserve : Following → Int
  | .letter .coengLetter | .letter .stackedConsonant | .joinedRegional | .joinedOdd => 1
  | _ => 0

theorem Following.reserve_nonneg (following : Following) : 0 ≤ following.reserve := by
  unfold reserve
  split <;> decide

/-- A joiner in front of a letter does not change what may be taken back. -/
theorem JoiningLetter.reserve_joined (next : JoiningLetter) :
    (Following.letter next.joined).reserve = (Following.letter next).reserve := by
  cases next <;> rfl

namespace Ahead

/-- A selector in front takes nothing back, nor does it add to what may be. -/
theorem reserve_withEmojiStyle_le (ahead : Ahead) :
    ahead.withEmojiStyle.following.reserve ≤ ahead.following.reserve := by
  unfold withEmojiStyle
  split
  · exact Int.le_refl _
  · exact Int.le_refl _
  · exact Int.le_refl _
  · exact ahead.following.reserve_nonneg

theorem reserve_withoutEmojiStyle_le (ahead : Ahead) :
    ahead.withoutEmojiStyle.following.reserve ≤ ahead.following.reserve := by
  unfold withoutEmojiStyle
  split
  · exact Int.le_refl _
  · exact ahead.following.reserve_nonneg

theorem reserve_withTextStyle_le (ahead : Ahead) :
    ahead.withTextStyle.following.reserve ≤ ahead.following.reserve := by
  unfold withTextStyle
  split
  · exact Int.le_refl _
  · exact ahead.following.reserve_nonneg

end Ahead

/-! ## One character keeps the reserve covered -/

/-- A character of a class lies in one of its ranges. -/
theorem CodeClass.exists_range_of_contains {cls : CodeClass} {c : Char}
    (h : cls.contains c = true) : ∃ range ∈ cls, range.1 ≤ c.toNat ∧ c.toNat ≤ range.2 := by
  rw [contains] at h
  induction cls with
  | nil => cases h
  | cons range rest ih =>
    rw [containsCode, Bool.and_eq_true, Bool.or_eq_true, decide_eq_true_eq,
      decide_eq_true_eq] at h
    rcases h with ⟨hlow, hhigh | hrest⟩
    · exact ⟨range, List.mem_cons_self, hlow, hhigh⟩
    · obtain ⟨found, hfound, hbetween⟩ := ih hrest
      exact ⟨found, List.mem_cons_of_mem range hfound, hbetween⟩

/-- The Khmer letters that go below the line have a column, so there is one to take back. -/
theorem charWidth_of_coengLetter {c : Char} (h : coengLetterClass.contains c = true) :
    1 ≤ charWidth c := by
  obtain ⟨range, hmem, hfirst, hlast⟩ := CodeClass.exists_range_of_contains h
  have hkhmer : ∀ range ∈ coengLetterClass, 0x1780 ≤ range.1 ∧ range.2 ≤ 0x17AF := by decide
  have hlow : 0x1780 ≤ c.toNat := Nat.le_trans (hkhmer range hmem).1 hfirst
  have hhigh : c.toNat ≤ 0x17AF := Nat.le_trans hlast (hkhmer range hmem).2
  have hzero : zeroWidthClass.contains c = false :=
    CodeClass.contains_eq_false (by decide +kernel) hlow hhigh
  rw [charWidth, if_neg (by omega), if_neg (by omega), hzero, if_neg Bool.false_ne_true]
  split <;> decide

/-- Of two states, each in its case. -/
theorem reserve_ite_le {p : Prop} [Decidable p] {first second : Ahead} {bound : Int}
    (hfirst : p → first.following.reserve ≤ bound) (hsecond : second.following.reserve ≤ bound) :
    (if p then first else second).following.reserve ≤ bound := by
  split
  · exact hfirst ‹p›
  · exact hsecond

/-- A character alone covers what may be taken back from it. -/
theorem reserve_alone_le (c : Char) : (alone c).2.following.reserve ≤ (alone c).1 := by
  have hcolumns : (0 : Int) ≤ charWidth c := Int.natCast_nonneg _
  unfold alone
  dsimp only
  -- Of the twelve kinds that are told apart, only the Khmer letters have something in reserve.
  iterate 7 refine reserve_ite_le (fun _ => hcolumns) ?_
  refine reserve_ite_le (fun hcoeng => Int.ofNat_le.2 (charWidth_of_coengLetter hcoeng)) ?_
  iterate 4 refine reserve_ite_le (fun _ => hcolumns) ?_
  exact hcolumns

/-- A character in front of a joining letter. -/
theorem reserve_joinLetter_le {c : Char} {next : JoiningLetter} {added : Int}
    {following : Following} (h : joinLetter? c next = some (added, following)) :
    following.reserve ≤ (Following.letter next).reserve + added := by
  unfold joinLetter? at h
  dsimp only at h
  split at h
  · cases h
    exact Int.le_of_eq (by rw [JoiningLetter.reserve_joined, Int.add_zero])
  split at h
  · cases h
    exact Int.le_of_eq (Int.add_zero _).symm
  -- One case for each letter; what is left are numbers.
  split at h <;> (try split_ifs at h) <;> cases h <;> simp [Following.reserve]

/-- A character in front of a picture or a part of one. -/
theorem reserve_joinPicture_le {c : Char} {next : Following} {added : Int} {following : Following}
    (h : joinPicture? c next = some (added, following)) :
    following.reserve ≤ next.reserve + added := by
  unfold joinPicture? at h
  dsimp only at h
  split at h <;> (try split_ifs at h) <;> cases h <;> simp [Following.reserve]

/-- A character that joins takes back no more than there was in reserve. -/
theorem reserve_join_le {c : Char} {next : Following} {added : Int} {following : Following}
    (h : join? c next = some (added, following)) :
    following.reserve ≤ next.reserve + added := by
  unfold join? at h
  split at h
  · exact reserve_joinLetter_le h
  · exact reserve_joinPicture_le h

/-- A character that is not in the first Latin blocks. -/
theorem reserve_advanceBefore_le (c : Char) (ahead : Ahead) :
    (advanceBefore c ahead).2.following.reserve ≤
      ahead.following.reserve + (advanceBefore c ahead).1 := by
  have hahead := ahead.following.reserve_nonneg
  unfold advanceBefore
  split
  · exact Int.le_trans ahead.reserve_withEmojiStyle_le (Int.le_of_eq (Int.add_zero _).symm)
  split
  · exact Int.le_trans ahead.reserve_withTextStyle_le (Int.le_of_eq (Int.add_zero _).symm)
  split
  · exact Int.add_nonneg hahead (by decide)
  dsimp only
  split
  case h_1 hjoin => exact reserve_join_le hjoin
  case h_2 =>
    exact Int.le_trans (reserve_alone_le c) (Int.le_add_of_nonneg_left hahead)

/-- **One character keeps the reserve covered**: what may be taken back from the longer text is no
more than what could be from the shorter one, and what the character adds. -/
theorem reserve_advance_le (c : Char) (ahead : Ahead) :
    (advance c ahead).2.following.reserve ≤ ahead.following.reserve + (advance c ahead).1 := by
  have hahead := ahead.following.reserve_nonneg
  unfold advance
  split
  · -- A picture, of two columns or of none.
    refine Int.add_nonneg hahead ?_
    dsimp only
    split <;> decide
  dsimp only
  have hnext :
      (if ahead.emojiStyle = true then ahead.withoutEmojiStyle else ahead).following.reserve ≤
        ahead.following.reserve :=
    reserve_ite_le (fun _ => ahead.reserve_withoutEmojiStyle_le) (Int.le_refl _)
  generalize (if ahead.emojiStyle = true then ahead.withoutEmojiStyle else ahead) = next at hnext ⊢
  split
  · -- The first Latin blocks, after which nothing joins.
    split
    · exact Int.add_nonneg hahead (by decide)
    split
    · exact Int.add_nonneg hahead (by decide)
    · exact Int.add_nonneg hahead (by decide)
  split
  · exact Int.le_trans (reserve_alone_le c) (Int.le_add_of_nonneg_left hahead)
  · exact Int.le_trans (reserve_advanceBefore_le c next) (Int.add_le_add_right hnext _)

/-! ## The width of a text -/

/-- **The reserve is covered all along a text.** -/
theorem reserve_le_foldWidth (text : List Char) :
    (foldWidth text).2.following.reserve ≤ (foldWidth text).1 := by
  induction text with
  | nil => exact Int.le_refl 0
  | cons c rest ih =>
    rw [foldWidth_cons]
    exact Int.le_trans (reserve_advance_le c _) (Int.add_le_add_right ih _)

/-- **The fold never ends below zero**, so the width of a text is what was folded. -/
theorem natCast_displayWidth (text : String) :
    (displayWidth text : Int) = (foldWidth text.toList).1 := by
  have hreserve := reserve_le_foldWidth text.toList
  exact Int.toNat_of_nonneg (Int.le_trans (Following.reserve_nonneg _) hreserve)

/-- **In front of steady characters, the widths of two texts add up.** -/
theorem displayWidth_append_of_steady (first : String) {second : String}
    (hsecond : SteadyText second) :
    displayWidth (first ++ second) = displayWidth first + displayWidth second := by
  have hplain : (foldWidth second.toList).2 = .plain := by rw [foldWidth_of_steady hsecond]
  have hadd := foldWidth_append_of_plain first.toList hplain
  rw [← String.toList_append] at hadd
  have hwidth : (displayWidth (first ++ second) : Int) =
      (displayWidth first : Int) + (displayWidth second : Int) := by
    rw [natCast_displayWidth, natCast_displayWidth, natCast_displayWidth, hadd]
  exact Int.ofNat_inj.1 hwidth

end SynthReport
