import SynthReport.Text.Fitted

/-! # Characters that keep their width

The width of a text is in general not the sum over its characters. It is one for the characters that
are drawn alike wherever they stand.

* **`IsSteady`** — such a character: in front of plain text it adds its own width, and plain text
  follows from it;
* **`displayWidth_of_steady`** — the width of a text of such characters is the sum over them;
* **`Fills`** — such a text with its width, which adds up side by side;
* **`isSteady_of_printable`**, **`isSteady_of_ideograph`** — printable ASCII and the unified
  ideographs are such characters. -/

namespace SynthReport

/-! ## Characters outside of a class -/

/-- A range of code points that meets no range of a class has no character of it. -/
theorem CodeClass.contains_eq_false {cls : CodeClass} {low high : Nat}
    (hclass : ∀ range ∈ cls, range.2 < low ∨ high < range.1) {c : Char} (hlow : low ≤ c.toNat)
    (hhigh : c.toNat ≤ high) : cls.contains c = false := by
  rw [contains]
  induction cls with
  | nil => rfl
  | cons range rest ih =>
    obtain ⟨first, last⟩ := range
    have hrest := ih fun r hr => hclass r (List.mem_cons_of_mem _ hr)
    rw [containsCode, hrest, Bool.or_false]
    rcases hclass _ List.mem_cons_self with h | h
    · have hlast : ¬ c.toNat ≤ last := by dsimp only at h; omega
      rw [decide_eq_false hlast, Bool.and_false]
    · have hfirst : ¬ first ≤ c.toNat := by dsimp only at h; omega
      rw [decide_eq_false hfirst, Bool.false_and]

/-! ## Sums of widths -/

/-- **The columns of a text, character by character.** -/
def columns : List Char → Nat
  | [] => 0
  | c :: rest => charWidth c + columns rest

@[simp] theorem columns_nil : columns [] = 0 := rfl

@[simp] theorem columns_cons (c : Char) (rest : List Char) :
    columns (c :: rest) = charWidth c + columns rest := rfl

@[simp] theorem columns_append (first second : List Char) :
    columns (first ++ second) = columns first + columns second := by
  induction first with
  | nil => rw [List.nil_append, columns_nil, Nat.zero_add]
  | cons c rest ih => rw [List.cons_append, columns_cons, columns_cons, ih, Nat.add_assoc]

/-- The same character again and again. -/
@[simp] theorem columns_replicate (n : Nat) (c : Char) :
    columns (List.replicate n c) = n * charWidth c := by
  induction n with
  | zero => rw [List.replicate_zero, columns_nil, Nat.zero_mul]
  | succ n ih => rw [List.replicate_succ, columns_cons, ih, Nat.succ_mul, Nat.add_comm]

/-- What is counted while cutting is the sum over the characters that are kept. -/
theorem columns_takeColumns (room : Nat) (text : List Char) :
    columns (takeColumns room text).1 = (takeColumns room text).2 := by
  induction text generalizing room with
  | nil => rfl
  | cons c rest ih =>
    unfold takeColumns
    dsimp only
    split
    · rw [columns_cons, ih]
    · rfl

/-! ## Steady characters -/

/-- **A character that is drawn alike wherever it stands.** In front of plain text it adds its own
width, and what it makes of the text is plain again. -/
def IsSteady (c : Char) : Prop := advance c .plain = ((charWidth c : Int), .plain)

instance (c : Char) : Decidable (IsSteady c) := inferInstanceAs (Decidable (_ = _))

/-- A text of steady characters is plain, and its width is the sum over them. -/
theorem foldWidth_of_steady {text : List Char} (h : ∀ c ∈ text, IsSteady c) :
    foldWidth text = ((columns text : Int), .plain) := by
  induction text with
  | nil => rfl
  | cons c rest ih =>
    have hc : IsSteady c := h c List.mem_cons_self
    have hrest := ih fun d hd => h d (List.mem_cons_of_mem c hd)
    rw [foldWidth, List.foldr_cons, ← foldWidth, hrest]
    dsimp only
    rw [hc, columns_cons, Nat.add_comm, Int.natCast_add]

/-- **A text of steady characters.** -/
def SteadyText (text : String) : Prop := ∀ c ∈ text.toList, IsSteady c

instance (text : String) : Decidable (SteadyText text) :=
  List.decidableBAll IsSteady text.toList

/-- **The width of a text of steady characters** is the sum over them. -/
theorem displayWidth_of_steady {text : String} (h : SteadyText text) :
    displayWidth text = columns text.toList := by
  rw [displayWidth, foldWidth_of_steady h]
  rfl

/-- A line feed is not steady, since a carriage return in front of it has no width. -/
theorem SteadyText.lineFeed_notMem {text : String} (h : SteadyText text) :
    '\n' ∉ text.toList := by
  intro hfeed
  exact absurd (h _ hfeed) (by decide)

/-- **A text of steady characters that fills so many columns.** -/
structure Fills (text : String) (width : Nat) : Prop where
  steady : SteadyText text
  width_eq : displayWidth text = width

instance (text : String) (width : Nat) : Decidable (Fills text width) :=
  decidable_of_iff (SteadyText text ∧ displayWidth text = width)
    ⟨fun h => ⟨h.1, h.2⟩, fun h => ⟨h.steady, h.width_eq⟩⟩

/-- **Side by side, texts of steady characters fill the sum of their widths.** -/
theorem Fills.append {first second : String} {m n : Nat} (hfirst : Fills first m)
    (hsecond : Fills second n) : Fills (first ++ second) (m + n) := by
  have hsteady : SteadyText (first ++ second) := by
    intro c hc
    rw [String.toList_append] at hc
    exact (List.mem_append.1 hc).elim (hfirst.steady c) (hsecond.steady c)
  refine ⟨hsteady, ?_⟩
  rw [displayWidth_of_steady hsteady, String.toList_append, columns_append,
    ← displayWidth_of_steady hfirst.steady, ← displayWidth_of_steady hsecond.steady,
    hfirst.width_eq, hsecond.width_eq]

/-- A steady character of one column again and again. -/
theorem fills_replicate {c : Char} (h : IsSteady c) (hone : charWidth c = 1) (n : Nat) :
    Fills (String.ofList (List.replicate n c)) n := by
  have hsteady : SteadyText (String.ofList (List.replicate n c)) := by
    intro d hd
    rw [String.toList_ofList] at hd
    rwa [List.eq_of_mem_replicate hd]
  refine ⟨hsteady, ?_⟩
  rw [displayWidth_of_steady hsteady, String.toList_ofList, columns_replicate, hone, Nat.mul_one]

/-! ## Which characters are steady -/

/-- Printable ASCII. -/
def IsPrintable (c : Char) : Prop := 0x20 ≤ c.toNat ∧ c.toNat ≤ 0x7E

instance (c : Char) : Decidable (IsPrintable c) := inferInstanceAs (Decidable (_ ∧ _))

/-- The unified ideographs. -/
def IsIdeograph (c : Char) : Prop := 0x4E00 ≤ c.toNat ∧ c.toNat ≤ 0x9FFF

instance (c : Char) : Decidable (IsIdeograph c) := inferInstanceAs (Decidable (_ ∧ _))

/-- **Printable ASCII is steady.** -/
theorem isSteady_of_printable {c : Char} (h : IsPrintable c) : IsSteady c := by
  obtain ⟨hlow, hhigh⟩ := h
  have hfeed : c ≠ '\n' := by
    rintro rfl
    exact absurd hlow (by decide)
  have hreturn : c ≠ '\r' := by
    rintro rfl
    exact absurd hlow (by decide)
  have hwidth : charWidth c = 1 := by rw [charWidth, if_pos (by omega)]
  rw [IsSteady, advance, hwidth]
  simp only [Ahead.plain, Bool.false_eq_true, false_and, if_false, hfeed, hreturn]
  rw [if_pos (by omega)]
  rfl

/-- An ideograph alone is followed by plain text: it is no part of a picture or of a ligature. -/
theorem alone_of_ideograph {c : Char} (h : IsIdeograph c) : alone c = (charWidth c, .plain) := by
  obtain ⟨hlow, hhigh⟩ := h
  have hpicture : emojiPresentationClass.contains c = false :=
    CodeClass.contains_eq_false (by decide) hlow hhigh
  have halef : alefClass.contains c = false :=
    CodeClass.contains_eq_false (by decide) hlow hhigh
  have hcoeng : coengLetterClass.contains c = false :=
    CodeClass.contains_eq_false (by decide) hlow hhigh
  have hregional : isRegional c = false := by
    simp only [isRegional, Bool.and_eq_false_iff, decide_eq_false_iff_not]
    omega
  have hmodifier : isModifier c = false := by
    simp only [isModifier, Bool.and_eq_false_iff, decide_eq_false_iff_not]
    omega
  have hconsonant : isTifinaghConsonant c = false := by
    simp only [isTifinaghConsonant, Bool.or_eq_false_iff, Bool.and_eq_false_iff,
      decide_eq_false_iff_not, beq_eq_false_iff_ne]
    omega
  rw [alone]
  simp only [hpicture, halef, hcoeng, hregional, hmodifier, hconsonant, Bool.false_eq_true,
    if_false]
  -- What is left are single code points, none of them among the ideographs.
  rw [if_neg (by omega), if_neg (by omega), if_neg (by omega), if_neg (by omega), if_neg (by omega),
    if_neg (by omega)]

/-- **The unified ideographs are steady.** -/
theorem isSteady_of_ideograph {c : Char} (h : IsIdeograph c) : IsSteady c := by
  have halone := alone_of_ideograph h
  obtain ⟨hlow, hhigh⟩ := h
  rw [IsSteady, advance, if_neg (by simp [Ahead.plain])]
  rw [show (if Ahead.plain.emojiStyle = true then Ahead.plain.withoutEmojiStyle else Ahead.plain) =
    Ahead.plain from rfl]
  dsimp only
  rw [if_neg (by omega), if_pos rfl, halone]

end SynthReport
