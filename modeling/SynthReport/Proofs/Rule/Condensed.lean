import Mathlib.Data.List.Forall2
import SynthReport.Proofs.Rule.Arrows

/-! # Condensed lists by position

Condensing goes through a list of rules once and remembers which of them earlier lines have settled.
What it gives can be told from positions alone, without that memory: a position has a line unless
its rule or the reverse of it stands earlier.

* **`SplitsFirst`** — the parts of a text around the first occurrence of a separator;
* **`StandsFor`** — the rule that a text stands for, split at its first arrow;
* **`IsNew`**, **`IsPaired`** — which positions have a line, and which lines go both ways;
* **`linesByPosition`** — the lines of a list, position by position;
* **`Remembers`** — the invariant of the pass: which rules are settled after some others;
* **`condensedText_eq_linesByPosition`** — condensed text is the lines by position, or else the first
  text without an arrow is the failure. -/

namespace SynthReport.Rule

/-! ## Texts and their rules -/

/-- **The parts of a text around the first occurrence of a separator**: no occurrence starts
further to the left. -/
structure SplitsFirst (separator text before after : List Char) : Prop where
  eq_append : text = before ++ separator ++ after
  length_le : ∀ front back, text = front ++ separator ++ back → before.length ≤ front.length

/-- There is at most one such pair of parts. -/
theorem SplitsFirst.unique {separator text before after front back : List Char}
    (h : SplitsFirst separator text before after) (h' : SplitsFirst separator text front back) :
    before = front ∧ after = back := by
  have hlength : before.length = front.length :=
    Nat.le_antisymm (h.length_le front back h'.eq_append) (h'.length_le before after h.eq_append)
  have heq : before ++ (separator ++ after) = front ++ (separator ++ back) := by
    rw [← List.append_assoc, ← List.append_assoc, ← h.eq_append, h'.eq_append]
  obtain ⟨hfront, hback⟩ := List.append_inj heq hlength
  exact ⟨hfront, List.append_cancel_left hback⟩

/-- The search finds the first occurrence. -/
theorem splitsFirst_of_splitFirst? {separator text before after : List Char}
    (h : splitFirst? separator text = some (before, after)) :
    SplitsFirst separator text before after := by
  refine ⟨eq_append_of_splitFirst? h, ?_⟩
  induction text generalizing before with
  | nil =>
    have hnil := eq_append_of_splitFirst? h
    intro front back _
    simp_all
  | cons c rest ih =>
    rw [splitFirst?] at h
    intro front back htext
    split at h
    · simp_all
    · rename_i hprefix
      obtain ⟨⟨first, last⟩, hsplit, heq⟩ := Option.map_eq_some_iff.1 h
      obtain ⟨rfl, rfl⟩ := Prod.mk.inj heq
      -- The separator is no prefix of the text, so every occurrence has the head in front of it.
      cases front with
      | nil =>
        refine absurd (List.isPrefixOf_iff_prefix.2 ?_) hprefix
        rw [htext, List.nil_append]
        exact List.prefix_append separator back
      | cons d front =>
        obtain ⟨rfl, hrest⟩ := List.cons_eq_cons.1 htext
        exact Nat.succ_le_succ (ih hsplit front back hrest)

/-- **The search finds exactly the first occurrence.** -/
theorem splitFirst?_eq_some_iff {separator text before after : List Char} :
    splitFirst? separator text = some (before, after) ↔
      SplitsFirst separator text before after := by
  constructor
  · exact splitsFirst_of_splitFirst?
  · intro h
    cases hsplit : splitFirst? separator text with
    | none =>
      rw [splitFirst?_eq_none_iff] at hsplit
      exact absurd ⟨before, after, h.eq_append.symm⟩ hsplit
    | some parts =>
      obtain ⟨hbefore, hafter⟩ := h.unique (splitsFirst_of_splitFirst? hsplit)
      rw [hbefore, hafter]

/-- **A text stands for a rule**: its sides are what is around the first arrow. -/
def StandsFor (text : String) (rule : Rule) : Prop :=
  SplitsFirst arrow.toList text.toList rule.lhs.toList rule.rhs.toList

/-- **A text is read as the rule it stands for.** -/
theorem parse_eq_ok_iff {text : String} {rule : Rule} :
    parse text = .ok rule ↔ StandsFor text rule := by
  rw [StandsFor, ← splitFirst?_eq_some_iff, parse]
  cases splitFirst? arrow.toList text.toList with
  | none => simp
  | some parts =>
    obtain ⟨before, after⟩ := parts
    simp only [Except.ok.injEq, Option.some.injEq, Prod.mk.injEq]
    constructor
    · rintro rfl
      simp
    · rintro ⟨rfl, rfl⟩
      simp

/-- A text is written like the rule it stands for. -/
theorem StandsFor.text_oneWay {text : String} {rule : Rule} (h : StandsFor text rule) :
    (Line.oneWay rule).text = text := by
  rw [← String.toList_inj, Line.text, String.toList_append, String.toList_append]
  exact h.eq_append.symm

/-- All texts are read if each of them stands for a rule. -/
theorem mapM_parse_eq_ok_iff {texts : List String} {rules : List Rule} :
    texts.mapM parse = .ok rules ↔ List.Forall₂ StandsFor texts rules := by
  induction texts generalizing rules with
  | nil => simp [pure, Except.pure, eq_comm]
  | cons text rest ih =>
    rw [mapM_cons_eq_ok_iff, List.forall₂_cons_left_iff]
    simp only [parse_eq_ok_iff, ih, exists_and_left]

/-! ## Positions that have a line -/

/-- **A rule is new after some others**: neither it nor its reverse, if that is another rule, is
among them. -/
def IsNew (earlier : List Rule) (rule : Rule) : Prop :=
  rule ∉ earlier ∧ (rule.lhs ≠ rule.rhs → rule.reverse ∉ earlier)

instance (earlier : List Rule) (rule : Rule) : Decidable (IsNew earlier rule) :=
  inferInstanceAs (Decidable (_ ∧ (_ → _)))

/-- **A rule is paired in a list** if its reverse is another rule of the list. -/
def IsPaired (listed : List Rule) (rule : Rule) : Prop :=
  rule.lhs ≠ rule.rhs ∧ rule.reverse ∈ listed

instance (listed : List Rule) (rule : Rule) : Decidable (IsPaired listed rule) :=
  inferInstanceAs (Decidable (_ ∧ _))

/-- The line of a text: both ways if its rule is paired, and else the text as it is. -/
def lineOf (listed : List Rule) (text : String) (rule : Rule) : String :=
  if IsPaired listed rule then rule.lhs ++ " <=> " ++ rule.rhs else text

/-- **The lines of a list by position**: one for each position whose rule is new after those at
earlier positions. -/
def linesByPosition (texts : List String) (rules : List Rule) : List String :=
  (texts.zip rules).zipIdx.filterMap fun ((text, rule), position) =>
    if IsNew (rules.take position) rule then some (lineOf rules text rule) else none

/-! ## What the pass remembers -/

/-- A rule is the reverse of another one exactly if that is the reverse of it. -/
theorem reverse_eq_iff {rule other : Rule} : rule.reverse = other ↔ rule = other.reverse := by
  constructor
  · rintro rfl
    rfl
  · rintro rfl
    rfl

/-- One more rule pairs its reverse, if that is another rule. -/
theorem isPaired_append_singleton_iff {earlier : List Rule} {rule other : Rule} :
    IsPaired (earlier ++ [rule]) other ↔
      IsPaired earlier other ∨ rule.lhs ≠ rule.rhs ∧ other = rule.reverse := by
  rw [IsPaired, List.mem_append, List.mem_singleton, and_or_left, reverse_eq_iff]
  refine or_congr Iff.rfl (and_congr_left ?_)
  rintro rfl
  exact ne_comm

/-- **What is remembered after some rules**: exactly they are settled, and those reverses of them
that are other rules of the list. -/
def Remembers (listed earlier settled : List Rule) : Prop :=
  ∀ rule, rule ∈ settled ↔ rule ∈ earlier ∨ rule ∈ listed ∧ IsPaired earlier rule

/-- At the start nothing is settled. -/
theorem remembers_nil (listed : List Rule) : Remembers listed [] [] := by
  simp [Remembers, IsPaired]

section Remembers

variable {listed earlier settled : List Rule} {rule : Rule}

/-- A rule of the list is settled exactly if it is not new. -/
theorem Remembers.mem_iff (h : Remembers listed earlier settled) (hrule : rule ∈ listed) :
    rule ∈ settled ↔ ¬ IsNew earlier rule := by
  rw [h rule, IsNew, IsPaired, not_and_or, not_not, Classical.not_imp, not_not]
  simp only [hrule, true_and]

/-- The reverse of a new rule is not settled if it is another rule. -/
theorem Remembers.reverse_notMem (h : Remembers listed earlier settled) (hnew : IsNew earlier rule)
    (hne : rule.lhs ≠ rule.rhs) : rule.reverse ∉ settled := by
  rw [h rule.reverse, not_or]
  refine ⟨hnew.2 hne, ?_⟩
  rintro ⟨-, -, hrule⟩
  exact hnew.1 hrule

/-- After a rule that is settled the same is remembered. -/
theorem Remembers.of_mem (h : Remembers listed earlier settled) (hrule : rule ∈ settled) :
    Remembers listed (earlier ++ [rule]) settled := by
  intro other
  rw [isPaired_append_singleton_iff, List.mem_append, List.mem_singleton, h other]
  constructor
  · rintro (hearlier | ⟨hlisted, hpaired⟩)
    · exact Or.inl (Or.inl hearlier)
    · exact Or.inr ⟨hlisted, Or.inl hpaired⟩
  · rintro ((hearlier | rfl) | ⟨hlisted, hpaired | ⟨hne, rfl⟩⟩)
    · exact Or.inl hearlier
    · exact (h other).1 hrule
    · exact Or.inr ⟨hlisted, hpaired⟩
    · -- The reverse of a settled rule is settled as well.
      rcases (h rule).1 hrule with hearlier | ⟨-, -, hreverse⟩
      · exact Or.inr ⟨hlisted, hne.symm, hearlier⟩
      · exact Or.inl hreverse

/-- After a new rule that is paired both directions are remembered. -/
theorem Remembers.of_paired (h : Remembers listed earlier settled)
    (hpaired : IsPaired listed rule) :
    Remembers listed (earlier ++ [rule]) (rule.reverse :: rule :: settled) := by
  intro other
  rw [isPaired_append_singleton_iff, List.mem_append, List.mem_singleton, List.mem_cons,
    List.mem_cons, h other]
  constructor
  · rintro (rfl | rfl | hearlier | ⟨hlisted, hother⟩)
    · exact Or.inr ⟨hpaired.2, Or.inr ⟨hpaired.1, rfl⟩⟩
    · exact Or.inl (Or.inr rfl)
    · exact Or.inl (Or.inl hearlier)
    · exact Or.inr ⟨hlisted, Or.inl hother⟩
  · rintro ((hearlier | rfl) | ⟨hlisted, hother | ⟨-, rfl⟩⟩)
    · exact Or.inr (Or.inr (Or.inl hearlier))
    · exact Or.inr (Or.inl rfl)
    · exact Or.inr (Or.inr (Or.inr ⟨hlisted, hother⟩))
    · exact Or.inl rfl

/-- After another new rule only that rule is. -/
theorem Remembers.of_not_paired (h : Remembers listed earlier settled)
    (hpaired : ¬ IsPaired listed rule) :
    Remembers listed (earlier ++ [rule]) (rule :: settled) := by
  intro other
  rw [isPaired_append_singleton_iff, List.mem_append, List.mem_singleton, List.mem_cons, h other]
  constructor
  · rintro (rfl | hearlier | ⟨hlisted, hother⟩)
    · exact Or.inl (Or.inr rfl)
    · exact Or.inl (Or.inl hearlier)
    · exact Or.inr ⟨hlisted, Or.inl hother⟩
  · rintro ((hearlier | rfl) | ⟨hlisted, hother | ⟨hne, rfl⟩⟩)
    · exact Or.inr (Or.inl hearlier)
    · exact Or.inl rfl
    · exact Or.inr (Or.inr ⟨hlisted, hother⟩)
    · exact absurd ⟨hne, hlisted⟩ hpaired

end Remembers

/-! ## Lists -/

/-- **The pass gives the lines by position**, from any position on. -/
theorem condenseFrom_eq {listed earlier settled rules : List Rule} {texts : List String}
    (hremembers : Remembers listed earlier settled) (hlisted : listed = earlier ++ rules)
    (htexts : List.Forall₂ StandsFor texts rules) :
    (condenseFrom listed settled rules).map Line.text =
      ((texts.zip rules).zipIdx earlier.length).filterMap fun ((text, rule), position) =>
        if IsNew (listed.take position) rule then some (lineOf listed text rule) else none := by
  induction htexts generalizing earlier settled with
  | nil => rfl
  | @cons text rule texts rules htext _ ih =>
    have hrule : rule ∈ listed := by simp [hlisted]
    have htake : listed.take earlier.length = earlier := by rw [hlisted, List.take_left]
    have hrest : listed = (earlier ++ [rule]) ++ rules := by simp [hlisted]
    have hlength : earlier.length + 1 = (earlier ++ [rule]).length := by simp
    rw [List.zip_cons_cons, List.zipIdx_cons, List.filterMap_cons, condenseFrom]
    dsimp only
    rw [htake, hlength]
    by_cases hnew : IsNew earlier rule
    · have hsettled : rule ∉ settled := by
        rw [hremembers.mem_iff hrule]
        exact not_not_intro hnew
      rw [if_neg hsettled, if_pos hnew]
      by_cases hpaired : IsPaired listed rule
      · -- The reverse was not settled by an earlier line, so this one stands for both.
        have hreverse := hremembers.reverse_notMem hnew hpaired.1
        rw [if_pos ⟨hpaired.1, hpaired.2, hreverse⟩, List.map_cons,
          ih (hremembers.of_paired hpaired) hrest, lineOf, if_pos hpaired]
        rfl
      · rw [if_neg fun h => hpaired ⟨h.1, h.2.1⟩, List.map_cons,
          ih (hremembers.of_not_paired hpaired) hrest, lineOf, if_neg hpaired, htext.text_oneWay]
    · have hsettled : rule ∈ settled := (hremembers.mem_iff hrule).2 hnew
      rw [if_pos hsettled, if_neg hnew, ih (hremembers.of_mem hsettled) hrest]

/-- **Condensed text is the lines by position.** A text without an arrow, if there is one, makes the
list fail, and the first such text is what is reported. Else every text stands for a rule, split at
its first arrow, and the output has a line for each position whose rule is new after those at
earlier positions: one that goes both ways if the reverse is another rule of the list, and else the
text as it was given. -/
theorem condensedText_eq_linesByPosition (texts : List String) :
    match texts.find? (¬ HasArrow ·) with
    | some text => condensedText texts = .error (.malformedRule text)
    | none => ∃ rules, List.Forall₂ StandsFor texts rules ∧
        condensedText texts = .ok (linesByPosition texts rules) := by
  cases hfind : texts.find? (¬ HasArrow ·) with
  | some text =>
    have hfirst := find?_eq_some_iff_firstOf.1 hfind
    simp only [decide_eq_true_eq] at hfirst
    exact condensedText_eq_error_iff.2 ⟨text, hfirst, rfl⟩
  | none =>
    have harrows : ∀ text ∈ texts, ∃ rule, parse text = .ok rule := by
      intro text htext
      rw [exists_parse_iff]
      simpa using List.find?_eq_none.1 hfind text htext
    obtain ⟨rules, hrules⟩ := exists_mapM_eq_ok_iff.2 harrows
    have htexts := mapM_parse_eq_ok_iff.1 hrules
    refine ⟨rules, htexts, ?_⟩
    rw [condensedText, hrules, ok_bind, condense, condenseFrom_eq (remembers_nil rules) rfl htexts]
    rfl

/-- A reverse that stands earlier or later makes a line go both ways; a second arrow stays text. -/
example : condensedText ["y ==> x", "a ==> b ==> c", "x ==> y", "y ==> x"] =
    .ok ["y <=> x", "a ==> b ==> c"] := by decide +kernel

end SynthReport.Rule
