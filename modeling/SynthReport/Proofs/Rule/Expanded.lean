import Mathlib.Data.List.Dedup
import SynthReport.Proofs.Rule.Condensed

/-! # Condensed lists expanded again

A condensed list says as much as the list it was made from: written out again, its lines are the
rules of that list, each of them once.

* **`Line.rules`** — the rules that a line stands for;
* **`Settles`** — what one line of the pass does: it stands for new rules, and settles just these;
* **`rules_condense_perm`** — the lines of a condensed list stand for every rule exactly once;
* **`OccursAtMostOnce`** — a pattern has no two occurrences in a text;
* **`occurrence_of_append_cons`** — an occurrence does not reach over a character that the pattern
  does not have, so the sign of a line is found where it was written;
* **`expandedLine`** — the rules of a line, read off its text;
* **`condensedText_expands`** — condensing loses and invents nothing. -/

namespace SynthReport.Rule

/-! ## The rules of lines -/

namespace Line

/-- **The rules that a line stands for**: its own, and in a line that goes both ways the reverse. -/
def rules : Line → List Rule
  | oneWay rule => [rule]
  | bothWays rule => [rule, rule.reverse]

@[simp] theorem rules_oneWay (rule : Rule) : (oneWay rule).rules = [rule] := rfl

@[simp] theorem rules_bothWays (rule : Rule) :
    (bothWays rule).rules = [rule, rule.reverse] := rfl

end Line

/-- **What a line settles** that is written for a rule of a list: it stands for that rule and for
listed rules only, none of them was settled before, and they are settled for the rest. -/
structure Settles (listed settled : List Rule) (rule : Rule) (line : Line)
    (settled' : List Rule) : Prop where
  mem_rules : rule ∈ line.rules
  nodup : line.rules.Nodup
  notMem : ∀ other ∈ line.rules, other ∉ settled
  listed : ∀ other ∈ line.rules, other = rule ∨ other ∈ listed
  mem_iff : ∀ other, other ∈ settled' ↔ other ∈ line.rules ∨ other ∈ settled

section Pass

variable {listed settled rules : List Rule} {rule : Rule}

/-- **A rule that is not settled has a line**, which settles what it stands for. -/
theorem exists_settles (listed rest : List Rule) (h : rule ∉ settled) :
    ∃ line settled', Settles listed settled rule line settled' ∧
      condenseFrom listed settled (rule :: rest) = line :: condenseFrom listed settled' rest := by
  rw [condenseFrom, if_neg h]
  split
  · rename_i hboth
    have hne : rule ≠ rule.reverse := by
      intro heq
      exact hboth.1 (congrArg Rule.lhs heq)
    refine ⟨.bothWays rule, _, ⟨?_, ?_, ?_, ?_, ?_⟩, rfl⟩
    · simp
    · simpa using hne
    · simpa using ⟨h, hboth.2.2⟩
    · simp [hboth.2.1]
    · intro other
      simp [or_assoc, or_left_comm]
  · refine ⟨.oneWay rule, _, ⟨?_, ?_, ?_, ?_, ?_⟩, rfl⟩
    · simp
    · simp
    · simpa using h
    · simp
    · simp

/-- A settled rule has no line of its own. -/
theorem condenseFrom_cons_of_mem (listed rest : List Rule) (h : rule ∈ settled) :
    condenseFrom listed settled (rule :: rest) = condenseFrom listed settled rest := by
  rw [condenseFrom, if_pos h]

/-- **No line stands for a settled rule.** -/
theorem notMem_settled {other : Rule}
    (h : other ∈ (condenseFrom listed settled rules).flatMap Line.rules) : other ∉ settled := by
  induction rules generalizing settled with
  | nil => cases h
  | cons rule rest ih =>
    by_cases hrule : rule ∈ settled
    · rw [condenseFrom_cons_of_mem listed rest hrule] at h
      exact ih h
    · obtain ⟨line, settled', hsettles, hlines⟩ := exists_settles listed rest hrule
      rw [hlines, List.flatMap_cons] at h
      rcases List.mem_append.1 h with h | h
      · exact hsettles.notMem other h
      · intro hother
        exact ih h ((hsettles.mem_iff other).2 (Or.inr hother))

/-- **No two lines stand for the same rule**, and no line for one rule twice. -/
theorem nodup_rules_condenseFrom (listed settled rules : List Rule) :
    ((condenseFrom listed settled rules).flatMap Line.rules).Nodup := by
  induction rules generalizing settled with
  | nil => exact List.nodup_nil
  | cons rule rest ih =>
    by_cases hrule : rule ∈ settled
    · rw [condenseFrom_cons_of_mem listed rest hrule]
      exact ih settled
    · obtain ⟨line, settled', hsettles, hlines⟩ := exists_settles listed rest hrule
      rw [hlines, List.flatMap_cons, List.nodup_append']
      refine ⟨hsettles.nodup, ih settled', ?_⟩
      intro other hline hrest
      exact notMem_settled hrest ((hsettles.mem_iff other).2 (Or.inl hline))

/-- **No rule is lost**: it was settled, or some line stands for it. -/
theorem mem_settled_or {other : Rule} (h : other ∈ rules) :
    other ∈ settled ∨ other ∈ (condenseFrom listed settled rules).flatMap Line.rules := by
  induction rules generalizing settled with
  | nil => cases h
  | cons rule rest ih =>
    by_cases hrule : rule ∈ settled
    · rw [condenseFrom_cons_of_mem listed rest hrule]
      rcases List.mem_cons.1 h with rfl | h
      · exact Or.inl hrule
      · exact ih h
    · obtain ⟨line, settled', hsettles, hlines⟩ := exists_settles listed rest hrule
      rw [hlines, List.flatMap_cons, List.mem_append]
      rcases List.mem_cons.1 h with rfl | h
      · exact Or.inr (Or.inl hsettles.mem_rules)
      · have hrest : other ∈ settled' ∨
            other ∈ (condenseFrom listed settled' rest).flatMap Line.rules := ih h
        rcases hrest with hother | hother
        · rcases (hsettles.mem_iff other).1 hother with hline | hother
          · exact Or.inr (Or.inl hline)
          · exact Or.inl hother
        · exact Or.inr (Or.inr hother)

/-- **Lines stand for listed rules only.** -/
theorem mem_listed_of_mem_condenseFrom (hlisted : ∀ rule ∈ rules, rule ∈ listed) {line : Line}
    (h : line ∈ condenseFrom listed settled rules) : ∀ other ∈ line.rules, other ∈ listed := by
  induction rules generalizing settled with
  | nil => cases h
  | cons rule rest ih =>
    obtain ⟨hfirst, hrest⟩ := List.forall_mem_cons.1 hlisted
    by_cases hrule : rule ∈ settled
    · rw [condenseFrom_cons_of_mem listed rest hrule] at h
      exact ih hrest h
    · obtain ⟨first, settled', hsettles, hlines⟩ := exists_settles listed rest hrule
      rw [hlines] at h
      rcases List.mem_cons.1 h with rfl | h
      · intro other hother
        rcases hsettles.listed other hother with rfl | hother
        · exact hfirst
        · exact hother
      · exact ih hrest h

end Pass

/-- **The lines of a condensed list stand for every rule exactly once**, and for no others. -/
theorem rules_condense_perm (rules : List Rule) :
    ((condense rules).flatMap Line.rules).Perm rules.dedup := by
  rw [condense,
    List.perm_ext_iff_of_nodup (nodup_rules_condenseFrom rules [] rules) rules.nodup_dedup]
  intro rule
  rw [List.mem_dedup]
  constructor
  · intro h
    obtain ⟨line, hline, hrule⟩ := List.mem_flatMap.1 h
    exact mem_listed_of_mem_condenseFrom (fun _ => id) hline rule hrule
  · intro h
    exact (mem_settled_or h).resolve_left List.not_mem_nil

/-! ## Occurrences -/

/-- **A pattern has no two occurrences in a text.** -/
def OccursAtMostOnce (pattern text : List Char) : Prop :=
  ∀ before after front back, text = before ++ pattern ++ after → text = front ++ pattern ++ back →
    before = front ∧ after = back

section Occurrences

variable {pattern before after front back : List Char} {c : Char}

/-- **An occurrence does not reach over a character that the pattern does not have**: it lies in
front of it, or behind it. -/
theorem occurrence_of_append_cons (hc : c ∉ pattern)
    (h : before ++ c :: after = front ++ pattern ++ back) :
    (∃ rest, before = front ++ pattern ++ rest ∧ back = rest ++ c :: after) ∨
      ∃ rest, front = before ++ c :: rest ∧ after = rest ++ pattern ++ back := by
  rcases List.append_eq_append_iff.1 h with ⟨rest, hfront, hrest⟩ | ⟨rest, hbefore, hback⟩
  · cases rest with
    | nil => exact Or.inl ⟨[], by simpa using hfront.symm, hrest.symm⟩
    | cons d rest =>
      obtain ⟨rfl, rfl⟩ := List.cons_eq_cons.1 hrest
      -- The character stands in front of the end of the occurrence, so in front of all of it.
      rcases List.append_eq_append_iff.1 hfront with ⟨middle, -, hend⟩ | ⟨middle, hmiddle, hrest⟩
      · exact absurd (hend ▸ List.mem_append_right middle List.mem_cons_self) hc
      · cases middle with
        | nil =>
          rw [List.nil_append] at hrest
          exact absurd (hrest ▸ List.mem_cons_self) hc
        | cons e middle =>
          obtain ⟨rfl, rfl⟩ := List.cons_eq_cons.1 hrest
          exact Or.inr ⟨middle, hmiddle, rfl⟩
  · exact Or.inl ⟨rest, hbefore, hback⟩

/-- **A pattern between two characters that it does not have** occurs there and nowhere else, if the
parts around them are free of it. -/
theorem occurrence_unique (hc : c ∉ pattern) (hbefore : ¬ pattern <:+: before)
    (hafter : ¬ pattern <:+: after)
    (h : before ++ c :: (pattern ++ c :: after) = front ++ pattern ++ back) :
    front = before ++ [c] ∧ back = c :: after := by
  rcases occurrence_of_append_cons hc h with ⟨rest, hrest, -⟩ | ⟨middle, rfl, hmiddle⟩
  · exact absurd ⟨front, rest, hrest.symm⟩ hbefore
  · rcases occurrence_of_append_cons hc hmiddle with ⟨rest, hwhole, rfl⟩ | ⟨rest, -, hrest⟩
    · -- The pattern as a part of itself leaves nothing around it.
      have hlength := congrArg List.length hwhole
      rw [List.length_append, List.length_append] at hlength
      obtain rfl : middle = [] := List.length_eq_zero_iff.1 (by omega)
      obtain rfl : rest = [] := List.length_eq_zero_iff.1 (by omega)
      exact ⟨rfl, rfl⟩
    · exact absurd ⟨rest, back, hrest.symm⟩ hafter

end Occurrences

/-! ## Lines as texts -/

/-- A rule as text. -/
def text (rule : Rule) : String := rule.lhs ++ arrow ++ rule.rhs

/-- The sign between the sides of a line that goes both ways. -/
def bothSign : String := "<=>"

/-- **The sign of lines that go both ways occurs in the text.** -/
def HasBothSign (text : String) : Prop := bothSign.toList <:+: text.toList

instance (text : String) : Decidable (HasBothSign text) :=
  inferInstanceAs (Decidable (_ <:+: _))

/-- **The rules of a line, read off its text**: both directions of a line that goes both ways, and
else the line itself. -/
def expandedLine (line : String) : List String :=
  match splitFirst? " <=> ".toList line.toList with
  | some (lhs, rhs) =>
    [text ⟨String.ofList lhs, String.ofList rhs⟩, text ⟨String.ofList rhs, String.ofList lhs⟩]
  | none => [line]

section Lines

variable {rule : Rule}

/-- The sides of a rule without the sign do not have it either. -/
theorem not_infix_of_not_hasBothSign (h : ¬ HasBothSign rule.text) :
    ¬ bothSign.toList <:+: rule.lhs.toList ∧ ¬ bothSign.toList <:+: rule.rhs.toList := by
  rw [HasBothSign, text, String.toList_append, String.toList_append] at h
  constructor
  · intro hlhs
    refine h (hlhs.trans ?_)
    rw [List.append_assoc]
    exact (List.prefix_append _ _).isInfix
  · intro hrhs
    exact h (hrhs.trans (List.suffix_append _ _).isInfix)

/-- **The sign of a line that goes both ways** occurs between its sides and nowhere else. -/
theorem bothSign_unique (h : ¬ HasBothSign rule.text) {front back : List Char}
    (htext : (Line.bothWays rule).text.toList = front ++ bothSign.toList ++ back) :
    front = rule.lhs.toList ++ [' '] ∧ back = ' ' :: rule.rhs.toList := by
  obtain ⟨hlhs, hrhs⟩ := not_infix_of_not_hasBothSign h
  refine occurrence_unique (by decide) hlhs hrhs ?_
  rw [← htext, Line.text, String.toList_append, String.toList_append]
  simp [bothSign]

/-- **A line that goes both ways is expanded to both rules.** -/
theorem expandedLine_bothWays (h : ¬ HasBothSign rule.text) :
    expandedLine (Line.bothWays rule).text = [rule.text, rule.reverse.text] := by
  have hsplit : splitFirst? " <=> ".toList (Line.bothWays rule).text.toList =
      some (rule.lhs.toList, rule.rhs.toList) := by
    rw [splitFirst?_eq_some_iff]
    refine ⟨?_, ?_⟩
    · rw [Line.text, String.toList_append, String.toList_append]
    · intro front back htext
      have hsign : (Line.bothWays rule).text.toList =
          (front ++ [' ']) ++ bothSign.toList ++ ' ' :: back := by
        rw [htext]
        simp [bothSign]
      have hfront := (bothSign_unique h hsign).1
      exact Nat.le_of_eq (congrArg List.length (List.append_cancel_right hfront).symm)
  rw [expandedLine, hsplit]
  simp [reverse]

/-- **A line of one rule is expanded to itself.** -/
theorem expandedLine_oneWay {line : String} (h : ¬ HasBothSign line) :
    expandedLine line = [line] := by
  have hnone : splitFirst? " <=> ".toList line.toList = none := by
    rw [splitFirst?_eq_none_iff]
    intro hinfix
    exact h (List.IsInfix.trans (by decide) hinfix)
  rw [expandedLine, hnone]

/-- **A line of signless rules has its sign at most once.** -/
theorem occursAtMostOnce_bothSign {line : Line}
    (h : ∀ rule ∈ line.rules, ¬ HasBothSign rule.text) :
    OccursAtMostOnce bothSign.toList line.text.toList := by
  intro before after front back hbefore hfront
  cases line with
  | oneWay rule => exact absurd ⟨before, after, hbefore.symm⟩ (h rule (by simp))
  | bothWays rule =>
    obtain ⟨rfl, rfl⟩ := bothSign_unique (h rule (by simp)) hbefore
    obtain ⟨rfl, rfl⟩ := bothSign_unique (h rule (by simp)) hfront
    exact ⟨rfl, rfl⟩

/-- **The text of a line expands to the rules that it stands for.** -/
theorem expandedLine_text {line : Line} (h : ∀ rule ∈ line.rules, ¬ HasBothSign rule.text) :
    expandedLine line.text = line.rules.map text := by
  cases line with
  | oneWay rule => exact expandedLine_oneWay (h rule (by simp))
  | bothWays rule => exact expandedLine_bothWays (h rule (by simp))

end Lines

/-! ## Lists of texts -/

/-- Texts that stand for rules are the texts of these rules. -/
theorem map_text_of_standsFor {texts : List String} {rules : List Rule}
    (h : List.Forall₂ StandsFor texts rules) : rules.map text = texts := by
  induction h with
  | nil => rfl
  | cons htext _ ih => rw [List.map_cons, ih, ← htext.text_oneWay]; rfl

/-- A rule that is read from a text is read from its own text. -/
theorem standsFor_text_of_mem {texts : List String} {rules : List Rule}
    (h : List.Forall₂ StandsFor texts rules) : ∀ rule ∈ rules, StandsFor rule.text rule := by
  intro rule hrule
  induction h with
  | nil => cases hrule
  | @cons text first texts rules htext _ ih =>
    rcases List.mem_cons.1 hrule with rfl | hrule
    · have heq : rule.text = text := htext.text_oneWay
      rwa [heq]
    · exact ih hrule

/-- Rules that are read from their texts have different texts. -/
theorem eq_of_text_eq {rule other : Rule} (hrule : StandsFor rule.text rule)
    (hother : StandsFor other.text other) (h : rule.text = other.text) : rule = other := by
  rw [h] at hrule
  obtain ⟨hlhs, hrhs⟩ := hrule.unique hother
  cases rule
  cases other
  simp_all [String.toList_inj]

/-- **The distinct texts are the texts of the distinct rules.** -/
theorem map_text_dedup_perm {rules : List Rule} (h : ∀ rule ∈ rules, StandsFor rule.text rule) :
    (rules.dedup.map text).Perm (rules.map text).dedup := by
  have hnodup : (rules.dedup.map text).Nodup := by
    refine rules.nodup_dedup.map_on ?_
    intro rule hrule other hother
    exact eq_of_text_eq (h rule (List.mem_dedup.1 hrule)) (h other (List.mem_dedup.1 hother))
  rw [List.perm_ext_iff_of_nodup hnodup (List.nodup_dedup _)]
  intro line
  simp only [List.mem_map, List.mem_dedup]

/-- Lists whose parts are not empty have no more elements than their parts together. -/
theorem length_le_length_flatMap {α β : Type} {f : α → List β} {l : List α}
    (h : ∀ a ∈ l, f a ≠ []) : l.length ≤ (l.flatMap f).length := by
  induction l with
  | nil => exact Nat.zero_le _
  | cons a rest ih =>
    obtain ⟨ha, hrest⟩ := List.forall_mem_cons.1 h
    have hpos := List.length_pos_of_ne_nil ha
    have hle := ih hrest
    rw [List.flatMap_cons, List.length_append, List.length_cons]
    omega

/-- A list whose parts are not empty repeats nothing if the parts together do not. -/
theorem nodup_of_nodup_flatMap {α β : Type} {f : α → List β} {l : List α}
    (h : ∀ a ∈ l, f a ≠ []) (hnodup : (l.flatMap f).Nodup) : l.Nodup := by
  refine (List.nodup_flatMap.1 hnodup).2.imp_of_mem ?_
  intro a b ha _ hdisjoint
  rintro rfl
  obtain ⟨b, hb⟩ := List.exists_mem_of_ne_nil _ (h a ha)
  exact hdisjoint hb hb

/-- **Condensing loses and invents nothing.** A list of texts that all have an arrow, and none of
which has the sign of lines that go both ways, is condensed to distinct lines, no more than there
are distinct texts. No line has the sign twice, and written out as one rule or as both directions
the lines are the distinct texts, each of them once. -/
theorem condensedText_expands {texts : List String} (harrows : ∀ text ∈ texts, HasArrow text)
    (hsigns : ∀ text ∈ texts, ¬ HasBothSign text) :
    ∃ lines, condensedText texts = .ok lines ∧
      lines.Nodup ∧ lines.length ≤ texts.dedup.length ∧
      (∀ line ∈ lines, OccursAtMostOnce bothSign.toList line.toList) ∧
      (lines.flatMap expandedLine).Perm texts.dedup := by
  obtain ⟨rules, hrules⟩ :=
    exists_mapM_eq_ok_iff.2 fun text htext => exists_parse_iff.2 (harrows text htext)
  have htexts := mapM_parse_eq_ok_iff.1 hrules
  have hmap := map_text_of_standsFor htexts
  -- The rules of a line are listed, so they do not have the sign.
  have hsignless : ∀ line ∈ condense rules, ∀ rule ∈ line.rules, ¬ HasBothSign rule.text := by
    intro line hline rule hrule
    have hlisted := mem_listed_of_mem_condenseFrom (fun _ => id) hline rule hrule
    exact hsigns _ (hmap ▸ List.mem_map_of_mem hlisted)
  have hexpanded : ((condense rules).map Line.text).flatMap expandedLine =
      ((condense rules).flatMap Line.rules).map text := by
    rw [List.flatMap_map, List.map_flatMap]
    exact List.flatMap_congr fun line hline => expandedLine_text (hsignless line hline)
  have hperm : (((condense rules).map Line.text).flatMap expandedLine).Perm texts.dedup := by
    rw [hexpanded, ← hmap]
    exact ((rules_condense_perm rules).map text).trans
      (map_text_dedup_perm (standsFor_text_of_mem htexts))
  have hne : ∀ line ∈ (condense rules).map Line.text, expandedLine line ≠ [] := by
    intro line _
    rw [expandedLine]
    split <;> exact List.cons_ne_nil _ _
  refine ⟨(condense rules).map Line.text, ?_, ?_, ?_, ?_, hperm⟩
  · rw [condensedText, hrules]
    rfl
  · exact nodup_of_nodup_flatMap hne (hperm.nodup_iff.2 (List.nodup_dedup texts))
  · exact hperm.length_eq ▸ length_le_length_flatMap hne
  · intro text htext
    obtain ⟨line, hline, rfl⟩ := List.mem_map.1 htext
    exact occursAtMostOnce_bothSign (hsignless line hline)

/-- A rule and its reverse with repetitions, a rule that is its own reverse, a side that is empty,
and one in which a second arrow begins where the first one ends. -/
def sampleRules : List String :=
  ["y ==> x", "a ==> a", " ==> ?b", "x ==> y", "u ==> ==> v", "y ==> x", "==> v ==> u"]

/-- The sample is condensed and can be expanded again. -/
theorem condensedText_expands_of_sampleRules :
    (∀ text ∈ sampleRules, HasArrow text) ∧ (∀ text ∈ sampleRules, ¬ HasBothSign text) ∧
      ∃ lines, condensedText sampleRules = .ok lines ∧
        lines.Nodup ∧ lines.length ≤ sampleRules.dedup.length ∧
        (∀ line ∈ lines, OccursAtMostOnce bothSign.toList line.toList) ∧
        (lines.flatMap expandedLine).Perm sampleRules.dedup := by
  have harrows : ∀ text ∈ sampleRules, HasArrow text := by decide +kernel
  have hsigns : ∀ text ∈ sampleRules, ¬ HasBothSign text := by decide +kernel
  exact ⟨harrows, hsigns, condensedText_expands harrows hsigns⟩

end SynthReport.Rule
