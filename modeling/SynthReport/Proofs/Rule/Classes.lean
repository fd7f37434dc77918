import Mathlib.Data.Finset.Dedup
import SynthReport.Proofs.Rule.Expanded

/-! # Condensing rules in another order

Which lines a condensed list has depends only on the rules that are listed. Their order decides
where a line stands, and which of its two sides comes first in a line that goes both ways.

* **`lineFor`** — the line that a rule has in a list if it comes first;
* **`IsClosed`** — what is settled with a rule of a pair is settled with the other one;
* **`eq_lineFor_of_mem_condense`** — every line is that of a listed rule;
* **`Line.covered`** — the rules of a line, in no order;
* **`oneWay_mem_condense_iff`**, **`bothWays_mem_condense_iff`** — which lines there are, by the rules
  that are listed;
* **`covered_condense_perm`** — lists with the same rules have the same lines, sides apart;
* **`condensedText_independent_of_order`** — the same for lists of texts. -/

namespace SynthReport.Rule

/-! ## The line of a rule -/

/-- **The line of a rule in a list**: both ways if the rule is paired there. -/
def lineFor (listed : List Rule) (rule : Rule) : Line :=
  if IsPaired listed rule then .bothWays rule else .oneWay rule

/-- **Pairs are settled together.** -/
def IsClosed (listed settled : List Rule) : Prop :=
  ∀ rule ∈ settled, IsPaired listed rule → rule.reverse ∈ settled

section Pass

variable {listed settled rules : List Rule} {rule : Rule}

/-- Nothing is settled at first. -/
theorem isClosed_nil (listed : List Rule) : IsClosed listed [] := nofun

/-- The other rule of a pair is paired as well. -/
theorem IsPaired.reverse (h : IsPaired listed rule) (hrule : rule ∈ listed) :
    IsPaired listed rule.reverse :=
  ⟨h.1.symm, hrule⟩

/-- Both rules of a pair are settled at once. -/
theorem IsClosed.pair (hclosed : IsClosed listed settled) :
    IsClosed listed (rule.reverse :: rule :: settled) := by
  intro other hother hpaired
  rcases List.mem_cons.1 hother with rfl | hother
  · simp
  rcases List.mem_cons.1 hother with rfl | hother
  · simp
  · simp [hclosed other hother hpaired]

/-- A rule without a partner is settled alone. -/
theorem IsClosed.single (hclosed : IsClosed listed settled) (hrule : ¬ IsPaired listed rule) :
    IsClosed listed (rule :: settled) := by
  intro other hother hpaired
  rcases List.mem_cons.1 hother with rfl | hother
  · exact absurd hpaired hrule
  · simp [hclosed other hother hpaired]

/-- **A rule that is not settled has its own line**, and what is settled then is closed again. -/
theorem exists_lineFor_cons (hclosed : IsClosed listed settled) (hlisted : rule ∈ listed)
    (hrule : rule ∉ settled) (rest : List Rule) :
    ∃ settled', IsClosed listed settled' ∧
      condenseFrom listed settled (rule :: rest) =
        lineFor listed rule :: condenseFrom listed settled' rest := by
  rw [condenseFrom, if_neg hrule, lineFor]
  by_cases hpaired : IsPaired listed rule
  · -- Were the other rule of the pair settled, this one would be settled with it.
    have hreverse : rule.reverse ∉ settled := by
      intro hreverse
      exact hrule (hclosed rule.reverse hreverse (hpaired.reverse hlisted))
    rw [if_pos hpaired, if_pos ⟨hpaired.1, hpaired.2, hreverse⟩]
    exact ⟨_, hclosed.pair, rfl⟩
  · rw [if_neg hpaired, if_neg fun h => hpaired ⟨h.1, h.2.1⟩]
    exact ⟨_, hclosed.single hpaired, rfl⟩

/-- The lines of a pass are lines of its rules. -/
theorem eq_lineFor_of_mem_condenseFrom (hclosed : IsClosed listed settled)
    (hlisted : ∀ rule ∈ rules, rule ∈ listed) {line : Line}
    (h : line ∈ condenseFrom listed settled rules) :
    ∃ rule ∈ rules, line = lineFor listed rule := by
  induction rules generalizing settled with
  | nil => cases h
  | cons rule rest ih =>
    obtain ⟨hrule, hrest⟩ := List.forall_mem_cons.1 hlisted
    by_cases hsettled : rule ∈ settled
    · rw [condenseFrom_cons_of_mem listed rest hsettled] at h
      obtain ⟨other, hother, hline⟩ := ih hclosed hrest h
      exact ⟨other, List.mem_cons_of_mem rule hother, hline⟩
    · obtain ⟨settled', hclosed', hlines⟩ := exists_lineFor_cons hclosed hrule hsettled rest
      rw [hlines] at h
      rcases List.mem_cons.1 h with rfl | h
      · exact ⟨rule, List.mem_cons_self, rfl⟩
      · obtain ⟨other, hother, hline⟩ := ih hclosed' hrest h
        exact ⟨other, List.mem_cons_of_mem rule hother, hline⟩

end Pass

/-- **Every line is that of a listed rule.** -/
theorem eq_lineFor_of_mem_condense {rules : List Rule} {line : Line} (h : line ∈ condense rules) :
    ∃ rule ∈ rules, line = lineFor rules rule :=
  eq_lineFor_of_mem_condenseFrom (isClosed_nil rules) (fun _ => id) h

/-! ## The rules of a line in no order -/

/-- **The rules that a line stands for, in no order.** -/
def Line.covered (line : Line) : Finset Rule := line.rules.toFinset

@[simp] theorem Line.mem_covered {line : Line} {rule : Rule} :
    rule ∈ line.covered ↔ rule ∈ line.rules :=
  List.mem_toFinset

section Lists

variable {rules others : List Rule} {rule : Rule}

/-- A line that stands for a rule covers the same rules as its own line. -/
theorem covered_lineFor_eq {other : Rule} (hother : other ∈ rules)
    (h : rule ∈ (lineFor rules other).rules) :
    (lineFor rules other).covered = (lineFor rules rule).covered := by
  by_cases hpaired : IsPaired rules other
  · have hreverse := hpaired.reverse hother
    rw [lineFor, if_pos hpaired, Line.rules_bothWays] at h
    rcases List.mem_cons.1 h with rfl | h
    · rfl
    · obtain rfl := List.mem_singleton.1 h
      ext member
      simp [lineFor, hpaired, hreverse, or_comm]
  · rw [lineFor, if_neg hpaired, Line.rules_oneWay] at h
    rw [List.mem_singleton.1 h]

/-- Every listed rule has a line that stands for it. -/
theorem exists_line_of_mem (h : rule ∈ rules) : ∃ line ∈ condense rules, rule ∈ line.rules := by
  have hlines : rule ∈ (condense rules).flatMap Line.rules :=
    (mem_settled_or h).resolve_left List.not_mem_nil
  exact List.mem_flatMap.1 hlines

/-- **What the lines cover** is what the own lines of the listed rules cover. -/
theorem mem_map_covered_iff {covered : Finset Rule} :
    covered ∈ (condense rules).map Line.covered ↔
      ∃ rule ∈ rules, covered = (lineFor rules rule).covered := by
  rw [List.mem_map]
  constructor
  · rintro ⟨line, hline, rfl⟩
    obtain ⟨rule, hrule, rfl⟩ := eq_lineFor_of_mem_condense hline
    exact ⟨rule, hrule, rfl⟩
  · rintro ⟨rule, hrule, rfl⟩
    obtain ⟨line, hline, hstands⟩ := exists_line_of_mem hrule
    obtain ⟨other, hother, rfl⟩ := eq_lineFor_of_mem_condense hline
    exact ⟨_, hline, covered_lineFor_eq hother hstands⟩

/-- No two lines cover the same rules. -/
theorem nodup_map_covered (rules : List Rule) : ((condense rules).map Line.covered).Nodup := by
  have hdisjoint := (List.nodup_flatMap.1 (nodup_rules_condenseFrom rules [] rules)).2
  rw [List.Nodup, List.pairwise_map]
  refine hdisjoint.imp ?_
  intro line other hlines hcovered
  obtain ⟨rule, hrule⟩ := List.exists_mem_of_ne_nil line.rules (by cases line <;> simp)
  have hother : rule ∈ other.covered := hcovered ▸ Line.mem_covered.2 hrule
  exact hlines hrule (Line.mem_covered.1 hother)

/-- **One-way lines are the rules without a partner.** -/
theorem oneWay_mem_condense_iff :
    .oneWay rule ∈ condense rules ↔ rule ∈ rules ∧ ¬ IsPaired rules rule := by
  constructor
  · intro h
    obtain ⟨other, hother, hline⟩ := eq_lineFor_of_mem_condense h
    rw [lineFor] at hline
    split at hline
    · cases hline
    · rename_i hpaired
      cases hline
      exact ⟨hother, hpaired⟩
  · rintro ⟨hrule, hpaired⟩
    obtain ⟨line, hline, hstands⟩ := exists_line_of_mem hrule
    obtain ⟨other, hother, rfl⟩ := eq_lineFor_of_mem_condense hline
    by_cases hpair : IsPaired rules other
    · -- The line of a pair stands for paired rules only.
      rw [lineFor, if_pos hpair, Line.rules_bothWays] at hstands
      rcases List.mem_cons.1 hstands with rfl | hstands
      · exact absurd hpair hpaired
      · obtain rfl := List.mem_singleton.1 hstands
        exact absurd (hpair.reverse hother) hpaired
    · rw [lineFor, if_neg hpair] at hline hstands
      rwa [List.mem_singleton.1 hstands]

/-- **Lines that go both ways are the pairs**, each with one of its rules in front. -/
theorem bothWays_mem_condense_iff :
    .bothWays rule ∈ condense rules ∨ .bothWays rule.reverse ∈ condense rules ↔
      rule ∈ rules ∧ IsPaired rules rule := by
  have hpairs : ∀ {rule : Rule}, .bothWays rule ∈ condense rules →
      rule ∈ rules ∧ IsPaired rules rule := by
    intro rule h
    obtain ⟨other, hother, hline⟩ := eq_lineFor_of_mem_condense h
    rw [lineFor] at hline
    split at hline
    · rename_i hpaired
      cases hline
      exact ⟨hother, hpaired⟩
    · cases hline
  constructor
  · rintro (h | h)
    · exact hpairs h
    · obtain ⟨hreverse, hpaired⟩ := hpairs h
      exact ⟨hpaired.2, hpaired.reverse hreverse⟩
  · rintro ⟨hrule, hpaired⟩
    obtain ⟨line, hline, hstands⟩ := exists_line_of_mem hrule
    obtain ⟨other, hother, rfl⟩ := eq_lineFor_of_mem_condense hline
    by_cases hpair : IsPaired rules other
    · rw [lineFor, if_pos hpair] at hline hstands
      rcases List.mem_cons.1 hstands with rfl | hstands
      · exact Or.inl hline
      · obtain rfl := List.mem_singleton.1 hstands
        exact Or.inr hline
    · rw [lineFor, if_neg hpair, Line.rules_oneWay] at hstands
      rw [List.mem_singleton.1 hstands] at hpaired
      exact absurd hpaired hpair

/-! ## Lists with the same rules -/

/-- Whether a rule is paired depends on which rules are listed. -/
theorem isPaired_congr (h : ∀ rule, rule ∈ rules ↔ rule ∈ others) (rule : Rule) :
    IsPaired rules rule ↔ IsPaired others rule :=
  and_congr_right fun _ => h rule.reverse

/-- **Lists with the same rules have the same lines**, but for their order and for the sides of
lines that go both ways. -/
theorem covered_condense_perm (h : ∀ rule, rule ∈ rules ↔ rule ∈ others) :
    ((condense rules).map Line.covered).Perm ((condense others).map Line.covered) := by
  rw [List.perm_ext_iff_of_nodup (nodup_map_covered rules) (nodup_map_covered others)]
  intro covered
  have hlines : ∀ rule, lineFor rules rule = lineFor others rule := by
    intro rule
    simp only [lineFor, isPaired_congr h rule]
  simp only [mem_map_covered_iff, hlines, h]

end Lists

/-- **The rules of a list of texts**, by the texts. -/
theorem mem_iff_text_mem {texts : List String} {rules : List Rule}
    (h : List.Forall₂ StandsFor texts rules) {rule : Rule} :
    rule ∈ rules ↔ rule.text ∈ texts ∧ StandsFor rule.text rule := by
  rw [← map_text_of_standsFor h]
  constructor
  · intro hrule
    exact ⟨List.mem_map_of_mem hrule, standsFor_text_of_mem h rule hrule⟩
  · rintro ⟨htext, hstands⟩
    obtain ⟨other, hother, heq⟩ := List.mem_map.1 htext
    rwa [← eq_of_text_eq (standsFor_text_of_mem h other hother) hstands heq]

/-- Texts that all have an arrow are condensed to the lines of their rules. -/
theorem exists_condensedText_eq {texts : List String} (h : ∀ text ∈ texts, HasArrow text) :
    ∃ rules, List.Forall₂ StandsFor texts rules ∧
      condensedText texts = .ok ((condense rules).map Line.text) := by
  obtain ⟨rules, hrules⟩ :=
    exists_mapM_eq_ok_iff.2 fun text htext => exists_parse_iff.2 (h text htext)
  refine ⟨rules, mapM_parse_eq_ok_iff.1 hrules, ?_⟩
  rw [condensedText, hrules]
  rfl

/-- **Condensed text does not depend on order.** Two lists of the same texts, all with an arrow and
in any order and with any repetitions, are condensed to equally many lines. The one-way lines are
the same, and so are the lines that go both ways, except that their sides may be exchanged. -/
theorem condensedText_independent_of_order {texts others : List String}
    (harrows : ∀ text ∈ texts, HasArrow text) (hsame : ∀ text, text ∈ texts ↔ text ∈ others) :
    ∃ rules rules' : List Rule,
      List.Forall₂ StandsFor texts rules ∧ List.Forall₂ StandsFor others rules' ∧
      condensedText texts = .ok ((condense rules).map Line.text) ∧
      condensedText others = .ok ((condense rules').map Line.text) ∧
      (condense rules).length = (condense rules').length ∧
      (∀ rule, .oneWay rule ∈ condense rules ↔ .oneWay rule ∈ condense rules') ∧
      ∀ rule, .bothWays rule ∈ condense rules ∨ .bothWays rule.reverse ∈ condense rules ↔
        .bothWays rule ∈ condense rules' ∨ .bothWays rule.reverse ∈ condense rules' := by
  obtain ⟨rules, htexts, hcondensed⟩ := exists_condensedText_eq harrows
  obtain ⟨rules', hothers, hcondensed'⟩ :=
    exists_condensedText_eq fun text htext => harrows text ((hsame text).2 htext)
  have hrules : ∀ rule, rule ∈ rules ↔ rule ∈ rules' := by
    intro rule
    rw [mem_iff_text_mem htexts, mem_iff_text_mem hothers, hsame]
  refine ⟨rules, rules', htexts, hothers, hcondensed, hcondensed', ?_, ?_, ?_⟩
  · simpa using (covered_condense_perm hrules).length_eq
  · intro rule
    rw [oneWay_mem_condense_iff, oneWay_mem_condense_iff, hrules, isPaired_congr hrules]
  · intro rule
    rw [bothWays_mem_condense_iff, bothWays_mem_condense_iff, hrules, isPaired_congr hrules]

/-- A rule in front of its reverse, a rule that is its own reverse, and a second arrow. -/
def pairedRules : List String := ["y ==> x", "a ==> a", "x ==> y", "u ==> v ==> w"]

/-- The same rules with the reverse in front, and one of them twice. -/
def shuffledRules : List String :=
  ["u ==> v ==> w", "x ==> y", "a ==> a", "x ==> y", "y ==> x"]

/-- The samples are condensed to the same lines, sides apart. -/
theorem condensedText_independent_of_order_of_shuffledRules :
    (∀ text ∈ pairedRules, HasArrow text) ∧
      (∀ text, text ∈ pairedRules ↔ text ∈ shuffledRules) ∧
      ∃ rules rules' : List Rule,
        List.Forall₂ StandsFor pairedRules rules ∧ List.Forall₂ StandsFor shuffledRules rules' ∧
        condensedText pairedRules = .ok ((condense rules).map Line.text) ∧
        condensedText shuffledRules = .ok ((condense rules').map Line.text) ∧
        (condense rules).length = (condense rules').length ∧
        (∀ rule, .oneWay rule ∈ condense rules ↔ .oneWay rule ∈ condense rules') ∧
        ∀ rule, .bothWays rule ∈ condense rules ∨ .bothWays rule.reverse ∈ condense rules ↔
          .bothWays rule ∈ condense rules' ∨ .bothWays rule.reverse ∈ condense rules' := by
  have harrows : ∀ text ∈ pairedRules, HasArrow text := by decide +kernel
  have hsub : ∀ text ∈ pairedRules, text ∈ shuffledRules := by decide
  have hsup : ∀ text ∈ shuffledRules, text ∈ pairedRules := by decide
  have hsame : ∀ text, text ∈ pairedRules ↔ text ∈ shuffledRules :=
    fun text => ⟨hsub text, hsup text⟩
  exact ⟨harrows, hsame, condensedText_independent_of_order harrows hsame⟩

end SynthReport.Rule
