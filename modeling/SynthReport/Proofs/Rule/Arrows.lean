import SynthReport.Proofs.Traversal
import SynthReport.Rule

/-! # Rules with and without an arrow

A text is a rule if the arrow, with its spaces, occurs anywhere in it.

* **`Rule.HasArrow`** — the arrow occurs in a text;
* **`parse_eq_error_iff`** — only texts without one are malformed;
* **`exists_condensedText_iff`**, **`condensedText_eq_error_iff`** — a list is condensed exactly if
  all of its texts have an arrow, and else its first text without one is the failure. -/

namespace SynthReport.Rule

/-- **The arrow occurs in the text.** -/
def HasArrow (text : String) : Prop := arrow.toList <:+: text.toList

instance (text : String) : Decidable (HasArrow text) :=
  inferInstanceAs (Decidable (_ <:+: _))

/-- A text is not split exactly if the separator does not occur in it. -/
theorem splitFirst?_eq_none_iff {separator text : List Char} :
    splitFirst? separator text = none ↔ ¬ separator <:+: text := by
  induction text with
  | nil =>
    rw [splitFirst?, List.infix_nil]
    by_cases h : separator = []
    · simp [h]
    · simp [h]
  | cons c rest ih =>
    rw [splitFirst?, List.infix_cons_iff, not_or, ← ih]
    by_cases h : separator.isPrefixOf (c :: rest) = true
    · rw [if_pos h]
      simp [List.isPrefixOf_iff_prefix.1 h]
    · rw [if_neg h, Option.map_eq_none_iff]
      exact ⟨fun hrest => ⟨mt List.isPrefixOf_iff_prefix.2 h, hrest⟩, And.right⟩

/-- **A text is malformed exactly if it has no arrow.** -/
theorem parse_eq_error_iff {text : String} {error : RowError} :
    parse text = .error error ↔ ¬ HasArrow text ∧ error = .malformedRule text := by
  rw [HasArrow, ← splitFirst?_eq_none_iff, parse]
  cases splitFirst? arrow.toList text.toList with
  | none => simp [eq_comm]
  | some parts => simp

/-- A text with an arrow is a rule. -/
theorem exists_parse_iff {text : String} : (∃ rule, parse text = .ok rule) ↔ HasArrow text := by
  rw [exists_eq_ok_iff]
  simp [parse_eq_error_iff]

/-- **A list is condensed exactly if all of its texts have an arrow.** -/
theorem exists_condensedText_iff {texts : List String} :
    (∃ lines, condensedText texts = .ok lines) ↔ ∀ text ∈ texts, HasArrow text := by
  simp only [← exists_parse_iff]
  rw [← exists_mapM_eq_ok_iff, condensedText]
  simp only [bind_pure_eq_ok_iff]
  constructor
  · rintro ⟨lines, rules, hrules, -⟩
    exact ⟨rules, hrules⟩
  · rintro ⟨rules, hrules⟩
    exact ⟨_, rules, hrules, rfl⟩

/-- **A list fails with its first text without an arrow.** -/
theorem condensedText_eq_error_iff {texts : List String} {error : RowError} :
    condensedText texts = .error error ↔
      ∃ text, FirstOf (¬ HasArrow ·) texts text ∧ error = .malformedRule text := by
  rw [condensedText, bind_pure_eq_error_iff, mapM_eq_error_iff]
  simp only [parse_eq_error_iff, exists_and_left, exists_eq, and_true]
  refine exists_congr fun text => and_congr_right fun hfirst => ?_
  exact and_iff_right hfirst.holds

end SynthReport.Rule
