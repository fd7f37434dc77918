import SynthReport.RowError

/-! # Rules

A rule is written `lhs ==> rhs`. A list of rules is shown with every rule and its reverse on one
line, `lhs <=> rhs`.

* **`Rule.parse`** — the two sides of a rule, split at its first arrow;
* **`Rule.condense`** — the lines for a list of rules: each distinct rule appears in exactly one of
  them, at the place where it or its reverse is listed first;
* **`Rule.condensedText`** — both steps, with the first rule without an arrow as failure. -/

namespace SynthReport

/-- **A rule**: what it matches and what it turns that into. -/
structure Rule where
  lhs : String
  rhs : String
deriving DecidableEq

namespace Rule

/-- The arrow between the sides, with the spaces around it. -/
def arrow : String := " ==> "

/-- What stands before and after the first occurrence of a separator, if there is one. -/
def splitFirst? (separator : List Char) : List Char → Option (List Char × List Char)
  | [] => if separator = [] then some ([], []) else none
  | c :: rest =>
    if separator.isPrefixOf (c :: rest) then some ([], (c :: rest).drop separator.length)
    else (splitFirst? separator rest).map fun (before, after) => (c :: before, after)

/-- The two parts and the separator between them make up the text. -/
theorem eq_append_of_splitFirst? {separator text before after : List Char}
    (h : splitFirst? separator text = some (before, after)) :
    text = before ++ separator ++ after := by
  induction text generalizing before with
  | nil =>
    unfold splitFirst? at h
    split at h
    · simp_all
    · simp at h
  | cons c rest ih =>
    unfold splitFirst? at h
    split at h
    · rename_i hprefix
      obtain ⟨tail, htail⟩ := List.isPrefixOf_iff_prefix.1 hprefix
      simp only [Option.some.injEq, Prod.mk.injEq] at h
      obtain ⟨rfl, rfl⟩ := h
      rw [← htail]
      simp
    · obtain ⟨⟨first, last⟩, hsplit, heq⟩ := Option.map_eq_some_iff.1 h
      simp only [Prod.mk.injEq] at heq
      obtain ⟨rfl, rfl⟩ := heq
      simp [ih hsplit]

/-- **A rule from its text**, split at the first arrow. -/
def parse (text : String) : Except RowError Rule :=
  match splitFirst? arrow.toList text.toList with
  | some (lhs, rhs) => .ok ⟨String.ofList lhs, String.ofList rhs⟩
  | none => .error (.malformedRule text)

/-- The rule read from right to left. -/
def reverse (rule : Rule) : Rule := ⟨rule.rhs, rule.lhs⟩

/-- Reversing twice gives the rule again. -/
@[simp] theorem reverse_reverse (rule : Rule) : rule.reverse.reverse = rule := rfl

/-- **A line of a condensed list.** -/
inductive Line where
  /-- A rule without its reverse. -/
  | oneWay (rule : Rule)
  /-- A rule that stands for its reverse as well. -/
  | bothWays (rule : Rule)
deriving DecidableEq

namespace Line

/-- The line as text. -/
def text : Line → String
  | oneWay rule => rule.lhs ++ arrow ++ rule.rhs
  | bothWays rule => rule.lhs ++ " <=> " ++ rule.rhs

end Line

/-- The lines for the rules to come, when some rules are settled by earlier lines. -/
def condenseFrom (listed settled : List Rule) : List Rule → List Line
  | [] => []
  | rule :: rest =>
    -- A repetition, or the reverse of a rule that stands for both.
    if rule ∈ settled then condenseFrom listed settled rest
    else if rule.lhs ≠ rule.rhs ∧ rule.reverse ∈ listed ∧ rule.reverse ∉ settled then
      .bothWays rule :: condenseFrom listed (rule.reverse :: rule :: settled) rest
    else .oneWay rule :: condenseFrom listed (rule :: settled) rest

/-- **The condensed lines of a list of rules.** Repetitions are dropped; a rule whose reverse is
listed too settles both; a rule that is its own reverse has no partner. -/
def condense (rules : List Rule) : List Line := condenseFrom rules [] rules

/-- **The condensed text of rules given as texts**; the first malformed one is the failure. -/
def condensedText (texts : List String) : Except RowError (List String) := do
  let rules ← texts.mapM parse
  return (condense rules).map Line.text

end Rule

end SynthReport
