import SynthReport.Report.Schema

/-! # The baseline report

One row for each record whose baseline has a given text in its name: sizes, synthesis time, and how
far the two rule sets derive each other, in both directions. -/

namespace SynthReport.Report

/-- The two strengths of derivation at a direction: by left sides alone, and by both sides. -/
def strengths (direction : String) : FieldPath × FieldPath :=
  (["derivability", direction, "lhs"], ["derivability", direction, "lhs_rhs"])

/-- Two texts in one cell. -/
def pairText (first second : String) : Cell := .text (first ++ " / " ++ second)

/-- The derivable shares of a direction. -/
def sharePair (direction : String) (record : Record) : Except RowError Cell := do
  let (lhs, both) := strengths direction
  let first ← record.derivability lhs
  let second ← record.derivability both
  return pairText first.percentage second.percentage

/-- The derivation times of a direction. -/
def timePair (direction : String) (record : Record) : Except RowError Cell := do
  let (lhs, both) := strengths direction
  let first ← record.numberAt (lhs ++ ["time"])
  let second ← record.numberAt (both ++ ["time"])
  return pairText ((Cell.number first).rounded timePlaces).display
    ((Cell.number second).rounded timePlaces).display

/-- **The columns of the baseline report.** -/
def baselineSchema : List Column := [
  ⟨"Baseline", fun r => return .text (← r.stringAt ["baseline_name"])⟩,
  ⟨"Enumo Spec", fun r => return .text (← r.stringAt ["spec_name"])⟩,
  ⟨"Enumo LOC", fun r => r.cellAt ["loc"]⟩,
  ⟨"# Enumo", fun r => return .count (← r.lengthAt ["rules"])⟩,
  ⟨"Time (s)", fun r => return .number (← r.numberAt ["time"])⟩,
  ⟨"Enumo Derives Baseline (LHS / LHSRHS)", sharePair "enumo_derives_baseline"⟩,
  ⟨"Enumo derives Baseline Time (s)", timePair "enumo_derives_baseline"⟩,
  ⟨"Baseline Derives Enumo (LHS / LHSRHS)", sharePair "baseline_derives_enumo"⟩,
  ⟨"Baseline derives Enumo Time (s)", timePair "baseline_derives_enumo"⟩]

/-- A text occurs in another, the empty text in every one. -/
def occursIn (part : List Char) : List Char → Bool
  | [] => part.isEmpty
  | c :: rest => part.isPrefixOf (c :: rest) || occursIn part rest

/-- **The records of a baseline**: its name contains the text, letter case included. -/
def isOfBaseline (name : String) (record : Record) : Bool :=
  match record.baselineName? with
  | some baseline => occursIn name.toList baseline.toList
  | none => false

/-- **The baseline report.** -/
def baseline (name : String) (records : List Record) : Report × List LogLine :=
  generate ("Baseline comparison (" ++ name ++ ")") baselineSchema (isOfBaseline name) records

end SynthReport.Report
