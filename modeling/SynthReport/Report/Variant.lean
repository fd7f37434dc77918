import SynthReport.Report.Schema
import SynthReport.Rule

/-! # The variant report

One row for each record with a run from the 4-bit rules: direct synthesis beside the rules brought
over from that run, and which of them could not be derived. -/

namespace SynthReport.Report

/-- Derivation by left sides alone. -/
def byLhs : FieldPath := ["derivability", "lhs"]

/-- Derivation by both sides. -/
def byBoth : FieldPath := ["derivability", "lhs_rhs"]

/-- The derivable share at a path. -/
def derivableShare (path : FieldPath) (record : Record) : Except RowError Cell := do
  return .text (← record.derivability path).percentage

/-- The derivation time at a path. -/
def derivationTime (path : FieldPath) (record : Record) : Except RowError Cell := do
  return (Cell.number (← record.derivability path).time).rounded timePlaces

/-- **The rules that could not be derived**, condensed to one line for each rule and its
reverse. -/
def missingRules (path : FieldPath) (record : Record) : Except RowError Cell := do
  let result ← record.derivability path
  let lines ← Rule.condensedText result.cannot
  return .text ("\n".intercalate lines)

/-- **The columns of the variant report.** -/
def variantSchema : List Column := [
  ⟨"Domain", fun r => return .text (← r.stringAt ["domain"])⟩,
  ⟨"Generated", fun r => return .count (← r.lengthAt ["direct_gen", "rules"])⟩,
  ⟨"Gen Time (s)", fun r => return .number (← r.numberAt ["direct_gen", "time"])⟩,
  ⟨"From BV4", fun r => return .count (← r.lengthAt ["from_bv4", "rules"])⟩,
  ⟨"From BV4 Time (s)", fun r => return .number (← r.numberAt ["from_bv4", "time"])⟩,
  ⟨"LHS", derivableShare byLhs⟩,
  ⟨"LHS Time", derivationTime byLhs⟩,
  ⟨"LHS Missing", missingRules byLhs⟩,
  ⟨"LHS-RHS", derivableShare byBoth⟩,
  ⟨"LHS-RHS Time", derivationTime byBoth⟩,
  ⟨"LHS-RHS Missing", missingRules byBoth⟩]

/-- **The variant report.** -/
def variant (records : List Record) : Report × List LogLine :=
  generate "BV4 variant comparison" variantSchema (·.hasVariantRun) records

end SynthReport.Report
