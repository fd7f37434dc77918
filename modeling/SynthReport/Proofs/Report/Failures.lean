import SynthReport.Proofs.Report.BaselineRows
import SynthReport.Proofs.Report.Kinds
import SynthReport.Proofs.Report.VariantRows

/-! # What the failures of a report say

A failure names a field or a rule of its record, and what it says of them is so.

* **`Json.Mistyped`** — a value is there, but not what a failure says was expected;
* **`Describes`** — what a failure says of a record is so;
* **`describes_of_fieldAs`**, **`describes_of_derivability`** — the failures of the accessors;
* **`baseline_explained`**, **`variant_explained`** — the failure of the first column without a
  value, for the two schemas;
* **`failure_explained`** — every failure of a report is that of the first column without a value,
  never one of the derivation times, and describes its record. -/

namespace SynthReport

open Record

/-- **A value is there, but not what is expected of it.** For a derivability result, all of its
three fields are there and are not two arrays of strings and a number. -/
inductive Json.Mistyped : Json → String → Prop where
  | string {value : Json} : value ≠ .null → (∀ s, value ≠ .string s) → Mistyped value "a string"
  | number {value : Json} : value ≠ .null → (∀ n, value ≠ .number n) → Mistyped value "a number"
  | array {value : Json} : value ≠ .null → (∀ items, value ≠ .array items) →
      Mistyped value "an array"
  | scalar {value : Json} : value ≠ .null → ¬ value.IsScalar → Mistyped value "a scalar"
  | derivability {fields : List (String × Json)} {can cannot time : Json} :
      Json.lookup "can" fields = some can → can ≠ .null →
      Json.lookup "cannot" fields = some cannot → cannot ≠ .null →
      Json.lookup "time" fields = some time → time ≠ .null →
      (¬ ∃ (cans cannots : List String) (n : JsonNumber),
        can = .array (cans.map .string) ∧ cannot = .array (cannots.map .string) ∧
          time = .number n) →
      Mistyped (.object fields) "a derivability result"

namespace Report

/-- **A rule without an arrow that the variant report comes to first**: the first one among those
that could not be derived by left sides, or, if all of them have an arrow, by both sides. -/
inductive FirstMalformed (json : Json) (rule : String) : Prop where
  | lhs {lhs : Derivability} : lhs.IsAt json ["derivability", "lhs"] →
      FirstOf (¬ Rule.HasArrow ·) lhs.cannot rule → FirstMalformed json rule
  | both {lhs both : Derivability} : lhs.IsAt json ["derivability", "lhs"] →
      (∀ other ∈ lhs.cannot, Rule.HasArrow other) →
      both.IsAt json ["derivability", "lhs_rhs"] →
      FirstOf (¬ Rule.HasArrow ·) both.cannot rule → FirstMalformed json rule

/-- **What a failure says of a record is so**, its path being read from the dotted text. -/
inductive Describes (kind : ReportKind) (json : Json) : RowError → Prop where
  | missingField {path : FieldPath} : json.Breaks (.ofText path.text) →
      Describes kind json (.missingField path)
  | wrongType {path : FieldPath} {expected : String} {value : Json} :
      json.LeadsTo (.ofText path.text) value → value.Mistyped expected →
      Describes kind json (.wrongType path expected)
  | malformedRule {rule : String} : kind = .variant → FirstMalformed json rule →
      Describes kind json (.malformedRule rule)

/-! ## Failures of accessors -/

section Accessors

variable {kind : ReportKind} {record : Record} {path : FieldPath} {error : RowError}

/-- A missing field is described by a plain path that breaks. -/
theorem describes_missingField (hpath : path.IsPlain) (h : record.json.Breaks path) :
    Describes kind record.json (.missingField path) := by
  refine .missingField ?_
  rw [FieldPath.ofText_text hpath]
  exact h

/-- A field of the wrong type is described by a plain path to a mistyped value. -/
theorem describes_wrongType (hpath : path.IsPlain) {value : Json} {expected : String}
    (hvalue : record.json.LeadsTo path value) (h : value.Mistyped expected) :
    Describes kind record.json (.wrongType path expected) := by
  refine .wrongType ?_ h
  rw [FieldPath.ofText_text hpath]
  exact hvalue

/-- **The failures of a field taken as one kind of value** describe the record, if a value that is
not of that kind is mistyped. -/
theorem describes_of_fieldAs {α : Type} {read? : Json → Option α} {expected : String}
    (hpath : path.IsPlain)
    (hread : ∀ value : Json, value ≠ .null → read? value = none → value.Mistyped expected)
    (h : record.fieldAs read? expected path = .error error) :
    Describes kind record.json error := by
  rcases fieldAs_eq_error_iff.1 h with ⟨hbreaks, rfl⟩ | ⟨value, hvalue, hnull, hnone, rfl⟩
  · exact describes_missingField hpath hbreaks
  · exact describes_wrongType hpath hvalue (hread value (hnull hpath.1) hnone)

/-- The failures of a string field. -/
theorem describes_of_stringAt (hpath : path.IsPlain) (h : record.stringAt path = .error error) :
    Describes kind record.json error := by
  refine describes_of_fieldAs hpath ?_ h
  intro value hnull hnone
  refine .string hnull ?_
  rintro s rfl
  cases hnone

/-- The failures of a number field. -/
theorem describes_of_numberAt (hpath : path.IsPlain) (h : record.numberAt path = .error error) :
    Describes kind record.json error := by
  refine describes_of_fieldAs hpath ?_ h
  intro value hnull hnone
  refine .number hnull ?_
  rintro n rfl
  cases hnone

/-- The failures of an array field of which the length is asked. -/
theorem describes_of_lengthAt (hpath : path.IsPlain) (h : record.lengthAt path = .error error) :
    Describes kind record.json error := by
  refine describes_of_fieldAs hpath ?_ h
  intro value hnull hnone
  refine .array hnull ?_
  rintro items rfl
  cases hnone

/-- The failures of a scalar field. -/
theorem describes_of_cellAt (hpath : path.IsPlain) (h : record.cellAt path = .error error) :
    Describes kind record.json error := by
  refine describes_of_fieldAs hpath ?_ h
  intro value hnull hnone
  refine .scalar hnull ?_
  intro hscalar
  obtain ⟨cell, hcell⟩ := Cell.exists_ofScalar?_iff.2 hscalar
  rw [hcell] at hnone
  cases hnone

/-- A value with the three fields of a derivability result that does not hold one is mistyped. -/
theorem mistyped_of_not_isAt {value : Json}
    (hfields : ∀ key ∈ ["can", "cannot", "time"], ¬ value.Breaks [key])
    (hresult : ¬ ∃ d : Derivability, d.IsAt value []) :
    value.Mistyped "a derivability result" := by
  have hfield : ∀ key ∈ ["can", "cannot", "time"],
      ∃ next, value.field? key = some next ∧ next ≠ .null := by
    intro key hkey
    have hkeep := hfields key hkey
    rw [Json.breaks_cons_iff, not_or, not_or] at hkeep
    obtain ⟨next, hnext⟩ := Option.ne_none_iff_exists'.1 hkeep.1
    refine ⟨next, hnext, ?_⟩
    rintro rfl
    exact hkeep.2.1 hnext
  obtain ⟨can, hcan, hcanNull⟩ := hfield "can" (by simp)
  obtain ⟨cannot, hcannot, hcannotNull⟩ := hfield "cannot" (by simp)
  obtain ⟨time, htime, htimeNull⟩ := hfield "time" (by simp)
  obtain ⟨fields, rfl, hcan'⟩ := Json.field?_eq_some_iff.1 hcan
  refine .derivability hcan' hcanNull hcannot hcannotNull htime htimeNull ?_
  rintro ⟨cans, cannots, n, rfl, rfl, rfl⟩
  exact hresult ⟨⟨cans, cannots, n.toBinary64⟩, leadsTo_singleton_iff.2 hcan,
    leadsTo_singleton_iff.2 hcannot, n, leadsTo_singleton_iff.2 htime, rfl⟩

/-- **The failures of a derivability result.** -/
theorem describes_of_derivability (hpath : path.IsPlain)
    (h : record.derivability path = .error error) : Describes kind record.json error := by
  rcases derivability_eq_error_iff.1 h with
    ⟨hbreaks, rfl⟩ | ⟨value, hvalue, -, ⟨key, hkey, rfl⟩ | ⟨hfields, hresult, rfl⟩⟩
  · -- The path breaks.
    exact describes_missingField hpath hbreaks
  · -- A field of the object is missing, whose key has no dot.
    have hdot : ∀ key ∈ ["can", "cannot", "time"], '.' ∉ key.toList := by decide
    exact describes_missingField (hpath.append_singleton (hdot key hkey.mem))
      (hvalue.breaks_append hkey.holds)
  · -- The object has all three fields.
    exact describes_wrongType hpath hvalue (mistyped_of_not_isAt hfields hresult)

/-- The failures of the shares of a direction. -/
theorem describes_of_sharePair {name : String} (hlhs : FieldPath.IsPlain (strengths name).1)
    (hboth : FieldPath.IsPlain (strengths name).2) (h : sharePair name record = .error error) :
    Describes kind record.json error := by
  rcases bind_eq_error_iff.1 h with h | ⟨first, -, h⟩
  · exact describes_of_derivability hlhs h
  · exact describes_of_derivability hboth (bind_pure_eq_error_iff.1 h)

/-- Missing rules fail with the result, or with the first rule of it without an arrow. -/
theorem missingRules_eq_error_iff :
    missingRules path record = .error error ↔
      record.derivability path = .error error ∨
        ∃ d : Derivability, d.IsAt record.json path ∧
          ∃ rule, FirstOf (¬ Rule.HasArrow ·) d.cannot rule ∧ error = .malformedRule rule := by
  rw [missingRules, bind_eq_error_iff]
  simp only [bind_pure_eq_error_iff, derivability_eq_ok_iff, Rule.condensedText_eq_error_iff]

end Accessors

/-! ## Failures of rows -/

/-- The labels of the columns with derivation times. -/
def derivationTimeLabels : List String :=
  ["LHS Time", "LHS-RHS Time", "Enumo derives Baseline Time (s)", "Baseline derives Enumo Time (s)"]

section Rows

variable {record : Record} {column : Column} {error : RowError}

/-- A derivation time is there where the share before it is. -/
theorem not_fails_derivationTime {path : FieldPath} {share time : String}
    (h : ¬ Column.Fails record ⟨share, derivableShare path⟩) :
    ¬ Column.Fails record ⟨time, derivationTime path⟩ := by
  rw [Column.not_fails_iff] at h ⊢
  obtain ⟨cell, hcell⟩ := h
  obtain ⟨d, hd, -⟩ := derivableShare_eq_ok_iff.1 hcell
  exact ⟨_, derivationTime_eq_ok_iff.2 ⟨d, hd, rfl⟩⟩

/-- The times of a direction are there where the shares before them are. -/
theorem not_fails_timePair {name share times : String}
    (h : ¬ Column.Fails record ⟨share, sharePair name⟩) :
    ¬ Column.Fails record ⟨times, timePair name⟩ := by
  rw [Column.not_fails_iff] at h ⊢
  obtain ⟨cell, hcell⟩ := h
  obtain ⟨results, hresults, -⟩ := sharePair_eq_ok_iff.1 hcell
  exact ⟨_, timePair_eq hresults⟩

/-- **The first column of the baseline report without a value** is not one of derivation times, and
its failure describes the record. -/
theorem baseline_describes {name : String}
    (hfirst : FirstOf (Column.Fails record) baselineSchema column)
    (herror : column.value record = .error error) :
    column.label ∉ derivationTimeLabels ∧ Describes (.baseline name) record.json error := by
  rcases firstOf_cons_iff.1 hfirst with ⟨rfl, -⟩ | ⟨-, hfirst⟩
  · -- Baseline.
    exact ⟨by decide, describes_of_stringAt (by decide) (bind_pure_eq_error_iff.1 herror)⟩
  rcases firstOf_cons_iff.1 hfirst with ⟨rfl, -⟩ | ⟨-, hfirst⟩
  · -- Enumo Spec.
    exact ⟨by decide, describes_of_stringAt (by decide) (bind_pure_eq_error_iff.1 herror)⟩
  rcases firstOf_cons_iff.1 hfirst with ⟨rfl, -⟩ | ⟨-, hfirst⟩
  · -- Enumo LOC.
    exact ⟨by decide, describes_of_cellAt (by decide) herror⟩
  rcases firstOf_cons_iff.1 hfirst with ⟨rfl, -⟩ | ⟨-, hfirst⟩
  · -- # Enumo.
    exact ⟨by decide, describes_of_lengthAt (by decide) (bind_pure_eq_error_iff.1 herror)⟩
  rcases firstOf_cons_iff.1 hfirst with ⟨rfl, -⟩ | ⟨-, hfirst⟩
  · -- Time.
    exact ⟨by decide, describes_of_numberAt (by decide) (bind_pure_eq_error_iff.1 herror)⟩
  rcases firstOf_cons_iff.1 hfirst with ⟨rfl, -⟩ | ⟨hforward, hfirst⟩
  · -- The shares of the first direction.
    exact ⟨by decide, describes_of_sharePair (by decide) (by decide) herror⟩
  rcases firstOf_cons_iff.1 hfirst with ⟨rfl, htime⟩ | ⟨-, hfirst⟩
  · -- Its times, which cannot be the first to fail.
    exact absurd htime (not_fails_timePair hforward)
  rcases firstOf_cons_iff.1 hfirst with ⟨rfl, -⟩ | ⟨hbackward, hfirst⟩
  · -- The shares of the second direction.
    exact ⟨by decide, describes_of_sharePair (by decide) (by decide) herror⟩
  rcases firstOf_cons_iff.1 hfirst with ⟨rfl, htime⟩ | ⟨-, hfirst⟩
  · -- Its times, which cannot be the first to fail.
    exact absurd htime (not_fails_timePair hbackward)
  · -- No column is left.
    exact absurd hfirst (not_firstOf_nil _ column)

/-- **The first column of the variant report without a value** is not one of derivation times, and
its failure describes the record. -/
theorem variant_describes (hfirst : FirstOf (Column.Fails record) variantSchema column)
    (herror : column.value record = .error error) :
    column.label ∉ derivationTimeLabels ∧ Describes .variant record.json error := by
  rcases firstOf_cons_iff.1 hfirst with ⟨rfl, -⟩ | ⟨-, hfirst⟩
  · -- Domain.
    exact ⟨by decide, describes_of_stringAt (by decide) (bind_pure_eq_error_iff.1 herror)⟩
  rcases firstOf_cons_iff.1 hfirst with ⟨rfl, -⟩ | ⟨-, hfirst⟩
  · -- Generated.
    exact ⟨by decide, describes_of_lengthAt (by decide) (bind_pure_eq_error_iff.1 herror)⟩
  rcases firstOf_cons_iff.1 hfirst with ⟨rfl, -⟩ | ⟨-, hfirst⟩
  · -- Gen Time.
    exact ⟨by decide, describes_of_numberAt (by decide) (bind_pure_eq_error_iff.1 herror)⟩
  rcases firstOf_cons_iff.1 hfirst with ⟨rfl, -⟩ | ⟨-, hfirst⟩
  · -- From BV4.
    exact ⟨by decide, describes_of_lengthAt (by decide) (bind_pure_eq_error_iff.1 herror)⟩
  rcases firstOf_cons_iff.1 hfirst with ⟨rfl, -⟩ | ⟨-, hfirst⟩
  · -- From BV4 Time.
    exact ⟨by decide, describes_of_numberAt (by decide) (bind_pure_eq_error_iff.1 herror)⟩
  rcases firstOf_cons_iff.1 hfirst with ⟨rfl, -⟩ | ⟨hlhs, hfirst⟩
  · -- LHS.
    exact ⟨by decide, describes_of_derivability (by decide) (bind_pure_eq_error_iff.1 herror)⟩
  rcases firstOf_cons_iff.1 hfirst with ⟨rfl, htime⟩ | ⟨-, hfirst⟩
  · -- LHS Time, which cannot be the first to fail.
    exact absurd htime (not_fails_derivationTime hlhs)
  rcases firstOf_cons_iff.1 hfirst with ⟨rfl, -⟩ | ⟨hmissing, hfirst⟩
  · -- LHS Missing.
    refine ⟨by decide, ?_⟩
    rcases missingRules_eq_error_iff.1 herror with h | ⟨d, hd, rule, hrule, rfl⟩
    · exact describes_of_derivability (by decide) h
    · exact .malformedRule rfl (.lhs hd hrule)
  rcases firstOf_cons_iff.1 hfirst with ⟨rfl, -⟩ | ⟨hboth, hfirst⟩
  · -- LHS-RHS.
    exact ⟨by decide, describes_of_derivability (by decide) (bind_pure_eq_error_iff.1 herror)⟩
  rcases firstOf_cons_iff.1 hfirst with ⟨rfl, htime⟩ | ⟨-, hfirst⟩
  · -- LHS-RHS Time, which cannot be the first to fail.
    exact absurd htime (not_fails_derivationTime hboth)
  rcases firstOf_cons_iff.1 hfirst with ⟨rfl, -⟩ | ⟨-, hfirst⟩
  · -- LHS-RHS Missing.
    refine ⟨by decide, ?_⟩
    rcases missingRules_eq_error_iff.1 herror with h | ⟨d, hd, rule, hrule, rfl⟩
    · exact describes_of_derivability (by decide) h
    · -- The rules missing by left sides were condensed, so all of them have an arrow.
      obtain ⟨cell, hcell⟩ := Column.not_fails_iff.1 hmissing
      obtain ⟨lhs, lines, hlhs, hlines, -⟩ := missingRules_eq_ok_iff.1 hcell
      have harrows := Rule.exists_condensedText_iff.1 ⟨lines, hlines⟩
      exact .malformedRule rfl (.both (derivability_eq_ok_iff.1 hlhs) harrows hd hrule)
  · -- No column is left.
    exact absurd hfirst (not_firstOf_nil _ column)

end Rows

/-- **A failure is explained by a column**: it is the first one without a value, with this failure,
which describes the record; and it is not one of the derivation times. -/
structure Explains (kind : ReportKind) (record : Record) (error : RowError) (column : Column) :
    Prop where
  first : FirstOf (Column.Fails record) kind.schema column
  fails : column.value record = .error error
  label : column.label ∉ derivationTimeLabels
  describes : Describes kind record.json error

/-- The failure of a row is explained by one of its columns. -/
theorem exists_explains {kind : ReportKind} {record : Record} {error : RowError}
    (h : Column.row kind.schema record = .error error) :
    ∃ column, Explains kind record error column := by
  obtain ⟨column, hfirst, herror⟩ := Column.row_eq_error_iff.1 h
  have hdescribes : column.label ∉ derivationTimeLabels ∧ Describes kind record.json error := by
    cases kind with
    | baseline name => exact baseline_describes hfirst herror
    | variant => exact variant_describes hfirst herror
  exact ⟨column, hfirst, herror, hdescribes.1, hdescribes.2⟩

/-- A failed entry is that of the record at its index, which has no row. -/
theorem row_of_failed_mem {kind : ReportKind} {records : List Record} {index : Nat}
    {error : RowError} (h : Entry.failed index error ∈ (kind.report records).1.entries) :
    ∃ record, records[index]? = some record ∧ kind.keeps record = true ∧
      Column.row kind.schema record = .error error := by
  obtain ⟨place, record, hplace, hkeep, hentry⟩ := ReportKind.exists_record_of_mem h
  obtain ⟨rfl, hrow⟩ := (entryOf_fst_eq_failed_iff kind.title kind.schema).1 hentry
  exact ⟨record, hplace, hkeep, hrow⟩

/-- **Every failure of a report is explained**: the record at its index is one that the report is
about, and the failure is that of its first column without a value. -/
theorem failure_explained (kind : ReportKind) (records : List Record) {index : Nat}
    {error : RowError} (h : Entry.failed index error ∈ (kind.report records).1.entries) :
    ∃ record column, records[index]? = some record ∧ kind.keeps record = true ∧
      Explains kind record error column := by
  obtain ⟨record, hrecord, hkeep, hrow⟩ := row_of_failed_mem h
  obtain ⟨column, hcolumn⟩ := exists_explains hrow
  exact ⟨record, column, hrecord, hkeep, hcolumn⟩

/-- The failure of a run that lacks everything is that it lacks the first field. -/
theorem failure_explained_of_bare_run :
    let records : List Record := [⟨.object [("from_bv4", .bool true)]⟩]
    Entry.failed 0 (.missingField ["domain"]) ∈ (ReportKind.variant.report records).1.entries ∧
      ∃ record column, records[0]? = some record ∧ ReportKind.variant.keeps record = true ∧
        Explains .variant record (.missingField ["domain"]) column := by
  intro records
  have h : Entry.failed 0 (.missingField ["domain"]) ∈
      (ReportKind.variant.report records).1.entries := List.mem_singleton.2 rfl
  exact ⟨h, failure_explained .variant records h⟩

end Report

end SynthReport
