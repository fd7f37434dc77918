import SynthReport.Proofs.Console.Heights
import SynthReport.Proofs.Console.Widths
import SynthReport.Proofs.Report.Failures

/-! # The lines of the variant report

Each failure of the variant report is meant to take one line. It does unless it quotes a malformed
rule that has a line feed itself.

* **`RowError.IsOneLine`** — a message without a line feed, unless it quotes a rule that has one;
* **`isOneLine_of_variantRow`** — the failures of the variant report are such;
* **`DrawsFailure`** — how a failure is drawn between borders;
* **`variant_lines`** — the lines of the whole report, and what ends the lines of a failure;
* **`brokenRun_takes_two_lines`** — a failure of two lines. -/

namespace SynthReport

/-! ## Messages -/

/-- Texts without line feeds one after the other. -/
theorem lineFeed_notMem_append {first second : String} (hfirst : '\n' ∉ first.toList)
    (hsecond : '\n' ∉ second.toList) : '\n' ∉ (first ++ second).toList := by
  rw [String.toList_append]
  exact List.not_mem_append hfirst hsecond

/-- A text between two others. -/
theorem lineFeed_notMem_quoted {before text after : String} (hbefore : '\n' ∉ before.toList)
    (htext : '\n' ∉ text.toList) (hafter : '\n' ∉ after.toList) :
    '\n' ∉ (before ++ text ++ after).toList :=
  lineFeed_notMem_append (lineFeed_notMem_append hbefore htext) hafter

/-- A path has no line feed if none of its keys has one. -/
theorem FieldPath.lineFeed_notMem_text {path : FieldPath}
    (h : ∀ key ∈ path, '\n' ∉ key.toList) : '\n' ∉ path.text.toList := by
  rw [text, String.toList_intercalate]
  intro hfeed
  rcases mem_of_mem_intercalate hfeed with hfeed | ⟨chars, hchars, hfeed⟩
  · exact absurd hfeed (by decide)
  · obtain ⟨key, hkey, rfl⟩ := List.mem_map.1 hchars
    exact h key hkey hfeed

/-- **A failure of one line**: there is no line feed in its message, unless it quotes a rule that has
one itself. -/
def RowError.IsOneLine (error : RowError) : Prop :=
  '\n' ∈ error.message.toList → ∃ rule, error = .malformedRule rule ∧ '\n' ∈ rule.toList

section Messages

variable {record : Record} {path : FieldPath} {error : RowError}

/-- A missing field is named by its path. -/
theorem isOneLine_missingField (hpath : ∀ key ∈ path, '\n' ∉ key.toList) :
    (RowError.missingField path).IsOneLine := by
  refine fun hfeed => absurd hfeed ?_
  exact lineFeed_notMem_quoted (by decide) (FieldPath.lineFeed_notMem_text hpath) (by decide)

/-- A field of the wrong type is named by its path and by what was expected. -/
theorem isOneLine_wrongType (hpath : ∀ key ∈ path, '\n' ∉ key.toList) {expected : String}
    (hexpected : '\n' ∉ expected.toList) : (RowError.wrongType path expected).IsOneLine := by
  have htext := FieldPath.lineFeed_notMem_text hpath
  refine fun hfeed => absurd hfeed ?_
  exact lineFeed_notMem_append (lineFeed_notMem_quoted (by decide) htext (by decide)) hexpected

/-- A malformed rule is quoted as it was written. -/
theorem isOneLine_malformedRule (rule : String) : (RowError.malformedRule rule).IsOneLine := by
  intro hfeed
  refine ⟨rule, rfl, by_contra fun hrule => absurd hfeed ?_⟩
  exact lineFeed_notMem_quoted (by decide) hrule (by decide)

/-- The failures of a field taken as one kind of value. -/
theorem isOneLine_of_fieldAs {α : Type} {read? : Json → Option α} {expected : String}
    (hpath : ∀ key ∈ path, '\n' ∉ key.toList) (hexpected : '\n' ∉ expected.toList)
    (h : record.fieldAs read? expected path = .error error) : error.IsOneLine := by
  rcases Record.fieldAs_eq_error_iff.1 h with ⟨-, rfl⟩ | ⟨value, -, -, -, rfl⟩
  · exact isOneLine_missingField hpath
  · exact isOneLine_wrongType hpath hexpected

/-- The failures of a derivability result. -/
theorem isOneLine_of_derivability (hpath : ∀ key ∈ path, '\n' ∉ key.toList)
    (h : record.derivability path = .error error) : error.IsOneLine := by
  rcases Record.derivability_eq_error_iff.1 h with
    ⟨-, rfl⟩ | ⟨value, -, -, ⟨key, hkey, rfl⟩ | ⟨-, -, rfl⟩⟩
  · exact isOneLine_missingField hpath
  · -- A field of the object is missing, whose key is one of three.
    have hkeys : ∀ key ∈ ["can", "cannot", "time"], '\n' ∉ key.toList := by decide
    exact isOneLine_missingField
      (List.forall_mem_append.2 ⟨hpath, List.forall_mem_singleton.2 (hkeys key hkey.mem)⟩)
  · exact isOneLine_wrongType hpath (by decide)

/-- The failures of missing rules. -/
theorem isOneLine_of_missingRules (hpath : ∀ key ∈ path, '\n' ∉ key.toList)
    (h : Report.missingRules path record = .error error) : error.IsOneLine := by
  rcases Report.missingRules_eq_error_iff.1 h with h | ⟨d, -, rule, -, rfl⟩
  · exact isOneLine_of_derivability hpath h
  · exact isOneLine_malformedRule rule

/-- **The failures of the variant report** have one line, but for rules quoted in them. -/
theorem isOneLine_of_variantRow (h : Column.row Report.variantSchema record = .error error) :
    error.IsOneLine := by
  obtain ⟨column, hfirst, herror⟩ := Column.row_eq_error_iff.1 h
  have hcolumns : ∀ column ∈ Report.variantSchema, column.value record = .error error →
      error.IsOneLine := by
    simp only [Report.variantSchema, List.forall_mem_cons]
    refine ⟨?domain, ?generated, ?generatedTime, ?ported, ?portedTime, ?lhs, ?lhsTime, ?lhsMissing,
      ?both, ?bothTime, ?bothMissing, fun _ h => absurd h List.not_mem_nil⟩
    case lhsMissing | bothMissing => exact isOneLine_of_missingRules (by decide)
    case lhs | lhsTime | both | bothTime =>
      exact fun h => isOneLine_of_derivability (by decide) (bind_pure_eq_error_iff.1 h)
    all_goals
      exact fun h => isOneLine_of_fieldAs (by decide) (by decide) (bind_pure_eq_error_iff.1 h)
  exact hcolumns column hfirst.mem herror

end Messages

namespace Screen

/-! ## How a failure is drawn -/

/-- **A failure between borders.** It starts with the heading where the column of labels has room
for one, and has a line feed exactly if one is shown of the message. -/
structure DrawsFailure (screen : Screen) (record : Nat) (error : RowError) (inner : String) :
    Prop where
  text_eq : screen.entry (.failed record error) = "│ " ++ inner ++ " │\n"
  heading : 13 ≤ screen.widths.label → "⚠ record".toList <+: inner.toList
  lineFeed_iff : '\n' ∈ inner.toList ↔ '\n' ∈ shownOf error.message (screen.widths.value - 2)

variable {screen : Screen}

/-- **Without colours a failure is drawn between borders.** -/
theorem exists_drawsFailure (hcolours : screen.colours = false) (record : Nat) (error : RowError) :
    ∃ inner, screen.DrawsFailure record error inner := by
  refine ⟨fitted ("⚠ record " ++ toString record) (screen.widths.label - 2) ++ " │ " ++
    fitted error.message (screen.widths.value - 2), ?_, fun hlabel => ?_, ?_⟩
  · rw [entry, failure, coloured, hcolours, content, ← String.toList_inj]
    simp
  · -- The heading takes eight columns, which is what the mark leaves of eleven.
    have hcolumns : columns "⚠ record".toList = 8 := by decide +kernel
    have hmark : (cutMark (screen.widths.label - 2)).length ≤ 3 := by
      unfold cutMark
      split
      · exact Nat.le_refl 3
      · exact Nat.zero_le 3
    have hstart : "⚠ record".toList <+: ("⚠ record " ++ toString record).toList :=
      ⟨' ' :: (toString record).toList, by simp⟩
    rw [String.append_assoc, String.toList_append]
    exact (prefix_fitted hstart (by omega)).trans (List.prefix_append _ _)
  · have hheading : '\n' ∉ shownOf ("⚠ record " ++ toString record) (screen.widths.label - 2) :=
      mt mem_of_mem_shownOf (lineFeed_notMem_heading record)
    have hbetween : '\n' ∉ " │ ".toList := by decide
    rw [String.toList_append, String.toList_append, List.mem_append, List.mem_append,
      lineFeed_mem_fitted_iff, lineFeed_mem_fitted_iff]
    exact or_iff_right (not_or.2 ⟨hheading, hbetween⟩)

end Screen

/-! ## The report -/

/-- **From 29 columns on the heading of a failure has room** in the column of labels. -/
theorem CardWidths.thirteen_le_label {console : Nat} (h : 29 ≤ console) (columns : List String) :
    13 ≤ (ofConsole console columns).label := by
  have hheading := twelve_le_longestLabel columns
  rw [ofConsole]
  dsimp only [borders]
  omega

namespace Report

/-- The labels of the variant report have no line feeds. -/
theorem lineFeed_notMem_label {records : List Record} {row : Row}
    (hrow : .built row ∈ (ReportKind.variant.report records).1.entries) :
    ∀ field ∈ row, '\n' ∉ field.1.toList := by
  intro field hfield
  obtain ⟨place, record, -, -, hentry⟩ := ReportKind.exists_record_of_mem hrow
  have hlabels := Column.labels_of_row ((entryOf_fst_eq_built_iff _ _).1 hentry)
  have hall : ∀ label ∈ variantSchema.map (·.label), '\n' ∉ label.toList := by decide
  exact hall field.1 (hlabels ▸ List.mem_map_of_mem hfield)

/-- **The lines of the variant report**, on a console of any width and without colours. Below the
title stand the borders, one more than there are entries, and the lines of the entries: those of the
cells of a row, at least one each, and for a failure one more than there are line feeds in what is
shown of its message. A failure starts with its heading, where the console has 29 columns, and ends
with a border. Its message has no line feed, unless it quotes a malformed rule that has one. -/
theorem variant_lines (records : List Record) (console : Nat) :
    let report := (variant records).1
    let screen : Screen := ⟨false, CardWidths.ofConsole console report.columns⟩
    (∃ cards, List.Forall₂ screen.IsCard report.entries cards ∧
        screen.report report = Screen.title report ++ textOfLines (screen.body cards) ∧
        (∀ line ∈ screen.body cards, '\n' ∉ line.toList) ∧
        (screen.body cards).length =
          report.entries.length + 1 + (report.entries.map screen.height).sum) ∧
      (29 ≤ console → 13 ≤ screen.widths.label) ∧
      ∀ record error, .failed record error ∈ report.entries →
        ∃ inner, screen.DrawsFailure record error inner ∧
          ('\n' ∈ inner.toList → ∃ rule, error = .malformedRule rule ∧ '\n' ∈ rule.toList) := by
  intro report screen
  refine ⟨?_, fun h => CardWidths.thirteen_le_label h report.columns, fun record error hfailed => ?_⟩
  · have hlabels : ∀ row, .built row ∈ report.entries → ∀ field ∈ row, '\n' ∉ field.1.toList :=
      fun row hrow => lineFeed_notMem_label hrow
    obtain ⟨cards, hcards⟩ : ∃ cards, List.Forall₂ screen.IsCard report.entries cards :=
      Screen.exists_cards_of_labels rfl hlabels
    exact ⟨cards, hcards, Screen.report_eq_body hcards, Screen.lineFeed_notMem_body hcards,
      Screen.length_body hcards⟩
  · obtain ⟨inner, hinner⟩ : ∃ inner, screen.DrawsFailure record error inner :=
      Screen.exists_drawsFailure rfl record error
    refine ⟨inner, hinner, fun hfeed => ?_⟩
    have hentry : .failed record error ∈ (ReportKind.variant.report records).1.entries := hfailed
    obtain ⟨source, -, -, hrow⟩ := row_of_failed_mem hentry
    exact isOneLine_of_variantRow hrow (mem_of_mem_shownOf (hinner.lineFeed_iff.1 hfeed))

/-- A record with a run, one rule of which has no arrow and two lines. -/
def brokenRun : Record :=
  let run : Json := .object [("rules", .array []), ("time", .number (.integer 2))]
  let result (cannot : List Json) : Json :=
    .object [("can", .array []), ("cannot", .array cannot), ("time", .number (.integer 3))]
  ⟨.object [
    ("derivability", .object [("lhs", result [.string "a\nb"]), ("lhs_rhs", result [])]),
    ("direct_gen", run),
    ("domain", .string "bv8"),
    ("from_bv4", run)]⟩

/-- **A failure can take more than one line**: that of the record takes two on a console of eighty
columns. -/
theorem brokenRun_takes_two_lines :
    ¬ ∀ (records : List Record) (console : Nat), 40 ≤ console →
      let report := (variant records).1
      let screen : Screen := ⟨false, CardWidths.ofConsole console report.columns⟩
      ∀ record error, .failed record error ∈ report.entries →
        (screen.entry (.failed record error)).toList.count '\n' = 1 := by
  intro h
  have hfailed : .failed 0 (.malformedRule "a\nb") ∈ (variant [brokenRun]).1.entries :=
    List.mem_singleton.2 rfl
  exact absurd (h [brokenRun] 80 (by decide) 0 _ hfailed) (by decide +kernel)

end Report

end SynthReport
