import SynthReport.Plan
import SynthReport.Proofs.Report.Entries

/-! # The two kinds of report

Both kinds are generated alike, from a title, a schema and a test on records, so what holds of every
generated report holds of both.

* **`ReportKind.report`** — the report of a kind on some records, with its log;
* **`report_eq_generate`** — it is generated from the title, the columns and the test of the kind;
* **`report_independent`** — records do not influence one another. -/

namespace SynthReport

namespace ReportKind

/-- **The report of a kind**, and what is logged for it. -/
def report : ReportKind → List Record → Report × List LogLine
  | baseline name => Report.baseline name
  | variant => Report.variant

/-- The title of a kind. -/
def title : ReportKind → String
  | baseline name => "Baseline comparison (" ++ name ++ ")"
  | variant => "BV4 variant comparison"

/-- The columns of a kind. -/
def schema : ReportKind → List Column
  | baseline _ => Report.baselineSchema
  | variant => Report.variantSchema

/-- The records that a kind is about. -/
def keeps : ReportKind → Record → Bool
  | baseline name => Report.isOfBaseline name
  | variant => Record.hasVariantRun

/-- **Both kinds are generated alike.** -/
theorem report_eq_generate (kind : ReportKind) (records : List Record) :
    kind.report records = Report.generate kind.title kind.schema kind.keeps records := by
  cases kind <;> rfl

/-- The entries of a report, from the first record on. -/
theorem report_entries (kind : ReportKind) (records : List Record) :
    (kind.report records).1.entries =
      (Report.entriesFrom kind.title kind.schema kind.keeps 0 records).1 := by
  rw [report_eq_generate]
  rfl

@[simp] theorem report_title (kind : ReportKind) (records : List Record) :
    (kind.report records).1.title = kind.title := by
  rw [report_eq_generate]
  rfl

@[simp] theorem report_columns (kind : ReportKind) (records : List Record) :
    (kind.report records).1.columns = kind.schema.map (·.label) := by
  rw [report_eq_generate]
  rfl

@[simp] theorem report_scanned (kind : ReportKind) (records : List Record) :
    (kind.report records).1.scanned = records.length := by
  rw [report_eq_generate]
  rfl

/-- **The log of a report**: its warnings, and then the counts. -/
theorem report_log (kind : ReportKind) (records : List Record) :
    (kind.report records).2 =
      (kind.report records).1.entries.filterMap (Entry.warning? kind.title) ++
        [⟨.detail, kind.title ++ ": " ++ toString (kind.report records).1.entries.length ++
          " of " ++ toString records.length ++ " records matched"⟩] := by
  rw [report_entries, ← Report.entriesFrom_snd, report_eq_generate]
  rfl

/-- Every entry is that of a record which the report is about, at its place. -/
theorem exists_record_of_mem {kind : ReportKind} {records : List Record} {entry : Entry}
    (h : entry ∈ (kind.report records).1.entries) :
    ∃ place record, records[place]? = some record ∧ kind.keeps record = true ∧
      (Report.entryOf kind.title kind.schema place record).1 = entry := by
  rw [report_entries] at h
  have hentries : Report.OneEach (kind.keeps · = true)
      (fun place record entry => (Report.entryOf kind.title kind.schema place record).1 = entry) 0
      records (Report.entriesFrom kind.title kind.schema kind.keeps 0 records).1 :=
    Report.oneEach_entriesFrom (fun _ _ => Iff.rfl) (fun _ _ _ => rfl) 0
  obtain ⟨place, record, hplace, hkeep, hentry⟩ := hentries.exists_of_mem h
  rw [Nat.zero_add] at hentry
  exact ⟨place, record, hplace, hkeep, hentry⟩

/-! ## Independence of the records -/

/-- The entries of a longer list of records. -/
theorem report_entries_append (kind : ReportKind) (a b : List Record) :
    (kind.report (a ++ b)).1.entries =
      (kind.report a).1.entries ++ (kind.report b).1.entries.map (·.shift a.length) := by
  rw [report_entries, report_entries, report_entries, Report.entriesFrom_append,
    Report.entriesFrom_shift]

/-- A count that does not look at indices is the same for shifted entries. -/
theorem countP_map_shift {p : Entry → Bool} {n : Nat} (hp : ∀ entry, p (entry.shift n) = p entry)
    (entries : List Entry) : (entries.map (·.shift n)).countP p = entries.countP p := by
  rw [List.countP_map]
  congr 1
  funext entry
  exact hp entry

/-- The counts of a longer list of records are the sums of the counts. -/
theorem report_summary_append (kind : ReportKind) (a b : List Record) :
    (kind.report (a ++ b)).1.summary =
      { scanned := (kind.report a).1.summary.scanned + (kind.report b).1.summary.scanned
        matched := (kind.report a).1.summary.matched + (kind.report b).1.summary.matched
        rendered := (kind.report a).1.summary.rendered + (kind.report b).1.summary.rendered
        failed := (kind.report a).1.summary.failed + (kind.report b).1.summary.failed } := by
  have hfailed : ∀ entry : Entry, (entry.shift a.length).isFailed = entry.isFailed :=
    Entry.isFailed_shift a.length
  have hrendered : ∀ entry : Entry, (!(entry.shift a.length).isFailed) = !entry.isFailed := by
    intro entry
    rw [hfailed entry]
  simp only [Report.summary, report_entries_append, report_scanned, List.length_append,
    List.length_map, List.countP_append]
  rw [countP_map_shift hrendered, countP_map_shift hfailed]

/-- **Records do not influence one another.** The report on a longer list joins the reports on its
parts, with the failures of the second part counted on and the counts added up. In every report the
failures are numbered in increasing order by places of the input, the counts fit together, and the
log is one warning for each failure followed by the counts. -/
theorem report_independent (kind : ReportKind) :
    (∀ a b : List Record,
      let whole := (kind.report (a ++ b)).1
      let first := (kind.report a).1
      let second := (kind.report b).1
      whole.entries = first.entries ++ second.entries.map (·.shift a.length) ∧
        whole.title = first.title ∧ whole.title = second.title ∧
        whole.columns = first.columns ∧ whole.columns = second.columns ∧
        whole.summary =
          { scanned := first.summary.scanned + second.summary.scanned
            matched := first.summary.matched + second.summary.matched
            rendered := first.summary.rendered + second.summary.rendered
            failed := first.summary.failed + second.summary.failed }) ∧
      ∀ records : List Record,
        let report := (kind.report records).1
        let counts := report.summary
        (report.entries.filterMap Entry.failedAt?).Pairwise (· < ·) ∧
          (∀ index ∈ report.entries.filterMap Entry.failedAt?, index < counts.scanned) ∧
          counts.scanned = records.length ∧
          counts.matched = counts.rendered + counts.failed ∧ counts.matched ≤ counts.scanned ∧
          (kind.report records).2 =
            report.entries.filterMap (Entry.warning? report.title) ++
              [⟨.detail, report.title ++ ": " ++ toString counts.matched ++ " of " ++
                toString counts.scanned ++ " records matched"⟩] := by
  constructor
  · intro a b
    refine ⟨kind.report_entries_append a b, ?_, ?_, ?_, ?_, kind.report_summary_append a b⟩
    · rw [report_title, report_title]
    · rw [report_title, report_title]
    · rw [report_columns, report_columns]
    · rw [report_columns, report_columns]
  · intro records
    have hplaces := Report.failedAt?_sublist_range' kind.title kind.schema kind.keeps 0 records
    rw [← report_entries] at hplaces
    refine ⟨?_, ?_, kind.report_scanned records, (kind.report records).1.matched_eq, ?_, ?_⟩
    · -- A part of the places in order is in order.
      exact List.Pairwise.sublist hplaces (List.pairwise_lt_range' 1)
    · intro index hindex
      obtain ⟨-, hlt⟩ := List.mem_range'_1.1 (hplaces.mem hindex)
      rw [Nat.zero_add] at hlt
      rw [Report.summary, report_scanned]
      exact hlt
    · rw [Report.summary, report_scanned, report_entries]
      exact Report.length_entriesFrom_le kind.title kind.schema kind.keeps 0 records
    · rw [report_log, Report.summary, report_scanned, report_title]

end ReportKind

end SynthReport
