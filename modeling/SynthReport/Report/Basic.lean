import SynthReport.Cell
import SynthReport.RowError

/-! # Reports

A report holds one entry for each record that it is about: a finished row, or the reason why that
record has none.

* **`Row`** — labelled cells in column order;
* **`Entry`** — a row or a failure with the index of its record;
* **`Report`** — title, columns, entries and how many records were scanned;
* **`Report.summary`** — the four counts, with `matched = rendered + failed`. -/

namespace SynthReport

/-- **A finished row**: labels and cells in column order. -/
abbrev Row : Type := List (String × Cell)

/-- **What became of one matching record.** -/
inductive Entry where
  | built (row : Row)
  /-- The record at this index of the input has no row. -/
  | failed (record : Nat) (error : RowError)
deriving DecidableEq

namespace Entry

/-- The entry stands for a record without a row. -/
def isFailed : Entry → Bool
  | built _ => false
  | failed .. => true

end Entry

/-- **A report.** -/
structure Report where
  title : String
  columns : List String
  entries : List Entry
  /-- How many records were examined, whether they matched or not. -/
  scanned : Nat
deriving DecidableEq

/-- **The counts of a report.** -/
structure Summary where
  scanned : Nat
  matched : Nat
  rendered : Nat
  failed : Nat
deriving DecidableEq

/-- The counts of a report, each taken from its entries. -/
def Report.summary (report : Report) : Summary where
  scanned := report.scanned
  matched := report.entries.length
  rendered := report.entries.countP (!·.isFailed)
  failed := report.entries.countP (·.isFailed)

/-- Every entry is either rendered or failed. -/
theorem Report.matched_eq (report : Report) :
    report.summary.matched = report.summary.rendered + report.summary.failed := by
  unfold summary
  dsimp only
  induction report.entries with
  | nil => rfl
  | cons entry rest ih =>
    rw [List.length_cons, List.countP_cons, List.countP_cons, ih]
    cases entry.isFailed <;> simp <;> omega

end SynthReport
