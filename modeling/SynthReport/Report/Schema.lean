import SynthReport.Record
import SynthReport.Report.Basic

/-! # Rows by schema

A kind of report is a list of columns, each with its label and the value it takes from a record.

* **`Column.row`** — the row of a record: the value of every column in order, rounded to the places
  of ordinary cells; the first column that fails is the failure of the row.
* **`Report.generate`** — the report on the records that are kept, with what is logged on the way.
  A failed row does not stop the run. -/

namespace SynthReport

/-- Places of an ordinary number. -/
def ordinaryPlaces : Nat := 2

/-- Places of a derivability time. -/
def timePlaces : Nat := 3

/-- **A column of a schema.** -/
structure Column where
  label : String
  value : Record → Except RowError Cell

/-- **The row of a record**, or the failure of its first column that has one. -/
def Column.row (schema : List Column) (record : Record) : Except RowError Row :=
  schema.mapM fun column => do
    let cell ← column.value record
    return (column.label, cell.rounded ordinaryPlaces)

/-- How much a logged line matters. -/
inductive LogLevel where
  | warning
  | detail
deriving DecidableEq

/-- **A logged line.** -/
structure LogLine where
  level : LogLevel
  message : String
deriving DecidableEq

namespace Report

/-- The entry of a record that is kept, and the line logged for it if it fails. -/
def entryOf (title : String) (schema : List Column) (index : Nat) (record : Record) :
    Entry × List LogLine :=
  match Column.row schema record with
  | .ok row => (.built row, [])
  | .error error =>
    (.failed index error,
      [⟨.warning, title ++ ": record " ++ toString index ++ " skipped: " ++ error.message⟩])

/-- The entries of the records that are kept, counted from an index, and the lines logged for
them. -/
def entriesFrom (title : String) (schema : List Column) (keep : Record → Bool) (index : Nat) :
    List Record → List Entry × List LogLine
  | [] => ([], [])
  | record :: rest =>
    let (entries, lines) := entriesFrom title schema keep (index + 1) rest
    if keep record then
      let (entry, logged) := entryOf title schema index record
      (entry :: entries, logged ++ lines)
    else (entries, lines)

/-- **The report on the records that are kept**, and the lines logged in order. -/
def generate (title : String) (schema : List Column) (keep : Record → Bool)
    (records : List Record) : Report × List LogLine :=
  let (entries, lines) := entriesFrom title schema keep 0 records
  let report : Report :=
    { title, columns := schema.map (·.label), entries, scanned := records.length }
  let counts :=
    title ++ ": " ++ toString entries.length ++ " of " ++ toString records.length ++
      " records matched"
  (report, lines ++ [⟨.detail, counts⟩])

end Report

end SynthReport
