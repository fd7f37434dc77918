import SynthReport.Report.Basic

/-! # Reports in JSON

A report is one JSON object; its rows keep the order of their columns, and a failed row becomes the
index of its record with the reason. -/

namespace SynthReport

/-- A count as a JSON number. -/
def Json.count (n : Nat) : Json := .number (.integer n)

/-- A row as an object with its labels as keys, or the failure of its record. -/
def Entry.toJson : Entry → Json
  | built row => .object (row.map fun (label, cell) => (label, cell.toJson))
  | failed record error =>
    .object [("record", .count record), ("error", .string error.message)]

/-- The four counts as an object. -/
def Summary.toJson (counts : Summary) : Json :=
  .object [
    ("scanned", .count counts.scanned),
    ("matched", .count counts.matched),
    ("rendered", .count counts.rendered),
    ("failed", .count counts.failed)]

namespace Report

/-- The report as a JSON value, generated at a given time. -/
def toJson (report : Report) (time : String) : Json :=
  .object [
    ("title", .string report.title),
    ("generated_at", .string time),
    ("columns", .array (report.columns.map .string)),
    ("summary", report.summary.toJson),
    ("rows", .array (report.entries.map Entry.toJson))]

/-- **The JSON document of a report.** -/
def jsonDocument (report : Report) (time : String) : String := (report.toJson time).pretty

end Report

end SynthReport
