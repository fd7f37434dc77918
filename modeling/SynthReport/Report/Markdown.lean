import SynthReport.Report.Basic

/-! # Reports in Markdown

* **`Report.markdownCell`** — a text that stays inside one cell of a pipe table;
* **`Report.markdownTable`** — the table: a header, a rule, and one line for each entry;
* **`Report.markdown`** — the whole document, with the counts above the table. -/

namespace SynthReport.Report

/-- What stands for a line break inside a cell. -/
def breakTag : List Char := "<br />".toList

/-- The characters of a cell: pipes are escaped, and a line feed, with or without a carriage return
in front, becomes a tag. -/
def escapeCell : List Char → List Char
  | [] => []
  | '\r' :: '\n' :: rest => breakTag ++ escapeCell rest
  | c :: rest =>
    (if c = '|' then ['\\', '|'] else if c = '\n' then breakTag else [c]) ++ escapeCell rest

/-- **A text inside a cell of a pipe table.** -/
def markdownCell (text : String) : String := String.ofList (escapeCell text.toList)

/-- The cells of a line of the table, each with a space on both sides. -/
def tableLine (cells : List String) : String := "| " ++ " | ".intercalate cells ++ " |\n"

/-- What a failed entry shows in its first cell. -/
def failureText (record : Nat) (error : RowError) : String :=
  "⚠ record " ++ toString record ++ ": " ++ error.message

/-- The cells of an entry. A failed one fills the other columns with dashes. -/
def entryCells (columns : Nat) : Entry → List String
  | .built row => row.map fun (_, cell) => markdownCell cell.display
  | .failed record error =>
    markdownCell (failureText record error) :: List.replicate (columns - 1) "-"

/-- **The pipe table of a report.** -/
def markdownTable (report : Report) : String :=
  tableLine (report.columns.map markdownCell) ++
    ("|" ++ String.join (List.replicate report.columns.length "---|") ++ "\n") ++
    String.join (report.entries.map fun entry =>
      tableLine (entryCells report.columns.length entry))

/-- **The Markdown document of a report**, generated at a given time. -/
def markdown (report : Report) (time : String) : String :=
  let counts := report.summary
  "# " ++ report.title ++ "\n\n" ++
  "Generated " ++ time ++ "\n\n" ++
  "## Summary\n\n" ++
  "- Records scanned: " ++ toString counts.scanned ++ "\n" ++
  "- Matched: " ++ toString counts.matched ++ "\n" ++
  "- ✓ Rendered: " ++ toString counts.rendered ++ "\n" ++
  "- ⚠ Failed: " ++ toString counts.failed ++ "\n\n" ++
  "## Results\n\n" ++
  report.markdownTable

end SynthReport.Report
