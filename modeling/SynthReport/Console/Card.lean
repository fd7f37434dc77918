import SynthReport.Console.Widths
import SynthReport.Report.Basic
import SynthReport.Text.Fitted
import SynthReport.Text.Lines

/-! # Reports on the console

Each entry is a card of `label │ value` lines; a cell of several lines goes on under an empty label.
Failures stand out in colour, if there are colours.

* **`Screen`** — how to draw: with or without colours, and how wide;
* **`Screen.report`** — a whole report: its title and the cards of its entries;
* **`Screen.summary`** — the counts;
* **`Screen.error`** — a message behind the word `error`. -/

namespace SynthReport

/-- A colour of the console. -/
inductive Colour where
  | brightRed
  | brightYellow
deriving DecidableEq

/-- The code that sets a colour. -/
def Colour.code : Colour → String
  | brightRed => "91"
  | brightYellow => "93"

/-- **How to draw.** -/
structure Screen where
  colours : Bool
  widths : CardWidths

namespace Screen

variable (screen : Screen)

/-- A text in colour, reset at its end. -/
def coloured (colour : Colour) (text : String) : String :=
  if screen.colours then "\x1b[" ++ colour.code ++ "m" ++ text ++ "\x1b[0m" else text

/-- A line of dashes between three corners. -/
def border (left middle right : String) : String :=
  left ++ String.ofList (List.replicate screen.widths.label '─') ++ middle ++
    String.ofList (List.replicate screen.widths.value '─') ++ right ++ "\n"

/-- A label and a value between borders, without the end of the line. -/
def content (label value : String) : String :=
  "│ " ++ fitted label (screen.widths.label - 2) ++ " │ " ++
    fitted value (screen.widths.value - 2) ++ " │"

/-- A line of a card. -/
def line (label value : String) : String := screen.content label value ++ "\n"

/-- The lines of a cell; an empty one has one line. -/
def cell (label : String) (cell : Cell) : String :=
  match lines cell.display with
  | [] => screen.line label ""
  | first :: rest => screen.line label first ++ String.join (rest.map (screen.line ""))

/-- **The lines of a row.** -/
def row (row : Row) : String := String.join (row.map fun (label, c) => screen.cell label c)

/-- **The line of a record without a row.** -/
def failure (record : Nat) (message : String) : String :=
  screen.coloured .brightRed (screen.content ("⚠ record " ++ toString record) message) ++ "\n"

/-- The card of an entry. -/
def entry : Entry → String
  | .built r => screen.row r
  | .failed record error => screen.failure record error.message

/-- **The title of a report.** -/
def title (report : Report) : String :=
  "\n" ++ report.title ++ " (" ++ toString report.entries.length ++ " of " ++
    toString report.scanned ++ " records)\n\n"

/-- **A whole report.** -/
def report (report : Report) : String :=
  title report ++
    if report.entries = [] then "No matching records.\n"
    else
      screen.border "┌" "┬" "┐" ++
        (screen.border "├" "┼" "┤").intercalate (report.entries.map screen.entry) ++
        screen.border "└" "┴" "┘"

/-- **An error message.** -/
def error (message : String) : String :=
  screen.coloured .brightRed "error" ++ ": " ++ message ++ "\n"

/-- **The counts of a report.** Failures are mentioned only if there are any. -/
def summary (counts : Summary) : String :=
  "\n=== Summary ===\n" ++
  "Scanned:   " ++ toString counts.scanned ++ "\n" ++
  "Matched:   " ++ toString counts.matched ++ "\n" ++
  "✓ Rendered: " ++ toString counts.rendered ++ "\n" ++
  if counts.failed = 0 then ""
  else screen.coloured .brightYellow ("⚠ Failed:   " ++ toString counts.failed) ++ "\n"

end Screen

end SynthReport
