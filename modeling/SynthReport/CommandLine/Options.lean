import SynthReport.Files.Path
import SynthReport.Text.Blank

/-! # Options of a run

* **`Options`** — what the command line asks for, with a default for everything it leaves out;
* **`Options.Problem`** — combinations of options that make no sense, with their wording;
* **`Options.problem?`** — the first problem, if there is one. -/

namespace SynthReport

/-- **The two reports.** -/
inductive ReportChoice where
  | baseline
  | variant
deriving DecidableEq

/-- **What a run is asked for.** -/
structure Options where
  input : String := "nightly/data/output.json"
  report : ReportChoice := .baseline
  baseline : String := "oopsla"
  markdownOutput : Option String := none
  jsonOutput : Option String := none
  consoleWidth : Option Nat := none
  quiet : Bool := false
deriving DecidableEq

namespace Options

/-- **Why a combination of options is refused.** -/
inductive Problem where
  | blankBaseline
  | narrowConsole (width : Nat)
  | sameOutput (path : String)
  | nothingToReport
deriving DecidableEq

/-- **The wording of a refusal.** -/
def Problem.message : Problem → String
  | blankBaseline => "--baseline must not be empty"
  | narrowConsole width => "--console-width must be at least 40 (got " ++ toString width ++ ")"
  | sameOutput path => "--output-markdown and --output-json both point to " ++ path
  | nothingToReport =>
    "--quiet needs --output-markdown or --output-json, otherwise nothing is reported"

/-- The narrowest console. -/
def minConsoleWidth : Nat := 40

/-- The outputs go to one file, as far as the components of their paths tell. -/
def sameOutput? (options : Options) : Option String := do
  let markdown ← options.markdownOutput
  let json ← options.jsonOutput
  if pathComponents markdown = pathComponents json then some markdown else none

/-- **The first problem of the options.** -/
def problem? (options : Options) : Option Problem :=
  if options.report = .baseline ∧ isBlank options.baseline then some .blankBaseline
  else
    match options.consoleWidth.filter (· < minConsoleWidth), options.sameOutput? with
    | some width, _ => some (.narrowConsole width)
    | none, some path => some (.sameOutput path)
    | none, none =>
      if options.quiet ∧ options.markdownOutput = none ∧ options.jsonOutput = none then
        some .nothingToReport
      else none

end Options

end SynthReport
