import SynthReport.CommandLine.Options
import SynthReport.Report.Baseline
import SynthReport.Report.Variant
import SynthReport.Text.Quoted

/-! # Plans

A plan is what is left of the options once it is clear that there are records to read.

* **`ReportKind`** — which report, with its parameter;
* **`Plan`** — the report and where it goes;
* **`Plan.ofOptions`** — the plan for some options, with what is logged;
* **`Plan.generate`** — the report of the plan. -/

namespace SynthReport

/-- **Which report to generate.** -/
inductive ReportKind where
  | baseline (name : String)
  | variant
deriving DecidableEq

/-- The kind as it is logged. -/
def ReportKind.logText : ReportKind → String
  | baseline name => "Baseline \x7b name: " ++ quoted name ++ " \x7d"
  | variant => "Variant"

/-- **What a run does.** -/
structure Plan where
  kind : ReportKind
  input : String
  markdownOutput : Option String
  jsonOutput : Option String
  printTable : Bool
deriving DecidableEq

/-- **Why there is no plan.** -/
inductive PlanError where
  /-- The input is not a file. -/
  | noRecords (input : String)
deriving DecidableEq

/-- The wording of a failed plan. -/
def PlanError.message : PlanError → String
  | noRecords input =>
    "records file not found: " ++ input ++
      " (pass --input <PATH> to point at the nightly output)"

namespace Plan

/-- The report that is chosen. -/
def kindOf (options : Options) : ReportKind :=
  match options.report with
  | .baseline => .baseline options.baseline
  | .variant => .variant

/-- What is logged before the options are looked at. -/
def opening : LogLine := ⟨.detail, "Building report plan from CLI args"⟩

/-- What is logged of a plan. -/
def announcement (kind : ReportKind) (input : String) : LogLine :=
  ⟨.detail, "Report: " ++ kind.logText ++ " from " ++ quoted input⟩

/-- **The plan for some options**, given whether their input is a file, and what is logged. -/
def ofOptions (options : Options) (inputIsFile : Bool) : Except PlanError Plan × List LogLine :=
  let kind := kindOf options
  if inputIsFile then
    (.ok {
      kind
      input := options.input
      markdownOutput := options.markdownOutput
      jsonOutput := options.jsonOutput
      printTable := !options.quiet },
      [opening, announcement kind options.input])
  else (.error (.noRecords options.input), [opening])

/-- **The report of a plan**, and what is logged for it. -/
def generate (plan : Plan) (records : List Record) : Report × List LogLine :=
  match plan.kind with
  | .baseline name => Report.baseline name records
  | .variant => Report.variant records

end Plan

end SynthReport
