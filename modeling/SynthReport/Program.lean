import SynthReport.CommandLine.Arguments
import SynthReport.CommandLine.Help
import SynthReport.Console.Card
import SynthReport.Files.Tree
import SynthReport.Plan
import SynthReport.Record.Load
import SynthReport.Report.Document
import SynthReport.Report.Markdown

/-! # The program

The steps of a run, over any host that has files and two streams of output:

1. read the arguments and check the options;
2. make a plan and load the records;
3. print the report, write the exports, print the counts.

Each of the first steps may end the run; nothing is written before the records are loaded. An
export that cannot be written is only warned of.

* **`Host`** — what a run needs of its surroundings;
* **`program`** — the run, with its exit code;
* **`World`**, **`run`** — the run on a file tree, as a function. -/

namespace SynthReport

/-- **What a run needs of its surroundings.** -/
structure Host (m : Type → Type) where
  /-- A path names a file. -/
  isFile : String → m Bool
  /-- The content of the file at a path. -/
  readFile : String → m (Except FileError ByteArray)
  /-- The file at a path created or overwritten with a document. -/
  writeFile : String → String → m (Except FileError Unit)
  /-- Text for the stream of results. -/
  print : String → m Unit
  /-- Text for the stream of warnings. -/
  warn : String → m Unit
  /-- A line for the log. -/
  log : LogLine → m Unit
  /-- The time of day, as exports show it. -/
  time : m String

/-- **The formats of exports.** -/
inductive ExportFormat where
  | markdown
  | json
deriving DecidableEq

namespace ExportFormat

/-- The format at the start of a sentence. -/
def title : ExportFormat → String
  | markdown => "Markdown"
  | json => "JSON"

/-- The format within a sentence. -/
def name : ExportFormat → String
  | markdown => "markdown"
  | json => "JSON"

/-- **The document of a report.** -/
def document : ExportFormat → Report → String → String
  | markdown => Report.markdown
  | json => Report.jsonDocument

end ExportFormat

/-- The console width without an option. -/
def defaultConsoleWidth : Nat := 120

namespace Host

variable {m : Type → Type} [Monad m] (host : Host m)

/-- Lines logged in order. -/
def logAll : List LogLine → m Unit
  | [] => pure ()
  | line :: rest => do
    host.log line
    logAll rest

/-- **The plan for some options**, after a look at the input. -/
def plan (options : Options) : m (Except PlanError Plan) := do
  let inputIsFile ← host.isFile options.input
  let (plan, lines) := Plan.ofOptions options inputIsFile
  host.logAll lines
  return plan

/-- The records in the content of a file that was read, or why there are none. -/
def recordsOf (path : String) : Except FileError ByteArray → Except LoadError (List Record)
  | .ok bytes => Record.parseFile path bytes
  | .error error => .error (.unreadable path error.message)

/-- **The records of the file at a path.** -/
def load (path : String) : m (Except LoadError (List Record)) := do
  host.log ⟨.detail, "Loading experiment records from " ++ quoted path⟩
  let records := recordsOf path (← host.readFile path)
  match records with
  | .ok list => host.log ⟨.detail, "Loaded " ++ toString list.length ++ " records"⟩
  | .error _ => pure ()
  return records

/-- The report of a plan, with its log. -/
def generate (plan : Plan) (records : List Record) : m Report := do
  let (report, lines) := plan.generate records
  host.logAll lines
  return report

/-- **An export**, if a path is given for it. One that cannot be written is warned of. -/
def exportTo (format : ExportFormat) (path : Option String) (report : Report) : m Unit := do
  match path with
  | none => pure ()
  | some path =>
    let document := format.document report (← host.time)
    -- A document that cannot be written does not end the run.
    match ← host.writeFile path document with
    | .ok _ => host.print (format.title ++ " report saved to: " ++ path ++ "\n")
    | .error error =>
      host.warn ("Warning: Failed to save " ++ format.name ++ " report: " ++ error.message ++ "\n")

/-- An error in colour, which ends the run. -/
def fail (message : String) : m Nat := do
  host.print (Screen.error ⟨true, .ofConsole defaultConsoleWidth []⟩ message)
  return 1

/-- **A report printed and exported**, then its counts. -/
def present (plan : Plan) (consoleWidth : Nat) (report : Report) : m Unit := do
  let screen : Screen := ⟨true, .ofConsole consoleWidth report.columns⟩
  if plan.printTable then host.print (screen.report report)
  host.exportTo .markdown plan.markdownOutput report
  host.exportTo .json plan.jsonOutput report
  host.print (screen.summary report.summary)

/-- The run once there are options. -/
def runOptions (options : Options) : m Nat := do
  match options.problem? with
  | some problem => host.fail problem.message
  | none =>
    match ← host.plan options with
    | .error error => host.fail ("Configuration error: " ++ error.message)
    | .ok plan =>
      match ← host.load plan.input with
      | .error error => host.fail ("Could not load experiment records: " ++ error.message)
      | .ok records =>
        let report ← host.generate plan records
        host.present plan (options.consoleWidth.getD defaultConsoleWidth) report
        return 0

end Host

/-- **The run**, with its exit code: zero if there was a report, help or a version to show, one if
a step failed, and two if the arguments cannot be understood. -/
def program {m : Type → Type} [Monad m] (host : Host m) (arguments : List String) : m Nat := do
  match Options.ofArguments arguments with
  | .ok options => host.runOptions options
  | .error (.help full) =>
    host.print (helpText full)
    return 0
  | .error .version =>
    host.print versionText
    return 0
  | .error (.usage error) =>
    host.warn ("error: " ++ error.message ++ "\n")
    return 2

/-! ## Runs on a file tree -/

/-- **What a run has to do with**: files, what it has printed and logged, and the time. -/
structure World (home : List String := workingDirectory) where
  files : FileTree home
  time : String
  printed : String := ""
  warned : String := ""
  log : List LogLine := []

/-- The host of a file tree. -/
def World.host {home : List String} : Host (StateM (World home)) where
  isFile path := return (← get).files.isFile path
  readFile path := return (← get).files.read path
  writeFile path document := do
    let world ← get
    match world.files.write path document.toUTF8 with
    | .ok files =>
      set { world with files }
      return .ok ()
    | .error error => return .error error
  print text := modify fun world => { world with printed := world.printed ++ text }
  warn text := modify fun world => { world with warned := world.warned ++ text }
  log line := modify fun world => { world with log := world.log ++ [line] }
  time := return (← get).time

/-- **The program as a function**: its exit code, and the world after it. -/
def run {home : List String} (arguments : List String) (files : FileTree home) (time : String) :
    Nat × World home :=
  (program World.host arguments).run { files, time }

end SynthReport
