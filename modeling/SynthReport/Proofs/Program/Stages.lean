import SynthReport.Program

/-! # The stages of a run on a file tree

Each stage of a run is an action on a world. Here is what each of them gives and the world that it
leaves.

* **`World.printing`**, **`World.warning`**, **`World.logging`** — a world with more output;
* **`World.exported`**, **`World.presented`** — the world after an export, and after a report;
* **`run_exportTo`**, **`run_present`** and their companions — the stages as functions;
* **`runOptions_of_problem`**, **`runOptions_of_no_file`**, **`runOptions_of_unloadable`**,
  **`runOptions_of_records`** — the four ways in which a run with options goes;
* **`run_of_usage`**, **`run_of_help`**, **`run_of_version`**, **`run_of_options`** — the four ways
  in which any run starts. -/

namespace SynthReport

variable {home : List String}

/-- The plan for options whose input is a file. -/
def Options.plan (options : Options) : Plan where
  kind := Plan.kindOf options
  input := options.input
  markdownOutput := options.markdownOutput
  jsonOutput := options.jsonOutput
  printTable := !options.quiet

@[simp] theorem Options.input_plan (options : Options) : options.plan.input = options.input := rfl

/-- Such options have that plan. -/
theorem Plan.ofOptions_true (options : Options) :
    Plan.ofOptions options true =
      (.ok options.plan, [Plan.opening, Plan.announcement (Plan.kindOf options) options.input]) :=
  rfl

namespace World

/-! ## Worlds with more output -/

/-- The world with more printed. -/
def printing (world : World home) (text : String) : World home :=
  { world with printed := world.printed ++ text }

/-- The world with more warnings. -/
def warning (world : World home) (text : String) : World home :=
  { world with warned := world.warned ++ text }

/-- The world with more logged. -/
def logging (world : World home) (lines : List LogLine) : World home :=
  { world with log := world.log ++ lines }

/-- The world after an error that ends the run. -/
def failing (world : World home) (message : String) : World home :=
  world.printing (Screen.error ⟨true, .ofConsole defaultConsoleWidth []⟩ message)

section Projections

variable (world : World home) (text : String) (lines : List LogLine)

@[simp] theorem files_printing : (world.printing text).files = world.files := rfl

@[simp] theorem printed_printing : (world.printing text).printed = world.printed ++ text := rfl

@[simp] theorem time_printing : (world.printing text).time = world.time := rfl

@[simp] theorem files_warning : (world.warning text).files = world.files := rfl

@[simp] theorem files_logging : (world.logging lines).files = world.files := rfl

@[simp] theorem files_failing : (world.failing text).files = world.files := rfl

/-- Printing nothing. -/
@[simp] theorem printing_empty : world.printing "" = world := by
  rw [printing, String.append_empty]

/-- Lines logged after others. -/
theorem logging_logging (more : List LogLine) :
    (world.logging lines).logging more = world.logging (lines ++ more) := by
  rw [logging, logging, logging, List.append_assoc]

end Projections

/-- What is logged while records are loaded. -/
def loadLines (path : String) (records : Except LoadError (List Record)) : List LogLine :=
  ⟨.detail, "Loading experiment records from " ++ quoted path⟩ ::
    match records with
    | .ok list => [⟨.detail, "Loaded " ++ toString list.length ++ " records"⟩]
    | .error _ => []

/-- The world after a plan was made and records were looked for. -/
def reading (world : World home) (options : Options) (records : Except LoadError (List Record)) :
    World home :=
  world.logging ([Plan.opening, Plan.announcement (Plan.kindOf options) options.input] ++
    loadLines options.input records)

/-- **The world after an export**, if a path is given for it. -/
def exported (world : World home) (format : ExportFormat) (path : Option String) (report : Report) :
    World home :=
  match path with
  | none => world
  | some path =>
    match world.files.write path (format.document report world.time).toUTF8 with
    | .ok files =>
      { world with files }.printing (format.title ++ " report saved to: " ++ path ++ "\n")
    | .error error =>
      world.warning
        ("Warning: Failed to save " ++ format.name ++ " report: " ++ error.message ++ "\n")

/-- **The world after a report was presented.** -/
def presented (world : World home) (plan : Plan) (consoleWidth : Nat) (report : Report) :
    World home :=
  let screen : Screen := ⟨true, .ofConsole consoleWidth report.columns⟩
  let world := if plan.printTable then world.printing (screen.report report) else world
  let world := world.exported .markdown plan.markdownOutput report
  let world := world.exported .json plan.jsonOutput report
  world.printing (screen.summary report.summary)

end World

/-! ## Actions on a world -/

namespace World

section Actions

variable {α β : Type} (world : World home)

/-- Two actions one after the other. -/
theorem run_bind (first : StateM (World home) α) (second : α → StateM (World home) β) :
    (first >>= second).run world = (second (first.run world).1).run (first.run world).2 := rfl

@[simp] theorem run_print (text : String) :
    (host.print text).run world = ((), world.printing text) := rfl

@[simp] theorem run_warn (text : String) :
    (host.warn text).run world = ((), world.warning text) := rfl

@[simp] theorem run_log (line : LogLine) :
    (host.log line).run world = ((), world.logging [line]) := rfl

@[simp] theorem run_readFile (path : String) :
    (host.readFile path).run world = (world.files.read path, world) := rfl

@[simp] theorem run_time : host.time.run world = (world.time, world) := rfl

/-- A file written, if that is possible. -/
theorem run_writeFile (path document : String) :
    (host.writeFile path document).run world =
      match world.files.write path document.toUTF8 with
      | .ok files => (.ok (), { world with files })
      | .error error => (.error error, world) := by
  have hget : (get : StateM (World home) (World home)).run world = (world, world) := rfl
  rw [host, run_bind, hget]
  dsimp only
  cases world.files.write path document.toUTF8 with
  | ok files => rfl
  | error error => rfl

/-- Lines logged. -/
theorem run_logAll (lines : List LogLine) :
    (host.logAll lines).run world = ((), world.logging lines) := by
  induction lines generalizing world with
  | nil =>
    rw [logging, List.append_nil]
    rfl
  | cons line rest ih =>
    rw [Host.logAll, run_bind, run_log, ih, logging_logging, List.singleton_append]

/-- A plan made. -/
theorem run_plan (options : Options) :
    (host.plan options).run world =
      ((Plan.ofOptions options (world.files.isFile options.input)).1,
        world.logging (Plan.ofOptions options (world.files.isFile options.input)).2) := by
  rw [Host.plan, run_bind]
  change (host.logAll _ >>= fun _ => pure _).run world = _
  rw [run_bind, run_logAll]
  rfl

/-- Records loaded. -/
theorem run_load (path : String) :
    (host.load path).run world =
      (Host.recordsOf path (world.files.read path),
        world.logging (loadLines path (Host.recordsOf path (world.files.read path)))) := by
  rw [Host.load, run_bind, run_bind, run_log, run_readFile, files_logging]
  cases Host.recordsOf path (world.files.read path) with
  | ok list =>
    dsimp only
    rw [run_bind, run_log, logging_logging]
    rfl
  | error error => rfl

/-- A report generated. -/
theorem run_generate (plan : Plan) (records : List Record) :
    (host.generate plan records).run world =
      ((plan.generate records).1, world.logging (plan.generate records).2) := by
  rw [Host.generate]
  change (host.logAll _ >>= fun _ => pure _).run world = _
  rw [run_bind, run_logAll]
  rfl

/-- **An export.** -/
theorem run_exportTo (format : ExportFormat) (path : Option String) (report : Report) :
    (host.exportTo format path report).run world =
      ((), world.exported format path report) := by
  cases path with
  | none => rfl
  | some path =>
    rw [Host.exportTo.eq_2, run_bind, run_bind, run_time, run_writeFile, exported]
    dsimp only
    cases world.files.write path (format.document report world.time).toUTF8 with
    | ok files => rfl
    | error error => rfl

/-- **A report presented.** -/
theorem run_present (plan : Plan) (consoleWidth : Nat) (report : Report) :
    (host.present plan consoleWidth report).run world =
      ((), world.presented plan consoleWidth report) := by
  rw [Host.present, presented]
  dsimp only
  split
  · rw [run_bind, run_print, run_bind, run_exportTo, run_bind, run_exportTo, run_print]
  · rw [run_bind, run_exportTo, run_bind, run_exportTo, run_print]

end Actions

/-! ## Runs with options -/

section Options

variable (world : World home) {options : Options}

/-- The options are refused. -/
theorem runOptions_of_problem {problem : Options.Problem} (h : options.problem? = some problem) :
    (host.runOptions options).run world = (1, world.failing problem.message) := by
  rw [Host.runOptions, h]
  rfl

/-- The input is not a file. -/
theorem runOptions_of_no_file (h : options.problem? = none)
    (hfile : world.files.isFile options.input = false) :
    (host.runOptions options).run world =
      (1, (world.logging [Plan.opening]).failing
        ("Configuration error: " ++ (PlanError.noRecords options.input).message)) := by
  rw [Host.runOptions, h]
  dsimp only
  rw [run_bind, run_plan, hfile]
  rfl

/-- The input file does not hold records. -/
theorem runOptions_of_unloadable {error : LoadError} (h : options.problem? = none)
    (hfile : world.files.isFile options.input = true)
    (hload : Host.recordsOf options.input (world.files.read options.input) = .error error) :
    (host.runOptions options).run world =
      (1, (world.reading options (.error error)).failing
        ("Could not load experiment records: " ++ error.message)) := by
  rw [Host.runOptions, h]
  dsimp only
  rw [run_bind, run_plan, hfile, Plan.ofOptions_true]
  dsimp only
  rw [run_bind, run_load, files_logging, Options.input_plan, hload, logging_logging]
  rfl

/-- **There are records**, and the report is presented. -/
theorem runOptions_of_records {records : List Record} (h : options.problem? = none)
    (hfile : world.files.isFile options.input = true)
    (hload : Host.recordsOf options.input (world.files.read options.input) = .ok records) :
    (host.runOptions options).run world =
      (0, ((world.reading options (.ok records)).logging
        (options.plan.generate records).2).presented options.plan
          (options.consoleWidth.getD defaultConsoleWidth) (options.plan.generate records).1) := by
  rw [Host.runOptions, h]
  dsimp only
  rw [run_bind, run_plan, hfile, Plan.ofOptions_true]
  dsimp only
  rw [run_bind, run_load, files_logging, Options.input_plan, hload, logging_logging]
  dsimp only
  rw [run_bind, run_generate, run_bind, run_present]
  rfl

end Options

end World

/-! ## Whole runs -/

section Run

variable {arguments : List String} (files : FileTree home) (time : String)

/-- The world in which a run starts. -/
def World.initial : World home := { files, time }

@[simp] theorem World.files_initial : (World.initial files time).files = files := rfl

/-- The arguments cannot be understood. -/
theorem run_of_usage {error : UsageError}
    (h : Options.ofArguments arguments = .error (.usage error)) :
    run arguments files time =
      (2, (World.initial files time).warning ("error: " ++ error.message ++ "\n")) := by
  rw [run, program, h]
  rfl

/-- Help is asked for. -/
theorem run_of_help {full : Bool} (h : Options.ofArguments arguments = .error (.help full)) :
    run arguments files time = (0, (World.initial files time).printing (helpText full)) := by
  rw [run, program, h]
  rfl

/-- The version is asked for. -/
theorem run_of_version (h : Options.ofArguments arguments = .error .version) :
    run arguments files time = (0, (World.initial files time).printing versionText) := by
  rw [run, program, h]
  rfl

/-- **There are options.** -/
theorem run_of_options {options : Options} (h : Options.ofArguments arguments = .ok options) :
    run arguments files time =
      (World.host.runOptions options).run (World.initial files time) := by
  rw [run, program, h]
  rfl

end Run

end SynthReport
