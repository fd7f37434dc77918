import SynthReport.Proofs.Files.Places
import SynthReport.Proofs.Program.Frame

/-! # Exports of a run

A run reads one file and writes up to two, and it does not compare the places that its paths lead
to. So it keeps its own data unless two of these paths lead to the same file.

* **`FileTree.SameFile`** — two paths that lead to one file, by **`FileTree.sameFile_iff`** whatever
  their spelling;
* **`FileTree.find_eq_file_iff`** — what is found as a file stands where the path leads for writing;
* **`FileTree.exported`**, **`FileTree.exportText`** — the files after an export, and what is
  printed of it;
* **`FileTree.find_exported`** — an export that is reported as saved is found in full;
* **`run_of_areServed`** — the files and the output of a run that gets as far as a report;
* **`run_keeps_data`** — what such a run keeps, and what it loses in **`run_loses_data`**. -/

namespace SynthReport

variable {home : List String}

/-! ## Files and the paths that lead to them -/

namespace FileTree

variable {tree before after : FileTree home} {path other : String} {content : ByteArray}

/-- **Two paths lead to the same file**, or to the same place for one. -/
def SameFile (tree : FileTree home) (path other : String) : Prop :=
  ∃ place, tree.target path = .ok place ∧ tree.target other = .ok place

/-- **The spelling of paths does not matter**: where they lead to places for files, those are the
same exactly if the paths stand for the same names from the root. -/
theorem sameFile_iff (hhome : ".." ∉ home) :
    tree.SameFile path other ↔ (∃ place, tree.target path = .ok place) ∧
      (∃ place, tree.target other = .ok place) ∧ resolved home path = resolved home other := by
  constructor
  · rintro ⟨place, hpath, hother⟩
    refine ⟨⟨place, hpath⟩, ⟨place, hother⟩, ?_⟩
    exact Place.way_injective (dots_not_mem_resolved hhome path) (dots_not_mem_resolved hhome other)
      ((target_eq_way hhome hpath).symm.trans (target_eq_way hhome hother))
  · rintro ⟨⟨place, hpath⟩, ⟨place', hother⟩, hresolved⟩
    have hsame : place' = place := by
      rw [target_eq_way hhome hpath, target_eq_way hhome hother, hresolved]
    exact ⟨place, hpath, hsame ▸ hother⟩

/-- A file may be named by a path that leaves the working directory and comes back, or by one from
the root. -/
example : (⟨[(["d.json"], .file "[]".toUTF8)]⟩ : FileTree ["abs", "w"]).SameFile "../w/d.json"
    "/abs/w/d.json" := ⟨["d.json"], rfl, rfl⟩

/-- **A file is found** exactly if it stands where the path leads for writing. -/
theorem find_eq_file_iff :
    tree.find path = .ok (.file content) ↔
      ∃ place, tree.target path = .ok place ∧ tree.at? place = some (.file content) := by
  rw [find, bind_eq_ok_iff]
  simp only [target, bind_eq_ok_iff]
  constructor
  · rintro ⟨⟨directory, name?⟩, hlocate, hfind⟩
    cases name? with
    | none => cases hfind
    | some name =>
      -- The same tests of the last name are made for reading and for writing.
      dsimp only at hfind
      split at hfind
      · cases hfind
      rename_i hdots
      split at hfind
      · cases hfind
      rename_i hlength
      split at hfind
      · cases hfind
      · rename_i hat
        split at hfind
        · cases hfind
        rename_i hslash
        cases hfind
        refine ⟨directory.down home name, ⟨(directory, some name), hlocate, ?_⟩, hat⟩
        dsimp only
        rw [if_neg (not_or_intro hdots hslash), if_neg hlength, hat]
        rfl
      · cases hfind
  · rintro ⟨place, ⟨⟨directory, name?⟩, hlocate, htarget⟩, hat⟩
    refine ⟨(directory, name?), hlocate, ?_⟩
    cases name? with
    | none => cases htarget
    | some name =>
      dsimp only at htarget ⊢
      split at htarget
      · cases htarget
      rename_i hneither
      obtain ⟨hdots, hslash⟩ := not_or.1 hneither
      split at htarget
      · cases htarget
      rename_i hlength
      split at htarget
      · cases htarget
      cases htarget
      rw [if_neg hdots, if_neg hlength, hat]
      dsimp only
      rw [if_neg hslash]
      rfl

/-- It does not matter which of the two comes first. -/
theorem SameFile.symm (h : tree.SameFile path other) : tree.SameFile other path := by
  obtain ⟨place, hpath, hother⟩ := h
  exact ⟨place, hother, hpath⟩

/-- Paths to one file find the same file. -/
theorem SameFile.find_eq (h : tree.SameFile path other)
    (hfind : tree.find path = .ok (.file content)) :
    tree.find other = .ok (.file content) := by
  obtain ⟨place, hpath, hother⟩ := h
  obtain ⟨found, htarget, hat⟩ := find_eq_file_iff.1 hfind
  cases hpath.symm.trans htarget
  exact find_eq_file_iff.2 ⟨place, hother, hat⟩

/-- **A written file is found** at its path. -/
theorem find_of_write (h : before.write path content = .ok after) :
    after.find path = .ok (.file content) := by
  obtain ⟨place, hplace, rfl⟩ := bind_pure_eq_ok_iff.1 h
  have hwritable := writable_of_target hplace
  exact find_eq_file_iff.2
    ⟨place, (target_put_eq_ok_iff hwritable).2 hplace, at?_put_self hwritable⟩

namespace KeptExcept

variable {paths : List String}

/-- Paths that lead to the same file still do, and no others. -/
theorem sameFile_iff (h : KeptExcept paths before after) :
    after.SameFile path other ↔ before.SameFile path other := by
  simp only [SameFile, h.target_eq_ok_iff]

/-- **A file that no path leads to is found as it was.** -/
theorem find_eq (h : KeptExcept paths before after)
    (hother : ∀ other ∈ paths, ¬ before.SameFile other path)
    (hfind : before.find path = .ok (.file content)) : after.find path = .ok (.file content) := by
  obtain ⟨place, htarget, hat⟩ := find_eq_file_iff.1 hfind
  refine find_eq_file_iff.2 ⟨place, (h.target_eq_ok_iff path place).2 htarget, ?_⟩
  rw [h.at?_eq place, hat]
  intro other hmem hplace
  exact hother other hmem ⟨place, hplace, htarget⟩

end KeptExcept

end FileTree

/-! ## One export -/

/-- **The line that reports an export as saved.** -/
def ExportFormat.savedLine (format : ExportFormat) (path : String) : String :=
  format.title ++ " report saved to: " ++ path ++ "\n"

namespace FileTree

variable (files : FileTree home) (time : String) (format : ExportFormat) (report : Report)

/-- **The files after an export**, if a path is given for it. -/
def exported : Option String → FileTree home
  | none => files
  | some path =>
    match files.write path (format.document report time).toUTF8 with
    | .ok after => after
    | .error _ => files

/-- **What is printed of an export**: nothing unless it is saved. -/
def exportText : Option String → String
  | none => ""
  | some path =>
    match files.write path (format.document report time).toUTF8 with
    | .ok _ => format.savedLine path
    | .error _ => ""

/-- No more is printed than the line. -/
theorem length_exportText_le (path : String) :
    (files.exportText time format report (some path)).length ≤ (format.savedLine path).length := by
  rw [exportText]
  split
  · exact Nat.le_refl _
  · exact Nat.zero_le _

/-- **An export that is reported as saved is found in full.** -/
theorem find_exported {path : String}
    (h : (format.savedLine path).length ≤
      (files.exportText time format report (some path)).length) :
    (files.exported time format report (some path)).find path =
      .ok (.file (format.document report time).toUTF8) := by
  rw [exportText] at h
  rw [exported]
  split at h
  · rename_i after hwrite
    exact find_of_write hwrite
  · -- The line is not empty, so something would have been printed.
    exfalso
    rw [ExportFormat.savedLine, String.length_append] at h
    exact Nat.not_succ_le_zero _ h

end FileTree

namespace World

variable (world : World home) (format : ExportFormat) (path : Option String) (report : Report)

/-- The files of a world after an export. -/
theorem files_exported :
    (world.exported format path report).files =
      world.files.exported world.time format report path := by
  cases path with
  | none => rfl
  | some path =>
    rw [exported, FileTree.exported]
    cases world.files.write path (format.document report world.time).toUTF8 <;> rfl

/-- The output of a world after an export. -/
theorem printed_exported :
    (world.exported format path report).printed =
      world.printed ++ world.files.exportText world.time format report path := by
  cases path with
  | none => exact (String.append_empty).symm
  | some path =>
    rw [exported, FileTree.exportText]
    cases world.files.write path (format.document report world.time).toUTF8 with
    | ok files => rfl
    | error error => exact (String.append_empty).symm

/-- An export takes no time. -/
theorem time_exported : (world.exported format path report).time = world.time := by
  cases path with
  | none => rfl
  | some path =>
    rw [exported]
    cases world.files.write path (format.document report world.time).toUTF8 <;> rfl

end World

/-- An export changes no file but the one at its path. -/
theorem FileTree.keptExcept_exported (files : FileTree home) (time : String) (format : ExportFormat)
    (report : Report) (path : Option String) :
    KeptExcept path.toList files (files.exported time format report path) := by
  have hkept := World.keptExcept_exported { files, time } format path report
  rwa [World.files_exported] at hkept

/-! ## All of the output -/

/-- The table that some options ask for. -/
def Options.tableText (options : Options) (report : Report) : String :=
  if options.quiet then ""
  else
    Screen.report
      ⟨true, .ofConsole (options.consoleWidth.getD defaultConsoleWidth) report.columns⟩ report

/-- A quiet run prints no table. -/
theorem Options.tableText_of_quiet {options : Options} (h : options.quiet = true)
    (report : Report) : options.tableText report = "" := if_pos h

/-- Any other run prints the whole report, in colour and at its width. -/
theorem Options.tableText_of_not_quiet {options : Options} (h : options.quiet = false)
    (report : Report) :
    options.tableText report =
      Screen.report
        ⟨true, .ofConsole (options.consoleWidth.getD defaultConsoleWidth) report.columns⟩ report :=
  if_neg (Bool.eq_false_iff.1 h)

/-- The counts of a report, as they are printed. -/
def Report.summaryText (report : Report) : String :=
  Screen.summary ⟨true, .ofConsole defaultConsoleWidth report.columns⟩ report.summary

namespace FileTree

variable (files : FileTree home) (time : String) (options : Options) (report : Report)

/-- **The files after a report** with its exports. -/
def presented : FileTree home :=
  (files.exported time .markdown report options.markdownOutput).exported time .json report
    options.jsonOutput

/-- **What is printed after the table**: the lines of the exports, then the counts. -/
def closingText : String :=
  files.exportText time .markdown report options.markdownOutput ++
    (files.exported time .markdown report options.markdownOutput).exportText time .json report
      options.jsonOutput ++
    report.summaryText

end FileTree

namespace World

variable (world : World home) (options : Options) (report : Report)

/-- A report presented for some options: the table, if they ask for it, the exports and the
counts. -/
theorem presented_plan :
    world.presented options.plan (options.consoleWidth.getD defaultConsoleWidth) report =
      (((world.printing (options.tableText report)).exported .markdown options.markdownOutput
        report).exported .json options.jsonOutput report).printing report.summaryText := by
  have htable : (if options.plan.printTable then
      world.printing (Screen.report
        ⟨true, .ofConsole (options.consoleWidth.getD defaultConsoleWidth) report.columns⟩ report)
      else world) = world.printing (options.tableText report) := by
    have hprint : options.plan.printTable = !options.quiet := rfl
    cases hquiet : options.quiet with
    | false =>
      rw [Options.tableText_of_not_quiet hquiet, hprint, hquiet]
      exact if_pos rfl
    | true =>
      rw [Options.tableText_of_quiet hquiet, hprint, hquiet, printing_empty]
      exact if_neg Bool.false_ne_true
  rw [presented, htable]
  rfl

/-- The files after a report. -/
theorem files_presented :
    (world.presented options.plan (options.consoleWidth.getD defaultConsoleWidth) report).files =
      world.files.presented world.time options report := by
  rw [presented_plan, files_printing, files_exported, files_exported, time_exported]
  rfl

/-- The output of a report: its table, then all else. -/
theorem printed_presented :
    (world.presented options.plan (options.consoleWidth.getD defaultConsoleWidth)
      report).printed =
      world.printed ++ (options.tableText report ++
        world.files.closingText world.time options report) := by
  rw [presented_plan, printed_printing, printed_exported, printed_exported, files_exported,
    time_exported, files_printing, time_printing, printed_printing, FileTree.closingText]
  simp only [String.append_assoc]

end World

/-- **A run that gets as far as a report**: the records that its input holds, the files after it and
what it prints. -/
theorem run_of_areServed {arguments : List String} {options : Options} (files : FileTree home)
    (time : String) (harguments : Options.ofArguments arguments = .ok options)
    (hserved : options.AreServed files) :
    ∃ bytes records, files.find options.input = .ok (.file bytes) ∧
      Record.parseFile options.input bytes = .ok records ∧
      (run arguments files time).1 = 0 ∧
      (run arguments files time).2.files =
        files.presented time options (options.plan.generate records).1 ∧
      (run arguments files time).2.printed =
        options.tableText (options.plan.generate records).1 ++
          files.closingText time options (options.plan.generate records).1 := by
  obtain ⟨bytes, records, hfind, hrecords, hrun⟩ :=
    World.exists_records_of_areServed (.initial files time) hserved
  refine ⟨bytes, records, hfind, hrecords, ?_⟩
  rw [run_of_options files time harguments, hrun]
  refine ⟨rfl, World.files_presented _ options _, ?_⟩
  rw [World.printed_presented]
  exact String.empty_append

/-- A run with options that ends without an error gets as far as a report. -/
theorem areServed_of_run {arguments : List String} {options : Options} {files : FileTree home}
    {time : String} (harguments : Options.ofArguments arguments = .ok options)
    (hexit : (run arguments files time).1 = 0) : options.AreServed files := by
  apply Classical.byContradiction
  intro hnot
  rw [run_of_options files time harguments] at hexit
  exact (World.runOptions_of_not_areServed (.initial files time) hnot).1 hexit

namespace FileTree

variable {files : FileTree home} {time : String} {options : Options} {report : Report}

/-- A report changes no files but those at the paths of its exports. -/
theorem keptExcept_presented :
    KeptExcept options.exportPaths files (files.presented time options report) := by
  have hkept := World.keptExcept_presented { files, time } options.plan
    (options.consoleWidth.getD defaultConsoleWidth) report
  rwa [World.files_presented] at hkept

/-- **Two exports that are reported as saved** were both saved. -/
theorem length_savedLine_le {markdown json : String}
    (hmarkdown : options.markdownOutput = some markdown) (hjson : options.jsonOutput = some json)
    (h : files.closingText time options report =
      ExportFormat.markdown.savedLine markdown ++ ExportFormat.json.savedLine json ++
        report.summaryText) :
    (ExportFormat.markdown.savedLine markdown).length ≤
        (files.exportText time .markdown report (some markdown)).length ∧
      (ExportFormat.json.savedLine json).length ≤
        ((files.exported time .markdown report (some markdown)).exportText time .json report
          (some json)).length := by
  have hlength := congrArg String.length h
  rw [closingText, hmarkdown, hjson] at hlength
  simp only [String.length_append] at hlength
  -- Neither of the two can make up for the other, since no more than its line is printed.
  have hmarkdownLe := files.length_exportText_le time .markdown report markdown
  have hjsonLe := (files.exported time .markdown report (some markdown)).length_exportText_le time
    .json report json
  omega

/-- **Two exports that are reported as saved** are found in full, the first one unless the second
one was written to the same file. -/
theorem find_presented {markdown json : String}
    (hmarkdown : options.markdownOutput = some markdown) (hjson : options.jsonOutput = some json)
    (h : files.closingText time options report =
      ExportFormat.markdown.savedLine markdown ++ ExportFormat.json.savedLine json ++
        report.summaryText) :
    (¬ files.SameFile markdown json →
        (files.presented time options report).find markdown =
          .ok (.file (report.markdown time).toUTF8)) ∧
      (files.presented time options report).find json =
        .ok (.file (report.jsonDocument time).toUTF8) := by
  obtain ⟨hsavedMarkdown, hsavedJson⟩ := length_savedLine_le hmarkdown hjson h
  rw [presented, hmarkdown, hjson]
  refine ⟨?_, find_exported _ time .json report hsavedJson⟩
  intro hdistinct
  have hfirst := keptExcept_exported files time .markdown report (some markdown)
  have hsecond := keptExcept_exported (files.exported time .markdown report (some markdown)) time
    .json report (some json)
  refine hsecond.find_eq ?_ (find_exported files time .markdown report hsavedMarkdown)
  intro other hother hsame
  obtain rfl : other = json := by simpa using hother
  exact hdistinct (hfirst.sameFile_iff.1 hsame).symm

end FileTree

/-- **What a run with a report keeps.** Unless an export leads to the input file, that holds what it
held. Exports that are both reported as saved are found in full, the document of the report and
nothing else; for the Markdown document that takes paths to different files. -/
theorem run_keeps_data {arguments : List String} {files : FileTree home} {time : String}
    {options : Options} (harguments : Options.ofArguments arguments = .ok options)
    (hexit : (run arguments files time).1 = 0) :
    let after := (run arguments files time).2
    ∃ bytes records, files.find options.input = .ok (.file bytes) ∧
      Record.parseFile options.input bytes = .ok records ∧
      ((∀ path ∈ options.exportPaths, ¬ files.SameFile path options.input) →
        after.files.find options.input = .ok (.file bytes)) ∧
      ∀ markdown json, options.markdownOutput = some markdown → options.jsonOutput = some json →
        let report := (options.plan.generate records).1
        after.printed = options.tableText report ++
          (ExportFormat.markdown.savedLine markdown ++ ExportFormat.json.savedLine json ++
            report.summaryText) →
        (¬ files.SameFile markdown json →
            after.files.find markdown = .ok (.file (report.markdown time).toUTF8)) ∧
          after.files.find json = .ok (.file (report.jsonDocument time).toUTF8) := by
  obtain ⟨bytes, records, hfind, hrecords, -, hfiles, hprinted⟩ :=
    run_of_areServed files time harguments (areServed_of_run harguments hexit)
  refine ⟨bytes, records, hfind, hrecords, ?_, ?_⟩
  · intro hdistinct
    rw [hfiles]
    exact FileTree.keptExcept_presented.find_eq hdistinct hfind
  · intro markdown json hmarkdown hjson report hsaved
    rw [hprinted, String.append_right_inj] at hsaved
    rw [hfiles]
    exact FileTree.find_presented hmarkdown hjson hsaved

/-- Options for both exports of a report on the sample tree. -/
def savedOptions : Options := { sampleOptions with jsonOutput := some "out.json" }

/-- The arguments of those options. -/
def savedArguments : List String :=
  ["-i", "output.json", "-rvariant", "--output-markdown=out.md", "--output-json", "out.json"]

/-- Their report on that tree, which holds no records. -/
def savedReport : Report := (savedOptions.plan.generate []).1

/-- A run with paths to three files keeps all of its data. -/
theorem run_keeps_data_of_savedOptions :
    let after := (run savedArguments sampleFiles "").2
    (run savedArguments sampleFiles "").1 = 0 ∧
      after.files.find "output.json" = .ok (.file "[]".toUTF8) ∧
      after.files.find "out.md" = .ok (.file (savedReport.markdown "").toUTF8) ∧
      after.files.find "out.json" = .ok (.file (savedReport.jsonDocument "").toUTF8) := by
  intro after
  have harguments : Options.ofArguments savedArguments = .ok savedOptions := rfl
  have hserved : savedOptions.AreServed sampleFiles :=
    ⟨rfl, "[]".toUTF8, rfl, holdsRecords_empty⟩
  obtain ⟨bytes, records, hfind, hrecords, hexit, -, hprinted⟩ :=
    run_of_areServed sampleFiles "" harguments hserved
  cases hfind
  cases hrecords
  have hinput : sampleFiles.target "output.json" = .ok ["output.json"] := rfl
  have hmarkdown : sampleFiles.target "out.md" = .ok ["out.md"] := rfl
  have hjson : sampleFiles.target "out.json" = .ok ["out.json"] := rfl
  obtain ⟨bytes, records, hfind, hrecords, hkept, hsaved⟩ := run_keeps_data harguments hexit
  cases hfind
  cases hrecords
  obtain ⟨hmarkdownFind, hjsonFind⟩ := hsaved "out.md" "out.json" rfl rfl (by rw [hprinted]; rfl)
  refine ⟨hexit, hkept ?_, hmarkdownFind ?_, hjsonFind⟩
  · simp [savedOptions, sampleOptions, Options.exportPaths, FileTree.SameFile, hinput, hmarkdown,
      hjson]
  · simp [FileTree.SameFile, hmarkdown, hjson]

/-! ## Paths to one file -/

/-- The text of an object with members starts with a brace. -/
theorem Json.head?_pretty_object (field : String × Json) (fields : List (String × Json)) :
    (Json.object (field :: fields)).pretty.toList.head? = some '{' := by
  rw [pretty, String.toList_ofList]
  rfl

/-- The JSON document is an object. -/
theorem Report.head?_jsonDocument (report : Report) (time : String) :
    (report.jsonDocument time).toList.head? = some '{' :=
  Json.head?_pretty_object _ _

/-- The Markdown document starts with a heading. -/
theorem Report.head?_markdown (report : Report) (time : String) :
    (report.markdown time).toList.head? = some '#' := by
  unfold markdown
  simp only [String.append_assoc]
  rw [String.toList_append]
  rfl

/-- A file whose text starts in another way is not the JSON document. -/
theorem Report.file_jsonDocument_ne (report : Report) (time : String) {text : String}
    (h : text.toList.head? ≠ some '{') :
    FileEntry.file (report.jsonDocument time).toUTF8 ≠ .file text.toUTF8 := by
  intro heq
  have htext : report.jsonDocument time = text :=
    String.toByteArray_inj.1 (FileEntry.file.inj heq)
  exact h (htext ▸ report.head?_jsonDocument time)

/-- Options that export to the input. -/
def overwritingOptions : Options :=
  { sampleOptions with markdownOutput := none, jsonOutput := some "output.json" }

/-- The arguments of those options. -/
def overwritingArguments : List String :=
  ["-i", "output.json", "-rvariant", "--output-json", "output.json"]

/-- Options that export to one file under two spellings. -/
def aliasOptions : Options :=
  { sampleOptions with markdownOutput := some "./out", jsonOutput := some "out" }

/-- The arguments of those options. -/
def aliasArguments : List String :=
  ["-i", "output.json", "-rvariant", "--output-markdown", "./out", "--output-json", "out"]

/-- **What a run loses when paths lead to one file.** An export to the input is not refused, and it
takes the place of the records. Nor are exports to one file under two spellings: both are reported
as saved, but the Markdown document is gone. -/
theorem run_loses_data :
    (Options.ofArguments overwritingArguments = .ok overwritingOptions ∧
      overwritingOptions.problem? = none ∧
      let after := (run overwritingArguments sampleFiles "").2
      (run overwritingArguments sampleFiles "").1 = 0 ∧
      sampleFiles.find "output.json" = .ok (.file "[]".toUTF8) ∧
      after.files.find "output.json" ≠ .ok (.file "[]".toUTF8)) ∧
    (Options.ofArguments aliasArguments = .ok aliasOptions ∧
      aliasOptions.problem? = none ∧
      let after := (run aliasArguments sampleFiles "").2
      let report := (aliasOptions.plan.generate []).1
      (run aliasArguments sampleFiles "").1 = 0 ∧
      after.printed = aliasOptions.tableText report ++
        (ExportFormat.markdown.savedLine "./out" ++ ExportFormat.json.savedLine "out" ++
          report.summaryText) ∧
      after.files.find "./out" ≠ .ok (.file (report.markdown "").toUTF8)) := by
  constructor
  · have harguments : Options.ofArguments overwritingArguments = .ok overwritingOptions := rfl
    obtain ⟨bytes, records, hfind, hrecords, hexit, hfiles, -⟩ :=
      run_of_areServed sampleFiles "" harguments
        ⟨rfl, "[]".toUTF8, rfl, holdsRecords_empty⟩
    cases hfind
    cases hrecords
    refine ⟨harguments, rfl, hexit, rfl, ?_⟩
    generalize (overwritingOptions.plan.generate []).1 = report at hfiles
    have hdocument : (sampleFiles.presented "" overwritingOptions report).find "output.json" =
        .ok (.file (report.jsonDocument "").toUTF8) :=
      sampleFiles.find_exported "" .json report
        (Nat.le_refl (ExportFormat.json.savedLine "output.json").length)
    rw [hfiles, hdocument]
    exact mt Except.ok.inj (report.file_jsonDocument_ne "" (by decide))
  · have harguments : Options.ofArguments aliasArguments = .ok aliasOptions := rfl
    obtain ⟨bytes, records, hfind, hrecords, hexit, hfiles, hprinted⟩ :=
      run_of_areServed sampleFiles "" harguments
        ⟨rfl, "[]".toUTF8, rfl, holdsRecords_empty⟩
    cases hfind
    cases hrecords
    refine ⟨harguments, rfl, hexit, hprinted, ?_⟩
    generalize (aliasOptions.plan.generate []).1 = report at hfiles ⊢
    have hsame : (sampleFiles.presented "" aliasOptions report).SameFile "out" "./out" :=
      FileTree.keptExcept_presented.sameFile_iff.2 ⟨["out"], rfl, rfl⟩
    have hclosing : sampleFiles.closingText "" aliasOptions report =
        ExportFormat.markdown.savedLine "./out" ++ ExportFormat.json.savedLine "out" ++
          report.summaryText := rfl
    have hdocument := (FileTree.find_presented rfl rfl hclosing).2
    rw [hfiles, hsame.find_eq hdocument]
    refine mt Except.ok.inj (Report.file_jsonDocument_ne _ "" ?_)
    rw [Report.head?_markdown]
    decide

end SynthReport
