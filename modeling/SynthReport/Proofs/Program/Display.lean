import Mathlib.Data.List.Forall2
import SynthReport.Proofs.CommandLine.DisplayArguments
import SynthReport.Proofs.Program.Exports

/-! # Display options

Two options are about the display alone: one leaves the table out and the other sets its width. Two
runs that differ in nothing else do the same, and they print the same besides the table. The time of
day is part of every document, so files are compared up to that.

* **`FileEntry.SameButTime`**, **`FileTree.SameButTime`** — files that differ in the time shown in
  documents;
* **`FileTree.SameButTime.target_eq`** — paths lead to the same places in both trees;
* **`FileTree.SameButTime.exported`** — an export keeps this up;
* **`Options.SameButDisplay`** — options that differ in how a table is displayed;
* **`sameButDisplay_of_withoutDisplay_eq`** — it holds of arguments that differ in display options;
* **`run_display_independent`** — the display does not influence what a run does. -/

namespace SynthReport

variable {home : List String}

/-! ## Files at two times -/

/-- **The same but for the time**: the same entry, or one report's documents in one format. -/
inductive FileEntry.SameButTime (time time' : String) : FileEntry → FileEntry → Prop where
  | refl (entry : FileEntry) : SameButTime time time' entry entry
  | document (format : ExportFormat) (report : Report) :
    SameButTime time time' (.file (format.document report time).toUTF8)
      (.file (format.document report time').toUTF8)

/-- **Trees that are the same but for the time**: entries at the same places. -/
def FileTree.SameButTime (time time' : String) (files files' : FileTree home) : Prop :=
  List.Forall₂ (fun item item' => item.1 = item'.1 ∧ item.2.SameButTime time time' item'.2)
    files.entries files'.entries

namespace FileTree

variable {time time' : String} {files files' : FileTree home}

/-- A tree is the same as itself. -/
theorem SameButTime.refl (files : FileTree home) : files.SameButTime time time' files :=
  List.forall₂_same.2 fun item _ => ⟨rfl, .refl item.2⟩

namespace SameButTime

/-- At one time there is no difference. -/
theorem eq (h : SameButTime time time files files') : files = files' := by
  have hentries : files.entries = files'.entries := by
    refine List.forall₂_eq_eq_eq ▸ h.imp ?_
    rintro ⟨place, entry⟩ ⟨place', entry'⟩ ⟨rfl, hentry⟩
    cases hentry <;> rfl
  cases files
  cases files'
  exact congrArg FileTree.mk hentries

/-- The entry at a place is the same. -/
theorem find?_rel (h : SameButTime time time' files files') (place : Place) :
    Option.Rel (fun item item' => item.2.SameButTime time time' item'.2)
      (files.entries.find? (·.1 = place)) (files'.entries.find? (·.1 = place)) := by
  obtain ⟨entries⟩ := files
  obtain ⟨entries'⟩ := files'
  rw [SameButTime] at h
  dsimp only at h ⊢
  induction h with
  | nil => exact .none
  | @cons item item' rest rest' hitem _ ih =>
    rw [List.find?_cons, List.find?_cons, ← hitem.1]
    split
    · exact .some hitem.2
    · exact ih

/-- Tests of places give the same. -/
theorem any_eq (h : SameButTime time time' files files') (test : Place → Bool) :
    (files.entries.any fun item => test item.1) = files'.entries.any fun item => test item.1 := by
  obtain ⟨entries⟩ := files
  obtain ⟨entries'⟩ := files'
  rw [SameButTime] at h
  dsimp only at h ⊢
  induction h with
  | nil => rfl
  | cons hitem _ ih => rw [List.any_cons, List.any_cons, hitem.1, ih]

/-- **What stands at a place is of the same kind**: nothing, a directory or a file. -/
theorem at?_cases (h : SameButTime time time' files files') (place : Place) :
    files.at? place = files'.at? place ∨
      ∃ content content', files.at? place = some (.file content) ∧
        files'.at? place = some (.file content') := by
  have hfind := h.find?_rel place
  rw [at?, at?, h.any_eq place.isPrefixOf]
  split
  · exact Or.inl rfl
  · generalize files.entries.find? (·.1 = place) = found at hfind ⊢
    generalize files'.entries.find? (·.1 = place) = found' at hfind ⊢
    cases hfind with
    | none => exact Or.inl rfl
    | @some item item' hentry =>
      obtain ⟨itemPlace, entry⟩ := item
      obtain ⟨itemPlace', entry'⟩ := item'
      dsimp only at hentry ⊢
      cases hentry with
      | refl entry => exact Or.inl rfl
      | document format report => exact Or.inr ⟨_, _, rfl, rfl⟩

/-- A step leads to the same place. -/
theorem enter_eq (h : SameButTime time time' files files') : files.enter = files'.enter := by
  funext place piece
  rw [enter, enter]
  rcases h.at?_cases (place.down home piece) with hat | ⟨content, content', hat, hat'⟩
  · rw [hat]
  · rw [hat, hat']

/-- **Paths lead to the same places.** -/
theorem target_eq (h : SameButTime time time' files files') (path : String) :
    files.target path = files'.target path := by
  have hlocate : files.locate path = files'.locate path := by rw [locate, locate, h.enter_eq]
  rw [target, target, hlocate]
  cases files'.locate path with
  | error error => rfl
  | ok found =>
    obtain ⟨directory, name?⟩ := found
    rw [ok_bind, ok_bind]
    cases name? with
    | none => rfl
    | some name =>
      dsimp only
      rcases h.at?_cases (directory.down home name) with hat | ⟨content, content', hat, hat'⟩
      · rw [hat]
      · rw [hat, hat']

/-- A document at a place. -/
theorem put (h : SameButTime time time' files files') (place : Place) (format : ExportFormat)
    (report : Report) :
    SameButTime time time' (files.put place (format.document report time).toUTF8)
      (files'.put place (format.document report time').toUTF8) := by
  have hany := h.any_eq (· = place)
  rw [SameButTime, FileTree.put, FileTree.put]
  dsimp only
  rw [hany]
  split
  · rw [List.forall₂_map_left_iff, List.forall₂_map_right_iff]
    refine h.imp ?_
    rintro item item' ⟨hplace, hentry⟩
    rw [← hplace]
    split
    · exact ⟨rfl, .document format report⟩
    · exact ⟨hplace, hentry⟩
  · exact List.rel_append h (.cons ⟨rfl, .document format report⟩ .nil)

/-- **A document can be written to both or to neither**, with the same error. -/
theorem write (h : SameButTime time time' files files') (path : String) (format : ExportFormat)
    (report : Report) :
    (∃ after after',
      files.write path (format.document report time).toUTF8 = .ok after ∧
      files'.write path (format.document report time').toUTF8 = .ok after' ∧
      SameButTime time time' after after') ∨
    ∃ error, files.write path (format.document report time).toUTF8 = .error error ∧
      files'.write path (format.document report time').toUTF8 = .error error := by
  rw [FileTree.write, FileTree.write, h.target_eq]
  cases files'.target path with
  | ok place => exact Or.inl ⟨_, _, rfl, rfl, h.put place format report⟩
  | error error => exact Or.inr ⟨error, rfl, rfl⟩

/-- **An export** changes both in the same way. -/
theorem exported (h : SameButTime time time' files files') (format : ExportFormat)
    (report : Report) (path : Option String) :
    SameButTime time time' (files.exported time format report path)
      (files'.exported time' format report path) := by
  cases path with
  | none => exact h
  | some path =>
    rw [FileTree.exported, FileTree.exported]
    rcases h.write path format report with ⟨after, after', hafter, hafter', hsame⟩ |
      ⟨error, hafter, hafter'⟩
    · rw [hafter, hafter']
      exact hsame
    · rw [hafter, hafter']
      exact h

/-- The same is printed of an export. -/
theorem exportText_eq (h : SameButTime time time' files files') (format : ExportFormat)
    (report : Report) (path : Option String) :
    files.exportText time format report path = files'.exportText time' format report path := by
  cases path with
  | none => rfl
  | some path =>
    rw [exportText, exportText]
    rcases h.write path format report with ⟨after, after', hafter, hafter', -⟩ |
      ⟨error, hafter, hafter'⟩
    · rw [hafter, hafter']
    · rw [hafter, hafter']

end SameButTime

variable (files) (options : Options) (report : Report)

/-- **The files after a report** at two times. -/
theorem sameButTime_presented :
    SameButTime time time' (files.presented time options report)
      (files.presented time' options report) :=
  ((SameButTime.refl files).exported .markdown report options.markdownOutput).exported .json report
    options.jsonOutput

/-- **What is printed after the table** does not depend on the time. -/
theorem closingText_eq (time time' : String) :
    files.closingText time options report = files.closingText time' options report := by
  have hmarkdown : SameButTime time time' files files := .refl files
  rw [closingText, closingText, hmarkdown.exportText_eq,
    (hmarkdown.exported .markdown report options.markdownOutput).exportText_eq]

end FileTree

/-! ## Two runs -/

/-- **Options that differ in how a table is displayed**, and in nothing else. -/
def Options.SameButDisplay (options options' : Options) : Prop :=
  ∃ consoleWidth quiet, options' = { options with consoleWidth, quiet }

/-- **Arguments that differ in the display options** ask for options that differ in the display. -/
theorem sameButDisplay_of_withoutDisplay_eq {arguments arguments' : List String}
    {options options' : Options} (h : withoutDisplay arguments = withoutDisplay arguments')
    (harguments : Options.ofArguments arguments = .ok options)
    (harguments' : Options.ofArguments arguments' = .ok options') :
    options.SameButDisplay options' := by
  have hundisplayed : options.undisplayed = options'.undisplayed := by
    have hfirst := ofArguments_withoutDisplay harguments
    rw [h, ofArguments_withoutDisplay harguments'] at hfirst
    exact (Except.ok.inj hfirst).symm
  cases options
  cases options'
  cases hundisplayed
  exact ⟨_, _, rfl⟩

/-- Options that are not refused are served with any display, or with none. -/
theorem Options.SameButDisplay.areServed_iff {options options' : Options} {files : FileTree home}
    (h : options.SameButDisplay options') (hproblem : options.problem? = none)
    (hproblem' : options'.problem? = none) :
    options'.AreServed files ↔ options.AreServed files := by
  obtain ⟨consoleWidth, quiet, rfl⟩ := h
  rw [AreServed, AreServed, and_iff_right hproblem, and_iff_right hproblem']

/-- **A run that does not get as far as a report** ends in the same error with any display. -/
theorem World.runOptions_eq_of_not_areServed {options options' : Options} {files : FileTree home}
    (time time' : String) (h : options.SameButDisplay options')
    (hproblem : options.problem? = none) (hproblem' : options'.problem? = none)
    (hserved : ¬ options.AreServed files) :
    ((host.runOptions options').run (.initial files time')).1 =
        ((host.runOptions options).run (.initial files time)).1 ∧
      ((host.runOptions options').run (.initial files time')).2.printed =
        ((host.runOptions options).run (.initial files time)).2.printed := by
  obtain ⟨consoleWidth, quiet, rfl⟩ := h
  by_cases hfile : files.isFile options.input = true
  · cases hload : Host.recordsOf options.input (files.read options.input) with
    | ok records =>
      obtain ⟨bytes, hfind⟩ := FileTree.isFile_iff.1 hfile
      rw [FileTree.read_of_find hfind] at hload
      exact absurd ⟨hproblem, bytes, hfind, Record.exists_parseFile_iff.1 ⟨records, hload⟩⟩ hserved
    | error error =>
      rw [runOptions_of_unloadable (.initial files time) hproblem hfile hload,
        runOptions_of_unloadable (.initial files time') hproblem' hfile hload]
      exact ⟨rfl, rfl⟩
  · rw [runOptions_of_no_file (.initial files time) hproblem (Bool.eq_false_iff.2 hfile),
      runOptions_of_no_file (.initial files time') hproblem' (Bool.eq_false_iff.2 hfile)]
    exact ⟨rfl, rfl⟩

/-- **The display does not influence what a run does.** Two runs whose arguments differ in display
options alone end alike and leave the same files, but for the time that documents show. If they get
as far as a report, both print the rest after their table, or the rest alone without a table; else
they print the same. -/
theorem run_display_independent {arguments arguments' : List String} {options options' : Options}
    (files : FileTree home) (time time' : String)
    (harguments : Options.ofArguments arguments = .ok options)
    (harguments' : Options.ofArguments arguments' = .ok options')
    (hproblem : options.problem? = none) (hproblem' : options'.problem? = none)
    (hdisplay : withoutDisplay arguments = withoutDisplay arguments') :
    let first := run arguments files time
    let second := run arguments' files time'
    second.1 = first.1 ∧ first.2.files.SameButTime time time' second.2.files ∧
      (first.1 = 0 → ∃ bytes records closing,
        files.find options.input = .ok (.file bytes) ∧
        Record.parseFile options.input bytes = .ok records ∧
        first.2.printed = options.tableText (options.plan.generate records).1 ++ closing ∧
        second.2.printed = options'.tableText (options.plan.generate records).1 ++ closing) ∧
      (first.1 ≠ 0 → second.2.printed = first.2.printed) := by
  intro first second
  have hdisplay := sameButDisplay_of_withoutDisplay_eq hdisplay harguments harguments'
  by_cases hserved : options.AreServed files
  · obtain ⟨bytes, records, hfind, hrecords, hexit, hfiles, hprinted⟩ :=
      run_of_areServed files time harguments hserved
    obtain ⟨bytes', records', hfind', hrecords', hexit', hfiles', hprinted'⟩ :=
      run_of_areServed files time' harguments'
        ((hdisplay.areServed_iff hproblem hproblem').2 hserved)
    obtain ⟨consoleWidth, quiet, rfl⟩ := hdisplay
    -- Both runs read the same records, so they have the same report.
    cases hfind.symm.trans hfind'
    cases hrecords.symm.trans hrecords'
    refine ⟨hexit'.trans hexit.symm, ?_, ?_, fun hne => absurd hexit hne⟩
    · rw [hfiles, hfiles']
      exact files.sameButTime_presented options _
    · intro _
      refine ⟨bytes, records, _, hfind, hrecords, hprinted, ?_⟩
      rw [hprinted', files.closingText_eq options _ time time']
      rfl
  · have hserved' := mt (hdisplay.areServed_iff hproblem hproblem').1 hserved
    obtain ⟨hexit, hprinted⟩ :=
      World.runOptions_eq_of_not_areServed time time' hdisplay hproblem hproblem' hserved
    obtain ⟨hfailed, hfiles⟩ := World.runOptions_of_not_areServed (.initial files time) hserved
    obtain ⟨-, hfiles'⟩ := World.runOptions_of_not_areServed (.initial files time') hserved'
    rw [← run_of_options files time harguments] at hexit hprinted hfailed hfiles
    rw [← run_of_options files time' harguments'] at hexit hprinted hfiles'
    refine ⟨hexit, ?_, fun hzero => absurd hzero hfailed, fun _ => hprinted⟩
    rw [hfiles, hfiles']
    exact .refl files

/-- Options for a quiet run. -/
def quietOptions : Options := { savedOptions with quiet := true }

/-- Options for a run on a console of 80 columns. -/
def narrowOptions : Options := { savedOptions with consoleWidth := some 80 }

/-- A quiet run, and one an hour later on a console of 80 columns. -/
theorem run_display_independent_of_savedOptions :
    (run (savedArguments ++ ["-q"]) sampleFiles "09:00").1 = 0 ∧
      (run (savedArguments ++ ["--console-width=80"]) sampleFiles "10:00").1 = 0 ∧
      FileTree.SameButTime "09:00" "10:00"
        (run (savedArguments ++ ["-q"]) sampleFiles "09:00").2.files
        (run (savedArguments ++ ["--console-width=80"]) sampleFiles "10:00").2.files ∧
      (run (savedArguments ++ ["--console-width=80"]) sampleFiles "10:00").2.printed =
        Screen.report ⟨true, .ofConsole 80 savedReport.columns⟩ savedReport ++
          (run (savedArguments ++ ["-q"]) sampleFiles "09:00").2.printed := by
  have harguments : Options.ofArguments (savedArguments ++ ["-q"]) = .ok quietOptions := rfl
  have harguments' :
      Options.ofArguments (savedArguments ++ ["--console-width=80"]) = .ok narrowOptions := rfl
  have hdisplay : withoutDisplay (savedArguments ++ ["-q"]) =
      withoutDisplay (savedArguments ++ ["--console-width=80"]) := rfl
  have hserved : quietOptions.AreServed sampleFiles :=
    ⟨rfl, "[]".toUTF8, rfl, holdsRecords_empty⟩
  obtain ⟨-, -, -, -, hexit, -, -⟩ := run_of_areServed sampleFiles "09:00" harguments hserved
  obtain ⟨hexit', hfiles, hreport, -⟩ := run_display_independent sampleFiles "09:00" "10:00"
    harguments harguments' rfl rfl hdisplay
  obtain ⟨bytes, records, closing, hfind, hrecords, hquiet, hnarrow⟩ := hreport hexit
  cases hfind
  cases hrecords
  have hgenerate : (quietOptions.plan.generate []).1 = savedReport := rfl
  have hquietText : quietOptions.tableText savedReport = "" := Options.tableText_of_quiet rfl _
  have hnarrowText : narrowOptions.tableText savedReport =
      Screen.report ⟨true, .ofConsole 80 savedReport.columns⟩ savedReport :=
    Options.tableText_of_not_quiet rfl _
  rw [hgenerate, hquietText, String.empty_append] at hquiet
  rw [hgenerate, hnarrowText, ← hquiet] at hnarrow
  exact ⟨hexit, hexit'.trans hexit, hfiles, hnarrow⟩

end SynthReport
