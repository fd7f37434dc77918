import SynthReport.Proofs.Files.Frame
import SynthReport.Proofs.Json.ValueGrammar
import SynthReport.Proofs.Program.Stages

/-! # What a run leaves as it was

A run that does not get as far as a report touches no file, and one that does touches only the files
that it exports to.

* **`HoldsRecords`** — content that is text of a JSON array of objects, within limits;
* **`Options.AreServed`** — options that are not refused, with an input file that holds records;
* **`keptExcept_presented`** — presenting a report changes the files at the paths of its exports;
* **`run_frame`** — what any run leaves as it was, with its exit code;
* **`run_refuses_json_text`** — the limits leave out some text of JSON arrays of objects. -/

namespace SynthReport

variable {home : List String}

/-! ## Content that holds records -/

/-- **Content that holds records**: it is UTF-8 text of a JSON array of objects, within the limits on
nesting, numerals and characters. -/
def HoldsRecords (bytes : ByteArray) : Prop :=
  ∃ text, String.fromUTF8? bytes = some text ∧ JsonText.IsSupportedRecordsText text

/-- Text is decoded to itself. -/
theorem fromUTF8?_toUTF8 (text : String) : String.fromUTF8? text.toUTF8 = some text :=
  dif_pos text.isValidUTF8

/-- The bytes of a text hold records if it is text of them. -/
theorem holdsRecords_toUTF8_iff {text : String} :
    HoldsRecords text.toUTF8 ↔ JsonText.IsSupportedRecordsText text := by
  rw [HoldsRecords, fromUTF8?_toUTF8]
  simp

namespace Record

/-- There are records if every element is an object. -/
theorem exists_ofItems_iff {index : Nat} {items : List Json} :
    (∃ records, ofItems index items = .ok records) ↔
      ∀ item ∈ items, ∃ fields, item = .object fields := by
  induction items generalizing index with
  | nil => simp [ofItems]
  | cons item rest ih =>
    rw [List.forall_mem_cons, ← @ih (index + 1)]
    cases item with
    | object fields =>
      rw [ofItems]
      cases ofItems (index + 1) rest <;> simp [Except.map]
    | _ => simp [ofItems]

/-- **There are records in content that holds records**, and in no other. -/
theorem exists_parseFile_iff {path : String} {bytes : ByteArray} :
    (∃ records, parseFile path bytes = .ok records) ↔ HoldsRecords bytes := by
  rw [parseFile, HoldsRecords]
  cases String.fromUTF8? bytes with
  | none => simp
  | some text =>
    simp only [Option.some_inj, exists_eq_left', ← Json.exists_parse_iff]
    rw [parseAll]
    cases hparse : Json.parse text with
    | error fault => simp
    | ok value => cases value <;> simp [exists_ofItems_iff]

end Record

/-! ## Options that lead to a report -/

/-- **Options that are served**: they are not refused, and their input is a file that holds
records. -/
def Options.AreServed (options : Options) (files : FileTree home) : Prop :=
  options.problem? = none ∧ ∃ bytes, files.find options.input = .ok (.file bytes) ∧
    HoldsRecords bytes

/-- The paths that the options export to. -/
def Options.exportPaths (options : Options) : List String :=
  options.markdownOutput.toList ++ options.jsonOutput.toList

/-- The content of a file is read. -/
theorem FileTree.read_of_find {files : FileTree home} {path : String} {bytes : ByteArray}
    (h : files.find path = .ok (.file bytes)) : files.read path = .ok bytes := by
  rw [read, h]
  rfl

/-- A path is a file if it is found to be one. -/
theorem FileTree.isFile_iff {files : FileTree home} {path : String} :
    files.isFile path = true ↔ ∃ bytes, files.find path = .ok (.file bytes) := by
  rw [isFile]
  split
  · rename_i hfind
    simp [hfind]
  · rename_i hfind
    simpa using hfind

namespace World

/-! ## The files after a report -/

/-- An export changes no file but the one at its path. -/
theorem keptExcept_exported (world : World home) (format : ExportFormat) (path : Option String)
    (report : Report) :
    FileTree.KeptExcept path.toList world.files (world.exported format path report).files := by
  cases path with
  | none => exact .refl _ _
  | some path =>
    rw [exported]
    split
    · rename_i hwrite
      exact .of_write hwrite
    · exact .refl _ _

/-- **Presenting a report changes no file but those at the paths of its exports.** -/
theorem keptExcept_presented (world : World home) (plan : Plan) (consoleWidth : Nat)
    (report : Report) :
    FileTree.KeptExcept (plan.markdownOutput.toList ++ plan.jsonOutput.toList) world.files
      (world.presented plan consoleWidth report).files := by
  -- Printing changes no file, so only the two exports count.
  rw [presented, files_printing]
  generalize hprinted : (if plan.printTable then
    world.printing (Screen.report ⟨true, .ofConsole consoleWidth report.columns⟩ report)
    else world) = printed
  have hfiles : printed.files = world.files := by
    rw [← hprinted]
    split <;> rfl
  rw [← hfiles]
  have hmarkdown := printed.keptExcept_exported .markdown plan.markdownOutput report
  have hjson := (printed.exported .markdown plan.markdownOutput report).keptExcept_exported
    .json plan.jsonOutput report
  exact (hmarkdown.mono (List.subset_append_left _ _)).trans
    (hjson.mono (List.subset_append_right _ _))

/-- **Options that are served lead to a report** of the records that their input holds. -/
theorem exists_records_of_areServed (world : World home) {options : Options}
    (h : options.AreServed world.files) :
    ∃ bytes records, world.files.find options.input = .ok (.file bytes) ∧
      Record.parseFile options.input bytes = .ok records ∧
      (host.runOptions options).run world =
        (0, ((world.reading options (.ok records)).logging
          (options.plan.generate records).2).presented options.plan
            (options.consoleWidth.getD defaultConsoleWidth) (options.plan.generate records).1) := by
  obtain ⟨hproblem, bytes, hfind, hholds⟩ := h
  obtain ⟨records, hrecords⟩ := Record.exists_parseFile_iff.2 hholds
  have hload : Host.recordsOf options.input (world.files.read options.input) = .ok records := by
    rw [FileTree.read_of_find hfind]
    exact hrecords
  exact ⟨bytes, records, hfind, hrecords,
    runOptions_of_records world hproblem (FileTree.isFile_iff.2 ⟨bytes, hfind⟩) hload⟩

/-- Only the files that such options export to change. -/
theorem runOptions_of_areServed (world : World home) {options : Options}
    (h : options.AreServed world.files) :
    ((host.runOptions options).run world).1 = 0 ∧
      FileTree.KeptExcept options.exportPaths world.files
        ((host.runOptions options).run world).2.files := by
  obtain ⟨bytes, records, -, -, hrun⟩ := world.exists_records_of_areServed h
  rw [hrun]
  exact ⟨rfl, keptExcept_presented ((world.reading options (.ok records)).logging _) options.plan
    _ _⟩

/-- **Other options end in an error**, and no file changes. -/
theorem runOptions_of_not_areServed (world : World home) {options : Options}
    (h : ¬ options.AreServed world.files) :
    ((host.runOptions options).run world).1 ≠ 0 ∧
      ((host.runOptions options).run world).2.files = world.files := by
  -- By the first stage that fails: the options, then the test for a file, then its content.
  cases hproblem : options.problem? with
  | some problem =>
    rw [runOptions_of_problem world hproblem]
    exact ⟨Nat.one_ne_zero, rfl⟩
  | none =>
    by_cases hfile : world.files.isFile options.input = true
    · obtain ⟨bytes, hfind⟩ := FileTree.isFile_iff.1 hfile
      have hnone : ¬ ∃ records, Record.parseFile options.input bytes = .ok records :=
        fun hrecords => h ⟨hproblem, bytes, hfind, Record.exists_parseFile_iff.1 hrecords⟩
      cases hrecords : Record.parseFile options.input bytes with
      | ok records => exact absurd ⟨records, hrecords⟩ hnone
      | error error =>
        have hload :
            Host.recordsOf options.input (world.files.read options.input) = .error error := by
          rw [FileTree.read_of_find hfind]
          exact hrecords
        rw [runOptions_of_unloadable world hproblem hfile hload]
        exact ⟨Nat.one_ne_zero, rfl⟩
    · rw [runOptions_of_no_file world hproblem (Bool.eq_false_iff.2 hfile)]
      exact ⟨Nat.one_ne_zero, rfl⟩

end World

/-! ## Whole runs -/

/-- **What a run leaves as it was.** Arguments that cannot be understood, options that are refused,
and an input that is not a file that holds records end the run with an error, and the files are as
before; so they are when help or the version is shown, without an error. Every other run ends
without an error, and what stands at any place is as before, but where the paths of the exports
lead. -/
theorem run_frame (arguments : List String) (files : FileTree home) (time : String) :
    let exit := (run arguments files time).1
    let after := (run arguments files time).2.files
    match Options.ofArguments arguments with
    | .error (.usage _) => exit ≠ 0 ∧ after = files
    | .error (.help _) | .error .version => exit = 0 ∧ after = files
    | .ok options =>
      (¬ options.AreServed files → exit ≠ 0 ∧ after = files) ∧
        (options.AreServed files → exit = 0 ∧
          ∀ place, (∀ path ∈ options.exportPaths, files.target path ≠ .ok place) →
            after.at? place = files.at? place) := by
  dsimp only
  split
  · rename_i error harguments
    rw [run_of_usage files time harguments]
    exact ⟨nofun, rfl⟩
  · rename_i full harguments
    rw [run_of_help files time harguments]
    exact ⟨rfl, rfl⟩
  · rename_i harguments
    rw [run_of_version files time harguments]
    exact ⟨rfl, rfl⟩
  · rename_i options harguments
    rw [run_of_options files time harguments]
    refine ⟨World.runOptions_of_not_areServed (.initial files time), ?_⟩
    intro hserved
    obtain ⟨hexit, hkept⟩ := World.runOptions_of_areServed (.initial files time) hserved
    exact ⟨hexit, hkept.at?_eq⟩

/-- A tree with results, and with a file where one of the exports would need a directory. -/
def sampleFiles : FileTree :=
  ⟨[(["output.json"], .file "[]".toUTF8), (["notes"], .file "kept".toUTF8)]⟩

/-- Options for a report on such a tree. -/
def sampleOptions : Options where
  input := "output.json"
  report := .variant
  markdownOutput := some "out.md"
  jsonOutput := some "notes/out.json"

/-- The arguments of those options. -/
def sampleArguments : List String :=
  ["-i", "output.json", "-rvariant", "--output-markdown=out.md", "--output-json", "notes/out.json"]

/-- An empty array holds records, if none. -/
theorem holdsRecords_empty : HoldsRecords "[]".toUTF8 :=
  holdsRecords_toUTF8_iff.2 (Json.exists_parse_iff.1 ⟨[], rfl, List.forall_mem_nil _⟩)

/-- The sample run ends without an error although one of its exports fails, and only the place of
the other one is not as before. -/
theorem run_frame_of_sampleFiles :
    sampleOptions.AreServed sampleFiles ∧ (run sampleArguments sampleFiles "").1 = 0 ∧
      ∀ place, place ≠ ["out.md"] →
        (run sampleArguments sampleFiles "").2.files.at? place = sampleFiles.at? place := by
  have harguments : Options.ofArguments sampleArguments = .ok sampleOptions := rfl
  have hserved : sampleOptions.AreServed sampleFiles :=
    ⟨rfl, "[]".toUTF8, rfl, holdsRecords_empty⟩
  have hframe := run_frame sampleArguments sampleFiles ""
  rw [harguments] at hframe
  obtain ⟨hexit, hkept⟩ := hframe.2 hserved
  refine ⟨hserved, hexit, ?_⟩
  intro place hplace
  apply hkept
  have hmarkdown : sampleFiles.target "out.md" = .ok ["out.md"] := rfl
  have hjson : sampleFiles.target "notes/out.json" = .error .notADirectory := rfl
  simpa [Options.exportPaths, sampleOptions, hmarkdown, hjson] using hplace.symm

/-! ## Text beyond the limits -/

/-- Text of one record, with a value under the empty key. -/
def recordText (value : List Char) : String :=
  String.ofList ('[' :: ('{' :: (('"' :: '"' :: ':' :: value) ++ ['}']) ++ [']']))

/-- With a JSON value, this is JSON text of an array of objects. -/
theorem isRecordsText_recordText {value : List Char} {depth : Nat}
    (h : value ∈ JsonText.Lexicon.json.value depth) : JsonText.IsRecordsText (recordText value) := by
  have hgap : [] ∈ JsonText.gap := List.forall_mem_nil _
  have hcolon : [':'] ∈ ({[':']} : Language Char) := rfl
  have hstring : ['"', '"'] ∈ JsonText.Lexicon.json.string :=
    ⟨['"'], rfl, ['"'], ⟨[], Language.nil_mem_kstar _, ['"'], rfl, rfl⟩, rfl⟩
  have hmember : '"' :: '"' :: ':' :: value ∈
      JsonText.Lexicon.json.member (JsonText.Lexicon.json.value depth) :=
    Language.append_mem_mul hstring (Language.append_mem_mul hgap
      (Language.append_mem_mul hcolon (Language.append_mem_mul hgap h)))
  have harray : '[' :: ('{' :: (('"' :: '"' :: ':' :: value) ++ ['}']) ++ [']']) ∈
      JsonText.arrayOf (JsonText.Lexicon.json.objectOf (JsonText.Lexicon.json.value depth)) :=
    JsonText.mem_bracketed_of_mem (JsonText.mem_bracketed_of_mem hmember)
  have htext := Language.append_mem_mul (Language.append_mem_mul hgap harray) hgap
  rw [List.nil_append, List.append_nil] at htext
  refine ⟨depth, ?_⟩
  rw [recordText, String.toList_ofList]
  exact htext

/-- Empty arrays within each other, so many around the innermost one. -/
def nestedArrays : Nat → List Char
  | 0 => ['[', ']']
  | depth + 1 => '[' :: (nestedArrays depth ++ [']'])

/-- They are a value that nests one deeper. -/
theorem nestedArrays_mem_value (depth : Nat) :
    nestedArrays depth ∈ JsonText.Lexicon.json.value (depth + 1) := by
  induction depth with
  | zero =>
    have hgap : [] ∈ JsonText.gap := List.forall_mem_nil _
    exact Or.inl (Or.inr ⟨['['], rfl, [']'], ⟨[], Or.inl hgap, [']'], rfl, rfl⟩, rfl⟩)
  | succ depth ih => exact Or.inl (Or.inr (JsonText.mem_bracketed_of_mem ih))

section Nesting

open Json

/-- No space stands in front of them. -/
theorem skipSpace_nestedArrays (depth : Nat) (text : List Char) :
    skipSpace (nestedArrays depth ++ text) = nestedArrays depth ++ text := by
  cases depth with
  | zero => exact skipSpace_cons_of_not (by decide) _
  | succ depth => exact skipSpace_cons_of_not (by decide) _

/-- They start with a bracket. -/
theorem head?_nestedArrays (depth : Nat) (text : List Char) :
    (nestedArrays depth ++ text).head? = some '[' := by
  cases depth <;> rfl

/-- **They are not read where values may nest less deep**, whatever follows them. -/
theorem not_reads_nestedArrays {limit depth : Nat} (h : limit ≤ depth) {text rest : List Char}
    {value : Json} : ¬ Reads (readValue limit) (nestedArrays depth ++ text) value rest := by
  intro hreads
  induction limit generalizing depth text rest value with
  | zero =>
    rw [readValue, reads_spaced_iff, skipSpace_nestedArrays] at hreads
    cases depth with
    | zero =>
      obtain ⟨_, hdeep⟩ := reads_array_of_bracket hreads
      cases hdeep
    | succ depth =>
      obtain ⟨_, hdeep⟩ := reads_array_of_bracket hreads
      cases hdeep
  | succ limit ih =>
    obtain ⟨depth, rfl⟩ := Nat.exists_eq_add_of_le' (Nat.le_of_add_left_le h)
    rw [readValue, reads_spaced_iff, skipSpace_nestedArrays, nestedArrays, List.cons_append,
      List.append_assoc] at hreads
    have harray := reads_readArray_cases (reads_array_of_bracket hreads)
    rw [skipSpace_nestedArrays] at harray
    obtain ⟨-, hskip⟩ | ⟨items, -, hitems⟩ := harray
    · -- The array would be empty.
      have hhead := head?_nestedArrays depth ([']'] ++ text)
      rw [hskip] at hhead
      cases hhead
    · obtain ⟨first, after, hfirst, -⟩ := reads_readItems_cases hitems
      exact ih (Nat.le_of_succ_le_succ h) hfirst

/-- Where a record is read, so is its value. -/
theorem exists_reads_of_parse {value : List Char} {document : Json}
    (h : parse (recordText value) = .ok document) :
    ∃ item rest, Reads (readValue 125) (value ++ ['}', ']']) item rest := by
  obtain ⟨reading, hreading, -⟩ := bind_eq_ok_iff.1 h
  obtain ⟨found, rest, hdocument⟩ :
      ∃ found rest, Reads (readValue (125 + 2)) (recordText value).toList found rest :=
    ⟨_, _, reading.length_le, hreading⟩
  -- An array with an object in it.
  rw [recordText, String.toList_ofList, readValue, reads_spaced_iff,
    skipSpace_cons_of_not (by decide)] at hdocument
  have harray := reads_readArray_cases (reads_array_of_bracket hdocument)
  rw [List.cons_append, skipSpace_cons_of_not (by decide)] at harray
  obtain ⟨-, hbracket⟩ | ⟨items, -, hitems⟩ := harray
  · cases hbracket
  obtain ⟨first, after, hobject, -⟩ := reads_readItems_cases hitems
  -- An object with a member in it.
  rw [readValue, reads_spaced_iff, skipSpace_cons_of_not (by decide)] at hobject
  have hmembers := reads_readObject_cases (reads_object_of_brace hobject)
  rw [List.cons_append, List.cons_append, List.cons_append, List.cons_append,
    skipSpace_cons_of_not (by decide)] at hmembers
  obtain ⟨-, hbrace⟩ | ⟨members, -, hmembers⟩ := hmembers
  · cases hbrace
  obtain ⟨member, after, hmember, -⟩ := reads_readMembers_cases hmembers
  obtain ⟨body, after, next, hbody, ⟨_, hkey⟩, hcolon, hvalue⟩ := reads_readMember_cases hmember
  cases hbody
  -- The key is empty, and the value follows the colon.
  obtain ⟨_, hquote⟩ := reads_quote (':' :: value ++ ['}'] ++ [']'])
  rw [readString, hquote] at hkey
  obtain rfl : ':' :: value ++ ['}'] ++ [']'] = after :=
    congrArg Reading.rest (Except.ok.inj hkey)
  rw [List.cons_append, List.cons_append, skipSpace_cons_of_not (by decide)] at hcolon
  cases hcolon
  rw [List.append_assoc] at hvalue
  exact ⟨_, _, hvalue⟩

end Nesting

/-- A tree with one record. -/
def recordFiles (value : List Char) : FileTree :=
  ⟨[(["output.json"], .file (recordText value).toUTF8)]⟩

/-- **A value that a run refuses** although it is JSON: the text of a record with it is an array of
objects, and a run on that text with options that are not refused ends in an error. -/
structure IsRefused (value : List Char) : Prop where
  isRecordsText : JsonText.IsRecordsText (recordText value)
  find_eq : (recordFiles value).find "output.json" = .ok (.file (recordText value).toUTF8)
  exit_ne : (run sampleArguments (recordFiles value) "").1 ≠ 0

/-- What cannot be read is refused. -/
theorem isRefused_of_parse {value : List Char} {depth : Nat}
    (h : value ∈ JsonText.Lexicon.json.value depth)
    (hparse : (Json.parse (recordText value)).toOption.isSome = false) : IsRefused value where
  isRecordsText := isRecordsText_recordText h
  find_eq := rfl
  exit_ne := by
    have harguments : Options.ofArguments sampleArguments = .ok sampleOptions := rfl
    rw [run_of_options _ _ harguments]
    refine (World.runOptions_of_not_areServed _ ?_).1
    rintro ⟨-, bytes, hfind, hholds⟩
    cases hfind
    obtain ⟨items, hread, -⟩ := Json.exists_parse_iff.2 (holdsRecords_toUTF8_iff.1 hholds)
    rw [hread] at hparse
    cases hparse

/-- **Arrays that nest deeper than values may** are refused. -/
theorem isRefused_nestedArrays {depth : Nat} (h : 125 ≤ depth) :
    IsRefused (nestedArrays depth) := by
  refine isRefused_of_parse (nestedArrays_mem_value depth) ?_
  cases hparse : Json.parse (recordText (nestedArrays depth)) with
  | error fault => rfl
  | ok document =>
    obtain ⟨item, rest, hreads⟩ := exists_reads_of_parse hparse
    exact absurd hreads (not_reads_nestedArrays h)

/-- The numeral `1e400`. -/
def largeNumeral : JsonText.Numeral where
  negative := false
  whole := ['1']
  fraction := []
  exponent := some
    { letter := 'e', sign := [], digits := ['4', '0', '0'], letter_mem := by simp,
      sign_mem := by simp, digits_mem := ⟨by simp, by simp⟩ }
  whole_mem := ⟨by simp, by simp⟩
  length_whole _ := rfl
  isDigit_of_mem_fraction := List.forall_mem_nil _

/-- **A run refuses some JSON text of arrays of objects**: with a number that is too large for a
double, with half of a surrogate pair in a string, and with arrays and objects that nest 128
deep. -/
theorem run_refuses_json_text :
    Options.ofArguments sampleArguments = .ok sampleOptions ∧ sampleOptions.problem? = none ∧
      IsRefused "1e400".toList ∧ IsRefused "\"\\ud800\"".toList ∧ IsRefused (nestedArrays 125) := by
  refine ⟨rfl, rfl, ?_, ?_, ?_⟩
  · have hnumeral : "1e400".toList ∈ JsonText.Lexicon.json.value 0 :=
      Or.inl (Or.inr ⟨largeNumeral, trivial, rfl⟩)
    exact isRefused_of_parse hnumeral (by decide +kernel)
  · have hunit : "\\ud800".toList ∈ JsonText.character :=
      Or.inr ⟨['d', '8', '0', '0'], 0xD800, rfl, trivial, rfl⟩
    have hstring : "\"\\ud800\"".toList ∈ JsonText.Lexicon.json.value 0 :=
      Or.inr ⟨['"'], rfl, _, ⟨_, JsonText.append_mem_kstar hunit (Language.nil_mem_kstar _), ['"'],
        rfl, rfl⟩, rfl⟩
    exact isRefused_of_parse hstring (by decide +kernel)
  · exact isRefused_nestedArrays (Nat.le_refl 125)

end SynthReport
