import SynthReport.Proofs.Json.Document
import SynthReport.Proofs.Json.Fields
import SynthReport.Proofs.Json.Sizes
import SynthReport.Proofs.Report.BaselineRows
import SynthReport.Proofs.Report.Kinds
import SynthReport.Proofs.Report.VariantRows
import SynthReport.Report.Document

/-! # Reports in JSON are read back

* **`Cell.IsPortable`** — the cells that JSON holds as they are; all cells of a generated report are
  such cells;
* **`Row.ReadsAs`**, **`Entry.ReadsAs`** — what is read of a row, and of a failure;
* **`Report.IsPortable`** — the reports whose document is read back, as
  **`Report.IsPortable.exists_parse`** says;
* **`Report.documentTexts_infix`** — where the texts of the entries stand in the document;
* **`ReportKind.isPortable_report`** — generated reports are such reports;
* **`jsonDocument_faithful`** — the document of every generated report is read back. -/

namespace SynthReport

/-! ## Cells -/

namespace Cell

/-- **A cell that JSON holds as it is**: an integer of 64 bits, a whole number or a text. -/
def IsPortable : Cell → Prop
  | integer i => (JsonNumber.integer i).IsProper
  | number x => x.isWhole = true
  | text _ => True

/-- **What is read of a cell**: the same integer, the same text, and for a whole number, which is
written as a number, some finite number. -/
inductive ReadsAs : Cell → Json → Prop where
  | integer (i : Int) : ReadsAs (.integer i) (.number (.integer i))
  | number {x y : Binary64} : x.isFinite = true → x.isWhole = true →
      (number x).toJson = .number (.double x) → y.isFinite = true →
        ReadsAs (.number x) (.number (.double y))
  | text (s : String) : ReadsAs (.text s) (.string s)

/-- A whole number is written as a number. -/
theorem toJson_number {x : Binary64} (h : x.isWhole = true) :
    (number x).toJson = .number (.double x) := by
  rw [toJson, if_pos (isFinite_of_isWhole h)]

/-- Such a cell can be written. -/
theorem IsPortable.printable {cell : Cell} (h : cell.IsPortable) (depth : Nat) :
    Json.Printable depth cell.toJson := by
  cases cell with
  | integer i => exact Json.printable_number_iff.2 h
  | number x =>
    rw [toJson_number h]
    exact Json.printable_number_iff.2 (isFinite_of_isWhole h)
  | text s => exact Json.printable_string

/-- What is read of such a cell. -/
theorem IsPortable.readsAs {cell : Cell} (h : cell.IsPortable) {value : Json}
    (hvalue : Json.Echo cell.toJson value) : cell.ReadsAs value := by
  cases cell with
  | integer i =>
    cases hvalue
    exact .integer i
  | number x =>
    have hjson := toJson_number h
    rw [hjson] at hvalue
    obtain _ | _ | _ | hy := hvalue
    exact .number (isFinite_of_isWhole h) h hjson hy
  | text s =>
    cases hvalue
    exact .text s

/-- What is shown of a number is such a cell. -/
theorem isPortable_shown (places : Nat) (x : Binary64) : (shown places x).IsPortable := by
  rw [shown]
  split
  · rename_i hwhole
    exact hwhole
  · trivial

/-- So is a count of 64 bits. -/
theorem isPortable_count {n : Nat} (h : n < 2 ^ 64) : (integer n).IsPortable :=
  ⟨by omega, by omega⟩

end Cell

/-! ## Entries -/

/-- **The text of an entry** in a document, where it stands two levels deep. -/
def Entry.documentText (entry : Entry) : List Char := Json.prettyChars 2 entry.toJson

/-- **An object with the labels of a row as its keys**, in their order, each with the text of its
cell. -/
def Row.objectText (row : Row) : List Char :=
  let texts := row.map fun labelled => (labelled.1, Json.prettyChars 3 labelled.2.toJson)
  '{' :: (Json.separated (Json.newLine 3) (Json.memberTexts [' '] texts) ++ Json.newLine 2 ++ ['}'])

/-- **What is read of a row**: it is written with the columns as its keys, in their order; and it is
read with exactly these keys, each with what is read of the cell under it. -/
structure Row.ReadsAs (columns : List String) (row : Row) (fields : List (String × Json)) :
    Prop where
  labels : row.map Prod.fst = columns
  written : (Entry.built row).documentText = row.objectText
  keys : (fields.map Prod.fst).Perm columns
  cells : ∀ label cell, (label, cell) ∈ row →
    ∃ value, Json.lookup label fields = some value ∧ cell.ReadsAs value

/-- **What is read of an entry.** A failure is read as its message and the place of its record. -/
inductive Entry.ReadsAs (columns : List String) : Entry → Json → Prop where
  | built {row : Row} {fields : List (String × Json)} :
      Row.ReadsAs columns row fields → ReadsAs columns (built row) (.object fields)
  | failed (record : Nat) (error : RowError) :
      ReadsAs columns (failed record error)
        (.object [("error", .string error.message), ("record", .count record)])

/-- A count of 64 bits is written and read as it is. -/
theorem Json.printable_count {n : Nat} (h : n < 2 ^ 64) (depth : Nat) :
    Json.Printable depth (.count n) :=
  Json.printable_number_iff.2 ⟨by omega, by omega⟩

section Entries

variable {columns : List String}

/-- A row of portable cells can be written. -/
theorem Entry.printable_built {row : Row} (h : ∀ cell ∈ row.map Prod.snd, cell.IsPortable)
    (depth : Nat) : Json.Printable (depth + 1) (built row).toJson := by
  refine Json.printable_object_iff.2 fun field hfield => ?_
  obtain ⟨⟨label, cell⟩, hcell, rfl⟩ := List.mem_map.1 hfield
  exact (h cell (List.mem_map.2 ⟨_, hcell, rfl⟩)).printable depth

/-- A failure can be written. -/
theorem Entry.printable_failed {record : Nat} (h : record < 2 ^ 64) (error : RowError)
    (depth : Nat) : Json.Printable (depth + 1) (failed record error).toJson := by
  refine Json.printable_object_iff.2 ?_
  simp only [List.forall_mem_cons]
  exact ⟨Json.printable_count h depth, Json.printable_string, nofun⟩

/-- A row is written with its labels as keys. -/
theorem Entry.documentText_built {row : Row} (h : row ≠ []) :
    (built row).documentText = row.objectText := by
  rw [documentText, toJson, Json.prettyChars_object (mt List.map_eq_nil_iff.1 h), List.map_map]
  rfl

/-- A row of portable cells under its labels is read back. -/
theorem Entry.readsAs_built {row : Row} (hcolumns : columns.Nodup) (hne : columns ≠ [])
    (hlabels : row.map Prod.fst = columns) (hcells : ∀ cell ∈ row.map Prod.snd, cell.IsPortable)
    {value : Json} (hvalue : Json.Echo (built row).toJson value) :
    Entry.ReadsAs columns (built row) value := by
  obtain ⟨copies, rfl, hcopies⟩ := Json.Echo.exists_members hvalue
  have hrow := List.forall₂_map_left_iff.1 hcopies
  have hkeys : copies.map Prod.fst = columns := by
    rw [← hlabels]
    exact (map_eq_map_of_forall₂ hrow fun _ _ h => h.1).symm
  -- The keys are the columns, none of which occurs twice, so reading loses no member.
  have hperm := @Json.fieldsOfMembers_perm copies (by rwa [hkeys])
  have hfields : ((Json.fieldsOfMembers copies).map Prod.fst).Perm columns :=
    hkeys ▸ hperm.map Prod.fst
  have hrowNe : row ≠ [] := by
    rintro rfl
    exact hne hlabels.symm
  refine .built ⟨hlabels, documentText_built hrowNe, hfields, ?_⟩
  intro label cell hcell
  obtain ⟨copy, hcopy, hlabel, hecho⟩ := exists_mem_of_forall₂ hrow hcell
  have hportable := hcells cell (List.mem_map.2 ⟨_, hcell, rfl⟩)
  refine ⟨copy.2, ?_, hportable.readsAs hecho⟩
  apply Json.lookup_eq_some_of_mem (hfields.nodup_iff.2 hcolumns)
  rw [show label = copy.1 from hlabel]
  exact hperm.mem_iff.2 hcopy

/-- A failure is read back. -/
theorem Entry.readsAs_failed {record : Nat} {error : RowError} {value : Json}
    (hvalue : Json.Echo (failed record error).toJson value) :
    Entry.ReadsAs columns (failed record error) value := by
  obtain ⟨copies, rfl, hcopies⟩ := Json.Echo.exists_members hvalue
  simp only [List.forall₂_cons_left_iff, List.forall₂_nil_left_iff] at hcopies
  obtain ⟨⟨_, index⟩, _, ⟨rfl, hindex⟩, ⟨⟨_, message⟩, _, ⟨rfl, hmessage⟩, rfl, rfl⟩, rfl⟩ :=
    hcopies
  cases hindex
  cases hmessage
  have hfields : Json.fieldsOfMembers
      [("record", .count record), ("error", .string error.message)] =
        [("error", .string error.message), ("record", .count record)] := by
    simp +decide only [Json.fieldsOfMembers, Json.insertField, List.foldl_cons, List.foldl_nil,
      if_true, if_false]
  exact hfields ▸ .failed record error

end Entries

/-! ## Reports -/

/-- **The report can be written and read back**: its columns and rows fit together, its cells are
portable, and its counts have 64 bits. -/
structure Report.IsPortable (report : Report) : Prop where
  columns : report.columns.Nodup
  columns_ne_nil : report.columns ≠ []
  labels : ∀ row, Entry.built row ∈ report.entries → row.map Prod.fst = report.columns
  cells : ∀ row, Entry.built row ∈ report.entries → ∀ cell ∈ row.map Prod.snd, cell.IsPortable
  places : ∀ place error, Entry.failed place error ∈ report.entries → place < report.scanned
  matched : report.entries.length ≤ report.scanned
  scanned : report.scanned < 2 ^ 64

namespace Report.IsPortable

variable {report : Report}

/-- Every count of such a report has 64 bits. -/
theorem printable_summary (h : report.IsPortable) (depth : Nat) :
    Json.Printable (depth + 1) report.summary.toJson := by
  have hrendered : report.summary.rendered ≤ report.entries.length := List.countP_le_length
  have hfailed : report.summary.failed ≤ report.entries.length := List.countP_le_length
  have hmatched : report.summary.matched ≤ report.scanned := h.matched
  have hlength : report.summary.matched = report.entries.length := rfl
  have hscanned := h.scanned
  refine Json.printable_object_iff.2 ?_
  simp only [List.forall_mem_cons]
  exact ⟨Json.printable_count hscanned depth, Json.printable_count (by omega) depth,
    Json.printable_count (by omega) depth, Json.printable_count (by omega) depth, nofun⟩

/-- Every entry of such a report can be written. -/
theorem printable_entry (h : report.IsPortable) {entry : Entry} (hentry : entry ∈ report.entries)
    (depth : Nat) : Json.Printable (depth + 1) entry.toJson := by
  cases entry with
  | built row => exact Entry.printable_built (h.cells row hentry) depth
  | failed place error =>
    exact Entry.printable_failed ((h.places place error hentry).trans h.scanned) error depth

/-- What is read of an entry of such a report. -/
theorem readsAs_of_echo (h : report.IsPortable) {entry : Entry} (hentry : entry ∈ report.entries)
    {value : Json} (hvalue : Json.Echo entry.toJson value) :
    Entry.ReadsAs report.columns entry value := by
  cases entry with
  | built row =>
    exact Entry.readsAs_built h.columns h.columns_ne_nil (h.labels row hentry) (h.cells row hentry)
      hvalue
  | failed place error => exact Entry.readsAs_failed hvalue

/-- Such a report can be written. -/
theorem printable (h : report.IsPortable) (time : String) (depth : Nat) :
    Json.Printable (depth + 3) (report.toJson time) := by
  refine Json.printable_object_iff.2 ?_
  simp only [List.forall_mem_cons]
  refine ⟨Json.printable_string, Json.printable_string, Json.printable_array_iff.2 ?_,
    h.printable_summary (depth + 1), Json.printable_array_iff.2 ?_, nofun⟩
  · intro item hitem
    obtain ⟨label, -, rfl⟩ := List.mem_map.1 hitem
    exact Json.printable_string
  · intro item hitem
    obtain ⟨entry, hentry, rfl⟩ := List.mem_map.1 hitem
    exact h.printable_entry hentry depth

/-- The counts are read as they are. -/
theorem eq_of_echo_summary {counts : Summary} {value : Json}
    (h : Json.Echo counts.toJson value) :
    value = .object [("failed", .count counts.failed), ("matched", .count counts.matched),
      ("rendered", .count counts.rendered), ("scanned", .count counts.scanned)] := by
  obtain ⟨copies, rfl, hcopies⟩ := Json.Echo.exists_members h
  simp only [List.forall₂_cons_left_iff, List.forall₂_nil_left_iff] at hcopies
  obtain ⟨⟨_, scanned⟩, _, ⟨rfl, hscanned⟩, ⟨⟨_, matched⟩, _, ⟨rfl, hmatched⟩,
    ⟨⟨_, rendered⟩, _, ⟨rfl, hrendered⟩, ⟨⟨_, failed⟩, _, ⟨rfl, hfailed⟩, rfl, rfl⟩, rfl⟩, rfl⟩,
    rfl⟩ := hcopies
  cases hscanned
  cases hmatched
  cases hrendered
  cases hfailed
  simp +decide only [Json.fieldsOfMembers, Json.insertField, List.foldl_cons, List.foldl_nil,
    if_true, if_false]
  rfl

/-- **The document of such a report is read back**: title, columns and summary are the same, and the
rows are those of the entries in order. -/
theorem exists_parse (h : report.IsPortable) (time : String) :
    ∃ rows, Json.parse (report.jsonDocument time) = .ok (.object [
        ("columns", .array (report.columns.map .string)),
        ("generated_at", .string time),
        ("rows", .array rows),
        ("summary", .object [
          ("failed", .count report.summary.failed),
          ("matched", .count report.summary.matched),
          ("rendered", .count report.summary.rendered),
          ("scanned", .count report.summary.scanned)]),
        ("title", .string report.title)]) ∧
      List.Forall₂ (Entry.ReadsAs report.columns) report.entries rows := by
  -- The rows are objects in an array in an object, so three of the 127 levels are taken.
  obtain ⟨copy, hparse, hecho⟩ := Json.exists_parse_pretty (h.printable time 124)
  obtain ⟨copies, rfl, hcopies⟩ := Json.Echo.exists_members hecho
  simp only [List.forall₂_cons_left_iff, List.forall₂_nil_left_iff] at hcopies
  -- One copy for each of the five fields, as the report has them.
  obtain ⟨⟨_, title⟩, _, ⟨rfl, htitle⟩, ⟨⟨_, generated⟩, _, ⟨rfl, hgenerated⟩,
    ⟨⟨_, columns⟩, _, ⟨rfl, hcolumns⟩, ⟨⟨_, summary⟩, _, ⟨rfl, hsummary⟩,
    ⟨⟨_, rows⟩, _, ⟨rfl, hrows⟩, rfl, rfl⟩, rfl⟩, rfl⟩, rfl⟩, rfl⟩ := hcopies
  cases htitle
  cases hgenerated
  obtain rfl := eq_of_echo_summary hsummary
  obtain _ | _ | _ | _ | _ | @⟨_, labels, hlabels⟩ := hcolumns
  obtain _ | _ | _ | _ | _ | @⟨_, rows, hrows⟩ := hrows
  have hstrings : ∀ item ∈ report.columns.map Json.string, ∀ copy, Json.Echo item copy →
      item = copy := by
    intro item hitem copy hcopy
    obtain ⟨label, -, rfl⟩ := List.mem_map.1 hitem
    cases hcopy
    rfl
  obtain rfl := Json.eq_of_forall₂_echo hlabels hstrings
  refine ⟨rows, ?_, ?_⟩
  · rw [jsonDocument, hparse]
    simp +decide only [Json.fieldsOfMembers, Json.insertField, List.foldl_cons, List.foldl_nil,
      if_true, if_false]
  · exact forall₂_imp_of_mem (List.forall₂_map_left_iff.1 hrows) fun entry hentry value hvalue =>
      h.readsAs_of_echo hentry hvalue

end Report.IsPortable

/-- **The document holds the texts of the entries**, in order and with commas between them. -/
theorem Report.documentTexts_infix (report : Report) (time : String) :
    Json.separated (Json.newLine 2) (report.entries.map Entry.documentText) <:+:
      (report.jsonDocument time).toList := by
  have hrows : ("rows", .array (report.entries.map Entry.toJson)) ∈
      [("title", .string report.title), ("generated_at", .string time),
        ("columns", .array (report.columns.map .string)), ("summary", report.summary.toJson),
        ("rows", .array (report.entries.map Entry.toJson))] := by
    simp only [List.mem_cons, true_or, or_true]
  have hitems := Json.separated_infix_prettyChars (report.entries.map Entry.toJson) 1
  rw [List.map_map] at hitems
  rw [jsonDocument, Json.pretty, String.toList_ofList]
  exact hitems.trans (Json.prettyChars_infix_of_mem hrows 0)

/-! ## Generated reports -/

section Generated

variable {bound : Nat} {record : Record}

/-- The cells of a variant row are portable. -/
theorem Report.isPortable_of_variantRow (hfinite : record.json.NumbersFinite)
    (hsize : record.json.ArraysUpTo bound) (hbound : bound < 2 ^ 64) {row : Row}
    (hrow : Column.row Report.variantSchema record = .ok row) :
    ∀ cell ∈ row.map Prod.snd, cell.IsPortable := by
  obtain ⟨fields, hfields, lhsLines, bothLines, -, -, hcells⟩ :=
    Report.fields_of_variantRow hfinite hrow
  have hgenerated := (hsize.length_le hfields.generated).trans_lt hbound
  have hported := (hsize.length_le hfields.ported).trans_lt hbound
  -- Counts are lengths of arrays in the record, all other cells are texts or shown numbers.
  rw [hcells]
  simp only [List.forall_mem_cons]
  exact ⟨trivial, Cell.isPortable_count hgenerated, Cell.isPortable_shown _ _,
    Cell.isPortable_count hported, Cell.isPortable_shown _ _, trivial, Cell.isPortable_shown _ _,
    trivial, trivial, Cell.isPortable_shown _ _, trivial, nofun⟩

/-- A cell that shows a scalar is portable. -/
theorem Report.ShowsScalar.isPortable {value : Json} {cell : Cell}
    (h : Report.ShowsScalar value cell) : cell.IsPortable := by
  cases h with
  | integer hsigned =>
    obtain ⟨hlow, hhigh⟩ := hsigned
    exact ⟨by omega, by omega⟩
  | longInteger => exact Cell.isPortable_shown _ _
  | double => exact Cell.isPortable_shown _ _
  | string => trivial
  | true => trivial
  | false => trivial

/-- The cells of a baseline row are portable. -/
theorem Report.isPortable_of_baselineRow (hfinite : record.json.NumbersFinite)
    (hsize : record.json.ArraysUpTo bound) (hbound : bound < 2 ^ 64) {row : Row}
    (hrow : Column.row Report.baselineSchema record = .ok row) :
    ∀ cell ∈ row.map Prod.snd, cell.IsPortable := by
  obtain ⟨fields, hfields, loc, hloc, hcells⟩ := Report.fields_of_baselineRow hfinite hrow
  have hrules := (hsize.length_le hfields.rules).trans_lt hbound
  rw [hcells]
  simp only [List.forall_mem_cons]
  exact ⟨trivial, trivial, hloc.isPortable, Cell.isPortable_count hrules,
    Cell.isPortable_shown _ _, trivial, trivial, trivial, trivial, nofun⟩

namespace ReportKind

/-- No label of a kind occurs twice. -/
theorem nodup_labels (kind : ReportKind) : (kind.schema.map (·.label)).Nodup := by
  cases kind with
  | baseline name =>
    change (Report.baselineSchema.map (·.label)).Nodup
    decide
  | variant => decide

/-- **The report of a kind is portable** on records whose numbers are finite and whose arrays are
not too long. -/
theorem isPortable_report (kind : ReportKind) {records : List Record}
    (hfinite : ∀ record ∈ records, record.json.NumbersFinite)
    (hsize : ∀ record ∈ records, record.json.ArraysUpTo bound) (hlength : records.length ≤ bound)
    (hbound : bound < 2 ^ 64) : (kind.report records).1.IsPortable where
  columns := by
    rw [report_columns]
    exact kind.nodup_labels
  columns_ne_nil := by
    rw [report_columns]
    cases kind with
    | baseline name => exact List.cons_ne_nil _ _
    | variant => exact List.cons_ne_nil _ _
  labels row hrow := by
    obtain ⟨place, record, -, -, hentry⟩ := exists_record_of_mem hrow
    rw [report_columns]
    exact Column.labels_of_row ((Report.entryOf_fst_eq_built_iff kind.title kind.schema).1 hentry)
  cells row hrow := by
    obtain ⟨place, record, hplace, -, hentry⟩ := exists_record_of_mem hrow
    have hrecord := List.mem_of_getElem? hplace
    have hbuilt := (Report.entryOf_fst_eq_built_iff kind.title kind.schema).1 hentry
    cases kind with
    | baseline name =>
      exact Report.isPortable_of_baselineRow (hfinite record hrecord) (hsize record hrecord) hbound
        hbuilt
    | variant =>
      exact Report.isPortable_of_variantRow (hfinite record hrecord) (hsize record hrecord) hbound
        hbuilt
  places place error hfailed := by
    obtain ⟨index, record, hplace, -, hentry⟩ := exists_record_of_mem hfailed
    obtain ⟨rfl, -⟩ := (Report.entryOf_fst_eq_failed_iff kind.title kind.schema).1 hentry
    rw [report_scanned]
    exact (List.getElem?_eq_some_iff.1 hplace).1
  matched := by
    rw [report_scanned, report_entries]
    exact Report.length_entriesFrom_le kind.title kind.schema kind.keeps 0 records
  scanned := by
    rw [report_scanned]
    exact hlength.trans_lt hbound

end ReportKind

/-- **The JSON document of a generated report is read back.** The report is one on the records of a
text, which has fewer than `2 ^ 64` characters like every text in memory, so its counts are numbers
of 64 bits. Its document is one object with the title, the columns, the counts and the time of the
report, and with one row for each entry in order; no key of a row occurs twice. The texts of the
rows stand in the document in the same order. -/
theorem jsonDocument_faithful (kind : ReportKind) {document : String} {records : List Record}
    (hlength : document.length < 2 ^ 64) (hrecords : Record.parseAll document = .ok records)
    (time : String) :
    let report := (kind.report records).1
    report.columns.Nodup ∧
      ∃ rows, Json.parse (report.jsonDocument time) = .ok (.object [
          ("columns", .array (report.columns.map .string)),
          ("generated_at", .string time),
          ("rows", .array rows),
          ("summary", .object [
            ("failed", .count report.summary.failed),
            ("matched", .count report.summary.matched),
            ("rendered", .count report.summary.rendered),
            ("scanned", .count report.summary.scanned)]),
          ("title", .string report.title)]) ∧
        List.Forall₂ (Entry.ReadsAs report.columns) report.entries rows ∧
        Json.separated (Json.newLine 2) (report.entries.map Entry.documentText) <:+:
          (report.jsonDocument time).toList := by
  obtain ⟨hcount, hsize⟩ := Record.arraysUpTo_of_parseAll hrecords
  have hfinite := Record.numbersFinite_of_parseAll hrecords
  have hportable := kind.isPortable_report hfinite hsize hcount hlength
  obtain ⟨rows, hparse, hrows⟩ := hportable.exists_parse time
  exact ⟨hportable.columns, rows, hparse, hrows, Report.documentTexts_infix _ time⟩

end Generated

/-- The text of two records with runs, one of which lacks all other fields. -/
def sampleDocument : String :=
  (Json.array [Report.sampleRun.json, .object [("from_bv4", .bool true)]]).compact

/-- The document of the report on this text is read back with a row and a failure. -/
theorem jsonDocument_faithful_of_sampleDocument :
    sampleDocument.length < 2 ^ 64 ∧
      ∃ records, Record.parseAll sampleDocument = .ok records ∧
        let report := (ReportKind.variant.report records).1
        report.summary = ⟨2, 2, 1, 1⟩ ∧
          ∃ fields rows,
            Json.parse (report.jsonDocument "2024-01-01 00:00:00") = .ok (.object fields) ∧
              ("rows", .array rows) ∈ fields ∧
              List.Forall₂ (Entry.ReadsAs report.columns) report.entries rows := by
  have hlength : sampleDocument.length < 2 ^ 64 := by
    rw [sampleDocument, Json.compact, String.length_ofList]
    decide +kernel
  have hsummary : (Record.parseAll sampleDocument).map
      (fun records => (ReportKind.variant.report records).1.summary) = .ok ⟨2, 2, 1, 1⟩ := by
    rw [Record.parseAll, Json.parse, sampleDocument, Json.compact, String.toList_ofList]
    decide +kernel
  obtain ⟨records, hrecords, hcounts⟩ := map_eq_ok_iff.1 hsummary
  obtain ⟨-, rows, hparse, hrows, -⟩ :=
    jsonDocument_faithful .variant hlength hrecords "2024-01-01 00:00:00"
  refine ⟨hlength, records, hrecords, hcounts.symm, _, rows, hparse, ?_, hrows⟩
  simp only [List.mem_cons, true_or, or_true]

end SynthReport
