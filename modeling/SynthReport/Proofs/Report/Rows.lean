import SynthReport.Proofs.Record.Accessors
import SynthReport.Proofs.Report.Entries
import SynthReport.Proofs.Traversal

/-! # Rows and what they promise

A row is built column by column, and the first column that has no value is its failure.

* **`exists_row_iff`**, **`row_eq_error_iff`** — when there is a row, and otherwise which failure;
* **`Cell.shown`** — how a finite number is shown, and that rounding a cell twice shows it with the
  places of the first rounding;
* **`RowPromise`** — what a kind of report promises of the entry of a record;
* **`kept_generate`** — a generated report keeps a promise that its columns keep. -/

namespace SynthReport

/-! ## Numbers in cells -/

namespace Cell

/-- **A finite number as it is shown**: a whole one as it is, and any other as text with so many
places. -/
def shown (places : Nat) (x : Binary64) : Cell :=
  if x.isWhole then number x else text (x.toFixed places)

/-- Whole numbers are finite. -/
theorem isFinite_of_isWhole {x : Binary64} (h : x.isWhole = true) : x.isFinite = true := by
  cases x with
  | nan => cases h
  | infinite negative => cases h
  | finite negative m => rfl

/-- A finite number is rounded to what is shown of it. -/
theorem rounded_number {x : Binary64} (h : x.isFinite = true) (places : Nat) :
    (number x).rounded places = shown places x := by
  rw [rounded, shown]
  simp [h]

/-- **What is shown of a number is not rounded again.** -/
theorem rounded_shown (x : Binary64) (places more : Nat) :
    (shown places x).rounded more = shown places x := by
  by_cases h : x.isWhole = true
  · rw [shown, if_pos h, rounded_number (isFinite_of_isWhole h), shown, if_pos h]
  · rw [shown, if_neg h, rounded_text]

end Cell

/-! ## Rows column by column -/

namespace Column

variable {schema : List Column} {record : Record}

/-- **The column has no value for the record.** -/
def Fails (record : Record) (column : Column) : Prop :=
  ∃ error, column.value record = .error error

/-- A column that does not fail has a value. -/
theorem not_fails_iff {column : Column} :
    ¬ column.Fails record ↔ ∃ cell, column.value record = .ok cell :=
  exists_eq_ok_iff.symm

/-- Without columns the row is empty. -/
@[simp] theorem row_nil_eq_ok_iff {row : Row} : Column.row [] record = .ok row ↔ row = [] := by
  simp [Column.row, pure, Except.pure, eq_comm]

/-- A row starts with the rounded value of the first column. -/
theorem row_cons_eq_ok_iff {column : Column} {row : Row} :
    Column.row (column :: schema) record = .ok row ↔
      ∃ cell rest, column.value record = .ok cell ∧ Column.row schema record = .ok rest ∧
        row = (column.label, cell.rounded ordinaryPlaces) :: rest := by
  rw [Column.row, mapM_cons_eq_ok_iff]
  simp only [bind_pure_eq_ok_iff]
  constructor
  · rintro ⟨_, rest, ⟨cell, hcell, rfl⟩, hrest, rfl⟩
    exact ⟨cell, rest, hcell, hrest, rfl⟩
  · rintro ⟨cell, rest, hcell, hrest, rfl⟩
    exact ⟨_, rest, ⟨cell, hcell, rfl⟩, hrest, rfl⟩

/-- **A record has a row exactly if every column has a value for it.** -/
theorem exists_row_iff :
    (∃ row, Column.row schema record = .ok row) ↔
      ∀ column ∈ schema, ∃ cell, column.value record = .ok cell := by
  rw [Column.row, exists_mapM_eq_ok_iff]
  simp only [bind_pure_eq_ok_iff]
  refine forall_congr' fun column => forall_congr' fun _ => ?_
  constructor
  · rintro ⟨_, cell, hcell, -⟩
    exact ⟨cell, hcell⟩
  · rintro ⟨cell, hcell⟩
    exact ⟨_, cell, hcell, rfl⟩

/-- **The failure of a row is that of its first column without a value.** -/
theorem row_eq_error_iff {error : RowError} :
    Column.row schema record = .error error ↔
      ∃ column, FirstOf (Fails record) schema column ∧ column.value record = .error error := by
  rw [Column.row, mapM_eq_error_iff]
  simp only [bind_pure_eq_error_iff]
  rfl

/-- A row has the labels of its columns, in their order. -/
theorem labels_of_row {row : Row} (h : Column.row schema record = .ok row) :
    row.map Prod.fst = schema.map (·.label) := by
  induction schema generalizing row with
  | nil =>
    rw [row_nil_eq_ok_iff.1 h]
    rfl
  | cons column rest ih =>
    obtain ⟨cell, cells, -, hcells, rfl⟩ := row_cons_eq_ok_iff.1 h
    rw [List.map_cons, List.map_cons, ih hcells]

end Column

/-! ## Columns that show one field -/

section Fields

open Record

variable {record : Record} {path : FieldPath} {cell : Cell}

/-- The string at a path as a cell. -/
theorem stringCell_eq_ok_iff :
    (do let s ← record.stringAt path; pure (Cell.text s)) = Except.ok cell ↔
      ∃ s, record.json.LeadsTo path (.string s) ∧ cell = .text s := by
  rw [bind_pure_eq_ok_iff]
  simp only [stringAt_eq_ok_iff]

/-- The length of the array at a path as a cell. -/
theorem countCell_eq_ok_iff :
    (do let length ← record.lengthAt path; pure (Cell.count length)) = Except.ok cell ↔
      ∃ items, record.json.LeadsTo path (.array items) ∧ cell = .count items.length := by
  rw [bind_pure_eq_ok_iff]
  simp only [lengthAt_eq_ok_iff]
  constructor
  · rintro ⟨_, ⟨items, hpath, rfl⟩, rfl⟩
    exact ⟨items, hpath, rfl⟩
  · rintro ⟨items, hpath, rfl⟩
    exact ⟨_, ⟨items, hpath, rfl⟩, rfl⟩

/-- The number at a path as a cell. -/
theorem numberCell_eq_ok_iff :
    (do let x ← record.numberAt path; pure (Cell.number x)) = Except.ok cell ↔
      ∃ n, record.json.LeadsTo path (.number n) ∧ cell = .number n.toBinary64 := by
  rw [bind_pure_eq_ok_iff]
  simp only [numberAt_eq_ok_iff]
  constructor
  · rintro ⟨_, ⟨n, hpath, rfl⟩, rfl⟩
    exact ⟨n, hpath, rfl⟩
  · rintro ⟨n, hpath, rfl⟩
    exact ⟨_, ⟨n, hpath, rfl⟩, rfl⟩

end Fields

/-! ## Promises of a kind of report -/

/-- **What a kind of report promises of a record**, in terms of its JSON: which records it is about,
the fields that make a row, and the cells that they fill. -/
structure RowPromise (Fields : Type) where
  /-- The report is about the record. -/
  Matches : Json → Prop
  /-- The record holds these fields, and nothing stands against a row of them. -/
  HeldBy : Fields → Json → Prop
  /-- The cells of the row with these fields. -/
  Fills : Fields → List Cell → Prop

namespace RowPromise

variable {Fields : Type} (promise : RowPromise Fields)

/-- **The entry stands for the record**: it is a row exactly if the record holds the fields of one,
and then the labels are the columns and the cells are those of the fields; a failure names the place
of the record. -/
structure Stands (columns : List String) (index : Nat) (record : Record) (entry : Entry) :
    Prop where
  built_iff : (∃ row, entry = .built row) ↔ ∃ fields, promise.HeldBy fields record.json
  row : ∀ row, entry = .built row → row.map Prod.fst = columns ∧
    ∃ fields, promise.HeldBy fields record.json ∧ promise.Fills fields (row.map Prod.snd)
  failed : ∀ place error, entry = .failed place error → place = index

/-- **The report keeps the promise**: it has one entry for each matching record, in the order of the
records, and every entry stands for its record. -/
def Kept (records : List Record) (report : Report) : Prop :=
  Report.OneEach (promise.Matches ·.json) (promise.Stands report.columns) 0 records report.entries

variable {promise} {title : String} {schema : List Column} {keep : Record → Bool}

/-- The entry of a record stands for it, if rows hold the fields of the promise and its fields have
a row. -/
theorem stands_entryOf {record : Record} (index : Nat)
    (hsound : ∀ row, Column.row schema record = .ok row →
      ∃ fields, promise.HeldBy fields record.json ∧ promise.Fills fields (row.map Prod.snd))
    (hcomplete : ∀ fields, promise.HeldBy fields record.json →
      ∀ column ∈ schema, ∃ cell, column.value record = .ok cell) :
    promise.Stands (schema.map (·.label)) index record
      (Report.entryOf title schema index record).1 := by
  constructor
  · simp only [Report.entryOf_fst_eq_built_iff]
    constructor
    · rintro ⟨row, hrow⟩
      obtain ⟨fields, hfields, -⟩ := hsound row hrow
      exact ⟨fields, hfields⟩
    · rintro ⟨fields, hfields⟩
      exact Column.exists_row_iff.2 (hcomplete fields hfields)
  · intro row hbuilt
    have hrow := (Report.entryOf_fst_eq_built_iff title schema).1 hbuilt
    obtain ⟨fields, hfields, hcells⟩ := hsound row hrow
    exact ⟨Column.labels_of_row hrow, fields, hfields, hcells⟩
  · intro place error hfailed
    exact ((Report.entryOf_fst_eq_failed_iff title schema).1 hfailed).1

/-- **A generated report keeps the promise that its columns keep.** -/
theorem kept_generate {records : List Record}
    (hkeep : ∀ record ∈ records, keep record = true ↔ promise.Matches record.json)
    (hsound : ∀ record ∈ records, ∀ row, Column.row schema record = .ok row →
      ∃ fields, promise.HeldBy fields record.json ∧ promise.Fills fields (row.map Prod.snd))
    (hcomplete : ∀ record ∈ records, ∀ fields, promise.HeldBy fields record.json →
      ∀ column ∈ schema, ∃ cell, column.value record = .ok cell) :
    promise.Kept records (Report.generate title schema keep records).1 :=
  Report.oneEach_entriesFrom hkeep
    (fun index record hrecord =>
      stands_entryOf index (hsound record hrecord) (hcomplete record hrecord)) 0

end RowPromise

end SynthReport
