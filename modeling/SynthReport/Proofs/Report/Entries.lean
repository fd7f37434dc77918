import SynthReport.Report.Schema

/-! # The entries of a report

A report is generated record by record. What one record adds does not depend on the others, and its
place in the input only shows in the index of a failure.

* **`Entry.shift`**, **`Entry.failedAt?`**, **`Entry.warning?`** — an entry counted on, the index of
  a failure, and the line logged for it;
* **`entriesFrom_append`**, **`entriesFrom_shift`** — the entries of a longer list, and of a list
  that is counted from a later index;
* **`failedAt?_sublist_range'`** — failures are numbered by the places of their records;
* **`entriesFrom_snd`** — what is logged is told by the entries;
* **`OneEach`** — one entry for each matching record, in order. -/

namespace SynthReport

namespace Entry

/-- **The entry when so many records stand before its list.** -/
def shift (n : Nat) : Entry → Entry
  | built row => built row
  | failed record error => failed (record + n) error

/-- The index of a failed record. -/
def failedAt? : Entry → Option Nat
  | built _ => none
  | failed record _ => some record

/-- **The warning that goes with an entry**: one for a failure, and none for a row. -/
def warning? (title : String) : Entry → Option LogLine
  | built _ => none
  | failed record error =>
    some ⟨.warning, title ++ ": record " ++ toString record ++ " skipped: " ++ error.message⟩

@[simp] theorem isFailed_shift (n : Nat) (entry : Entry) :
    (entry.shift n).isFailed = entry.isFailed := by
  cases entry <;> rfl

end Entry

namespace Report

/-! ## One record -/

section Generation

variable (title : String) (schema : List Column) (keep : Record → Bool)

/-- The entry of a record is its row or its failure. -/
theorem entryOf_fst (index : Nat) (record : Record) :
    (entryOf title schema index record).1 =
      match Column.row schema record with
      | .ok row => .built row
      | .error error => .failed index error := by
  rw [entryOf]
  cases Column.row schema record <;> rfl

/-- The entry of a record is its row exactly if there is one. -/
theorem entryOf_fst_eq_built_iff {index : Nat} {record : Record} {row : Row} :
    (entryOf title schema index record).1 = .built row ↔
      Column.row schema record = .ok row := by
  rw [entryOf_fst]
  cases Column.row schema record with
  | ok other => simp
  | error error => simp

/-- The entry of a record is a failure exactly if the record has no row. -/
theorem entryOf_fst_eq_failed_iff {index place : Nat} {record : Record} {error : RowError} :
    (entryOf title schema index record).1 = .failed place error ↔
      place = index ∧ Column.row schema record = .error error := by
  rw [entryOf_fst]
  cases Column.row schema record with
  | ok row => simp
  | error other => simp [eq_comm]

/-- What is logged for a record is the warning that goes with its entry. -/
theorem entryOf_snd (index : Nat) (record : Record) :
    (entryOf title schema index record).2 =
      ((entryOf title schema index record).1.warning? title).toList := by
  rw [entryOf]
  cases Column.row schema record <;> rfl

/-- A later index shifts the entry. -/
theorem entryOf_shift (index n : Nat) (record : Record) :
    (entryOf title schema (index + n) record).1 =
      (entryOf title schema index record).1.shift n := by
  rw [entryOf_fst, entryOf_fst]
  cases Column.row schema record <;> rfl

/-- An entry fails at the index of its record, if it fails. -/
theorem failedAt?_entryOf (index : Nat) (record : Record) :
    (entryOf title schema index record).1.failedAt? = none ∨
      (entryOf title schema index record).1.failedAt? = some index := by
  rw [entryOf_fst]
  cases Column.row schema record with
  | ok row => exact Or.inl rfl
  | error error => exact Or.inr rfl

/-! ## Record by record -/

/-- A record that is kept adds its entry and what is logged for it. -/
theorem entriesFrom_cons_of_keep {record : Record} (h : keep record = true) (index : Nat)
    (rest : List Record) :
    entriesFrom title schema keep index (record :: rest) =
      ((entryOf title schema index record).1 :: (entriesFrom title schema keep (index + 1) rest).1,
        (entryOf title schema index record).2 ++
          (entriesFrom title schema keep (index + 1) rest).2) := by
  rw [entriesFrom]
  simp [h]

/-- A record that is not kept only counts. -/
theorem entriesFrom_cons_of_not_keep {record : Record} (h : ¬ keep record = true) (index : Nat)
    (rest : List Record) :
    entriesFrom title schema keep index (record :: rest) =
      entriesFrom title schema keep (index + 1) rest := by
  rw [entriesFrom]
  simp [h]

/-- **The entries of a longer list** are those of its parts, the second one counted on. -/
theorem entriesFrom_append (index : Nat) (a b : List Record) :
    (entriesFrom title schema keep index (a ++ b)).1 =
      (entriesFrom title schema keep index a).1 ++
        (entriesFrom title schema keep (index + a.length) b).1 := by
  induction a generalizing index with
  | nil => rfl
  | cons record rest ih =>
    rw [List.cons_append, List.length_cons, Nat.add_comm rest.length, ← Nat.add_assoc]
    by_cases h : keep record = true
    · rw [entriesFrom_cons_of_keep _ _ _ h, entriesFrom_cons_of_keep _ _ _ h, ih, List.cons_append]
    · rw [entriesFrom_cons_of_not_keep _ _ _ h, entriesFrom_cons_of_not_keep _ _ _ h, ih]

/-- **Counting from a later index shifts every entry.** -/
theorem entriesFrom_shift (index n : Nat) (records : List Record) :
    (entriesFrom title schema keep (index + n) records).1 =
      (entriesFrom title schema keep index records).1.map (·.shift n) := by
  induction records generalizing index with
  | nil => rfl
  | cons record rest ih =>
    have hnext := ih (index + 1)
    rw [Nat.add_right_comm] at hnext
    by_cases h : keep record = true
    · rw [entriesFrom_cons_of_keep _ _ _ h, entriesFrom_cons_of_keep _ _ _ h, hnext, entryOf_shift,
        List.map_cons]
    · rw [entriesFrom_cons_of_not_keep _ _ _ h, entriesFrom_cons_of_not_keep _ _ _ h, hnext]

/-- **What is logged is one warning for each failed entry**, in the order of the entries. -/
theorem entriesFrom_snd (index : Nat) (records : List Record) :
    (entriesFrom title schema keep index records).2 =
      (entriesFrom title schema keep index records).1.filterMap (Entry.warning? title) := by
  induction records generalizing index with
  | nil => rfl
  | cons record rest ih =>
    by_cases h : keep record = true
    · rw [entriesFrom_cons_of_keep _ _ _ h, ih, entryOf_snd, List.filterMap_cons]
      cases Entry.warning? title (entryOf title schema index record).1 <;> rfl
    · rw [entriesFrom_cons_of_not_keep _ _ _ h, ih]

/-- **Failures are numbered by the places of their records**, each place at most once and in
order. -/
theorem failedAt?_sublist_range' (index : Nat) (records : List Record) :
    ((entriesFrom title schema keep index records).1.filterMap Entry.failedAt?).Sublist
      (List.range' index records.length) := by
  induction records generalizing index with
  | nil => exact List.Sublist.refl []
  | cons record rest ih =>
    rw [List.length_cons, List.range'_succ]
    by_cases h : keep record = true
    · rw [entriesFrom_cons_of_keep _ _ _ h, List.filterMap_cons]
      rcases failedAt?_entryOf title schema index record with hentry | hentry
      · rw [hentry]
        exact (ih (index + 1)).cons index
      · rw [hentry]
        exact (ih (index + 1)).cons_cons index
    · rw [entriesFrom_cons_of_not_keep _ _ _ h]
      exact (ih (index + 1)).cons index

/-- There are no more entries than records. -/
theorem length_entriesFrom_le (index : Nat) (records : List Record) :
    (entriesFrom title schema keep index records).1.length ≤ records.length := by
  induction records generalizing index with
  | nil => exact Nat.le_refl 0
  | cons record rest ih =>
    by_cases h : keep record = true
    · rw [entriesFrom_cons_of_keep _ _ _ h]
      exact Nat.succ_le_succ (ih (index + 1))
    · rw [entriesFrom_cons_of_not_keep _ _ _ h]
      exact Nat.le_succ_of_le (ih (index + 1))

/-! ## One entry for each matching record -/

/-- **One entry for each matching record, in order.** Records are numbered from an index on, and an
entry stands for its record under that number. -/
inductive OneEach (Matches : Record → Prop) (Stands : Nat → Record → Entry → Prop) :
    Nat → List Record → List Entry → Prop where
  | nil {index : Nat} : OneEach Matches Stands index [] []
  | matching {index : Nat} {record : Record} {records : List Record} {entry : Entry}
      {entries : List Entry} :
      Matches record → Stands index record entry →
        OneEach Matches Stands (index + 1) records entries →
          OneEach Matches Stands index (record :: records) (entry :: entries)
  | other {index : Nat} {record : Record} {records : List Record} {entries : List Entry} :
      ¬ Matches record → OneEach Matches Stands (index + 1) records entries →
        OneEach Matches Stands index (record :: records) entries

variable {title schema keep} {Matches : Record → Prop} {Stands : Nat → Record → Entry → Prop}

/-- **A report has one entry for each record that it is about**, if it keeps those and every entry
stands for its record. -/
theorem oneEach_entriesFrom {records : List Record}
    (hkeep : ∀ record ∈ records, keep record = true ↔ Matches record)
    (hstands : ∀ index, ∀ record ∈ records,
      Stands index record (entryOf title schema index record).1) (index : Nat) :
    OneEach Matches Stands index records (entriesFrom title schema keep index records).1 := by
  induction records generalizing index with
  | nil => exact .nil
  | cons record rest ih =>
    have hrest := ih (fun r hr => hkeep r (List.mem_cons_of_mem _ hr))
      (fun i r hr => hstands i r (List.mem_cons_of_mem _ hr)) (index + 1)
    by_cases h : keep record = true
    · rw [entriesFrom_cons_of_keep _ _ _ h]
      exact .matching ((hkeep record List.mem_cons_self).1 h)
        (hstands index record List.mem_cons_self) hrest
    · rw [entriesFrom_cons_of_not_keep _ _ _ h]
      exact .other (mt (hkeep record List.mem_cons_self).2 h) hrest

/-- Every entry stands for the record at its place. -/
theorem OneEach.exists_of_mem {index : Nat} {records : List Record} {entries : List Entry}
    (h : OneEach Matches Stands index records entries) {entry : Entry} (hentry : entry ∈ entries) :
    ∃ place record, records[place]? = some record ∧ Matches record ∧
      Stands (index + place) record entry := by
  induction h with
  | nil => cases hentry
  | @matching index record records other entries hmatch hstand _ ih =>
    rcases List.mem_cons.1 hentry with rfl | hentry
    · exact ⟨0, record, rfl, hmatch, hstand⟩
    · obtain ⟨place, r, hplace, hr⟩ := ih hentry
      rw [Nat.add_right_comm] at hr
      exact ⟨place + 1, r, hplace, hr⟩
  | other _ _ ih =>
    obtain ⟨place, r, hplace, hr⟩ := ih hentry
    rw [Nat.add_right_comm] at hr
    exact ⟨place + 1, r, hplace, hr⟩

end Generation

end Report

end SynthReport
