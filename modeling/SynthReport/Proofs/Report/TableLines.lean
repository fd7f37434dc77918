import SynthReport.Proofs.Report.PipeTable

/-! # Line ends in a pipe table

A line of Markdown ends at a line feed, at a carriage return, or at both together. The cells of a
table keep line feeds out, with the carriage returns in front of them; a carriage return by itself
stays.

* **`loneReturns`** — the carriage returns of a text that no line feed follows;
* **`count_return_escapeCell`** — a cell has as many carriage returns as its text has lone ones;
* **`HoldsReturns`** — one line, with the lone carriage returns of some texts and no others;
* **`markdownTable_returns`** — every line of a table is such a line, so the table has one line of
  Markdown for each entry exactly if there is no lone carriage return in what it shows. -/

namespace SynthReport.Report

/-! ## Cells -/

/-- **The carriage returns that no line feed follows.** -/
def loneReturns : List Char → Nat
  | [] => 0
  | c :: rest => (if c = '\r' ∧ rest.head? ≠ some '\n' then 1 else 0) + loneReturns rest

/-- **A cell has the lone carriage returns of its text** and no others. -/
theorem count_return_escapeCell (text : List Char) :
    (escapeCell text).count '\r' = loneReturns text := by
  induction text using escapeCell.induct with
  | case1 => rfl
  | case2 rest ih => simp [escapeCell, breakTag, loneReturns, ih]
  | case3 c rest hreturn ih =>
    rw [escapeCell.eq_3 _ _ hreturn, List.count_append, ih, loneReturns]
    by_cases hc : c = '\r'
    · -- No line feed follows, or the two would have been taken together.
      subst hc
      have hlone : rest.head? ≠ some '\n' := by
        intro hhead
        obtain ⟨more, rfl⟩ := List.head?_eq_some_iff.1 hhead
        exact hreturn more rfl rfl
      rw [if_neg (by decide), if_neg (by decide), if_pos ⟨rfl, hlone⟩]
      rfl
    · have hnone : ¬ (c = '\r' ∧ rest.head? ≠ some '\n') := fun h => hc h.1
      rw [if_neg hnone]
      congr 1
      rw [List.count_eq_zero]
      split
      · decide
      · split
        · decide
        · simpa using Ne.symm hc

/-! ## Lines -/

/-- The lone carriage returns of some texts. -/
def loneReturnsOf : List String → Nat
  | [] => 0
  | text :: rest => loneReturns text.toList + loneReturnsOf rest

/-- Texts have no lone carriage return exactly if none of them has one. -/
theorem loneReturnsOf_eq_zero_iff {texts : List String} :
    loneReturnsOf texts = 0 ↔ ∀ text ∈ texts, loneReturns text.toList = 0 := by
  induction texts with
  | nil => simp [loneReturnsOf]
  | cons text rest ih => rw [loneReturnsOf, Nat.add_eq_zero_iff, ih, List.forall_mem_cons]

/-- The cells of texts have the lone carriage returns of these. -/
theorem count_return_cells (texts : List String) :
    (texts.flatMap fun text => escapeCell text.toList).count '\r' = loneReturnsOf texts := by
  induction texts with
  | nil => rfl
  | cons text rest ih =>
    rw [List.flatMap_cons, List.count_append, count_return_escapeCell, ih, loneReturnsOf]

/-- **One line with the lone carriage returns of some texts** and no others. -/
structure HoldsReturns (line : String) (texts : List String) : Prop where
  lineFeed_notMem : '\n' ∉ line.toList
  count_return : line.toList.count '\r' = loneReturnsOf texts

/-- Such a line is one line of Markdown exactly if there are none. -/
theorem HoldsReturns.return_notMem_iff {line : String} {texts : List String}
    (h : HoldsReturns line texts) :
    '\r' ∉ line.toList ↔ ∀ text ∈ texts, loneReturns text.toList = 0 := by
  rw [← List.count_eq_zero, h.count_return, loneReturnsOf_eq_zero_iff]

/-- What joins parts adds no character that it does not have. -/
theorem count_intercalate {c : Char} {between : List Char} (hbetween : c ∉ between)
    (parts : List (List Char)) : (between.intercalate parts).count c = parts.flatten.count c := by
  induction parts with
  | nil => rfl
  | cons part rest ih =>
    cases rest with
    | nil => simp
    | cons next rest =>
      rw [List.intercalate_cons_cons, List.count_append, List.count_append, ih,
        List.count_eq_zero.2 hbetween, Nat.add_zero, List.flatten_cons (l := part),
        List.count_append]

/-- **A line of cells** holds the lone carriage returns of their texts. -/
theorem exists_holdsReturns (texts : List String) :
    ∃ line, tableLine (texts.map markdownCell) = textOfLines [line] ∧ HoldsReturns line texts := by
  have hcells : (" | ".intercalate (texts.map markdownCell)).toList =
      [' ', '|', ' '].intercalate (texts.map fun text => escapeCell text.toList) := by
    simp [String.toList_intercalate, markdownCell, Function.comp_def]
  refine ⟨"| " ++ " | ".intercalate (texts.map markdownCell) ++ " |", ?_, ?_, ?_⟩
  · rw [textOfLines_cons, textOfLines_nil, String.append_empty, tableLine, ← String.toList_inj]
    simp
  · rw [String.toList_append, String.toList_append, hcells]
    intro hfeed
    rcases List.mem_append.1 hfeed with hfeed | hfeed
    · rcases List.mem_append.1 hfeed with hfeed | hfeed
      · exact absurd hfeed (by decide)
      · rcases mem_of_mem_intercalate hfeed with hfeed | ⟨cell, hcell, hfeed⟩
        · exact absurd hfeed (by decide)
        · obtain ⟨text, -, rfl⟩ := List.mem_map.1 hcell
          exact lineFeed_notMem_escapeCell _ hfeed
    · exact absurd hfeed (by decide)
  · rw [String.toList_append, String.toList_append, hcells, List.count_append, List.count_append,
      count_intercalate (by decide), ← List.flatMap_def, count_return_cells]
    exact Nat.zero_add _

/-- The rule under the header holds none. -/
theorem exists_rule_holdsReturns (columns : Nat) :
    ∃ line, "|" ++ String.join (List.replicate columns "---|") ++ "\n" = textOfLines [line] ∧
      HoldsReturns line [] := by
  have hnone : ∀ c ∈ (pipeLine (List.replicate columns "---".toList)).toList, c = '|' ∨ c = '-' := by
    intro c hc
    rw [pipeLine, String.toList_ofList] at hc
    rcases List.mem_cons.1 hc with hc | hc
    · exact Or.inl hc
    · obtain ⟨piece, hpiece, hc⟩ := List.mem_flatMap.1 hc
      rw [List.eq_of_mem_replicate hpiece] at hc
      simpa [or_comm] using hc
  refine ⟨_, rule_eq columns, fun hfeed => absurd (hnone _ hfeed) (by decide), ?_⟩
  exact List.count_eq_zero.2 fun hreturn => absurd (hnone _ hreturn) (by decide)

/-- **The lines of the entries** hold the lone carriage returns of what they show. -/
theorem exists_entry_holdsReturns (columns : Nat) (entries : List Entry) :
    ∃ lines, String.join (entries.map fun entry => tableLine (entryCells columns entry)) =
        textOfLines lines ∧
      List.Forall₂ (fun entry line => HoldsReturns line (entryTexts columns entry))
        entries lines := by
  induction entries with
  | nil => exact ⟨[], rfl, .nil⟩
  | cons entry rest ih =>
    obtain ⟨lines, hlines, hholds⟩ := ih
    obtain ⟨line, hline, hfirst⟩ := exists_holdsReturns (entryTexts columns entry)
    refine ⟨line :: lines, ?_, .cons hfirst hholds⟩
    rw [List.map_cons, String.join_cons, hlines, entryCells_eq, hline, ← textOfLines_append,
      List.singleton_append]

/-- Lines of entries are lines of Markdown exactly if no text of an entry has a lone carriage
return. -/
theorem forall_lines_iff {columns : Nat} {entries : List Entry} {lines : List String}
    (h : List.Forall₂ (fun entry line => HoldsReturns line (entryTexts columns entry))
      entries lines) :
    (∀ line ∈ lines, '\n' ∉ line.toList ∧ '\r' ∉ line.toList) ↔
      ∀ text ∈ entries.flatMap (entryTexts columns), loneReturns text.toList = 0 := by
  induction h with
  | nil => simp
  | cons hfirst _ ih =>
    rw [List.forall_mem_cons, ih, hfirst.return_notMem_iff, List.flatMap_cons,
      List.forall_mem_append, and_iff_right hfirst.lineFeed_notMem]

/-! ## Tables -/

/-- **What a table shows**: the labels of its columns and the texts of its entries. -/
def shownTexts (report : Report) : List String :=
  report.columns ++ report.entries.flatMap (entryTexts report.columns.length)

/-- **Line ends in the table of a report.** The table is a line for the header, one for the rule and
one for each entry. No line has a line feed before its end, and each has the lone carriage returns
of what it shows. So no line has any line end of Markdown before its last line feed if and only if
no text that is shown has a carriage return without a line feed behind it. -/
theorem markdownTable_returns (report : Report) :
    ∃ header rule body, report.markdownTable = textOfLines (header :: rule :: body) ∧
      HoldsReturns header report.columns ∧ HoldsReturns rule [] ∧
      List.Forall₂ (fun entry line => HoldsReturns line (entryTexts report.columns.length entry))
        report.entries body ∧
      ((∀ line ∈ header :: rule :: body, '\n' ∉ line.toList ∧ '\r' ∉ line.toList) ↔
        ∀ text ∈ report.shownTexts, loneReturns text.toList = 0) := by
  obtain ⟨header, hheader, hcolumns⟩ := exists_holdsReturns report.columns
  obtain ⟨rule, hrule, hnone⟩ := exists_rule_holdsReturns report.columns.length
  obtain ⟨body, hbody, hentries⟩ :=
    exists_entry_holdsReturns report.columns.length report.entries
  refine ⟨header, rule, body, ?_, hcolumns, hnone, hentries, ?_⟩
  · rw [markdownTable, hheader, hrule, hbody, ← textOfLines_append, ← textOfLines_append]
    rfl
  · rw [List.forall_mem_cons, List.forall_mem_cons, forall_lines_iff hentries,
      hcolumns.return_notMem_iff, hnone.return_notMem_iff, shownTexts, List.forall_mem_append,
      and_iff_right hcolumns.lineFeed_notMem, and_iff_right hnone.lineFeed_notMem,
      and_iff_right (List.forall_mem_nil _)]

/-- A table whose only cell has a carriage return by itself. -/
def returnTable : Report where
  title := "BV4 variant comparison"
  columns := ["Domain"]
  entries := [.built [("Domain", .text "a\rb")]]
  scanned := 1

/-- **The line of an entry can end before its line feed**: the table of that report is no sequence
of lines without line ends in them. -/
theorem returnTable_line_broken :
    ¬ ∀ report : Report, ∃ lines, report.markdownTable = textOfLines lines ∧
      ∀ line ∈ lines, '\n' ∉ line.toList ∧ '\r' ∉ line.toList := by
  intro h
  obtain ⟨lines, htable, hlines⟩ := h returnTable
  have hreturn : '\r' ∈ returnTable.markdownTable.toList := by decide +kernel
  rw [htable] at hreturn
  rcases mem_textOfLines hreturn with hfeed | ⟨line, hline, hmem⟩
  · exact absurd hfeed (by decide)
  · exact (hlines line hline).2 hmem

end SynthReport.Report
