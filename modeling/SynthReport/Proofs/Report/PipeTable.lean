import Mathlib.Data.List.Forall2
import SynthReport.Proofs.Text.Lines
import SynthReport.Proofs.Text.Replacement
import SynthReport.Report.Markdown

/-! # Pipe tables are read back

A line of a pipe table is read by splitting it at the pipes that are not escaped.

* **`splitPipes`** — the pieces of a line between pipes that do not stand right behind a backslash;
* **`oneLine`** — a text with its line feeds, and the carriage returns in front of them, as tags;
* **`splitPipes_pipeLine`** — the pieces of a line of the table are found again;
* **`escapeCell_eq`**, **`unescapePipes_escapeCell`** — a cell is its text with every pipe escaped,
  on one line, and without the escapes it is that text on one line;
* **`markdownTable_readable`** — the table of a report is read back line by line. -/

namespace SynthReport.Report

/-! ## Reading a line -/

/-- The pieces of a line, given the character in front of it. -/
def splitPipesAfter (previous : Char) : List Char → List (List Char)
  | [] => [[]]
  | c :: rest =>
    if c = '|' ∧ previous ≠ '\\' then [] :: splitPipesAfter c rest
    else
      match splitPipesAfter c rest with
      | [] => [[c]]
      | piece :: pieces => (c :: piece) :: pieces

/-- **The pieces of a line between pipes that do not stand right behind a backslash.** -/
def splitPipes (line : String) : List (List Char) := splitPipesAfter '\n' line.toList

/-- **A text on one line**: a carriage return with a line feed is one tag, and so is any other line
feed. -/
def oneLine (text : List Char) : List Char :=
  replaceAll ['\n'] breakTag (replaceAll ['\r', '\n'] breakTag text)

/-- Escaped pipes as they were. -/
def unescapePipes (cell : List Char) : List Char := replaceAll ['\\', '|'] ['|'] cell

/-- **A line shows texts in so many cells**: it starts and ends with a pipe, every cell has a space
more on both sides, and without the escapes the cells are the texts on one line each. -/
def ShowsTexts (columns : Nat) (line : String) (texts : List String) : Prop :=
  ∃ cells : List (List Char),
    cells.length = columns ∧
      splitPipes line = [] :: (cells.map fun cell => ' ' :: (cell ++ [' '])) ++ [[]] ∧
      cells.map unescapePipes = texts.map fun text => oneLine text.toList

/-! ## Pieces without pipes -/

/-- **Every pipe of a text stands right behind a backslash**, given the character in front of the
text. -/
def Guarded (previous : Char) : List Char → Prop
  | [] => True
  | c :: rest => (c = '|' → previous = '\\') ∧ Guarded c rest

/-- A text that is guarded is a piece, if it does not end in a backslash. -/
theorem splitPipesAfter_append {previous last : Char} {text : List Char}
    (h : Guarded previous text) (hlast : last ≠ '|') (hescape : last ≠ '\\') (rest : List Char) :
    splitPipesAfter previous (text ++ last :: '|' :: rest) =
      (text ++ [last]) :: splitPipesAfter '|' rest := by
  induction text generalizing previous with
  | nil =>
    rw [List.nil_append, splitPipesAfter, if_neg (fun hpipe => hlast hpipe.1), splitPipesAfter,
      if_pos ⟨rfl, hescape⟩]
    rfl
  | cons c text ih =>
    obtain ⟨hc, htext⟩ := h
    rw [List.cons_append, splitPipesAfter, if_neg (fun hpipe => hpipe.2 (hc hpipe.1)), ih htext]
    rfl

/-- A piece as it stands in a line: guarded, and with another character than a pipe or a backslash
at its end. -/
def IsPiece (piece : List Char) : Prop :=
  ∃ text last, piece = text ++ [last] ∧ Guarded '|' text ∧ last ≠ '|' ∧ last ≠ '\\'

/-- **Pieces are found again** in a line that starts with a pipe and has one behind each of them. -/
theorem splitPipesAfter_flatMap {pieces : List (List Char)} (h : ∀ piece ∈ pieces, IsPiece piece) :
    splitPipesAfter '|' (pieces.flatMap (· ++ ['|'])) = pieces ++ [[]] := by
  induction pieces with
  | nil => rfl
  | cons piece pieces ih =>
    obtain ⟨⟨text, last, rfl, hguarded, hlast, hescape⟩, hpieces⟩ := List.forall_mem_cons.1 h
    rw [List.flatMap_cons, List.append_assoc, List.append_assoc, List.singleton_append,
      List.singleton_append, splitPipesAfter_append hguarded hlast hescape, ih hpieces,
      List.cons_append]

/-! ## Escaped cells -/

/-- An escaped text does not start with a pipe. -/
theorem head?_escapeCell_ne (text : List Char) : (escapeCell text).head? ≠ some '|' := by
  induction text using escapeCell.induct with
  | case1 => nofun
  | case2 rest _ =>
    rw [escapeCell]
    nofun
  | case3 c rest hreturn _ =>
    rw [escapeCell.eq_3 _ _ hreturn]
    split
    · -- A pipe has its backslash in front.
      nofun
    · rename_i hpipe
      split
      · nofun
      · simpa using hpipe

/-- Every pipe of an escaped text is guarded. -/
theorem guarded_escapeCell (text : List Char) (previous : Char) :
    Guarded previous (escapeCell text) := by
  induction text using escapeCell.induct generalizing previous with
  | case1 => trivial
  | case2 rest ih => simp [escapeCell, breakTag, Guarded, ih]
  | case3 c rest hreturn ih =>
    rw [escapeCell.eq_3 _ _ hreturn]
    split
    · simp [Guarded, ih]
    · split <;> simp_all [breakTag, Guarded]

/-- An escaped text has no line feed. -/
theorem lineFeed_notMem_escapeCell (text : List Char) : '\n' ∉ escapeCell text := by
  induction text using escapeCell.induct with
  | case1 => nofun
  | case2 rest ih => simp [escapeCell, breakTag, ih]
  | case3 c rest hreturn ih =>
    rw [escapeCell.eq_3 _ _ hreturn]
    split
    · simp [ih]
    · split <;> simp_all [breakTag, eq_comm]

section OneLine

variable (rest : List Char)

theorem oneLine_return : oneLine ('\r' :: '\n' :: rest) = breakTag ++ oneLine rest := by
  rw [oneLine, ← List.singleton_append, List.singleton_append,
    show '\n' :: rest = ['\n'] ++ rest from rfl, replaceAll_append_pattern,
    replaceAll_append (by decide)]
  rfl

theorem oneLine_lineFeed : oneLine ('\n' :: rest) = breakTag ++ oneLine rest := by
  have hkept : ¬ ['\r', '\n'] <+: '\n' :: rest := by simp
  rw [oneLine, replaceAll_cons hkept]
  exact replaceAll_append_pattern '\n' [] _

variable {rest}

theorem oneLine_cons {c : Char} (hfeed : c ≠ '\n')
    (hreturn : ∀ more, c = '\r' → rest ≠ '\n' :: more) :
    oneLine (c :: rest) = c :: oneLine rest := by
  have hkept : ¬ ['\r', '\n'] <+: c :: rest := by
    rintro ⟨more, h⟩
    obtain ⟨rfl, rfl⟩ := List.cons.inj h
    exact hreturn more rfl rfl
  have hfeed' : ¬ ['\n'] <+: c :: replaceAll ['\r', '\n'] breakTag rest := by
    simpa using hfeed.symm
  rw [oneLine, replaceAll_cons hkept, replaceAll_cons hfeed']
  rfl

end OneLine

/-- **A cell is its text with every pipe escaped, on one line.** -/
theorem escapeCell_eq (text : List Char) :
    escapeCell text = oneLine (replaceAll ['|'] ['\\', '|'] text) := by
  induction text using escapeCell.induct with
  | case1 => simp [escapeCell, oneLine]
  | case2 rest ih =>
    rw [escapeCell, replaceAll_cons (by simp), replaceAll_cons (by simp), oneLine_return, ih]
  | case3 c rest hreturn ih =>
    rw [escapeCell.eq_3 _ _ hreturn]
    split
    · -- Neither the backslash nor the pipe takes part in a line break.
      rename_i hpipe
      subst hpipe
      rw [show '|' :: rest = '|' :: ([] ++ rest) from rfl, replaceAll_append_pattern, ih,
        List.cons_append, List.cons_append, List.nil_append, List.cons_append, List.cons_append,
        List.nil_append, oneLine_cons (by decide) (by simp), oneLine_cons (by decide) (by simp)]
    · rename_i hpipe
      rw [replaceAll_cons (by simpa using Ne.symm hpipe)]
      split
      · rename_i hfeed
        rw [hfeed, oneLine_lineFeed, ih]
      · rename_i hfeed
        rw [oneLine_cons hfeed, ih, List.singleton_append]
        -- The escaped rest starts with a line feed only if the rest does.
        intro more hc hrest
        cases rest with
        | nil => simp at hrest
        | cons d rest =>
          by_cases hd : d = '|'
          · subst hd
            have h : replaceAll ['|'] ['\\', '|'] ('|' :: rest) = _ :=
              replaceAll_append_pattern '|' [] rest
            simp [h] at hrest
          · rw [replaceAll_cons (by simpa using Ne.symm hd)] at hrest
            exact hreturn rest hc (by rw [(List.cons.inj hrest).1])

/-- **Without the escapes, a cell is its text on one line.** -/
theorem unescapePipes_escapeCell (text : List Char) :
    unescapePipes (escapeCell text) = oneLine text := by
  induction text using escapeCell.induct with
  | case1 => simp [escapeCell, unescapePipes, oneLine]
  | case2 rest ih =>
    rw [escapeCell, oneLine_return, ← ih]
    exact replaceAll_append (by decide) _
  | case3 c rest hreturn ih =>
    rw [escapeCell.eq_3 _ _ hreturn]
    split
    · rename_i hpipe
      subst hpipe
      rw [oneLine_cons (by decide) hreturn, ← ih]
      exact replaceAll_append_pattern '\\' ['|'] _
    · split
      · rename_i hfeed
        subst hfeed
        rw [oneLine_lineFeed, ← ih]
        exact replaceAll_append (by decide) _
      · rename_i hfeed
        -- A backslash in front of the rest is no escape, since the rest does not start with a pipe.
        have hkept : ¬ ['\\', '|'] <+: c :: escapeCell rest := by
          rintro ⟨more, h⟩
          exact head?_escapeCell_ne rest (by rw [← (List.cons.inj h).2]; rfl)
        rw [oneLine_cons hfeed hreturn, ← ih]
        exact replaceAll_cons hkept

/-! ## Lines of the table -/

/-- A cell with a space on both sides. -/
def spaced (cell : List Char) : List Char := ' ' :: (cell ++ [' '])

/-- A line of pieces: a pipe in front and one behind each of them. -/
def pipeLine (pieces : List (List Char)) : String :=
  String.ofList ('|' :: pieces.flatMap (· ++ ['|']))

/-- The pieces of a line are found again. -/
theorem splitPipes_pipeLine {pieces : List (List Char)} (h : ∀ piece ∈ pieces, IsPiece piece) :
    splitPipes (pipeLine pieces) = [] :: pieces ++ [[]] := by
  rw [splitPipes, pipeLine, String.toList_ofList, splitPipesAfter, if_pos (by decide),
    splitPipesAfter_flatMap h, List.cons_append]

/-- A line of pieces without line feeds is one line. -/
theorem lineFeed_notMem_pipeLine {pieces : List (List Char)} (h : ∀ piece ∈ pieces, '\n' ∉ piece) :
    '\n' ∉ (pipeLine pieces).toList := by
  simpa [pipeLine] using h

/-- A spaced cell of the table is a piece. -/
theorem isPiece_spaced (text : List Char) : IsPiece (spaced (escapeCell text)) :=
  ⟨' ' :: escapeCell text, ' ', rfl, ⟨by decide, guarded_escapeCell text ' '⟩, by decide, by decide⟩

/-- Spaced cells with a pipe behind each are the cells with a pipe between them. -/
theorem flatMap_spaced {cells : List (List Char)} (h : cells ≠ []) :
    (cells.map spaced).flatMap (· ++ ['|']) =
      ' ' :: ([' ', '|', ' '].intercalate cells ++ [' ', '|']) := by
  induction cells with
  | nil => exact absurd rfl h
  | cons cell rest ih =>
    cases rest with
    | nil => simp [spaced]
    | cons next rest =>
      rw [List.map_cons, List.flatMap_cons, ih nofun, List.intercalate_cons_cons]
      simp [spaced]

/-- **A line of the table is a line of spaced cells.** -/
theorem tableLine_eq {cells : List String} (h : cells ≠ []) :
    tableLine cells = textOfLines [pipeLine ((cells.map String.toList).map spaced)] := by
  have hspaced := flatMap_spaced (show cells.map String.toList ≠ [] by simpa using h)
  rw [← String.toList_inj, textOfLines_cons, textOfLines_nil, pipeLine, hspaced, tableLine]
  simp [String.toList_intercalate]

/-- **Texts are shown by the line of their cells**, and that is one line. -/
theorem exists_showsTexts {texts : List String} (h : texts ≠ []) :
    ∃ line, tableLine (texts.map markdownCell) = textOfLines [line] ∧ '\n' ∉ line.toList ∧
      ShowsTexts texts.length line texts := by
  have hcells : (texts.map markdownCell).map String.toList =
      texts.map fun text => escapeCell text.toList := by
    simp [markdownCell]
  have hline := tableLine_eq (show texts.map markdownCell ≠ [] by simpa using h)
  rw [hcells] at hline
  refine ⟨_, hline, ?_, texts.map fun text => escapeCell text.toList, ?_, ?_, ?_⟩
  · apply lineFeed_notMem_pipeLine
    simp [spaced, lineFeed_notMem_escapeCell]
  · rw [List.length_map]
  · apply splitPipes_pipeLine
    simp [isPiece_spaced]
  · simp [unescapePipes_escapeCell]

/-- The rule under the header, without the end of its line. -/
theorem rule_eq (columns : Nat) :
    "|" ++ String.join (List.replicate columns "---|") ++ "\n" =
      textOfLines [pipeLine (List.replicate columns "---".toList)] := by
  have hdashes : (String.join (List.replicate columns "---|")).toList =
      (List.replicate columns "---".toList).flatMap (· ++ ['|']) := by
    rw [String.toList_join, List.flatMap_def, List.flatMap_def, List.map_replicate,
      List.map_replicate]
    rfl
  rw [← String.toList_inj, textOfLines_cons, textOfLines_nil, pipeLine, ← hdashes]
  simp

/-! ## Tables -/

/-- **The texts that an entry shows**: those of its cells, or the failure and dashes. -/
def entryTexts (columns : Nat) : Entry → List String
  | .built row => row.map fun (_, cell) => cell.display
  | .failed record error =>
    ("⚠ record " ++ toString record ++ ": " ++ error.message) :: List.replicate (columns - 1) "-"

/-- The cells of an entry are its texts, escaped. -/
theorem entryCells_eq (columns : Nat) (entry : Entry) :
    entryCells columns entry = (entryTexts columns entry).map markdownCell := by
  cases entry with
  | built row => simp [entryCells, entryTexts]
  | failed record error =>
    have hdash : markdownCell "-" = "-" := by decide
    simp [entryCells, entryTexts, failureText, hdash]

/-- **The lines of the entries show their texts.** -/
theorem exists_entryLines {columns : Nat} (hcolumns : columns ≠ 0) {entries : List Entry}
    (hrows : ∀ row, .built row ∈ entries → row.length = columns) :
    ∃ lines, String.join (entries.map fun entry => tableLine (entryCells columns entry)) =
        textOfLines lines ∧
      (∀ line ∈ lines, '\n' ∉ line.toList) ∧
      List.Forall₂ (fun entry line => ShowsTexts columns line (entryTexts columns entry))
        entries lines := by
  induction entries with
  | nil => exact ⟨[], rfl, nofun, .nil⟩
  | cons entry rest ih =>
    obtain ⟨lines, hlines, hfeeds, hshown⟩ :=
      ih fun row hrow => hrows row (List.mem_cons_of_mem _ hrow)
    have hlength : (entryTexts columns entry).length = columns := by
      cases entry with
      | built row => simpa [entryTexts] using hrows row List.mem_cons_self
      | failed record error =>
        rw [entryTexts, List.length_cons, List.length_replicate]
        omega
    have hne : entryTexts columns entry ≠ [] := List.ne_nil_of_length_pos (by omega)
    obtain ⟨line, hline, hfeed, htexts⟩ := exists_showsTexts hne
    rw [hlength] at htexts
    refine ⟨line :: lines, ?_, List.forall_mem_cons.2 ⟨hfeed, hfeeds⟩, .cons htexts hshown⟩
    rw [List.map_cons, String.join_cons, hlines, entryCells_eq, hline, ← textOfLines_append,
      List.singleton_append]

/-- **The table of a report is read back.** It has a line for the header, one for the rule and one
for each entry; the header shows the columns, the rule is made of dashes, and the line of an entry
shows its texts. -/
theorem markdownTable_readable (report : Report) (hcolumns : report.columns ≠ [])
    (hrows : ∀ row, .built row ∈ report.entries → row.length = report.columns.length) :
    ∃ header rule body,
      report.markdownTable = textOfLines (header :: rule :: body) ∧
        (∀ line ∈ header :: rule :: body, '\n' ∉ line.toList) ∧
        (header :: rule :: body).length = 2 + report.entries.length ∧
        ShowsTexts report.columns.length header report.columns ∧
        splitPipes rule = [] :: List.replicate report.columns.length "---".toList ++ [[]] ∧
        List.Forall₂ (fun entry line => ShowsTexts report.columns.length line
          (entryTexts report.columns.length entry)) report.entries body := by
  obtain ⟨header, hheader, hheaderFeed, hcells⟩ := exists_showsTexts hcolumns
  obtain ⟨body, hbody, hbodyFeeds, hshown⟩ :=
    exists_entryLines (by simpa using hcolumns) hrows
  refine ⟨header, pipeLine (List.replicate report.columns.length "---".toList), body,
    ?_, ?_, ?_, hcells, ?_, hshown⟩
  · rw [markdownTable, hheader, rule_eq, hbody, ← textOfLines_append, ← textOfLines_append]
    rfl
  · refine List.forall_mem_cons.2 ⟨hheaderFeed, List.forall_mem_cons.2 ⟨?_, hbodyFeeds⟩⟩
    apply lineFeed_notMem_pipeLine
    simp
  · rw [List.length_cons, List.length_cons, ← hshown.length_eq]
    omega
  · apply splitPipes_pipeLine
    intro piece hpiece
    rw [List.eq_of_mem_replicate hpiece]
    exact ⟨['-', '-'], '-', rfl, by simp [Guarded], by decide, by decide⟩

/-- A table with pipes, backslashes in front of pipes and at the end of a cell, and every kind of
line break, and with a failure. -/
def sampleTable : Report where
  title := "BV4 comparison with baseline `nightly`"
  columns := ["Domain | Name", "Rules"]
  entries := [
    .built [("Domain | Name", .text "a\\|b|\r\n\\"), ("Rules", .text "\r\r\n\n| ")],
    .failed 3 (.malformedRule "x|y\r\n"),
    .built [("Domain | Name", .text ""), ("Rules", .integer (-4))]]
  scanned := 5

/-- The sample is read back. -/
theorem markdownTable_readable_of_sampleTable :
    sampleTable.columns ≠ [] ∧
      (∀ row, .built row ∈ sampleTable.entries → row.length = sampleTable.columns.length) ∧
      ∃ header rule body,
        sampleTable.markdownTable = textOfLines (header :: rule :: body) ∧
          (∀ line ∈ header :: rule :: body, '\n' ∉ line.toList) ∧
          (header :: rule :: body).length = 2 + sampleTable.entries.length ∧
          ShowsTexts sampleTable.columns.length header sampleTable.columns ∧
          splitPipes rule = [] :: List.replicate sampleTable.columns.length "---".toList ++ [[]] ∧
          List.Forall₂ (fun entry line => ShowsTexts sampleTable.columns.length line
            (entryTexts sampleTable.columns.length entry)) sampleTable.entries body := by
  have hcolumns : sampleTable.columns ≠ [] := nofun
  have hrows : ∀ row, .built row ∈ sampleTable.entries →
      row.length = sampleTable.columns.length := by
    simp [sampleTable]
  exact ⟨hcolumns, hrows, markdownTable_readable sampleTable hcolumns hrows⟩

end SynthReport.Report
