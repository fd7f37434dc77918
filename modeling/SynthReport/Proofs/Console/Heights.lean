import Mathlib
import SynthReport.Proofs.Cell.NumericText
import SynthReport.Proofs.Console.Cards
import SynthReport.Proofs.Text.Fitted
import SynthReport.Proofs.Traversal

/-! # How many lines a report takes

The cells of a row are drawn line by line, but the message of a failure is drawn as it is, so that
line feeds in it end lines of the report.

* **`shownOf`** — what a text fitted to a width shows of it;
* **`IsLines`** — a text of lines, without line feeds in them;
* **`Screen.height`** — how many lines an entry has;
* **`exists_isLines_entry`** — these are the lines that are drawn of it;
* **`report_eq_body`**, **`length_body`** — the lines below the title of a report, and how many they
  are. -/

namespace SynthReport

/-! ## Line feeds in texts -/

/-- **What a text fitted to a width shows of it**: all of it if it fits, else the start that is
kept. -/
def shownOf (text : String) (width : Nat) : List Char :=
  if displayWidth text ≤ width then text.toList else keptOf text width

/-- What is shown stands in the text. -/
theorem mem_of_mem_shownOf {text : String} {width : Nat} {c : Char} (h : c ∈ shownOf text width) :
    c ∈ text.toList := by
  unfold shownOf at h
  split at h
  · exact h
  · exact (keptOf_isPrefix text width).subset h

/-- There is no line feed among spaces. -/
theorem count_lineFeed_blanks (n : Nat) : (blanks n).count '\n' = 0 :=
  List.count_eq_zero.2 fun h => absurd (List.eq_of_mem_replicate h) (by decide)

/-- A fitted text has the line feeds of what is shown. -/
theorem count_lineFeed_fitted (text : String) (width : Nat) :
    (fitted text width).toList.count '\n' = (shownOf text width).count '\n' := by
  unfold shownOf
  split
  · rename_i hle
    rw [fitted_of_le hle, String.toList_append, String.toList_ofList, List.count_append,
      count_lineFeed_blanks, Nat.add_zero]
  · rename_i hlt
    have hmark : (cutMark width).count '\n' = 0 := by
      unfold cutMark
      split <;> rfl
    rw [toList_fitted_of_lt (Nat.not_le.1 hlt), List.count_append, List.count_append, hmark,
      count_lineFeed_blanks, Nat.add_zero]

/-- A fitted text has a line feed exactly if one is shown. -/
theorem lineFeed_mem_fitted_iff {text : String} {width : Nat} :
    '\n' ∈ (fitted text width).toList ↔ '\n' ∈ shownOf text width := by
  rw [← List.count_pos_iff, count_lineFeed_fitted, List.count_pos_iff]

/-- **A text that is ended has one line more than line feeds.** -/
theorem exists_lines_of_ended (text : String) :
    ∃ lines, text ++ "\n" = textOfLines lines ∧ (∀ line ∈ lines, '\n' ∉ line.toList) ∧
      lines.length = 1 + text.toList.count '\n' := by
  suffices h : ∀ chars : List Char, ∃ lines, String.ofList chars ++ "\n" = textOfLines lines ∧
      (∀ line ∈ lines, '\n' ∉ line.toList) ∧ lines.length = 1 + chars.count '\n' by
    simpa using h text.toList
  intro chars
  induction chars with
  | nil => exact ⟨[""], rfl, by decide, rfl⟩
  | cons c rest ih =>
    obtain ⟨lines, htext, hfeed, hlength⟩ := ih
    by_cases hc : c = '\n'
    · -- An empty line is ended.
      subst hc
      refine ⟨"" :: lines, ?_, List.forall_mem_cons.2 ⟨by decide, hfeed⟩, ?_⟩
      · rw [textOfLines_cons, ← htext, ← String.toList_inj]
        simp
      · rw [List.length_cons, hlength, List.count_cons_self, Nat.add_assoc]
    · -- The character stands at the start of the first line.
      obtain _ | ⟨line, others⟩ := lines
      · rw [List.length_nil] at hlength
        omega
      · obtain ⟨hline, hothers⟩ := List.forall_mem_cons.1 hfeed
        refine ⟨(String.singleton c ++ line) :: others, ?_, List.forall_mem_cons.2 ⟨?_, hothers⟩, ?_⟩
        · rw [textOfLines_cons, ← String.toList_inj] at htext ⊢
          simpa using htext
        · rw [String.toList_append, String.toList_singleton]
          exact List.not_mem_cons_of_ne_of_not_mem (Ne.symm hc) hline
        · rw [List.count_cons_of_ne hc]
          exact hlength

/-! ## Lines of entries -/

namespace Screen

/-- **A text of lines**, each without a line feed and ended by one. -/
structure IsLines (text : String) (lines : List String) : Prop where
  text_eq : text = textOfLines lines
  lineFeed_notMem : ∀ line ∈ lines, '\n' ∉ line.toList

/-- Texts of lines one after the other. -/
theorem IsLines.append {first second : String} {lines others : List String}
    (hfirst : IsLines first lines) (hsecond : IsLines second others) :
    IsLines (first ++ second) (lines ++ others) where
  text_eq := by rw [textOfLines_append, ← hfirst.text_eq, ← hsecond.text_eq]
  lineFeed_notMem := List.forall_mem_append.2 ⟨hfirst.lineFeed_notMem, hsecond.lineFeed_notMem⟩

variable (screen : Screen)

/-- **The lines of an entry.** A cell has one for each line of its text and at least one, and a
failure has one more than there are line feeds in what is shown of its message. -/
def height : Entry → Nat
  | .built row => (row.map fun field => max 1 (lines field.2.display).length).sum
  | .failed _ error => 1 + (shownOf error.message (screen.widths.value - 2)).count '\n'

/-- A label and a value show their own line feeds. -/
theorem count_lineFeed_content (label value : String) :
    (screen.content label value).toList.count '\n' =
      (shownOf label (screen.widths.label - 2)).count '\n' +
        (shownOf value (screen.widths.value - 2)).count '\n' := by
  rw [content]
  simp only [String.toList_append, List.count_append, count_lineFeed_fitted]
  have hleft : "│ ".toList.count '\n' = 0 := by decide
  have hmiddle : " │ ".toList.count '\n' = 0 := by decide
  have hright : " │".toList.count '\n' = 0 := by decide
  omega

variable {screen}

/-- A line of a label and a value without line feeds. -/
theorem isLines_line {label value : String} (hlabel : '\n' ∉ label.toList)
    (hvalue : '\n' ∉ value.toList) :
    IsLines (screen.line label value) [screen.drawn (label, value)] where
  text_eq := screen.line_eq label value
  lineFeed_notMem := by
    refine List.forall_mem_singleton.2 (List.count_eq_zero.1 ?_)
    rw [drawn, count_lineFeed_content, List.count_eq_zero.2 (mt mem_of_mem_shownOf hlabel),
      List.count_eq_zero.2 (mt mem_of_mem_shownOf hvalue)]

/-- Lines without a label. -/
theorem isLines_unlabelled {values : List String} (h : ∀ value ∈ values, '\n' ∉ value.toList) :
    IsLines (String.join (values.map (screen.line "")))
      (values.map fun value => screen.drawn ("", value)) := by
  induction values with
  | nil => exact ⟨rfl, nofun⟩
  | cons value rest ih =>
    obtain ⟨hvalue, hrest⟩ := List.forall_mem_cons.1 h
    rw [List.map_cons, String.join_cons]
    exact (isLines_line (by decide) hvalue).append (ih hrest)

/-- **A cell has the lines of its text**, or one if there are none. -/
theorem exists_isLines_cell (screen : Screen) {label : String} (hlabel : '\n' ∉ label.toList)
    (cell : Cell) : ∃ drawn, IsLines (screen.cell label cell) drawn ∧
      drawn.length = max 1 (lines cell.display).length := by
  have hlines : ∀ line ∈ lines cell.display, '\n' ∉ line.toList :=
    fun line => lineFeed_notMem_lines
  rw [Screen.cell]
  cases h : lines cell.display with
  | nil => exact ⟨_, isLines_line hlabel (by decide), rfl⟩
  | cons first rest =>
    rw [h] at hlines
    obtain ⟨hfirst, hrest⟩ := List.forall_mem_cons.1 hlines
    refine ⟨_, (isLines_line hlabel hfirst).append (isLines_unlabelled hrest), ?_⟩
    rw [List.length_append, List.length_map, List.length_singleton, List.length_cons]
    omega

/-- A row has the lines of its cells. -/
theorem exists_isLines_row (screen : Screen) {row : Row}
    (hrow : ∀ field ∈ row, '\n' ∉ field.1.toList) :
    ∃ drawn, IsLines (screen.row row) drawn ∧ drawn.length = screen.height (.built row) := by
  induction row with
  | nil => exact ⟨[], ⟨rfl, nofun⟩, rfl⟩
  | cons field rest ih =>
    obtain ⟨hlabel, hrest⟩ := List.forall_mem_cons.1 hrow
    obtain ⟨drawn, hdrawn, hlength⟩ := exists_isLines_cell screen hlabel field.2
    obtain ⟨others, hothers, hmore⟩ := ih hrest
    refine ⟨drawn ++ others, ?_, ?_⟩
    · rw [Screen.row, List.map_cons, String.join_cons]
      exact hdrawn.append hothers
    · rw [List.length_append, hlength, hmore, height, height, List.map_cons, List.sum_cons]

/-- The heading of a failure has no line feed. -/
theorem lineFeed_notMem_heading (record : Nat) : '\n' ∉ ("⚠ record " ++ toString record).toList := by
  rw [String.toList_append]
  exact List.not_mem_append (by decide) (lineFeed_notMem_toString record)

/-- **An entry has as many lines as its height.** -/
theorem exists_isLines_entry {entry : Entry} (hcolours : screen.colours = false)
    (hlabels : ∀ row, entry = .built row → ∀ field ∈ row, '\n' ∉ field.1.toList) :
    ∃ drawn, IsLines (screen.entry entry) drawn ∧ drawn.length = screen.height entry := by
  cases entry with
  | built row => exact exists_isLines_row screen (hlabels row rfl)
  | failed record error =>
    obtain ⟨drawn, htext, hfeed, hlength⟩ := exists_lines_of_ended
      (screen.content ("⚠ record " ++ toString record) error.message)
    refine ⟨drawn, ⟨?_, hfeed⟩, ?_⟩
    · rw [entry, failure, coloured, hcolours, ← htext]
      rfl
    · rw [hlength, count_lineFeed_content, height,
        List.count_eq_zero.2 (mt mem_of_mem_shownOf (lineFeed_notMem_heading record)),
        Nat.zero_add]

/-! ## Lines of reports -/

/-- **The card of an entry**: its lines, which are as many as its height. -/
structure IsCard (screen : Screen) (entry : Entry) (card : List String) : Prop where
  isLines : IsLines (screen.entry entry) card
  length_eq : card.length = screen.height entry

/-- Every entry has a card, if no label has a line feed. -/
theorem exists_cards_of_labels (hcolours : screen.colours = false) {entries : List Entry}
    (hlabels : ∀ row, .built row ∈ entries → ∀ field ∈ row, '\n' ∉ field.1.toList) :
    ∃ cards, List.Forall₂ screen.IsCard entries cards := by
  refine exists_forall₂ fun entry hentry => ?_
  obtain ⟨card, hlines, hlength⟩ := exists_isLines_entry hcolours
    fun row hrow => hlabels row (hrow ▸ hentry)
  exact ⟨card, hlines, hlength⟩

/-- Cards are as long as the heights of their entries together. -/
theorem length_flatten_cards {entries : List Entry} {cards : List (List String)}
    (h : List.Forall₂ screen.IsCard entries cards) :
    cards.flatten.length = (entries.map screen.height).sum := by
  induction h with
  | nil => rfl
  | cons hcard _ ih =>
    rw [List.flatten_cons, List.length_append, hcard.length_eq, ih, List.map_cons, List.sum_cons]

/-- A border has no other characters than dashes and those of its corners. -/
theorem notMem_edge (screen : Screen) {c : Char} {left middle right : String} (hdash : c ≠ '─')
    (hleft : c ∉ left.toList) (hmiddle : c ∉ middle.toList) (hright : c ∉ right.toList) :
    c ∉ (screen.edge left middle right).toList := by
  simp [edge, hdash, hleft, hmiddle, hright]

/-- Parts with something between any two of them. -/
theorem length_intercalate_singleton {α : Type} (between : α) {parts : List (List α)}
    (h : parts ≠ []) :
    ([between].intercalate parts).length + 1 = parts.flatten.length + parts.length := by
  induction parts with
  | nil => exact absurd rfl h
  | cons part rest ih =>
    cases rest with
    | nil => simp
    | cons next rest =>
      have hrest := ih (List.cons_ne_nil _ _)
      rw [List.intercalate_cons_cons, List.length_append, List.length_append,
        List.flatten_cons (l := part), List.length_append, List.length_singleton,
        List.length_cons (a := part)]
      omega

/-- **The lines below the title**: a border on top, one between any two cards and one at the end, or
the line that stands for no cards. -/
def body (screen : Screen) (cards : List (List String)) : List String :=
  if cards = [] then ["No matching records."] else screen.frame cards

/-- A report is its title and the lines below it. -/
theorem report_eq_body {report : Report} {cards : List (List String)}
    (h : List.Forall₂ screen.IsCard report.entries cards) :
    screen.report report = title report ++ textOfLines (screen.body cards) := by
  have hlength := h.length_eq
  rw [body]
  by_cases hentries : report.entries = []
  · have hcards : cards = [] := by
      rw [← List.length_eq_zero_iff, ← hlength, hentries, List.length_nil]
    rw [Screen.report, if_pos hentries, if_pos hcards]
    rfl
  · have hcards : cards ≠ [] := by
      rwa [← List.length_pos_iff, ← hlength, List.length_pos_iff]
    have hdrawn : report.entries.map screen.entry = cards.map textOfLines :=
      map_eq_map_of_forall₂ h fun entry card hcard => hcard.isLines.text_eq
    rw [if_neg hcards, report_eq hentries hdrawn]

/-- No line below the title has a line feed. -/
theorem lineFeed_notMem_body {entries : List Entry} {cards : List (List String)}
    (h : List.Forall₂ screen.IsCard entries cards) :
    ∀ line ∈ screen.body cards, '\n' ∉ line.toList := by
  intro line hline
  unfold body at hline
  split at hline
  · rw [List.mem_singleton.1 hline]
    decide
  rcases screen.mem_frame hline with rfl | rfl | rfl | ⟨card, hcard, hline⟩
  · exact screen.notMem_edge (by decide) (by decide) (by decide) (by decide)
  · exact screen.notMem_edge (by decide) (by decide) (by decide) (by decide)
  · exact screen.notMem_edge (by decide) (by decide) (by decide) (by decide)
  · obtain ⟨entry, -, hentry⟩ := exists_mem_of_forall₂ h.flip hcard
    exact hentry.isLines.lineFeed_notMem line hline

/-- **How many lines stand below the title**: the borders, one more than there are entries, and the
lines of the entries. -/
theorem length_body {entries : List Entry} {cards : List (List String)}
    (h : List.Forall₂ screen.IsCard entries cards) :
    (screen.body cards).length = entries.length + 1 + (entries.map screen.height).sum := by
  have hheights := length_flatten_cards h
  have hlength := h.length_eq
  unfold body
  split
  · rename_i hcards
    rw [hcards, List.length_nil] at hlength
    obtain rfl := List.length_eq_zero_iff.1 hlength
    rfl
  · rename_i hcards
    have hparts := length_intercalate_singleton (screen.edge "├" "┼" "┤") hcards
    rw [frame, List.length_cons, List.length_append, List.length_singleton]
    omega

end Screen

end SynthReport
