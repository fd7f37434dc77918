import Mathlib.Data.List.Forall2
import SynthReport.Console.Card
import SynthReport.Proofs.Text.Fitted
import SynthReport.Proofs.Text.Lines

/-! # Cards stay aligned

A report without colours is its title and then a sequence of lines, all of the width of the card.

* **`CellLines`**, **`EntryLines`** — the labels and values on the lines of a cell and of an entry;
* **`IsDrawn`** — a line that shows a label and a value, each in its column;
* **`Screen.frame`** — the lines of cards, with their borders;
* **`Screen.fills_drawn`**, **`Screen.fills_edge`** — each of them has the width of the card;
* **`cards_aligned`** — a report on the console is the frame of its entries, and every line of it
  shows the label and the value that belong there. -/

namespace SynthReport

/-! ## Labels and values on lines -/

/-- **The lines of a cell**: one for each line of its text, with the label on the first one. An
empty text has one empty line. -/
inductive CellLines (label : String) (cell : Cell) : List (String × String) → Prop where
  | empty : cell.display = "" → CellLines label cell [(label, "")]
  | lines {first : String} {rest : List String} :
      LinesOf cell.display.toList ((first :: rest).map String.toList) →
      CellLines label cell ((label, first) :: rest.map fun line => ("", line))

/-- **The lines of an entry**: those of the cells of a row in order, or the one line of a
failure. -/
inductive EntryLines : Entry → List (String × String) → Prop where
  | built {row : Row} {cells : List (List (String × String))} :
      List.Forall₂ (fun field lines => CellLines field.1 field.2 lines) row cells →
      EntryLines (.built row) cells.flatten
  | failed (record : Nat) (error : RowError) :
      EntryLines (.failed record error) [("⚠ record " ++ toString record, error.message)]

/-- **A line of a card**: a label and a value, each shown in the columns that its border leaves
between two spaces. -/
inductive IsDrawn (widths : CardWidths) (line : String × String) : String → Prop where
  | between {label value : String} : IsShown line.1 (widths.label - 2) label →
      IsShown line.2 (widths.value - 2) value →
      IsDrawn widths line ("│ " ++ label ++ " │ " ++ value ++ " │")

/-! ## Characters on cards -/

/-- **A character of card text**: printable ASCII or a unified ideograph. -/
def IsCardText (c : Char) : Prop := IsPrintable c ∨ IsIdeograph c

instance (c : Char) : Decidable (IsCardText c) := inferInstanceAs (Decidable (_ ∨ _))

/-- Card text is steady. -/
theorem IsCardText.isSteady {c : Char} (h : IsCardText c) : IsSteady c :=
  h.elim isSteady_of_printable isSteady_of_ideograph

/-- Digits are printable. -/
theorem isSteady_of_isDigit {c : Char} (h : c.isDigit = true) : IsSteady c := by
  obtain ⟨hlow, hhigh⟩ : 48 ≤ c.toNat ∧ c.toNat ≤ 57 := by
    simpa [Char.isDigit, UInt32.le_iff_toNat_le] using h
  exact isSteady_of_printable ⟨by omega, by omega⟩

/-- A count is written in digits. -/
theorem steadyText_toString (n : Nat) : SteadyText (toString n) := by
  intro c hc
  rw [Nat.toString_eq_repr, Nat.toList_repr] at hc
  exact isSteady_of_isDigit (Nat.isDigit_of_mem_toDigits (by decide) (by decide) hc)

/-- **An entry shows card text**: in its labels, on the lines of its cells, and in the message of a
failure. -/
def Entry.HasCardText : Entry → Prop
  | .built row => ∀ field ∈ row, (∀ c ∈ field.1.toList, IsCardText c) ∧
      ∀ c ∈ field.2.display.toList, IsCardText c ∨ c = '\n'
  | .failed _ error => ∀ c ∈ error.message.toList, IsCardText c

instance : (entry : Entry) → Decidable entry.HasCardText
  | .built row =>
    -- By the characters of each text; trying all characters there are would not come to an end.
    @List.decidableBAll _
      (fun field : String × Cell => (∀ c ∈ field.1.toList, IsCardText c) ∧
        ∀ c ∈ field.2.display.toList, IsCardText c ∨ c = '\n')
      (fun field => @instDecidableAnd _ _ (List.decidableBAll IsCardText field.1.toList)
        (List.decidableBAll (fun c => IsCardText c ∨ c = '\n') field.2.display.toList)) row
  | .failed _ error => List.decidableBAll IsCardText error.message.toList

/-- There is no carriage return in a cell of card text. -/
theorem return_notMem_of_cardText {text : List Char}
    (h : ∀ c ∈ text, IsCardText c ∨ c = '\n') : '\r' ∉ text := by
  intro hreturn
  exact absurd (h _ hreturn) (by decide)

/-- The lines of such a cell are steady. -/
theorem LinesOf.steadyText {text : List Char} {lines : List String}
    (hlines : LinesOf text (lines.map String.toList))
    (htext : ∀ c ∈ text, IsCardText c ∨ c = '\n') : ∀ line ∈ lines, SteadyText line := by
  intro line hline c hc
  have hmem := List.mem_map_of_mem (f := String.toList) hline
  rcases htext c (hlines.mem_text hmem hc) with h | rfl
  · exact h.isSteady
  · exact absurd hc (hlines.lineFeed_notMem _ hmem)

namespace Screen

/-! ## Lines as they are drawn -/

section Lines

variable (screen : Screen)

/-- The drawn line with a label and a value. -/
def drawn (line : String × String) : String := screen.content line.1 line.2

/-- A border without the end of its line. -/
def edge (left middle right : String) : String :=
  left ++ String.ofList (List.replicate screen.widths.label '─') ++ middle ++
    String.ofList (List.replicate screen.widths.value '─') ++ right

/-- **The lines of cards**: a border on top, one between any two cards, and one at the end. -/
def frame (cards : List (List String)) : List String :=
  screen.edge "┌" "┬" "┐" :: ([screen.edge "├" "┼" "┤"].intercalate cards ++
    [screen.edge "└" "┴" "┘"])

/-- A line of a frame is a border or a line of a card. -/
theorem mem_frame {cards : List (List String)} {line : String} (h : line ∈ screen.frame cards) :
    line = screen.edge "┌" "┬" "┐" ∨ line = screen.edge "├" "┼" "┤" ∨
      line = screen.edge "└" "┴" "┘" ∨ ∃ card ∈ cards, line ∈ card := by
  rcases List.mem_cons.1 h with htop | h
  · exact .inl htop
  rcases List.mem_append.1 h with h | hbottom
  · rcases mem_of_mem_intercalate h with hbetween | hcard
    · exact .inr (.inl (List.mem_singleton.1 hbetween))
    · exact .inr (.inr (.inr hcard))
  · exact .inr (.inr (.inl (List.mem_singleton.1 hbottom)))

/-- A border is one line. -/
theorem border_eq (left middle right : String) :
    screen.border left middle right = textOfLines [screen.edge left middle right] := by
  rw [textOfLines_cons, textOfLines_nil, String.append_empty]
  rfl

/-- A line of a card is one line. -/
theorem line_eq (label value : String) :
    screen.line label value = textOfLines [screen.drawn (label, value)] := by
  rw [textOfLines_cons, textOfLines_nil, String.append_empty]
  rfl

end Lines

variable {screen : Screen}

/-- **A text shows lines**: it is those lines as they are drawn, and they are steady. -/
structure Shows (screen : Screen) (text : String) (lines : List (String × String)) : Prop where
  text_eq : text = textOfLines (lines.map screen.drawn)
  steady : ∀ line ∈ lines, SteadyText line.1 ∧ SteadyText line.2

/-- Texts one after the other show their lines one after the other. -/
theorem Shows.append {first second : String} {lines others : List (String × String)}
    (hfirst : screen.Shows first lines) (hsecond : screen.Shows second others) :
    screen.Shows (first ++ second) (lines ++ others) where
  text_eq := by
    rw [List.map_append, textOfLines_append, ← hfirst.text_eq, ← hsecond.text_eq]
  steady := by
    intro line hline
    exact (List.mem_append.1 hline).elim (hfirst.steady line) (hsecond.steady line)

/-- One line. -/
theorem shows_line {label value : String} (hlabel : SteadyText label) (hvalue : SteadyText value) :
    screen.Shows (screen.line label value) [(label, value)] where
  text_eq := screen.line_eq label value
  steady := List.forall_mem_singleton.2 ⟨hlabel, hvalue⟩

/-- Lines without a label. -/
theorem shows_unlabelled {values : List String} (h : ∀ value ∈ values, SteadyText value) :
    screen.Shows (String.join (values.map (screen.line "")))
      (values.map fun value => ("", value)) := by
  induction values with
  | nil => exact ⟨rfl, nofun⟩
  | cons value rest ih =>
    obtain ⟨hvalue, hrest⟩ := List.forall_mem_cons.1 h
    rw [List.map_cons, String.join_cons]
    exact (shows_line (by decide) hvalue).append (ih hrest)

/-- **A cell shows its lines.** -/
theorem shows_cell (screen : Screen) {label : String} {cell : Cell} (hlabel : SteadyText label)
    (hcell : ∀ c ∈ cell.display.toList, IsCardText c ∨ c = '\n') :
    ∃ lines, CellLines label cell lines ∧ screen.Shows (screen.cell label cell) lines := by
  have hlines := linesOf_lines (return_notMem_of_cardText hcell)
  have hsteady := hlines.steadyText hcell
  rw [Screen.cell]
  cases h : lines cell.display with
  | nil =>
    -- Only an empty text has no lines, and it is drawn as one empty line.
    rw [h] at hlines
    have hempty : cell.display = "" := by
      rw [← String.toList_inj]
      generalize cell.display.toList = text at hlines
      cases hlines
      rfl
    exact ⟨_, .empty hempty, shows_line hlabel (by decide)⟩
  | cons first rest =>
    rw [h] at hlines hsteady
    obtain ⟨hfirst, hrest⟩ := List.forall_mem_cons.1 hsteady
    exact ⟨_, .lines hlines, (shows_line hlabel hfirst).append (shows_unlabelled hrest)⟩

/-- A row shows the lines of its cells. -/
theorem shows_row (screen : Screen) {row : Row} (hrow : (Entry.built row).HasCardText) :
    ∃ cells, List.Forall₂ (fun field lines => CellLines field.1 field.2 lines) row cells ∧
      screen.Shows (screen.row row) cells.flatten := by
  induction row with
  | nil => exact ⟨[], .nil, rfl, nofun⟩
  | cons field rest ih =>
    obtain ⟨⟨hlabel, hcell⟩, hrest⟩ := List.forall_mem_cons.1 hrow
    obtain ⟨lines, hlines, hshown⟩ :=
      shows_cell screen (fun c hc => (hlabel c hc).isSteady) hcell
    obtain ⟨cells, hcells, hothers⟩ := ih hrest
    refine ⟨lines :: cells, .cons hlines hcells, ?_⟩
    rw [Screen.row, List.map_cons, String.join_cons, List.flatten_cons]
    exact hshown.append hothers

/-- **An entry shows its lines**, if there are no colours. -/
theorem shows_entry {entry : Entry} (hcolours : screen.colours = false)
    (hentry : entry.HasCardText) :
    ∃ lines, EntryLines entry lines ∧ screen.Shows (screen.entry entry) lines := by
  cases entry with
  | built row =>
    obtain ⟨cells, hcells, hshown⟩ := shows_row screen hentry
    exact ⟨_, .built hcells, hshown⟩
  | failed record error =>
    refine ⟨_, .failed record error, ?_⟩
    have hheading : SteadyText ("⚠ record " ++ toString record) :=
      (Fills.append (m := 9) (by decide +kernel) ⟨steadyText_toString record, rfl⟩).steady
    rw [entry, failure, coloured, hcolours]
    exact shows_line hheading fun c hc => (hentry c hc).isSteady

/-- **The lines that a text shows are drawn in columns.** -/
theorem Shows.isDrawn {text : String} {lines : List (String × String)} (h : screen.Shows text lines) :
    List.Forall₂ (IsDrawn screen.widths) lines (lines.map screen.drawn) := by
  rw [List.forall₂_map_right_iff, List.forall₂_same]
  intro line hline
  obtain ⟨hlabel, hvalue⟩ := h.steady line hline
  exact .between (isShown_fitted hlabel _) (isShown_fitted hvalue _)

/-! ## Widths -/

/-- **A border fills the width of the card**, with corners of one column. -/
theorem fills_edge {left middle right : String} (hleft : Fills left 1) (hmiddle : Fills middle 1)
    (hright : Fills right 1) :
    Fills (screen.edge left middle right) screen.widths.total := by
  have hdashes := fills_replicate (c := '─') (by decide +kernel) (by decide +kernel)
  have hwidth : 1 + screen.widths.label + 1 + screen.widths.value + 1 = screen.widths.total := by
    rw [CardWidths.total, CardWidths.borders]
    omega
  rw [← hwidth]
  exact (((hleft.append (hdashes _)).append hmiddle).append (hdashes _)).append hright

/-- **A drawn line fills the width of the card**, if its columns have room for a space on both
sides. -/
theorem fills_drawn {line : String × String} (hlabel : SteadyText line.1)
    (hvalue : SteadyText line.2) (hlabelRoom : 2 ≤ screen.widths.label)
    (hvalueRoom : 2 ≤ screen.widths.value) :
    Fills (screen.drawn line) screen.widths.total := by
  have hleft : Fills "│ " 2 := by decide +kernel
  have hmiddle : Fills " │ " 3 := by decide +kernel
  have hright : Fills " │" 2 := by decide +kernel
  have hwidth : 2 + (screen.widths.label - 2) + 3 + (screen.widths.value - 2) + 2 =
      screen.widths.total := by
    rw [CardWidths.total, CardWidths.borders]
    omega
  rw [← hwidth]
  exact (((hleft.append (fills_fitted hlabel _)).append hmiddle).append
    (fills_fitted hvalue _)).append hright

/-- The lines that a text shows fill the width of the card. -/
theorem Shows.fills {text : String} {lines : List (String × String)} (h : screen.Shows text lines)
    (hlabelRoom : 2 ≤ screen.widths.label) (hvalueRoom : 2 ≤ screen.widths.value) :
    ∀ line ∈ lines.map screen.drawn, Fills line screen.widths.total := by
  refine List.forall_mem_map.2 fun line hline => ?_
  obtain ⟨hlabel, hvalue⟩ := h.steady line hline
  exact fills_drawn hlabel hvalue hlabelRoom hvalueRoom

/-- **Every line of a frame fills the width of the card**, if those of the cards do. -/
theorem fills_frame {cards : List (List String)}
    (hcards : ∀ card ∈ cards, ∀ line ∈ card, Fills line screen.widths.total) :
    ∀ line ∈ screen.frame cards, Fills line screen.widths.total := by
  intro line hline
  rcases screen.mem_frame hline with rfl | rfl | rfl | ⟨card, hcard, hline⟩
  · exact fills_edge (by decide +kernel) (by decide +kernel) (by decide +kernel)
  · exact fills_edge (by decide +kernel) (by decide +kernel) (by decide +kernel)
  · exact fills_edge (by decide +kernel) (by decide +kernel) (by decide +kernel)
  · exact hcards card hcard line hline

/-- **Entries are drawn as cards**, one each. -/
theorem exists_cards (hcolours : screen.colours = false) (hlabelRoom : 2 ≤ screen.widths.label)
    (hvalueRoom : 2 ≤ screen.widths.value) {entries : List Entry}
    (hentries : ∀ entry ∈ entries, entry.HasCardText) :
    ∃ lines cards, List.Forall₂ EntryLines entries lines ∧
      List.Forall₂ (List.Forall₂ (IsDrawn screen.widths)) lines cards ∧
      entries.map screen.entry = cards.map textOfLines ∧
      ∀ card ∈ cards, ∀ line ∈ card, Fills line screen.widths.total := by
  induction entries with
  | nil => exact ⟨[], [], .nil, .nil, rfl, nofun⟩
  | cons entry rest ih =>
    obtain ⟨hentry, hrest⟩ := List.forall_mem_cons.1 hentries
    obtain ⟨shown, hshown, hshows⟩ := shows_entry hcolours hentry
    obtain ⟨lines, cards, hlines, hdrawn, htexts, hfills⟩ := ih hrest
    refine ⟨shown :: lines, shown.map screen.drawn :: cards, .cons hshown hlines,
      .cons hshows.isDrawn hdrawn, ?_, ?_⟩
    · rw [List.map_cons, List.map_cons, htexts, hshows.text_eq]
    · exact List.forall_mem_cons.2 ⟨hshows.fills hlabelRoom hvalueRoom, hfills⟩

/-- **A report with entries is its title and the frame of their cards.** -/
theorem report_eq {report : Report} (hentries : report.entries ≠ []) {cards : List (List String)}
    (hcards : report.entries.map screen.entry = cards.map textOfLines) :
    screen.report report = title report ++ textOfLines (screen.frame cards) := by
  rw [Screen.report, if_neg hentries, hcards, border_eq, border_eq, border_eq,
    intercalate_map_textOfLines, ← textOfLines_append, ← textOfLines_append, List.singleton_append,
    List.cons_append, frame]

end Screen

/-! ## Reports -/

/-- **The label column has room** for a space on both sides. -/
theorem CardWidths.two_le_label (console : Nat) (columns : List String) :
    2 ≤ (ofConsole console columns).label := by
  rw [ofConsole]
  dsimp only
  omega

/-- **The value column has room** for a space on both sides. -/
theorem CardWidths.two_le_value (console : Nat) (columns : List String) :
    2 ≤ (ofConsole console columns).value := by
  rw [ofConsole, minValue]
  dsimp only
  omega

/-- **Cards stay aligned.** On a console of any width, the columns of a card have room for a space
on both sides. A report of card text is drawn without colours as its title and then a frame of one
card for each entry. The lines of a card are those of its entry, each with its label and its value
shown in their columns, and every line of the frame has the width of the card. -/
theorem cards_aligned (report : Report) (hentries : report.entries ≠ [])
    (htext : ∀ entry ∈ report.entries, entry.HasCardText) (console : Nat) :
    let widths := CardWidths.ofConsole console report.columns
    let screen : Screen := ⟨false, widths⟩
    2 ≤ widths.label ∧ 2 ≤ widths.value ∧
      ∃ lines cards, List.Forall₂ EntryLines report.entries lines ∧
        List.Forall₂ (List.Forall₂ (IsDrawn widths)) lines cards ∧
        screen.report report =
          "\n" ++ report.title ++ " (" ++ toString report.entries.length ++ " of " ++
            toString report.scanned ++ " records)\n\n" ++ textOfLines (screen.frame cards) ∧
        ∀ line ∈ screen.frame cards, displayWidth line = widths.total ∧ '\n' ∉ line.toList := by
  intro widths screen
  have hlabel := CardWidths.two_le_label console report.columns
  have hvalue := CardWidths.two_le_value console report.columns
  have hplain : screen.colours = false := rfl
  obtain ⟨lines, cards, hlines, hdrawn, htexts, hfills⟩ :=
    Screen.exists_cards hplain hlabel hvalue htext
  refine ⟨hlabel, hvalue, lines, cards, hlines, hdrawn, Screen.report_eq hentries htexts, ?_⟩
  intro line hline
  have hfilled := Screen.fills_frame hfills line hline
  exact ⟨hfilled.width_eq, hfilled.steady.lineFeed_notMem⟩

/-- A row whose cell has wide characters and an empty line, and a failure. -/
def sampleCards : Report where
  title := "BV4 variant comparison"
  columns := ["Domain", "LHS Missing"]
  entries := [
    .built [("Domain", .text ""), ("LHS Missing", .text "(& ?a 漢字漢字漢字漢字漢字) ==> ?a\n\nb")],
    .failed 7 (.missingField ["from_bv4", "time"])]
  scanned := 9

/-- The sample is aligned on the narrowest console, where most of its texts are cut. -/
theorem cards_aligned_of_sampleCards :
    sampleCards.entries ≠ [] ∧ (∀ entry ∈ sampleCards.entries, entry.HasCardText) ∧
      let widths := CardWidths.ofConsole 0 sampleCards.columns
      let screen : Screen := ⟨false, widths⟩
      2 ≤ widths.label ∧ 2 ≤ widths.value ∧
        ∃ lines cards, List.Forall₂ EntryLines sampleCards.entries lines ∧
          List.Forall₂ (List.Forall₂ (IsDrawn widths)) lines cards ∧
          screen.report sampleCards =
            "\n" ++ sampleCards.title ++ " (" ++ toString sampleCards.entries.length ++ " of " ++
              toString sampleCards.scanned ++ " records)\n\n" ++ textOfLines (screen.frame cards) ∧
          ∀ line ∈ screen.frame cards, displayWidth line = widths.total ∧ '\n' ∉ line.toList := by
  have hentries : sampleCards.entries ≠ [] := nofun
  have htext : ∀ entry ∈ sampleCards.entries, entry.HasCardText := by decide +kernel
  exact ⟨hentries, htext, cards_aligned sampleCards hentries htext 0⟩

end SynthReport
