import SynthReport.Proofs.Console.Heights
import SynthReport.Proofs.Text.ColourSequences

/-! # Colours on the console

What is drawn with colours is what is drawn without them, with sequences around some of its pieces.

* **`Piece`** — a piece of a drawn text, in a colour or in none;
* **`Screen.drawPieces`** — pieces as a screen draws them;
* **`withoutColours_drawPieces`**, **`coloursEnd_drawPieces`** — without sequences the plain texts of
  the pieces are left, and colours end on their line;
* **`report_eq_drawPieces`** and its companions — reports, counts and errors are drawn as pieces, the
  same ones on every screen of the same widths;
* **`Report.HasNoEscape`** — a report in whose texts no sequence can be mistaken;
* **`colours_change_nothing_else`** — both for all that is drawn. -/

namespace SynthReport

/-! ## Pieces of a text -/

/-- **A piece of a drawn text**, in a colour if it has one. -/
structure Piece where
  colour : Option Colour
  text : String

namespace Piece

/-- A piece without a colour. -/
def plain (text : String) : Piece := ⟨none, text⟩

/-- A piece in a colour. -/
def tinted (colour : Colour) (text : String) : Piece := ⟨some colour, text⟩

/-- **A piece whose colour ends on its line**: in a colour, it has no line feed. -/
def StaysOnLine (piece : Piece) : Prop := piece.colour ≠ none → '\n' ∉ piece.text.toList

/-- Without a colour, none has to end. -/
theorem staysOnLine_plain (text : String) : (plain text).StaysOnLine := fun h => absurd rfl h

end Piece

/-- The code of a colour is not the one that resets it. -/
theorem Colour.isCode_code (colour : Colour) :
    IsCode colour.code.toList ∧ colour.code.toList ≠ resetCode := by
  cases colour <;> decide

namespace Screen

/-- A piece on the screen. -/
def piece (screen : Screen) (piece : Piece) : String :=
  match piece.colour with
  | some colour => screen.coloured colour piece.text
  | none => piece.text

/-- **Pieces on the screen**, one after the other. -/
def drawPieces (screen : Screen) (pieces : List Piece) : String :=
  String.join (pieces.map screen.piece)

section Draw

variable {screen : Screen}

@[simp] theorem drawPieces_nil : screen.drawPieces [] = "" := rfl

@[simp] theorem drawPieces_cons (piece : Piece) (rest : List Piece) :
    screen.drawPieces (piece :: rest) = screen.piece piece ++ screen.drawPieces rest :=
  String.join_cons

@[simp] theorem drawPieces_append (first second : List Piece) :
    screen.drawPieces (first ++ second) = screen.drawPieces first ++ screen.drawPieces second := by
  rw [drawPieces, List.map_append, String.join_append]
  rfl

@[simp] theorem piece_plain (text : String) : screen.piece (.plain text) = text := rfl

@[simp] theorem piece_tinted (colour : Colour) (text : String) :
    screen.piece (.tinted colour text) = screen.coloured colour text := rfl

/-- A text in colour is a sequence, the text and a reset. -/
theorem toList_coloured (hcolours : screen.colours = true) (colour : Colour) (text : String) :
    (screen.coloured colour text).toList =
      colourSequence colour.code.toList ++ (text.toList ++ colourSequence resetCode) := by
  rw [coloured, if_pos hcolours]
  simp [colourSequence, resetCode, escape]

/-- Without colours pieces are drawn as their texts. -/
theorem drawPieces_of_not_colours (hcolours : screen.colours = false) (pieces : List Piece) :
    screen.drawPieces pieces = String.join (pieces.map Piece.text) := by
  have hpiece : ∀ piece : Piece, screen.piece piece = piece.text := by
    intro piece
    rw [Screen.piece]
    split
    · rw [coloured, hcolours]
      rfl
    · rfl
  rw [drawPieces, List.map_congr_left fun piece _ => hpiece piece]

/-- **Without sequences the texts of the pieces are left.** -/
theorem withoutColours_drawPieces (hcolours : screen.colours = true) {pieces : List Piece}
    (hescape : ∀ piece ∈ pieces, escape ∉ piece.text.toList) :
    withoutColours (screen.drawPieces pieces) = String.join (pieces.map Piece.text) := by
  rw [withoutColours, ← String.toList_inj, String.toList_ofList]
  induction pieces with
  | nil => simp
  | cons piece rest ih =>
    obtain ⟨hpiece, hrest⟩ := List.forall_mem_cons.1 hescape
    rw [drawPieces_cons, List.map_cons, String.join_cons, String.toList_append, String.toList_append,
      ← ih hrest]
    obtain ⟨colour, text⟩ := piece
    cases colour with
    | none => exact uncoloured_append hpiece _
    | some colour =>
      change uncoloured ((screen.coloured colour text).toList ++ _) = _
      rw [toList_coloured hcolours, List.append_assoc, List.append_assoc,
        uncoloured_sequence colour.isCode_code.1, uncoloured_append hpiece,
        uncoloured_sequence (by decide)]

/-- **So the pieces are left as a screen without colours draws them.** -/
theorem withoutColours_drawPieces_eq {plain : Screen} (hcolours : screen.colours = true)
    (hplain : plain.colours = false) {pieces : List Piece}
    (hescape : ∀ piece ∈ pieces, escape ∉ piece.text.toList) :
    withoutColours (screen.drawPieces pieces) = plain.drawPieces pieces := by
  rw [withoutColours_drawPieces hcolours hescape, drawPieces_of_not_colours hplain]

/-- **Colours end on their line**, if no piece in a colour has a line feed. -/
theorem coloursEnd_drawPieces (hcolours : screen.colours = true) {pieces : List Piece}
    (hescape : ∀ piece ∈ pieces, escape ∉ piece.text.toList)
    (hline : ∀ piece ∈ pieces, piece.StaysOnLine) :
    ColoursEnd (screen.drawPieces pieces).toList := by
  induction pieces with
  | nil => exact coloursEnd_nil
  | cons piece rest ih =>
    obtain ⟨hpiece, hrest⟩ := List.forall_mem_cons.1 hescape
    obtain ⟨hfeed, hfeeds⟩ := List.forall_mem_cons.1 hline
    rw [drawPieces_cons, String.toList_append]
    obtain ⟨colour, text⟩ := piece
    cases colour with
    | none => exact coloursEnd_append hpiece (ih hrest hfeeds)
    | some colour =>
      change ColoursEnd ((screen.coloured colour text).toList ++ _)
      rw [toList_coloured hcolours, List.append_assoc, List.append_assoc]
      exact coloursEnd_coloured colour.isCode_code.1 hpiece (hfeed nofun) (ih hrest hfeeds)

end Draw

/-! ## What is drawn as pieces -/

variable (screen : Screen)

/-- The pieces of an entry. A row has no colours, a failure is in colour up to the end of its
line. -/
def entryPieces : Entry → List Piece
  | .built r => [.plain (screen.row r)]
  | .failed record error =>
    [.tinted .brightRed (screen.content ("⚠ record " ++ toString record) error.message), .plain "\n"]

/-- **The pieces of a report**: those of its entries between the borders. -/
def reportPieces (report : Report) : List Piece :=
  .plain (title report) ::
    if report.entries = [] then [.plain "No matching records.\n"]
    else
      .plain (screen.border "┌" "┬" "┐") ::
        ([Piece.plain (screen.border "├" "┼" "┤")].intercalate
            (report.entries.map screen.entryPieces) ++
          [.plain (screen.border "└" "┴" "┘")])

/-- The pieces of an error message. -/
def errorPieces (message : String) : List Piece :=
  [.tinted .brightRed "error", .plain ": ", .plain message, .plain "\n"]

/-- The counts that are always drawn. -/
def countsText (counts : Summary) : String :=
  "\n=== Summary ===\n" ++
  "Scanned:   " ++ toString counts.scanned ++ "\n" ++
  "Matched:   " ++ toString counts.matched ++ "\n" ++
  "✓ Rendered: " ++ toString counts.rendered ++ "\n"

/-- The pieces of counts. -/
def summaryPieces (counts : Summary) : List Piece :=
  .plain (countsText counts) ::
    if counts.failed = 0 then []
    else [.tinted .brightYellow ("⚠ Failed:   " ++ toString counts.failed), .plain "\n"]

/-- Pieces with a text between any two parts. -/
theorem drawPieces_intercalate (between : String) (parts : List (List Piece)) :
    screen.drawPieces ([Piece.plain between].intercalate parts) =
      between.intercalate (parts.map screen.drawPieces) := by
  have hparts := intercalate_map_join screen.piece [Piece.plain between] parts
  rw [List.map_singleton, piece_plain, String.join_cons, String.join_nil, String.append_empty]
    at hparts
  exact hparts.symm

/-- **An entry is drawn as its pieces.** -/
theorem entry_eq_drawPieces (entry : Entry) :
    screen.entry entry = screen.drawPieces (screen.entryPieces entry) := by
  cases entry <;> simp [Screen.entry, entryPieces, failure]

/-- **A report is drawn as its pieces.** -/
theorem report_eq_drawPieces (report : Report) :
    screen.report report = screen.drawPieces (screen.reportPieces report) := by
  have hentries : report.entries.map screen.entry =
      (report.entries.map screen.entryPieces).map screen.drawPieces := by
    rw [List.map_map]
    exact List.map_congr_left fun entry _ => screen.entry_eq_drawPieces entry
  rw [Screen.report, reportPieces, drawPieces_cons, piece_plain]
  split
  · simp
  · rw [drawPieces_cons, drawPieces_append, drawPieces_intercalate, hentries]
    simp [String.append_assoc]

/-- **What holds of all pieces of a report** holds of its frame and of the pieces of its entries. -/
theorem forall_mem_reportPieces {screen : Screen} {report : Report} {p : Piece → Prop}
    (htitle : p (.plain (title report))) (hnone : p (.plain "No matching records.\n"))
    (htop : p (.plain (screen.border "┌" "┬" "┐")))
    (hbetween : p (.plain (screen.border "├" "┼" "┤")))
    (hbottom : p (.plain (screen.border "└" "┴" "┘")))
    (hentries : ∀ entry ∈ report.entries, ∀ piece ∈ screen.entryPieces entry, p piece) :
    ∀ piece ∈ screen.reportPieces report, p piece := by
  refine List.forall_mem_cons.2 ⟨htitle, ?_⟩
  split
  · exact List.forall_mem_singleton.2 hnone
  refine List.forall_mem_cons.2 ⟨htop, List.forall_mem_append.2 ⟨fun piece hpiece => ?_,
    List.forall_mem_singleton.2 hbottom⟩⟩
  rcases mem_of_mem_intercalate hpiece with hpiece | ⟨part, hpart, hpiece⟩
  · rwa [List.mem_singleton.1 hpiece]
  · obtain ⟨entry, hentry, rfl⟩ := List.mem_map.1 hpart
    exact hentries entry hentry piece hpiece

/-- **Counts are drawn as their pieces.** -/
theorem summary_eq_drawPieces (counts : Summary) :
    screen.summary counts = screen.drawPieces (summaryPieces counts) := by
  unfold Screen.summary summaryPieces countsText
  rw [drawPieces_cons, piece_plain]
  split
  · rw [drawPieces_nil]
  · rw [drawPieces_cons, drawPieces_cons, drawPieces_nil, piece_tinted, piece_plain,
      String.append_empty]

/-- **An error message is drawn as its pieces.** -/
theorem error_eq_drawPieces (message : String) :
    screen.error message = screen.drawPieces (errorPieces message) := by
  simp [Screen.error, errorPieces, String.append_assoc]

end Screen

/-! ## Texts without escapes -/

/-- An escape is no character of numbers. -/
theorem not_isNumeric_escape : ¬ IsNumeric escape := by decide +kernel

/-- There is no escape in a count. -/
theorem escape_notMem_toString (n : Nat) : escape ∉ (toString n).toList :=
  fun h => not_isNumeric_escape (isNumeric_of_mem_toString n _ h)

/-- There is none in texts put together. -/
theorem escape_notMem_append {first second : String} (hfirst : escape ∉ first.toList)
    (hsecond : escape ∉ second.toList) : escape ∉ (first ++ second).toList := by
  rw [String.toList_append]
  exact List.not_mem_append hfirst hsecond

/-- Nor in texts that are joined. -/
theorem escape_notMem_join {texts : List String} (h : ∀ text ∈ texts, escape ∉ text.toList) :
    escape ∉ (String.join texts).toList := by
  rw [String.toList_join, List.mem_flatMap]
  rintro ⟨text, htext, hmem⟩
  exact h text htext hmem

/-- A cell without escapes: only a text can have them. -/
def Cell.HasNoEscape : Cell → Prop
  | text s => escape ∉ s.toList
  | _ => True

instance : (cell : Cell) → Decidable cell.HasNoEscape
  | .text s => inferInstanceAs (Decidable (escape ∉ s.toList))
  | .integer _ | .number _ => .isTrue trivial

/-- **An entry without escapes**: in its labels and cells, or in the message of a failure. -/
def Entry.HasNoEscape : Entry → Prop
  | .built row => ∀ field ∈ row, escape ∉ field.1.toList ∧ field.2.HasNoEscape
  | .failed _ error => escape ∉ error.message.toList

instance : (entry : Entry) → Decidable entry.HasNoEscape
  | .built row =>
    inferInstanceAs (Decidable (∀ field ∈ row, escape ∉ field.1.toList ∧ field.2.HasNoEscape))
  | .failed _ error => inferInstanceAs (Decidable (escape ∉ error.message.toList))

/-- **A report without escapes**: in its title and its entries. -/
structure Report.HasNoEscape (report : Report) : Prop where
  title : escape ∉ report.title.toList
  entries : ∀ entry ∈ report.entries, entry.HasNoEscape

/-- Such a cell is displayed without escapes. -/
theorem Cell.HasNoEscape.display {cell : Cell} (h : cell.HasNoEscape) :
    escape ∉ cell.display.toList := by
  cases cell with
  | integer i => exact fun h => not_isNumeric_escape (isNumeric_of_mem_toString_int i _ h)
  | number x => exact fun h => not_isNumeric_escape (isNumeric_of_mem_plainText x _ h)
  | text s => exact h

namespace Screen

section NoEscape

variable {screen : Screen}

/-- **A drawn line has no other characters** than those of its label and its value, the borders,
dots and spaces. -/
theorem notMem_content {c : Char} {label value : String} (hframe : c ∉ ['│', ' ', '.'])
    (hlabel : c ∉ label.toList) (hvalue : c ∉ value.toList) :
    c ∉ (screen.content label value).toList := by
  simp only [List.mem_cons, List.not_mem_nil, or_false, not_or] at hframe
  obtain ⟨hborder, hspace, hdot⟩ := hframe
  have hfitted : ∀ {text : String} {width : Nat}, c ∉ text.toList →
      c ∉ (fitted text width).toList := by
    intro text width htext hmem
    rcases mem_fitted hmem with h | h | h
    · exact htext h
    · exact hdot h
    · exact hspace h
  simp [content, hborder, hspace, hfitted hlabel, hfitted hvalue]

/-- A line of a card without escapes. -/
theorem escape_notMem_line {label value : String} (hlabel : escape ∉ label.toList)
    (hvalue : escape ∉ value.toList) : escape ∉ (screen.line label value).toList :=
  escape_notMem_append (notMem_content (by decide) hlabel hvalue) (by decide)

/-- There is no escape in a border. -/
theorem escape_notMem_border {left middle right : String} (hleft : escape ∉ left.toList)
    (hmiddle : escape ∉ middle.toList) (hright : escape ∉ right.toList) :
    escape ∉ (screen.border left middle right).toList :=
  escape_notMem_append (screen.notMem_edge (by decide) hleft hmiddle hright) (by decide)

/-- The lines of a cell. -/
theorem escape_notMem_cell {label : String} {cell : Cell} (hlabel : escape ∉ label.toList)
    (hcell : cell.HasNoEscape) : escape ∉ (screen.cell label cell).toList := by
  have hlines : ∀ line ∈ lines cell.display, escape ∉ line.toList :=
    fun line hline hmem => hcell.display (mem_of_mem_lines hline hmem)
  rw [Screen.cell]
  split
  · exact escape_notMem_line hlabel (by decide)
  · rename_i first rest hsplit
    rw [hsplit] at hlines
    obtain ⟨hfirst, hrest⟩ := List.forall_mem_cons.1 hlines
    refine escape_notMem_append (escape_notMem_line hlabel hfirst) (escape_notMem_join ?_)
    refine List.forall_mem_map.2 fun line hline => ?_
    exact escape_notMem_line (by decide) (hrest line hline)

/-- The pieces of an entry. -/
theorem escape_notMem_entryPieces {entry : Entry} (hentry : entry.HasNoEscape) :
    ∀ piece ∈ screen.entryPieces entry, escape ∉ piece.text.toList := by
  cases entry with
  | built row =>
    refine List.forall_mem_singleton.2 (escape_notMem_join (List.forall_mem_map.2 ?_))
    exact fun field hfield => escape_notMem_cell (hentry field hfield).1 (hentry field hfield).2
  | failed record error =>
    refine List.forall_mem_cons.2 ⟨notMem_content (by decide) ?_ hentry,
      List.forall_mem_singleton.2 (by decide)⟩
    exact escape_notMem_append (by decide) (escape_notMem_toString record)

/-- **The pieces of a report without escapes have none.** -/
theorem escape_notMem_reportPieces (screen : Screen) {report : Report}
    (hreport : report.HasNoEscape) :
    ∀ piece ∈ screen.reportPieces report, escape ∉ piece.text.toList := by
  have htitle : escape ∉ (title report).toList := by
    simp only [title, String.toList_append, List.mem_append, not_or, hreport.title,
      escape_notMem_toString, not_false_eq_true, and_true]
    decide
  have hborder : ∀ {left middle right : String}, escape ∉ left.toList → escape ∉ middle.toList →
      escape ∉ right.toList → escape ∉ (Piece.plain (screen.border left middle right)).text.toList :=
    escape_notMem_border
  exact forall_mem_reportPieces htitle (by decide) (hborder (by decide) (by decide) (by decide))
    (hborder (by decide) (by decide) (by decide)) (hborder (by decide) (by decide) (by decide))
    fun entry hentry => escape_notMem_entryPieces (hreport.entries entry hentry)

/-- Nor do those of any counts. -/
theorem escape_notMem_summaryPieces (counts : Summary) :
    ∀ piece ∈ summaryPieces counts, escape ∉ piece.text.toList := by
  have hcounts : escape ∉ (countsText counts).toList := by
    unfold countsText
    simp only [String.toList_append, List.mem_append, not_or, escape_notMem_toString,
      not_false_eq_true, and_true]
    decide
  refine List.forall_mem_cons.2 ⟨hcounts, ?_⟩
  split
  · exact nofun
  · exact List.forall_mem_cons.2 ⟨escape_notMem_append (by decide) (escape_notMem_toString _),
      List.forall_mem_singleton.2 (by decide)⟩

/-- Nor those of an error message without escapes. -/
theorem escape_notMem_errorPieces {message : String} (hmessage : escape ∉ message.toList) :
    ∀ piece ∈ errorPieces message, escape ∉ piece.text.toList :=
  List.forall_mem_cons.2 ⟨by decide,
    List.forall_mem_cons.2 ⟨by decide,
      List.forall_mem_cons.2 ⟨hmessage, List.forall_mem_singleton.2 (by decide)⟩⟩⟩

end NoEscape

/-! ## Colours end on their line -/

section OneLine

variable {screen : Screen}

/-- A failure whose message has no line feed is on one line. -/
theorem staysOnLine_entryPieces {entry : Entry}
    (hfeed : ∀ record error, entry = .failed record error → '\n' ∉ error.message.toList) :
    ∀ piece ∈ screen.entryPieces entry, piece.StaysOnLine := by
  cases entry with
  | built row => exact List.forall_mem_singleton.2 (Piece.staysOnLine_plain _)
  | failed record error =>
    refine List.forall_mem_cons.2 ⟨fun _ => ?_,
      List.forall_mem_singleton.2 (Piece.staysOnLine_plain _)⟩
    exact notMem_content (by decide) (lineFeed_notMem_heading record) (hfeed record error rfl)

/-- **So is every colour of a report** whose failures have such messages. -/
theorem staysOnLine_reportPieces {report : Report}
    (hfeed : ∀ record error, .failed record error ∈ report.entries →
      '\n' ∉ error.message.toList) :
    ∀ piece ∈ screen.reportPieces report, piece.StaysOnLine := by
  refine forall_mem_reportPieces (Piece.staysOnLine_plain _) (Piece.staysOnLine_plain _)
    (Piece.staysOnLine_plain _) (Piece.staysOnLine_plain _) (Piece.staysOnLine_plain _) ?_
  intro entry hentry
  exact staysOnLine_entryPieces fun record error hfailed =>
    hfeed record error (hfailed ▸ hentry)

/-- The count of failures is on one line. -/
theorem staysOnLine_summaryPieces (counts : Summary) :
    ∀ piece ∈ summaryPieces counts, piece.StaysOnLine := by
  refine List.forall_mem_cons.2 ⟨Piece.staysOnLine_plain _, ?_⟩
  split
  · exact nofun
  · refine List.forall_mem_cons.2 ⟨fun _ => ?_,
      List.forall_mem_singleton.2 (Piece.staysOnLine_plain _)⟩
    rw [Piece.tinted, String.toList_append]
    exact List.not_mem_append (by decide) (lineFeed_notMem_toString counts.failed)

/-- The word in front of an error message is on one line. -/
theorem staysOnLine_errorPieces (message : String) :
    ∀ piece ∈ errorPieces message, piece.StaysOnLine :=
  List.forall_mem_cons.2 ⟨fun _ => by decide,
    List.forall_mem_cons.2 ⟨Piece.staysOnLine_plain _,
      List.forall_mem_cons.2 ⟨Piece.staysOnLine_plain _,
        List.forall_mem_singleton.2 (Piece.staysOnLine_plain _)⟩⟩⟩

end OneLine

end Screen

/-- **Colours change nothing else.** When all colour sequences are removed from what is drawn with
colours of a report without escapes, of any counts and of an error message without escapes, what is
drawn without colours is left. Colours end on their line in all of them, in a report if no message of
a failure has a line feed. -/
theorem colours_change_nothing_else (widths : CardWidths) {report : Report}
    (hreport : report.HasNoEscape) (counts : Summary) {message : String}
    (hmessage : escape ∉ message.toList) :
    let coloured : Screen := ⟨true, widths⟩
    let plain : Screen := ⟨false, widths⟩
    (withoutColours (coloured.report report) = plain.report report ∧
        withoutColours (coloured.summary counts) = plain.summary counts ∧
        withoutColours (coloured.error message) = plain.error message) ∧
      ((∀ record error, .failed record error ∈ report.entries → '\n' ∉ error.message.toList) →
        ColoursEnd (coloured.report report).toList) ∧
      ColoursEnd (coloured.summary counts).toList ∧
      ColoursEnd (coloured.error message).toList := by
  intro coloured plain
  have hcoloured : coloured.colours = true := rfl
  have hplain : plain.colours = false := rfl
  have hreports := coloured.escape_notMem_reportPieces hreport
  have hsummaries := Screen.escape_notMem_summaryPieces counts
  have herrors := Screen.escape_notMem_errorPieces hmessage
  -- Pieces do not depend on whether there are colours.
  have hpieces : plain.reportPieces report = coloured.reportPieces report := rfl
  simp only [Screen.report_eq_drawPieces, Screen.summary_eq_drawPieces,
    Screen.error_eq_drawPieces, hpieces]
  refine ⟨⟨?_, ?_, ?_⟩, fun hfeed => ?_, ?_, ?_⟩
  · exact Screen.withoutColours_drawPieces_eq hcoloured hplain hreports
  · exact Screen.withoutColours_drawPieces_eq hcoloured hplain hsummaries
  · exact Screen.withoutColours_drawPieces_eq hcoloured hplain herrors
  · exact Screen.coloursEnd_drawPieces hcoloured hreports (Screen.staysOnLine_reportPieces hfeed)
  · exact Screen.coloursEnd_drawPieces hcoloured hsummaries (Screen.staysOnLine_summaryPieces counts)
  · exact Screen.coloursEnd_drawPieces hcoloured herrors (Screen.staysOnLine_errorPieces message)

/-- The sample of cards has a failure that is drawn in colour, and wide texts that are cut. -/
theorem colours_change_nothing_else_of_sampleCards :
    sampleCards.HasNoEscape ∧ escape ∉ "no such file".toList ∧
      (∀ record error, .failed record error ∈ sampleCards.entries →
        '\n' ∉ error.message.toList) ∧
      let coloured : Screen := ⟨true, .ofConsole 0 sampleCards.columns⟩
      let plain : Screen := ⟨false, .ofConsole 0 sampleCards.columns⟩
      (withoutColours (coloured.report sampleCards) = plain.report sampleCards ∧
          withoutColours (coloured.summary sampleCards.summary) =
            plain.summary sampleCards.summary ∧
          withoutColours (coloured.error "no such file") = plain.error "no such file") ∧
        ColoursEnd (coloured.report sampleCards).toList ∧
        ColoursEnd (coloured.summary sampleCards.summary).toList ∧
        ColoursEnd (coloured.error "no such file").toList := by
  have hreport : sampleCards.HasNoEscape := ⟨by decide +kernel, by decide +kernel⟩
  have hmessage : escape ∉ "no such file".toList := by decide +kernel
  have hfeed : ∀ record error, .failed record error ∈ sampleCards.entries →
      '\n' ∉ error.message.toList := by
    intro record error hentry
    rcases List.mem_cons.1 hentry with h | hentry
    · cases h
    · cases List.mem_singleton.1 hentry
      decide +kernel
  obtain ⟨hremoved, hends, hothers⟩ := colours_change_nothing_else
    (.ofConsole 0 sampleCards.columns) hreport sampleCards.summary hmessage
  exact ⟨hreport, hmessage, hfeed, hremoved, hends hfeed, hothers⟩

end SynthReport
