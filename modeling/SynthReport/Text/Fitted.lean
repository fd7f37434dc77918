import SynthReport.Text.DisplayWidth

/-! # Texts cut or padded to a width

* **`takeColumns`** — the longest start of a text whose characters fit into some columns;
* **`fitted`** — a text of a given width: padded with spaces if it fits, else cut and ended by an
  ellipsis of three dots where there is room for one.

Whether a text fits is decided by its display width; where it is cut, by the widths of its single
characters. -/

namespace SynthReport

/-- **The start of a text that fits**, with the sum of the widths of its characters. -/
def takeColumns (room : Nat) : List Char → List Char × Nat
  | [] => ([], 0)
  | c :: rest =>
    let width := charWidth c
    if width ≤ room then
      let (kept, used) := takeColumns (room - width) rest
      (c :: kept, width + used)
    else ([], 0)

/-- The characters kept fill no more than the room. -/
theorem takeColumns_le (room : Nat) (text : List Char) : (takeColumns room text).2 ≤ room := by
  induction text generalizing room with
  | nil => simp [takeColumns]
  | cons c rest ih =>
    unfold takeColumns
    dsimp only
    split
    · have := ih (room - charWidth c)
      dsimp only
      omega
    · simp

/-- The characters kept are a start of the text. -/
theorem takeColumns_prefix (room : Nat) (text : List Char) :
    (takeColumns room text).1 <+: text := by
  induction text generalizing room with
  | nil => simp [takeColumns]
  | cons c rest ih =>
    unfold takeColumns
    dsimp only
    split
    · exact List.cons_prefix_cons.2 ⟨rfl, ih _⟩
    · exact List.nil_prefix

/-- The mark of a text that was cut. -/
def ellipsis : List Char := ['.', '.', '.']

/-- Spaces. -/
def blanks (n : Nat) : List Char := List.replicate n ' '

/-- A text cut to a width; below three columns there is no ellipsis. -/
def cut (text : List Char) (width : Nat) : List Char :=
  let mark := if 3 ≤ width then ellipsis else []
  let (kept, used) := takeColumns (width - mark.length) text
  kept ++ mark ++ blanks (width - (used + mark.length))

/-- **A text cut or padded to a width.** -/
def fitted (text : String) (width : Nat) : String :=
  if width < displayWidth text then String.ofList (cut text.toList width)
  else String.ofList (text.toList ++ blanks (width - displayWidth text))

end SynthReport
