import SynthReport.Text.Lines

/-! # The lines of a text

* **`LinesOf`** — what the lines of a text are, told by how the text is made of them;
* **`linesOf_lines`** — where there are no carriage returns, the lines that are read are those;
* **`textOfLines_append`** and its companions — texts put together from ended lines. -/

namespace SynthReport

/-! ## The lines that a text is made of -/

/-- **The lines of a text.** A line ends at a line feed; what stands after the last one is a line of
its own unless it is empty. -/
inductive LinesOf : List Char → List (List Char) → Prop where
  | none : LinesOf [] []
  | last {line : List Char} : line ≠ [] → '\n' ∉ line → LinesOf line [line]
  | ended {line rest : List Char} {others : List (List Char)} : '\n' ∉ line →
      LinesOf rest others → LinesOf (line ++ '\n' :: rest) (line :: others)

/-- Lines have no line feed in them. -/
theorem LinesOf.lineFeed_notMem {text : List Char} {lines : List (List Char)}
    (h : LinesOf text lines) : ∀ line ∈ lines, '\n' ∉ line := by
  induction h with
  | none => exact nofun
  | last _ hline => exact List.forall_mem_singleton.2 hline
  | ended hline _ ih => exact List.forall_mem_cons.2 ⟨hline, ih⟩

/-- The characters of the lines are characters of the text. -/
theorem LinesOf.mem_text {text : List Char} {lines : List (List Char)} (h : LinesOf text lines)
    {line : List Char} (hline : line ∈ lines) {c : Char} (hc : c ∈ line) : c ∈ text := by
  induction h with
  | none => cases hline
  | last =>
    obtain rfl := List.mem_singleton.1 hline
    exact hc
  | ended _ _ ih =>
    rcases List.mem_cons.1 hline with rfl | hline
    · exact List.mem_append_left _ hc
    · exact List.mem_append_right _ (List.mem_cons_of_mem _ (ih hline))

/-- A line that does not end in a carriage return stays as it is. -/
theorem dropReturn_of_notMem {line : List Char} (h : '\r' ∉ line) : dropReturn line = line := by
  rw [dropReturn, if_neg]
  intro hlast
  exact h (List.mem_of_getLast? hlast)

/-- The lines that are read, when some of the first one has been read already. -/
theorem linesOf_linesFrom {text reversed : List Char} (htext : '\r' ∉ text)
    (hreturn : '\r' ∉ reversed) (hfeed : '\n' ∉ reversed) :
    LinesOf (reversed.reverse ++ text) (linesFrom reversed text) := by
  -- By induction on the text that is left; the part that was read has no line end in it so far.
  induction text generalizing reversed with
  | nil =>
    rw [linesFrom, List.append_nil]
    split
    · rename_i hempty
      rw [hempty]
      exact .none
    · rename_i hne
      exact .last (by simpa using hne) (by simpa using hfeed)
  | cons c rest ih =>
    obtain ⟨hc, hrest⟩ := List.ne_and_not_mem_of_not_mem_cons htext
    rw [linesFrom]
    split
    · -- The line ends here, and the next one starts.
      rename_i heq
      subst heq
      rw [dropReturn_of_notMem (by simpa using hreturn)]
      exact .ended (by simpa using hfeed) (ih hrest List.not_mem_nil List.not_mem_nil)
    · rename_i hne
      have hmore := ih hrest (List.not_mem_cons_of_ne_of_not_mem hc hreturn)
        (List.not_mem_cons_of_ne_of_not_mem (Ne.symm hne) hfeed)
      rwa [List.reverse_cons, List.append_assoc, List.singleton_append] at hmore

/-- **The lines that are read are the lines of the text**, if there is no carriage return. -/
theorem linesOf_lines {text : String} (h : '\r' ∉ text.toList) :
    LinesOf text.toList ((lines text).map String.toList) := by
  have hchars : (lines text).map String.toList = linesFrom [] text.toList := by simp [lines]
  rw [hchars]
  exact linesOf_linesFrom h List.not_mem_nil List.not_mem_nil

/-- What is dropped from the end of a line adds nothing to it. -/
theorem mem_of_mem_dropReturn {line : List Char} {c : Char} (h : c ∈ dropReturn line) :
    c ∈ line := by
  unfold dropReturn at h
  split at h
  · exact List.dropLast_subset line h
  · exact h

/-- What stands in a line of a text stands in the text, or has been read before. -/
theorem mem_of_mem_linesFrom {text reversed line : List Char} (hline : line ∈ linesFrom reversed text)
    {c : Char} (hc : c ∈ line) : c ∈ reversed ∨ c ∈ text := by
  induction text generalizing reversed with
  | nil =>
    rw [linesFrom] at hline
    split at hline
    · cases hline
    · rw [List.mem_singleton.1 hline, List.mem_reverse] at hc
      exact Or.inl hc
  | cons d rest ih =>
    rw [linesFrom] at hline
    split at hline
    · rcases List.mem_cons.1 hline with rfl | hline
      · exact Or.inl (List.mem_reverse.1 (mem_of_mem_dropReturn hc))
      · rcases ih hline with h | h
        · cases h
        · exact Or.inr (List.mem_cons_of_mem d h)
    · rcases ih hline with h | h
      · rcases List.mem_cons.1 h with rfl | h
        · exact Or.inr List.mem_cons_self
        · exact Or.inl h
      · exact Or.inr (List.mem_cons_of_mem d h)

/-- **What stands in a line of a text stands in the text.** -/
theorem mem_of_mem_lines {text line : String} (hline : line ∈ lines text) {c : Char}
    (hc : c ∈ line.toList) : c ∈ text.toList := by
  obtain ⟨chars, hchars, rfl⟩ := List.mem_map.1 hline
  rw [String.toList_ofList] at hc
  exact (mem_of_mem_linesFrom hchars hc).resolve_left List.not_mem_nil

/-- No line that is read has a line feed, when there is none in what has been read already. -/
theorem lineFeed_notMem_linesFrom {text reversed : List Char} (hfeed : '\n' ∉ reversed) :
    ∀ line ∈ linesFrom reversed text, '\n' ∉ line := by
  induction text generalizing reversed with
  | nil =>
    rw [linesFrom]
    split
    · exact nofun
    · exact List.forall_mem_singleton.2 (by simpa using hfeed)
  | cons c rest ih =>
    rw [linesFrom]
    split
    · refine List.forall_mem_cons.2 ⟨fun hmem => ?_, ih List.not_mem_nil⟩
      exact hfeed (List.mem_reverse.1 (mem_of_mem_dropReturn hmem))
    · rename_i hne
      exact ih (List.not_mem_cons_of_ne_of_not_mem (Ne.symm hne) hfeed)

/-- **No line of a text has a line feed in it**, whatever carriage returns there are. -/
theorem lineFeed_notMem_lines {text line : String} (h : line ∈ lines text) :
    '\n' ∉ line.toList := by
  obtain ⟨chars, hchars, rfl⟩ := List.mem_map.1 h
  rw [String.toList_ofList]
  exact lineFeed_notMem_linesFrom List.not_mem_nil chars hchars

/-! ## Texts of ended lines -/

@[simp] theorem textOfLines_nil : textOfLines [] = "" := rfl

@[simp] theorem textOfLines_cons (line : String) (rest : List String) :
    textOfLines (line :: rest) = line ++ "\n" ++ textOfLines rest := String.join_cons

@[simp] theorem textOfLines_append (first second : List String) :
    textOfLines (first ++ second) = textOfLines first ++ textOfLines second := by
  rw [textOfLines, List.map_append, String.join_append]
  rfl

/-- What stands in a text of lines is the end of a line or stands in one of them. -/
theorem mem_textOfLines {lines : List String} {c : Char} (h : c ∈ (textOfLines lines).toList) :
    c = '\n' ∨ ∃ line ∈ lines, c ∈ line.toList := by
  induction lines with
  | nil => cases h
  | cons line rest ih =>
    rw [textOfLines_cons, String.toList_append, String.toList_append] at h
    rcases List.mem_append.1 h with h | h
    · rcases List.mem_append.1 h with h | h
      · exact Or.inr ⟨line, List.mem_cons_self, h⟩
      · exact Or.inl (List.mem_singleton.1 h)
    · rcases ih h with h | ⟨other, hother, h⟩
      · exact Or.inl h
      · exact Or.inr ⟨other, List.mem_cons_of_mem _ hother, h⟩

/-- What stands in parts with something between them stands there or in one of the parts. -/
theorem mem_of_mem_intercalate {α : Type} {between : List α} {parts : List (List α)} {x : α}
    (h : x ∈ between.intercalate parts) : x ∈ between ∨ ∃ part ∈ parts, x ∈ part := by
  induction parts with
  | nil => cases h
  | cons part rest ih =>
    cases rest with
    | nil =>
      rw [List.intercalate_singleton] at h
      exact Or.inr ⟨part, List.mem_cons_self, h⟩
    | cons next rest =>
      rw [List.intercalate_cons_cons] at h
      rcases List.mem_append.1 h with h | h
      · rcases List.mem_append.1 h with h | h
        · exact Or.inr ⟨part, List.mem_cons_self, h⟩
        · exact Or.inl h
      · rcases ih h with h | ⟨other, hother, h⟩
        · exact Or.inl h
        · exact Or.inr ⟨other, List.mem_cons_of_mem _ hother, h⟩

/-- Joined texts with a joined text between any two of them. -/
theorem intercalate_map_join {α : Type} (draw : α → String) (between : List α)
    (parts : List (List α)) :
    (String.join (between.map draw)).intercalate
        (parts.map fun part => String.join (part.map draw)) =
      String.join ((between.intercalate parts).map draw) := by
  induction parts with
  | nil => rfl
  | cons part rest ih =>
    cases rest with
    | nil => simp
    | cons next rest =>
      rw [List.intercalate_cons_cons, List.map_append, List.map_append, String.join_append,
        String.join_append, ← ih, List.map_cons, List.map_cons, String.intercalate_cons_cons]

/-- Texts of lines with a text of lines between them. -/
theorem intercalate_map_textOfLines (between : List String) (parts : List (List String)) :
    (textOfLines between).intercalate (parts.map textOfLines) =
      textOfLines (between.intercalate parts) :=
  intercalate_map_join (· ++ "\n") between parts

end SynthReport
