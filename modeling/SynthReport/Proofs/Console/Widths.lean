import SynthReport.CommandLine.Options
import SynthReport.Console.Widths
import SynthReport.Report.Baseline

/-! # Cards and the console

A card is as wide as the console, if that leaves room for the narrowest value column.

* **`IsWidest`** — the width of the widest label, the heading of a failed entry included;
* **`minConsoleWidth_le`** — a console that is accepted has at least 40 columns;
* **`ofConsole_of_accepted`** — the columns of a card on such a console, which is filled by the card
  unless it has 40 or 41 columns and half of the card goes to the labels;
* **`ofConsole_exceeds`** — with the labels of the baseline comparison, 40 columns are too few. -/

namespace SynthReport

/-- A console that is accepted is not narrower than the narrowest one. -/
theorem Options.minConsoleWidth_le {options : Options} {console : Nat}
    (haccepted : options.problem? = none) (hwidth : options.consoleWidth = some console) :
    minConsoleWidth ≤ console := by
  refine Nat.le_of_not_lt fun hnarrow => ?_
  have hfilter : options.consoleWidth.filter (· < minConsoleWidth) = some console := by
    rw [hwidth, Option.filter_some_pos]
    exact decide_eq_true hnarrow
  rw [problem?, hfilter] at haccepted
  split at haccepted
  · cases haccepted
  · cases haccepted

namespace CardWidths

/-- **The width of the widest label**, where the heading of a failed entry counts as one. -/
structure IsWidest (columns : List String) (widest : Nat) : Prop where
  le : ∀ label ∈ "⚠ record 000" :: columns, displayWidth label ≤ widest
  reached : ∃ label ∈ "⚠ record 000" :: columns, displayWidth label = widest

/-- The greatest of some numbers and a start is reached by one of them, and exceeded by none. -/
theorem foldl_max_isGreatest (numbers : List Nat) (start : Nat) :
    numbers.foldl max start ∈ start :: numbers ∧
      ∀ n ∈ start :: numbers, n ≤ numbers.foldl max start := by
  induction numbers generalizing start with
  | nil => simp
  | cons first rest ih =>
    obtain ⟨hmem, hle⟩ := ih (max start first)
    rw [List.foldl_cons]
    simp only [List.mem_cons, forall_eq_or_imp] at hmem hle ⊢
    obtain ⟨hmax, hrest⟩ := hle
    refine ⟨?_, by omega, by omega, hrest⟩
    rcases hmem with hmem | hmem
    · rw [hmem]
      rcases Nat.le_total start first with h | h
      · exact Or.inr (Or.inl (Nat.max_eq_right h))
      · exact Or.inl (Nat.max_eq_left h)
    · exact Or.inr (Or.inr hmem)

/-- **The label column makes room for the widest label.** -/
theorem isWidest_longestLabel (columns : List String) :
    IsWidest columns (longestLabel columns) := by
  have hheading : displayWidth "⚠ record 000" :: columns.map displayWidth =
      ("⚠ record 000" :: columns).map displayWidth := rfl
  obtain ⟨hmem, hle⟩ :=
    foldl_max_isGreatest (columns.map displayWidth) (displayWidth "⚠ record 000")
  rw [hheading] at hmem hle
  exact ⟨fun label hlabel => hle _ (List.mem_map_of_mem hlabel), List.mem_map.1 hmem⟩

/-- The heading of a failed entry has twelve columns. -/
theorem twelve_le_longestLabel (columns : List String) : 12 ≤ longestLabel columns := by
  have hheading : displayWidth "⚠ record 000" = 12 := by decide +kernel
  have hle := (isWidest_longestLabel columns).le "⚠ record 000" List.mem_cons_self
  rwa [hheading] at hle

/-- From forty columns on the label column never falls back on its least width. -/
theorem label_ofConsole {console : Nat} (h : 40 ≤ console) (columns : List String) :
    (ofConsole console columns).label = min (longestLabel columns + 2) ((console - 3) / 2) := by
  have hheading := twelve_le_longestLabel columns
  rw [ofConsole]
  dsimp only [borders]
  omega

/-- **The columns of a card on a console that is accepted.** The labels get what the widest needs
with a space on both sides, or half of the card without its borders if that is less. The values get
the rest, and never less than twenty columns. So the card fills the console, unless this has 40 or
41 columns and the labels have half of the card: then the card has one column more. -/
theorem ofConsole_of_accepted {options : Options} {console : Nat}
    (haccepted : options.problem? = none) (hwidth : options.consoleWidth = some console)
    (columns : List String) :
    ∃ widest, IsWidest columns widest ∧
      let widths := ofConsole console columns
      widths.label = (if widest + 2 ≤ (console - 3) / 2 then widest + 2 else (console - 3) / 2) ∧
      20 ≤ widths.value ∧ widths.label + widths.value + 3 = widths.total ∧
      widths.total =
        if console = 40 ∧ widths.label = 18 ∨ console = 41 ∧ widths.label = 19 then console + 1
        else console := by
  have hnarrow : 40 ≤ console := Options.minConsoleWidth_le haccepted hwidth
  have hlabel := label_ofConsole hnarrow columns
  have hvalue : (ofConsole console columns).value =
      max (console - 3 - (ofConsole console columns).label) 20 := rfl
  have htotal : (ofConsole console columns).total =
      (ofConsole console columns).label + (ofConsole console columns).value + 3 := rfl
  refine ⟨longestLabel columns, isWidest_longestLabel columns, ?_, ?_, htotal.symm, ?_⟩
  · rw [hlabel]
    split <;> omega
  · omega
  · split <;> omega

/-- The narrowest console. -/
def narrowOptions : Options := { consoleWidth := some 40 }

/-- The default report on the narrowest console. -/
theorem ofConsole_of_accepted_of_narrowOptions :
    narrowOptions.problem? = none ∧ narrowOptions.consoleWidth = some 40 ∧
      ∃ widest, IsWidest (Report.baseline narrowOptions.baseline []).1.columns widest ∧
        let widths := ofConsole 40 (Report.baseline narrowOptions.baseline []).1.columns
        widths.label = (if widest + 2 ≤ (40 - 3) / 2 then widest + 2 else (40 - 3) / 2) ∧
        20 ≤ widths.value ∧ widths.label + widths.value + 3 = widths.total ∧
        widths.total =
          if 40 = 40 ∧ widths.label = 18 ∨ 40 = 41 ∧ widths.label = 19 then 40 + 1 else 40 := by
  have haccepted : narrowOptions.problem? = none := by decide +kernel
  have hwidth : narrowOptions.consoleWidth = some 40 := rfl
  exact ⟨haccepted, hwidth, ofConsole_of_accepted haccepted hwidth _⟩

/-- **The cards of the default report do not fit the narrowest console that is accepted.** -/
theorem ofConsole_exceeds :
    narrowOptions.problem? = none ∧ narrowOptions.consoleWidth = some 40 ∧
      (ofConsole 40 (Report.baseline narrowOptions.baseline []).1.columns).total ≠ 40 := by
  decide +kernel

end CardWidths

end SynthReport
