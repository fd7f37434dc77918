import SynthReport.Text.DisplayWidth

/-! # Widths of the console

A report is drawn as cards of two columns, labels and values, with borders of one column left,
between and right. -/

namespace SynthReport

/-- **The widths of a card**, borders not counted in either column. -/
structure CardWidths where
  label : Nat
  value : Nat
deriving DecidableEq

namespace CardWidths

/-- The columns that borders take. -/
def borders : Nat := 3

/-- The whole card. -/
def total (w : CardWidths) : Nat := w.label + w.value + borders

/-- The narrowest value column. -/
def minValue : Nat := 20

/-- The widest label; the heading of a failed entry has to fit as well. -/
def longestLabel (columns : List String) : Nat :=
  (columns.map displayWidth).foldl max (displayWidth "⚠ record 000")

/-- **The widths for a console and column labels.** The labels get what the longest needs with a
space on both sides, but no more than half of the card; the values get the rest. -/
def ofConsole (console : Nat) (columns : List String) : CardWidths :=
  let available := console - borders
  let label := max (min (longestLabel columns + 2) (available / 2)) 4
  { label, value := max (available - label) minValue }

end CardWidths

end SynthReport
