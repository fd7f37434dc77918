import SynthReport.Cell
import SynthReport.Proofs.Json.Compact
import SynthReport.Proofs.Json.ScaledNumeral

/-! # Cells as JSON and back

A cell has no tag in JSON, so its kind is that of the value, and a number can be off by the
roundings of the reader.

* **`Cell.IsProper`**, **`Cell.IsFinite`** — the cells there are, and those that JSON can hold;
* **`Magnitude.IsEasilyRead`**, **`Magnitude.IsReadBack`** — the magnitudes whose text the reader
  rounds once, and how near to any other one it comes;
* **`Cell.ComesBack`** — what is read of the text of a cell: the same integer or text, or a number
  of the same sign that is hardly another;
* **`exists_comesBack`**, **`eq_of_compact_eq`** — a finite cell comes back, and no other one has
  its text;
* **`survives_json`** — both, and what becomes of the other cells. -/

namespace SynthReport

namespace Magnitude

/-- **A magnitude whose text is read with one rounding**: the digits of the text as a whole number,
and their power of ten, are doubles. -/
def IsEasilyRead (m : Magnitude) : Prop :=
  Json.IsEasy (Json.exactNumeral (Binary64.finite false m).jsonText).1
    (Json.exactNumeral (Binary64.finite false m).jsonText).2

/-- Zero is such a magnitude. -/
theorem isEasilyRead_zero : zero.IsEasilyRead := by
  rw [IsEasilyRead, (Json.writes_zero (show zero.significand = 0 from rfl)).stands.exact]
  exact ⟨⟨0, 0, by decide, rfl⟩, by decide⟩

/-- **A magnitude that is read of the text of a magnitude**: it is one part in `2 ^ 50` away from it
at most, or four quanta; and it is the same one if that was zero or easily read. -/
structure IsReadBack (m k : Magnitude) : Prop where
  near : |k.value - m.value| ≤ m.value / 2 ^ 50 + 1 / 2 ^ 1072
  zero : m = .zero → k = .zero
  easy : m.IsEasilyRead → k = m

/-- Eight roundings, as a part of the number and a number of quanta. -/
theorem eight_mul_roundingError (q : ℚ) :
    (8 : ℕ) * roundingError q = q / 2 ^ 50 + 1 / 2 ^ 1072 := by
  have hpow : (2 : ℚ) ^ 1075 = 8 * 2 ^ 1072 := by
    rw [show 1075 = 3 + 1072 from rfl, pow_add]
    norm_num
  rw [roundingError, halfQuantum_eq, hpow]
  generalize (2 : ℚ) ^ 1072 = quanta
  push_cast
  ring

/-- **The reader makes such a magnitude** of what was written. -/
theorem exists_isReadBack {m : Magnitude} {significand : Nat} {exponent : Int}
    (h : Json.Writes m significand exponent) :
    ∃ k, Json.scaled? significand exponent = some (.finite false k) ∧ m.IsReadBack k := by
  obtain ⟨k, hk, hwithin⟩ := h.exists_isWithin
  have heasy : m.IsEasilyRead → k = m := by
    intro heasy
    rw [IsEasilyRead, h.stands.exact] at heasy
    have hexact := Json.scaled?_eq_of_isEasy heasy h.stands.fits h.rounds
    exact (Binary64.finite.inj (Option.some.inj (hk.symm.trans hexact))).2
  refine ⟨k, hk, ?_, ?_, heasy⟩
  · rw [← eight_mul_roundingError]
    exact hwithin
  · rintro rfl
    exact heasy isEasilyRead_zero

end Magnitude

namespace Cell

/-- **The cells there are**: their integers have 64 bits with sign. -/
def IsProper : Cell → Prop
  | integer i => JsonNumber.IsSigned i
  | _ => True

/-- **The cells that JSON can hold**: their numbers are finite. -/
def IsFinite : Cell → Prop
  | number x => x.isFinite = true
  | _ => True

/-- **What a finite cell comes back as.** -/
inductive ComesBack : Cell → Cell → Prop where
  | integer (i : Int) : ComesBack (integer i) (integer i)
  | text (s : String) : ComesBack (text s) (text s)
  | number (negative : Bool) {m k : Magnitude} : m.IsReadBack k →
      ComesBack (number (.finite negative m)) (number (.finite negative k))

/-! ## Texts -/

/-- The text of an integer. -/
theorem compact_integer (i : Int) :
    (integer i).toJson.compact = String.ofList (toString i).toList := by
  rw [toJson, Json.compact, Json.compactChars, Json.numberText]

/-- The text of a finite number: that of its magnitude with its sign. -/
theorem compact_number (negative : Bool) (m : Magnitude) :
    (number (.finite negative m)).toJson.compact =
      String.ofList (signedText negative (Binary64.finite false m).jsonText) := by
  rw [toJson, Binary64.isFinite, if_pos rfl, Json.compact, Json.compactChars, Json.numberText,
    Json.jsonText_finite]

/-- The text of a text. -/
theorem compact_text (s : String) : (text s).toJson.compact = String.ofList (Json.quoted s) := by
  rw [toJson, Json.compact, Json.compactChars]

/-- The text of any other cell. -/
theorem compact_of_not_isFinite {x : Binary64} (h : ¬ x.isFinite = true) :
    (number x).toJson.compact = String.ofList "null".toList := by
  rw [toJson, if_neg h, Json.compact, Json.compactChars]

/-! ## Reading -/

variable {cell other : Cell}

/-- The cell of a text that is read as a value. -/
theorem parse?_of_legible {chars : List Char} {value : Json}
    (h : Json.Legible (Json.readValue Json.maxDepth) chars value) :
    parse? (String.ofList chars) = ofJson? value := by
  rw [parse?, Json.parse_of_legible h]

/-- A double with its sign, of a significand and a power of ten. -/
theorem signedDouble_of_scaled? {significand : Nat} {exponent : Int} {k : Magnitude}
    (h : Json.scaled? significand exponent = some (.finite false k)) (negative : Bool) :
    Json.signedDouble negative significand exponent = .ok (.double (.finite negative k)) := by
  rw [Json.signedDouble, h]
  cases negative with
  | false => rfl
  | true => rfl

/-- **A finite number comes back** as one of the same sign. -/
theorem exists_comesBack_number (negative : Bool) (m : Magnitude) :
    ∃ copy, parse? (number (.finite negative m)).toJson.compact = some copy ∧
      (number (.finite negative m)).ComesBack copy := by
  obtain ⟨significand, exponent, hwrites⟩ := Json.exists_writes m
  obtain ⟨k, hk, hback⟩ := Magnitude.exists_isReadBack hwrites
  have hlegible := hwrites.stands.legible (signedDouble_of_scaled? hk negative)
  refine ⟨number (.finite negative k), ?_, .number negative hback⟩
  rw [compact_number, parse?_of_legible (Json.legible_number (Json.legible_signedText hlegible)),
    ofJson?, ofJsonNumber]

/-- **A finite cell comes back.** -/
theorem exists_comesBack (hproper : cell.IsProper) (hfinite : cell.IsFinite) :
    ∃ copy, parse? cell.toJson.compact = some copy ∧ cell.ComesBack copy := by
  cases cell with
  | integer i =>
    refine ⟨_, ?_, .integer i⟩
    have hsigned : JsonNumber.IsSigned i := hproper
    have hlegible := Json.legible_integer hsigned.1 (by have := hsigned.2; omega)
    rw [compact_integer, parse?_of_legible (Json.legible_number hlegible), ofJson?, ofJsonNumber,
      if_pos hsigned]
  | number x =>
    cases x with
    | nan => cases hfinite
    | infinite negative => cases hfinite
    | finite negative m => exact exists_comesBack_number negative m
  | text s =>
    refine ⟨_, ?_, .text s⟩
    rw [compact_text, parse?_of_legible (Json.legible_string s), ofJson?]

-- Zero comes back with its sign.
example : parse? (number (.finite true .zero)).toJson.compact =
    some (number (.finite true .zero)) := by decide +kernel

/-! ## No two cells have one text -/

/-- The sign can be taken away from texts. -/
theorem eq_of_signedText_eq {negative : Bool} {chars chars' : List Char}
    (h : signedText negative chars = signedText negative chars') : chars = chars' := by
  cases negative with
  | false => exact h
  | true => exact List.tail_eq_of_cons_eq h

/-- Magnitudes with the same text are the same. -/
theorem eq_of_jsonText_eq {m k : Magnitude}
    (h : (Binary64.finite false m).jsonText = (Binary64.finite false k).jsonText) : m = k := by
  obtain ⟨significand, exponent, hm⟩ := Json.exists_writes m
  obtain ⟨significand', exponent', hk⟩ := Json.exists_writes k
  have hsame := hm.stands.exact.symm.trans (h ▸ hk.stands.exact)
  obtain ⟨rfl, rfl⟩ := Prod.mk.inj hsame
  exact hm.rounds.unique (by positivity) hk.rounds

/-- **Finite cells with the same text are the same.** The kind and the sign are read of the text,
and the magnitude is the one that the decimal in the text is rounded to. -/
theorem eq_of_compact_eq (hproper : cell.IsProper) (hfinite : cell.IsFinite)
    (hotherProper : other.IsProper) (hotherFinite : other.IsFinite)
    (h : other.toJson.compact = cell.toJson.compact) : other = cell := by
  obtain ⟨copy, hcopy, hback⟩ := exists_comesBack hproper hfinite
  obtain ⟨copy', hcopy', hotherBack⟩ := exists_comesBack hotherProper hotherFinite
  rw [h, hcopy] at hcopy'
  cases hcopy'
  cases hback with
  | integer i =>
    cases hotherBack
    rfl
  | text s =>
    cases hotherBack
    rfl
  | number negative _ =>
    cases hotherBack
    rw [compact_number, compact_number] at h
    rw [eq_of_jsonText_eq (eq_of_signedText_eq (String.ofList_injective h))]

/-! ## All cells -/

/-- **Cells and their JSON text.** A finite cell comes back from its text, and is the only one with
it; any other cell is written as `null`, which is no cell. -/
theorem survives_json (cell : Cell) (hproper : cell.IsProper) :
    (cell.IsFinite →
      (∃ copy, parse? cell.toJson.compact = some copy ∧ cell.ComesBack copy) ∧
        ∀ other : Cell, other.IsProper → other.IsFinite →
          other.toJson.compact = cell.toJson.compact → other = cell) ∧
    (¬ cell.IsFinite →
      cell.toJson.compact = "null" ∧ parse? cell.toJson.compact = none) := by
  refine ⟨fun hfinite => ⟨exists_comesBack hproper hfinite, fun other hotherProper hotherFinite h =>
    eq_of_compact_eq hproper hfinite hotherProper hotherFinite h⟩, fun hinfinite => ?_⟩
  cases cell with
  | integer i => exact absurd trivial hinfinite
  | text s => exact absurd trivial hinfinite
  | number x =>
    rw [compact_of_not_isFinite hinfinite, parse?_of_legible Json.legible_null]
    exact ⟨rfl, rfl⟩

/-! ## A number that changes -/

/-- The largest odd number that is a double, `2 ^ 53 - 1`. -/
def largestOdd : Cell := number (.ofBits 0x433fffffffffffff)

/-- It is finite. -/
theorem isFinite_largestOdd : largestOdd.IsFinite := by
  change (Binary64.ofBits 0x433fffffffffffff).isFinite = true
  decide +kernel

/-- It comes back as a number near to it, and no other cell has its text. -/
theorem survives_json_of_largestOdd :
    largestOdd.IsProper ∧ largestOdd.IsFinite ∧
      (∃ copy, parse? largestOdd.toJson.compact = some copy ∧ largestOdd.ComesBack copy) ∧
      ∀ other : Cell, other.IsProper → other.IsFinite →
        other.toJson.compact = largestOdd.toJson.compact → other = largestOdd :=
  ⟨trivial, isFinite_largestOdd, (survives_json largestOdd trivial).1 isFinite_largestOdd⟩

/-- **It comes back as its neighbour.** The digit after the point makes the significand too long for
a double, and it is rounded before it is divided by ten. -/
theorem largestOdd_changes :
    largestOdd.IsProper ∧ largestOdd.IsFinite ∧
      largestOdd.toJson.compact = "9007199254740991.0" ∧
      parse? largestOdd.toJson.compact = some (number (.ofBits 0x433ffffffffffffe)) ∧
      number (.ofBits 0x433ffffffffffffe) ≠ largestOdd := by
  have htext : largestOdd.toJson.compact = "9007199254740991.0" := by decide +kernel
  refine ⟨trivial, isFinite_largestOdd, htext, ?_, by decide +kernel⟩
  rw [htext]
  decide +kernel

end Cell

end SynthReport
