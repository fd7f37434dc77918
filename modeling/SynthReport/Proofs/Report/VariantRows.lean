import SynthReport.Proofs.Json.Finite
import SynthReport.Proofs.Number.Nearest
import SynthReport.Proofs.Record.Accessors
import SynthReport.Proofs.Report.Rows
import SynthReport.Proofs.Rule.Arrows
import SynthReport.Report.Variant

/-! # What the variant report promises

* **`Json.IsFalsy`** — the values that count as no run;
* **`VariantFields`** — the fields of a record that a variant row is made of;
* **`VariantFields.HeldBy`**, **`VariantFields.Fills`** — when a record holds them, and the cells
  they fill;
* **`variantPromise`** — both together with the records that the report is about;
* **`variant_keeps_promise`** — the report has exactly the promised entries. -/

namespace SynthReport

namespace Json

/-- **The values that count as no run**: null, false, zero and the empty string. -/
inductive IsFalsy : Json → Prop where
  | null : IsFalsy .null
  | false : IsFalsy (.bool false)
  | integerZero : IsFalsy (.number (.integer 0))
  | doubleZero {x : Binary64} : x.isZero = true → IsFalsy (.number (.double x))
  | emptyString : IsFalsy (.string "")

/-- A number counts as none exactly if it is a zero as a double: no other integer becomes one. -/
theorem isFalsy_number_iff {n : JsonNumber} :
    IsFalsy (.number n) ↔ n.toBinary64.isZero = true := by
  cases n with
  | integer i =>
    rw [JsonNumber.toBinary64, Binary64.isZero_ofInt_iff]
    constructor
    · rintro ⟨⟩
      rfl
    · rintro rfl
      exact .integerZero
  | double x =>
    constructor
    · rintro (_ | _ | _ | hzero)
      exact hzero
    · exact .doubleZero

/-- Of the strings, only the empty one counts as none. -/
theorem isFalsy_string_iff {s : String} : IsFalsy (.string s) ↔ s = "" := by
  constructor
  · rintro ⟨⟩
    rfl
  · rintro rfl
    exact .emptyString

end Json

/-- **A record has a run exactly if its field is there and does not count as none.** -/
theorem Record.hasVariantRun_iff {record : Record} :
    record.hasVariantRun = true ↔
      ∃ value, record.json.LeadsTo ["from_bv4"] value ∧ ¬ value.IsFalsy := by
  simp only [leadsTo_singleton_iff]
  rw [hasVariantRun]
  cases record.json.field? "from_bv4" with
  | none => simp
  | some value =>
    simp only [Option.some.injEq, exists_eq_left']
    cases value with
    | null => simp [Json.IsFalsy.null]
    | bool b =>
      cases b with
      | false => simp [Json.IsFalsy.false]
      | true =>
        simp only [true_iff]
        rintro ⟨⟩
    | number n => rw [Json.isFalsy_number_iff, Bool.not_eq_true', Bool.not_eq_true]
    | string s => rw [Json.isFalsy_string_iff, decide_eq_true_eq]
    | array items =>
      simp only [true_iff]
      rintro ⟨⟩
    | object fields =>
      simp only [true_iff]
      rintro ⟨⟩

namespace Report

open Record

/-- **The fields of a record that a variant row is made of.** -/
structure VariantFields where
  domain : String
  generated : List Json
  generatedTime : JsonNumber
  ported : List Json
  portedTime : JsonNumber
  lhs : Derivability
  both : Derivability

namespace VariantFields

/-- **The record holds the fields**, each of its kind, and every rule that could not be derived has
an arrow. -/
structure HeldBy (fields : VariantFields) (json : Json) : Prop where
  domain : json.LeadsTo ["domain"] (.string fields.domain)
  generated : json.LeadsTo ["direct_gen", "rules"] (.array fields.generated)
  generatedTime : json.LeadsTo ["direct_gen", "time"] (.number fields.generatedTime)
  ported : json.LeadsTo ["from_bv4", "rules"] (.array fields.ported)
  portedTime : json.LeadsTo ["from_bv4", "time"] (.number fields.portedTime)
  lhs : fields.lhs.IsAt json ["derivability", "lhs"]
  lhs_arrows : ∀ rule ∈ fields.lhs.cannot, Rule.HasArrow rule
  both : fields.both.IsAt json ["derivability", "lhs_rhs"]
  both_arrows : ∀ rule ∈ fields.both.cannot, Rule.HasArrow rule

/-- **The cells of the row with these fields**, where the rules that could not be derived stand in
condensed lines. -/
def Fills (fields : VariantFields) (cells : List Cell) : Prop :=
  ∃ lhsLines bothLines, Rule.condensedText fields.lhs.cannot = .ok lhsLines ∧
    Rule.condensedText fields.both.cannot = .ok bothLines ∧
    cells = [
      .text fields.domain,
      .integer fields.generated.length,
      .shown 2 fields.generatedTime.toBinary64,
      .integer fields.ported.length,
      .shown 2 fields.portedTime.toBinary64,
      .text fields.lhs.percentage,
      .shown 3 fields.lhs.time,
      .text ("\n".intercalate lhsLines),
      .text fields.both.percentage,
      .shown 3 fields.both.time,
      .text ("\n".intercalate bothLines)]

end VariantFields

/-- **What the variant report promises.** -/
def variantPromise : RowPromise VariantFields where
  Matches json := ∃ value, json.LeadsTo ["from_bv4"] value ∧ ¬ value.IsFalsy
  HeldBy := VariantFields.HeldBy
  Fills := VariantFields.Fills

/-! ## Columns -/

section Columns

variable {record : Record} {path : FieldPath} {cell : Cell}

/-- The share at a path is that of the result there. -/
theorem derivableShare_eq_ok_iff :
    derivableShare path record = .ok cell ↔
      ∃ d, record.derivability path = .ok d ∧ cell = .text d.percentage :=
  bind_pure_eq_ok_iff

/-- The time at a path is that of the result there. -/
theorem derivationTime_eq_ok_iff :
    derivationTime path record = .ok cell ↔
      ∃ d, record.derivability path = .ok d ∧ cell = (Cell.number d.time).rounded timePlaces :=
  bind_pure_eq_ok_iff

/-- The missing rules at a path are the condensed lines of the result there. -/
theorem missingRules_eq_ok_iff :
    missingRules path record = .ok cell ↔
      ∃ d lines, record.derivability path = .ok d ∧ Rule.condensedText d.cannot = .ok lines ∧
        cell = .text ("\n".intercalate lines) := by
  rw [missingRules, bind_eq_ok_iff]
  refine exists_congr fun d => ?_
  rw [bind_pure_eq_ok_iff, exists_and_left]

/-- **The three columns of a result have values exactly if the result is at the path** and its
missing rules have arrows; the values are then the share, the shown time and the condensed
lines. -/
theorem resultColumns_iff (hfinite : record.json.NumbersFinite) {share time missing : Cell} :
    derivableShare path record = .ok share ∧ derivationTime path record = .ok time ∧
        missingRules path record = .ok missing ↔
      ∃ (d : Derivability) (lines : List String),
        d.IsAt record.json path ∧ Rule.condensedText d.cannot = .ok lines ∧
          share = .text d.percentage ∧ time = .shown timePlaces d.time ∧
          missing = .text ("\n".intercalate lines) := by
  rw [derivableShare_eq_ok_iff, derivationTime_eq_ok_iff, missingRules_eq_ok_iff]
  constructor
  · rintro ⟨⟨d, hd, rfl⟩, ⟨d', hd', rfl⟩, ⟨d'', lines, hd'', hlines, rfl⟩⟩
    -- Each column reads the result anew, and finds the same one.
    rw [hd] at hd' hd''
    obtain rfl := Except.ok.inj hd'
    obtain rfl := Except.ok.inj hd''
    have hat := derivability_eq_ok_iff.1 hd
    exact ⟨d, lines, hat, hlines, rfl, Cell.rounded_number (hat.isFinite_time hfinite) _, rfl⟩
  · rintro ⟨d, lines, hat, hlines, rfl, rfl, rfl⟩
    have hd := derivability_eq_ok_iff.2 hat
    refine ⟨⟨d, hd, rfl⟩, ⟨d, hd, ?_⟩, d, lines, hd, hlines, rfl⟩
    rw [Cell.rounded_number (hat.isFinite_time hfinite)]

end Columns

/-! ## Rows -/

section Rows

variable {record : Record}

/-- A row is made of fields that the record holds. -/
theorem fields_of_variantRow (hfinite : record.json.NumbersFinite) {row : Row}
    (hrow : Column.row variantSchema record = .ok row) :
    ∃ fields : VariantFields, fields.HeldBy record.json ∧ fields.Fills (row.map Prod.snd) := by
  simp only [variantSchema, Column.row_cons_eq_ok_iff, Column.row_nil_eq_ok_iff,
    stringCell_eq_ok_iff, countCell_eq_ok_iff, numberCell_eq_ok_iff] at hrow
  obtain ⟨_, _, ⟨domain, hdomain, rfl⟩, hrow, rfl⟩ := hrow
  obtain ⟨_, _, ⟨generated, hgenerated, rfl⟩, hrow, rfl⟩ := hrow
  obtain ⟨_, _, ⟨generatedTime, hgeneratedTime, rfl⟩, hrow, rfl⟩ := hrow
  obtain ⟨_, _, ⟨ported, hported, rfl⟩, hrow, rfl⟩ := hrow
  obtain ⟨_, _, ⟨portedTime, hportedTime, rfl⟩, hrow, rfl⟩ := hrow
  obtain ⟨_, _, hlhsShare, hrow, rfl⟩ := hrow
  obtain ⟨_, _, hlhsTime, hrow, rfl⟩ := hrow
  obtain ⟨_, _, hlhsMissing, hrow, rfl⟩ := hrow
  obtain ⟨_, _, hbothShare, hrow, rfl⟩ := hrow
  obtain ⟨_, _, hbothTime, hrow, rfl⟩ := hrow
  obtain ⟨_, _, hbothMissing, rfl, rfl⟩ := hrow
  -- The three columns of a result speak of the same one.
  obtain ⟨lhs, lhsLines, hlhs, hlhsLines, rfl, rfl, rfl⟩ :=
    (resultColumns_iff hfinite).1 ⟨hlhsShare, hlhsTime, hlhsMissing⟩
  obtain ⟨both, bothLines, hboth, hbothLines, rfl, rfl, rfl⟩ :=
    (resultColumns_iff hfinite).1 ⟨hbothShare, hbothTime, hbothMissing⟩
  refine ⟨⟨domain, generated, generatedTime, ported, portedTime, lhs, both⟩, ?_,
    lhsLines, bothLines, hlhsLines, hbothLines, ?_⟩
  · exact ⟨hdomain, hgenerated, hgeneratedTime, hported, hportedTime, hlhs,
      Rule.exists_condensedText_iff.1 ⟨lhsLines, hlhsLines⟩, hboth,
      Rule.exists_condensedText_iff.1 ⟨bothLines, hbothLines⟩⟩
  · have hgeneratedShown := Cell.rounded_number (hfinite.isFinite_of_leadsTo hgeneratedTime)
    have hportedShown := Cell.rounded_number (hfinite.isFinite_of_leadsTo hportedTime)
    simp only [List.map_cons, List.map_nil, Cell.rounded_text, Cell.count, Cell.rounded_integer,
      Cell.rounded_shown, hgeneratedShown, hportedShown, ordinaryPlaces, timePlaces]

/-- Where a record holds the fields, every column has a value. -/
theorem value_of_variantFields (hfinite : record.json.NumbersFinite) {fields : VariantFields}
    (hfields : fields.HeldBy record.json) :
    ∀ column ∈ variantSchema, ∃ cell, column.value record = .ok cell := by
  obtain ⟨lhsLines, hlhsLines⟩ := Rule.exists_condensedText_iff.2 hfields.lhs_arrows
  obtain ⟨bothLines, hbothLines⟩ := Rule.exists_condensedText_iff.2 hfields.both_arrows
  obtain ⟨hlhsShare, hlhsTime, hlhsMissing⟩ :=
    (resultColumns_iff hfinite).2 ⟨fields.lhs, lhsLines, hfields.lhs, hlhsLines, rfl, rfl, rfl⟩
  obtain ⟨hbothShare, hbothTime, hbothMissing⟩ :=
    (resultColumns_iff hfinite).2 ⟨fields.both, bothLines, hfields.both, hbothLines, rfl, rfl, rfl⟩
  simp only [variantSchema, List.forall_mem_cons]
  refine ⟨?_, ?_, ?_, ?_, ?_, ⟨_, hlhsShare⟩, ⟨_, hlhsTime⟩, ⟨_, hlhsMissing⟩, ⟨_, hbothShare⟩,
    ⟨_, hbothTime⟩, ⟨_, hbothMissing⟩, nofun⟩
  · exact ⟨_, stringCell_eq_ok_iff.2 ⟨_, hfields.domain, rfl⟩⟩
  · exact ⟨_, countCell_eq_ok_iff.2 ⟨_, hfields.generated, rfl⟩⟩
  · exact ⟨_, numberCell_eq_ok_iff.2 ⟨_, hfields.generatedTime, rfl⟩⟩
  · exact ⟨_, countCell_eq_ok_iff.2 ⟨_, hfields.ported, rfl⟩⟩
  · exact ⟨_, numberCell_eq_ok_iff.2 ⟨_, hfields.portedTime, rfl⟩⟩

end Rows

/-- **The variant report keeps its promise** on all records whose numbers are finite. -/
theorem variant_keeps_promise (records : List Record)
    (hfinite : ∀ record ∈ records, record.json.NumbersFinite) :
    variantPromise.Kept records (variant records).1 := by
  refine RowPromise.kept_generate ?_ ?_ ?_
  · intro record _
    exact hasVariantRun_iff
  · intro record hrecord row hrow
    exact fields_of_variantRow (hfinite record hrecord) hrow
  · intro record hrecord fields hfields
    exact value_of_variantFields (hfinite record hrecord) hfields

/-- A record with a run from the 4-bit rules, one rule of which left sides alone do not derive. -/
def sampleRun : Record :=
  let run (rules : List Json) : Json :=
    .object [("rules", .array rules), ("time", .number (.integer 2))]
  let result (can cannot : List Json) : Json :=
    .object [("can", .array can), ("cannot", .array cannot), ("time", .number (.integer 3))]
  let rule : Json := .string "(& ?a ?a) ==> ?a"
  ⟨.object [
    ("derivability", .object [("lhs", result [] [rule]), ("lhs_rhs", result [rule] [])]),
    ("direct_gen", run [rule]),
    ("domain", .string "bv8"),
    ("from_bv4", run [])]⟩

/-- The promise is kept on a record with a run, which has a row, and one without. -/
theorem variant_keeps_promise_of_sampleRun :
    (∀ record ∈ [sampleRun, ⟨.object []⟩], record.json.NumbersFinite) ∧
      variantPromise.Kept [sampleRun, ⟨.object []⟩] (variant [sampleRun, ⟨.object []⟩]).1 ∧
      ∃ row, (variant [sampleRun, ⟨.object []⟩]).1.entries = [.built row] := by
  have hfinite : ∀ record ∈ [sampleRun, ⟨.object []⟩], record.json.NumbersFinite := by
    simp [sampleRun, JsonNumber.toBinary64, Binary64.isFinite_ofInt]
  exact ⟨hfinite, variant_keeps_promise _ hfinite, _, rfl⟩

end Report

end SynthReport
