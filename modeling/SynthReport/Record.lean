import SynthReport.Cell
import SynthReport.RowError

/-! # Experiment records

A record is one JSON object of the results file. Its producers write different fields and sometimes
placeholders, so every access may fail, and a failure names the path of the field.

* **`Record.field`** — the value at a path; null counts as absent at every step;
* **`Record.fieldAs`** — a field of one kind, of which **`stringAt`**, **`numberAt`**,
  **`lengthAt`** and **`cellAt`** are the four that occur;
* **`Record.derivability`** — the outcome of deriving one rule set from another;
* **`Derivability.percentage`** — the share of rules that could be derived. -/

namespace SynthReport

/-- **Which rules could be derived, and how long the attempt took.** -/
structure Derivability where
  can : List String
  cannot : List String
  time : Binary64
deriving DecidableEq

namespace Derivability

/-- The number of rules that were tried. -/
def total (d : Derivability) : Nat := d.can.length + d.cannot.length

/-- **The share of derivable rules** as a percentage with one decimal. -/
def percentage (d : Derivability) : String :=
  SynthReport.percentage (.ofNat d.can.length) (.ofNat d.total) 1

end Derivability

/-- **One experiment record**, with its JSON as it was written. -/
structure Record where
  json : Json

namespace Record

/-- The string at `baseline_name`, if there is one. -/
def baselineName? (record : Record) : Option String :=
  match record.json.field? "baseline_name" with
  | some (.string name) => some name
  | _ => none

/-- **Whether the record has a run from the 4-bit rules.** Null, false, zero and the empty string
count as none. -/
def hasVariantRun (record : Record) : Bool :=
  match record.json.field? "from_bv4" with
  | none | some .null => false
  | some (.bool b) => b
  | some (.number n) => !n.toBinary64.isZero
  | some (.string s) => s ≠ ""
  | some (.array _) | some (.object _) => true

/-! ## Fields by path -/

/-- The value that a path of keys leads to; none if a step meets an absent key, a null or a value
without keys. -/
def walk : Json → FieldPath → Option Json
  | value, [] => some value
  | value, key :: path =>
    match value.field? key with
    -- A null on the way counts as absent, also at the end.
    | some next => if next.isNull then none else walk next path
    | none => none

/-- The empty path leads to the value itself. -/
@[simp] theorem walk_nil (value : Json) : walk value [] = some value := rfl

/-- One step, then the rest of the path. -/
theorem walk_cons (value : Json) (key : String) (path : FieldPath) :
    walk value (key :: path) =
      match value.field? key with
      | some next => if next.isNull then none else walk next path
      | none => none := rfl

/-- A path is walked piece by piece. -/
theorem walk_append (value : Json) (path more : FieldPath) :
    walk value (path ++ more) = (walk value path).bind (walk · more) := by
  induction path generalizing value with
  | nil => rfl
  | cons key rest ih =>
    rw [List.cons_append, walk_cons, walk_cons]
    cases value.field? key with
    | none => rfl
    | some next =>
      dsimp only
      split
      · rfl
      · exact ih next

/-- **The value at a path.** -/
def field (record : Record) (path : FieldPath) : Except RowError Json :=
  match walk record.json path with
  | some value => .ok value
  | none => .error (.missingField path)

/-- A field is what the walk along its path finds. -/
theorem field_eq_ok_iff {record : Record} {path : FieldPath} {value : Json} :
    record.field path = .ok value ↔ walk record.json path = some value := by
  unfold field
  cases walk record.json path <;> simp

/-- **The field at a path as a value of one kind**, which is worded for the failure. -/
def fieldAs {α : Type} (record : Record) (read? : Json → Option α) (expected : String)
    (path : FieldPath) : Except RowError α := do
  let value ← record.field path
  match read? value with
  | some result => return result
  | none => throw (.wrongType path expected)

/-- The string at a path. -/
def stringAt (record : Record) (path : FieldPath) : Except RowError String :=
  record.fieldAs Json.string? "a string" path

/-- The number at a path, as a double. -/
def numberAt (record : Record) (path : FieldPath) : Except RowError Binary64 :=
  record.fieldAs (·.number?.map JsonNumber.toBinary64) "a number" path

/-- The length of the array at a path. -/
def lengthAt (record : Record) (path : FieldPath) : Except RowError Nat :=
  record.fieldAs (·.items?.map List.length) "an array" path

/-- **The scalar at a path as a cell.** -/
def cellAt (record : Record) (path : FieldPath) : Except RowError Cell :=
  record.fieldAs Cell.ofScalar? "a scalar" path

/-! ## Derivability results -/

/-- The strings of an array that holds nothing else. -/
def strings? (value : Json) : Option (List String) := do
  (← value.items?).mapM Json.string?

/-- The result that an object stands for; other fields do not matter. -/
def derivabilityOf? (value : Json) : Option Derivability := do
  let can ← strings? (← value.field? "can")
  let cannot ← strings? (← value.field? "cannot")
  let time ← (← value.field? "time").number?
  return ⟨can, cannot, time.toBinary64⟩

/-- A field that is absent or null. -/
def lacks (value : Json) (key : String) : Bool := ((value.field? key).getD .null).isNull

/-- **The derivability result at a path.** Of its three fields the first one missing is the
failure; only if all are there does their type matter. -/
def derivability (record : Record) (path : FieldPath) : Except RowError Derivability := do
  let value ← record.field path
  match ["can", "cannot", "time"].find? (lacks value) with
  | some key => throw (.missingField (path ++ [key]))
  | none => record.fieldAs derivabilityOf? "a derivability result" path

end Record

end SynthReport
