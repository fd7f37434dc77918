import SynthReport.Json.Reader
import SynthReport.Json.Writer

/-! # Cells of a report

A cell is what a report shows in one place: a whole number, a number or a text.

* **`Cell.display`** — the text in tables;
* **`Cell.rounded`** — the cell as it enters a row: a number with a fractional part becomes text
  with a fixed count of places;
* **`Cell.toJson`**, **`Cell.ofJson?`** — cells as JSON, without a tag: the kind of the value tells
  the kind of the cell. -/

namespace SynthReport

/-- **One displayed value.** -/
inductive Cell where
  | integer (value : Int)
  | number (value : Binary64)
  | text (value : String)
deriving DecidableEq

namespace Cell

/-- The text of a cell in a table. -/
def display : Cell → String
  | integer i => toString i
  | number x => x.plainText
  | text s => s

/-- **The cell as rows hold it.** Whole numbers, integers and texts stay as they are, other finite
numbers are written with so many places, and what is not finite is not available. -/
def rounded (cell : Cell) (places : Nat) : Cell :=
  match cell with
  | number x =>
    if !x.isFinite then text notAvailable
    else if x.isWhole then number x
    else text (x.toFixed places)
  | other => other

/-- Texts pass through. -/
@[simp] theorem rounded_text (s : String) (places : Nat) : (text s).rounded places = text s := rfl

/-- Integers pass through. -/
@[simp] theorem rounded_integer (i : Int) (places : Nat) :
    (integer i).rounded places = integer i := rfl

/-- A count. -/
def count (n : Nat) : Cell := integer n

/-- The cell of a JSON number: an integer if it is one of 64 bits with sign. -/
def ofJsonNumber : JsonNumber → Cell
  | .integer i => if JsonNumber.IsSigned i then integer i else number (.ofInt i)
  | .double x => number x

/-- The cell as a JSON value. A number that is not finite is null. -/
def toJson : Cell → Json
  | integer i => .number (.integer i)
  | number x => if x.isFinite then .number (.double x) else .null
  | text s => .string s

/-- **The cell that a JSON value stands for.** Only numbers and strings do. -/
def ofJson? : Json → Option Cell
  | .number n => some (ofJsonNumber n)
  | .string s => some (text s)
  | _ => none

/-- The cell of a scalar, where a boolean is shown as the text of its name. -/
def ofScalar? : Json → Option Cell
  | .bool b => some (text (toString b))
  | value => ofJson? value

/-- The cell of a JSON document. -/
def parse? (document : String) : Option Cell :=
  match Json.parse document with
  | .ok value => ofJson? value
  | .error _ => none

end Cell

end SynthReport
