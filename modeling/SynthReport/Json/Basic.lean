import SynthReport.Number.Binary64

/-! # JSON values

* **`Json`** — a value; its numbers keep the distinction between whole numbers and doubles that the
  text of a number makes.
* **`Json.fieldsOfMembers`** — an object read from text holds its fields in the order of the keys,
  each key once; a member written again replaces the earlier one.
* **`Json.field?`** — the value under a key;
* **`Json.string?`**, **`number?`**, **`items?`** — a value taken as one of a kind. -/

namespace SynthReport

/-- **A JSON number.** Whole numbers from `-2 ^ 63` up to `2 ^ 64 - 1` stay integers. -/
inductive JsonNumber where
  | integer (value : Int)
  | double (value : Binary64)
deriving DecidableEq

namespace JsonNumber

/-- The integers that fit into a signed 64-bit word. -/
def IsSigned (i : Int) : Prop := -0x8000000000000000 ≤ i ∧ i < 0x8000000000000000

instance (i : Int) : Decidable (IsSigned i) := inferInstanceAs (Decidable (_ ∧ _))

/-- The number as a double; a long integer is rounded. -/
def toBinary64 : JsonNumber → Binary64
  | integer i => .ofInt i
  | double x => x

end JsonNumber

/-- **A JSON value.** -/
inductive Json where
  | null
  | bool (value : Bool)
  | number (value : JsonNumber)
  | string (value : String)
  | array (items : List Json)
  | object (fields : List (String × Json))

namespace Json

instance : Inhabited Json := ⟨null⟩

/-- **A field put into sorted fields**: before the first larger key, or in place of its own. -/
def insertField (key : String) (value : Json) :
    List (String × Json) → List (String × Json)
  | [] => [(key, value)]
  | (other, held) :: rest =>
    if key = other then (key, value) :: rest
    else if key < other then (key, value) :: (other, held) :: rest
    else (other, held) :: insertField key value rest

/-- The fields of an object, from the members of its text in order. -/
def fieldsOfMembers (members : List (String × Json)) : List (String × Json) :=
  members.foldl (fun fields member => insertField member.1 member.2 fields) []

/-- The value of the first field with a key. -/
def lookup (key : String) : List (String × Json) → Option Json
  | [] => none
  | (other, held) :: rest => if key = other then some held else lookup key rest

/-- **The value under a key of an object**; nothing for other values and absent keys. -/
def field? (value : Json) (key : String) : Option Json :=
  match value with
  | object fields => lookup key fields
  | _ => none

/-- The string that a value is. -/
def string? : Json → Option String
  | string s => some s
  | _ => none

/-- The number that a value is. -/
def number? : Json → Option JsonNumber
  | number n => some n
  | _ => none

/-- The elements of an array. -/
def items? : Json → Option (List Json)
  | array items => some items
  | _ => none

/-- Null counts as absent. -/
def isNull : Json → Bool
  | null => true
  | _ => false

/-- The kind of a value, with its article. -/
def kindName : Json → String
  | null => "null"
  | bool _ => "a boolean"
  | number _ => "a number"
  | string _ => "a string"
  | array _ => "an array"
  | object _ => "an object"

/-- Looking up the key just put in finds its value. -/
theorem lookup_insertField_self (key : String) (value : Json) (fields : List (String × Json)) :
    lookup key (insertField key value fields) = some value := by
  induction fields with
  | nil => simp [insertField, lookup]
  | cons head rest ih =>
    obtain ⟨other, held⟩ := head
    unfold insertField
    split
    · simp [lookup]
    · rename_i hne
      split
      · simp [lookup]
      · simp [lookup, hne, ih]

/-- Every other key keeps its value. -/
theorem lookup_insertField_of_ne {key other : String} (h : other ≠ key) (value : Json)
    (fields : List (String × Json)) :
    lookup other (insertField key value fields) = lookup other fields := by
  induction fields with
  | nil => simp [insertField, lookup, h]
  | cons head rest ih =>
    obtain ⟨name, held⟩ := head
    unfold insertField
    split
    · rename_i heq
      subst heq
      simp [lookup, h]
    · split
      · simp [lookup, h]
      · simp [lookup, ih]

end Json

end SynthReport
