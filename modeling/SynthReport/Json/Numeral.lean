import SynthReport.Json.Basic
import SynthReport.Number.Arithmetic

/-! # Numerals of JSON text

A numeral is read in two steps.

* The digits are gathered into a **significand** of at most 64 bits and a power of ten. A digit
  that would overflow the significand is dropped: before the point it still counts as a power of
  ten, after the point it does not.
* **`scaled?`** turns both into a double: the significand is rounded to a double, and multiplied or
  divided by the double nearest to the power of ten, so a long numeral is rounded more than once.
  A result beyond the largest double is refused, one below the smallest becomes zero.

Without point and exponent, numerals that fit stay integers; `-0` is the double of that sign.

A reading carries the proof that what is left is no longer than the text, which is what the
readers of arrays and objects terminate by. -/

namespace SynthReport.Json

/-- **Why a text is not a document.** -/
inductive Fault where
  /-- The text ended before the document was complete. -/
  | unfinished
  /-- Something else stands where the grammar does not allow it. -/
  | malformed
deriving DecidableEq, Repr

/-- **What a reader found at the start of a text**: a value, and the text after it, which is no
longer than the text. -/
structure Reading (α : Type) (text : List Char) where
  value : α
  rest : List Char
  length_le : rest.length ≤ text.length

namespace Reading

variable {α β : Type} {text : List Char}

/-- The same place in the text with another value. -/
def map (f : α → β) (r : Reading α text) : Reading β text :=
  ⟨f r.value, r.rest, r.length_le⟩

/-- A reading at the end of a longer text is a reading of that text. -/
def widen {short : List Char} (r : Reading α short) (h : short.length ≤ text.length) :
    Reading α text :=
  ⟨r.value, r.rest, Nat.le_trans r.length_le h⟩

end Reading

/-- A function that reads a value from the start of a text. -/
abbrev Reader (α : Type) : Type := (text : List Char) → Except Fault (Reading α text)

/-- The value of a decimal digit. -/
def digitValue (c : Char) : Nat := c.toNat - '0'.toNat

/-- The longest run of digits at the start of a text, and what follows it. -/
def spanDigits : List Char → List Char × List Char
  | [] => ([], [])
  | c :: rest =>
    if c.isDigit then
      let (digits, after) := spanDigits rest
      (c :: digits, after)
    else ([], c :: rest)

/-- A run of digits takes nothing away but itself. -/
theorem spanDigits_append (text : List Char) :
    (spanDigits text).1 ++ (spanDigits text).2 = text := by
  induction text with
  | nil => rfl
  | cons c rest ih =>
    unfold spanDigits
    split
    · simp [ih]
    · rfl

/-- What follows a run of digits is no longer than the text. -/
theorem length_spanDigits_le (text : List Char) :
    (spanDigits text).2.length ≤ text.length := by
  have h := congrArg List.length (spanDigits_append text)
  rw [List.length_append] at h
  omega

/-- **Digits added to a significand** while it stays below `2 ^ 64`, and the digits that no longer
fit. -/
def gather (significand : Nat) : List Char → Nat × List Char
  | [] => (significand, [])
  | c :: rest =>
    let next := significand * 10 + digitValue c
    if next ≤ 0xFFFFFFFFFFFFFFFF then gather next rest else (significand, c :: rest)

/-- The double nearest to a power of ten. -/
def tenTo (exponent : Nat) : Binary64 := .ofNat (Nat.pow 10 exponent)

/-- The largest power of ten that is a finite double has this exponent. -/
def largestTenExponent : Nat := 308

/-- A number divided by ten so often, in steps of at most the largest power; it stops at zero. -/
def dividedByTens (x : Binary64) (exponent : Nat) : Binary64 :=
  if exponent ≤ largestTenExponent then x / tenTo exponent
  else if x.isZero then x
  else dividedByTens (x / tenTo largestTenExponent) (exponent - largestTenExponent)
termination_by exponent
decreasing_by simp only [largestTenExponent] at *; omega

/-- **The double of a significand and a power of ten**, or nothing if it is too large. -/
def scaled? (significand : Nat) (exponent : Int) : Option Binary64 :=
  let x := Binary64.ofNat significand
  if exponent < 0 then some (dividedByTens x exponent.natAbs)
  else if exponent.natAbs ≤ largestTenExponent then
    let y := x * tenTo exponent.natAbs
    if y.isFinite then some y else none
  else if x.isZero then some x
  else none

/-- The double with a sign, refused if it is too large. -/
def signedDouble (negative : Bool) (significand : Nat) (exponent : Int) :
    Except Fault JsonNumber :=
  match scaled? significand exponent with
  | some x => .ok (.double (if negative then -x else x))
  | none => .error .malformed

/-- The number of a numeral without point and exponent. -/
def wholeNumber (negative : Bool) (significand : Nat) : JsonNumber :=
  if !negative then .integer significand
  else if 0 < significand ∧ significand ≤ 0x8000000000000000 then .integer (-significand)
  else .double (-.ofNat significand)

/-- The number that a run of digits stands for. -/
def digitsValue (digits : List Char) : Nat :=
  digits.foldl (fun n c => n * 10 + digitValue c) 0

/-- The fault of a text that goes on without the digit it needs. -/
def missingDigit : List Char → Fault
  | [] => .unfinished
  | _ :: _ => .malformed

/-- **A run of digits**, of which there is at least one. -/
def readDigits : Reader (List Char) := fun text =>
  match spanDigits text, length_spanDigits_le text with
  | ([], _), _ => .error (missingDigit text)
  | (digits, rest), h => .ok ⟨digits, rest, h⟩

/-- The digits of an exponent. -/
def readExponentDigits (negative : Bool) : Reader Int := fun text => do
  let digits ← readDigits text
  let size := digitsValue digits.value
  return digits.map fun _ => if negative then -size else size

/-- The exponent after the letter `e`, with or without a sign. -/
def readExponent : Reader Int
  | '+' :: rest => (readExponentDigits false rest).map (·.widen (by simp))
  | '-' :: rest => (readExponentDigits true rest).map (·.widen (by simp))
  | text => readExponentDigits false text

/-- **The end of a numeral with a point or an exponent**: an optional exponent adds to the power of
ten known so far. -/
def readScale (negative : Bool) (significand : Nat) (exponent : Int) : Reader JsonNumber
  | [] => do
    let number ← signedDouble negative significand exponent
    return ⟨number, [], by simp⟩
  | c :: rest =>
    if c = 'e' ∨ c = 'E' then do
      let written ← readExponent rest
      let number ← signedDouble negative significand (exponent + written.value)
      return (written.map fun _ => number).widen (by simp)
    else do
      let number ← signedDouble negative significand exponent
      return ⟨number, c :: rest, by simp⟩

/-- **The digits after the point**, of which there is at least one. Those that fit extend the
significand and lower the power of ten. -/
def readFraction (negative : Bool) (significand : Nat) (exponent : Int) : Reader JsonNumber :=
  fun text => do
    let digits ← readDigits text
    let (longer, dropped) := gather significand digits.value
    -- Digits that did not fit stand after the point and count for nothing.
    let gathered : Int := digits.value.length - dropped.length
    let number ← readScale negative longer (exponent - gathered) digits.rest
    return number.widen digits.length_le

/-- **What follows the whole part of a numeral**, whose digits that did not fit were counted. -/
def readAfterWhole (negative : Bool) (significand dropped : Nat) : Reader JsonNumber
  | '.' :: rest => (readFraction negative significand dropped rest).map (·.widen (by simp))
  | text =>
    match text.head? with
    | some 'e' | some 'E' => readScale negative significand dropped text
    | _ =>
      if dropped = 0 then .ok ⟨wholeNumber negative significand, text, Nat.le_refl _⟩
      else readScale negative significand dropped text

/-- A numeral without its sign. A zero in front stands alone. -/
def readUnsigned (negative : Bool) : Reader JsonNumber := fun text => do
  let digits ← readDigits text
  if digits.value.head? = some '0' ∧ digits.value.length ≠ 1 then throw .malformed
  let (significand, dropped) := gather 0 digits.value
  let number ← readAfterWhole negative significand dropped.length digits.rest
  return number.widen digits.length_le

/-- **A numeral.** -/
def readNumber : Reader JsonNumber
  | '-' :: rest => (readUnsigned true rest).map (·.widen (by simp))
  | text => readUnsigned false text

end SynthReport.Json
