import SynthReport.Number.Rounding

/-! # Binary64 numbers

A double-precision number, kept as the exact integer it stands for and not as a machine word, so
that every operation of the library can be stated and computed in whole numbers.

* **`Magnitude`** — a finite magnitude `significand * 2 ^ shift`, counted in quanta of `2 ^ -1074`.
  The canonical form makes the pair unique, so equality of magnitudes is equality of values.
* **`Binary64`** — a signed magnitude, an infinity, or the one not-a-number.
* **`Magnitude.nearest?`** — rounding of an exact quotient to the nearest magnitude, ties to the
  even significand; every arithmetic operation is this rounding of its exact result.
* **`Binary64.ofBits`**, **`Binary64.toBits`** — the interchange format of 64 bits. -/

namespace SynthReport

/-- The quanta in the number one: a quantum is the smallest positive magnitude, `2 ^ -1074`. -/
def quantaPerOne : Nat := Nat.pow 2 1074

/-- The doubles in a binade, `2 ^ 52`: so many fractions there are, and from here on a significand
has all 53 bits. -/
def binadeSize : Nat := 0x10000000000000

/-- **The canonical pairs.** The significand has at most 53 bits, and exactly 53 unless the shift
is zero, so each magnitude has one pair. -/
def IsCanonical (significand shift : Nat) : Prop :=
  significand < 2 * binadeSize ∧ shift ≤ 2045 ∧ (binadeSize ≤ significand ∨ shift = 0)

instance (significand shift : Nat) : Decidable (IsCanonical significand shift) :=
  inferInstanceAs (Decidable (_ ∧ _ ∧ (_ ∨ _)))

/-- **A finite magnitude**: `significand * 2 ^ shift` quanta. -/
structure Magnitude where
  significand : Nat
  shift : Nat
  canonical : IsCanonical significand shift
deriving DecidableEq

namespace Magnitude

/-- The magnitude in quanta. -/
def quanta (m : Magnitude) : Nat := m.significand * Nat.pow 2 m.shift

/-- The magnitude zero. -/
def zero : Magnitude := ⟨0, 0, by decide⟩

/-- The magnitude with a given significand and shift, if that pair is canonical. -/
def ofParts? (significand shift : Nat) : Option Magnitude :=
  if h : IsCanonical significand shift then some ⟨significand, shift, h⟩ else none

/-- **The magnitude nearest to `num / den` quanta**, ties to the even significand, or `none` if
that lies beyond the largest magnitude. The shift leaves 53 bits of the quotient; only when
rounding carries into a 54th bit is it one more. -/
def nearest? (num den : Nat) : Option Magnitude :=
  let shift := (num / den).log2 - 52
  let significand := divNearestEven num (den * Nat.pow 2 shift)
  (ofParts? significand shift).or (ofParts? (significand / 2) (shift + 1))

@[simp] theorem quanta_zero : zero.quanta = 0 := rfl

/-- Only zero has no quanta. -/
theorem quanta_eq_zero {m : Magnitude} : m.quanta = 0 ↔ m.significand = 0 := by
  have hpow : Nat.pow 2 m.shift ≠ 0 := Nat.ne_of_gt (Nat.two_pow_pos m.shift)
  rw [quanta, Nat.mul_eq_zero]
  exact ⟨fun h => h.resolve_right hpow, Or.inl⟩

end Magnitude

/-- **A double-precision number.** All not-a-number patterns are one value. -/
inductive Binary64 where
  /-- The result of an operation that has none. -/
  | nan
  /-- Beyond every finite number, with its sign. -/
  | infinite (negative : Bool)
  /-- A finite number; zero has both signs. -/
  | finite (negative : Bool) (magnitude : Magnitude)
deriving DecidableEq

namespace Binary64

/-- Zero, without a sign. -/
def zero : Binary64 := .finite false .zero

instance : Inhabited Binary64 := ⟨zero⟩

/-- The number nearest to `± num / den` quanta; beyond the largest, the infinity of that sign. -/
def ofQuanta (negative : Bool) (num den : Nat) : Binary64 :=
  (Magnitude.nearest? num den).elim (.infinite negative) (.finite negative)

/-- **The number nearest to the fraction `± num / den`.** -/
def ofFraction (negative : Bool) (num den : Nat) : Binary64 :=
  ofQuanta negative (num * quantaPerOne) den

/-- The number nearest to a natural number. -/
def ofNat (n : Nat) : Binary64 := ofFraction false n 1

/-- The number nearest to an integer. -/
def ofInt (i : Int) : Binary64 := ofFraction (i < 0) i.natAbs 1

/-- Neither infinite nor not-a-number. -/
def isFinite : Binary64 → Bool
  | finite .. => true
  | _ => false

/-- A zero of either sign. -/
def isZero : Binary64 → Bool
  | finite _ m => m.significand == 0
  | _ => false

/-- Finite without a fractional part. -/
def isWhole : Binary64 → Bool
  | finite _ m => m.quanta % quantaPerOne == 0
  | _ => false

/-! ## The interchange format -/

/-- The number that 64 bits stand for: a sign, eleven bits of exponent, 52 bits of fraction. -/
def ofBits (bits : BitVec 64) : Binary64 :=
  let exponent := bits.toNat / binadeSize % 2048
  let fraction := bits.toNat % binadeSize
  if exponent = 2047 then
    if fraction = 0 then .infinite bits.msb else .nan
  else
    let significand := if exponent = 0 then fraction else fraction + binadeSize
    match Magnitude.ofParts? significand (exponent - 1) with
    | some m => .finite bits.msb m
    | none => .nan

/-- The 64 bits of a number; not-a-number is written as its quiet pattern. -/
def toBits : Binary64 → BitVec 64
  | nan => 0x7ff8000000000000
  | infinite negative => signed negative (2047 * binadeSize)
  | finite negative m =>
    signed negative
      (if m.significand < binadeSize then m.significand
       else m.shift * binadeSize + m.significand)
where
  /-- The sign goes into the highest bit. -/
  signed (negative : Bool) (rest : Nat) : BitVec 64 :=
    BitVec.ofNat 64 (if negative then 2048 * binadeSize + rest else rest)

/-- The pair read from an exponent below 2047 is canonical, so no finite pattern is lost. -/
theorem isCanonical_of_fields {exponent fraction : Nat} (he : exponent < 2047)
    (hf : fraction < binadeSize) :
    IsCanonical (if exponent = 0 then fraction else fraction + binadeSize) (exponent - 1) := by
  unfold IsCanonical
  unfold binadeSize at *
  split <;> omega

end Binary64

end SynthReport
