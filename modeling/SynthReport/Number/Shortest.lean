import SynthReport.Number.Fixed

/-! # The shortest decimal that reads back

The text of a number uses the fewest digits from which the nearest double is that number again, and
of those the decimal closest to it.

* **`Magnitude.RoundsTo`** — the decimals that round to a magnitude form an interval around it; its
  ends belong to it exactly if the significand is even.
* **`Magnitude.shortest`** — the coarsest decimal grid with a point in that interval, and on it the
  nearer of the two neighbours of the exact value.
* **`Binary64.plainText`** — the text without an exponent, as tables show it.
* **`Binary64.jsonText`** — the text of a number in JSON, in scientific notation when very large or
  very small.

Everything is computed in whole numbers: a decimal is `coefficient * 10 ^ place / 10 ^ 324`, since
no magnitude but zero is below `10 ^ -324`. -/

namespace SynthReport

/-- The places after the point on the finest decimal grid. -/
def finestPlaces : Nat := 324

/-- A decimal with a power of ten. -/
structure Decimal where
  coefficient : Nat
  exponent : Int
deriving DecidableEq

/-- How an exact tie between two shortest decimals is decided. -/
inductive TieRule where
  /-- The larger magnitude. -/
  | up
  /-- The even last digit. -/
  | even
deriving DecidableEq

namespace Magnitude

/-- Below a power of two the doubles are twice as dense, so the interval reaches half as far down;
the smallest of all binades is no denser below. -/
def lowerQuarters (m : Magnitude) : Nat :=
  if m.significand = binadeSize ∧ m.shift ≠ 0 then 1 else 2

/-- **The decimal `coefficient * 10 ^ place` of the finest grid rounds to the magnitude.** Both
sides are scaled by four times the quanta in one, which makes the ends of the interval whole. -/
def RoundsTo (m : Magnitude) (coefficient place : Nat) : Prop :=
  let decimal := coefficient * Nat.pow 10 place * (4 * quantaPerOne)
  let scale := Nat.pow 2 m.shift * Nat.pow 10 finestPlaces
  let low := (4 * m.significand - m.lowerQuarters) * scale
  let high := (4 * m.significand + 2) * scale
  if m.significand % 2 = 0 then low ≤ decimal ∧ decimal ≤ high
  else low < decimal ∧ decimal < high

instance (m : Magnitude) (coefficient place : Nat) : Decidable (m.RoundsTo coefficient place) := by
  unfold RoundsTo
  dsimp only
  infer_instance

/-- The neighbour below the magnitude on the grid of `10 ^ place`. -/
def gridFloor (m : Magnitude) (place : Nat) : Nat :=
  m.quanta * Nat.pow 10 finestPlaces / (quantaPerOne * Nat.pow 10 place)

/-- **The upper neighbour is taken** when it is nearer, or by the rule for ties. -/
def prefersUpper (m : Magnitude) (ties : TieRule) (place : Nat) : Bool :=
  -- Twice the remainder tells which neighbour is nearer, and whether there is a tie.
  let step := quantaPerOne * Nat.pow 10 place
  let twice := 2 * (m.quanta * Nat.pow 10 finestPlaces % step)
  step < twice || twice == step && (ties == .up || m.gridFloor place % 2 == 1)

/-- The neighbour on the grid of `10 ^ place` that rounds to the magnitude, the better one if both
do. -/
def onGrid? (m : Magnitude) (ties : TieRule) (place : Nat) : Option Nat :=
  let below := m.gridFloor place
  if m.RoundsTo below place then
    if m.RoundsTo (below + 1) place && m.prefersUpper ties place then some (below + 1)
    else some below
  else if m.RoundsTo (below + 1) place then some (below + 1)
  else none

/-- The first hit from the grid of `10 ^ place` down to the finest, with its place. -/
def shortestFrom (m : Magnitude) (ties : TieRule) : Nat → Nat × Nat
  | 0 => ((m.onGrid? ties 0).getD (m.gridFloor 0), 0)
  | place + 1 =>
    match m.onGrid? ties (place + 1) with
    | some coefficient => (coefficient, place + 1)
    | none => m.shortestFrom ties place

/-- The decimal at a point of a grid, given its coefficient and the place of the grid. -/
def decimalAt (found : Nat × Nat) : Decimal := ⟨found.1, (found.2 : Int) - finestPlaces⟩

/-- **The shortest decimal that reads back**, for a magnitude other than zero. The search starts at
the grid on which the magnitude has one digit. -/
def shortest (m : Magnitude) (ties : TieRule) : Decimal :=
  decimalAt (m.shortestFrom ties ((decimalDigits (m.gridFloor 0)).length - 1))

end Magnitude

namespace Decimal

/-- The digits without the zeros at the end, and how far the point lies to the right of the first
one: the value is `0.d₁d₂… * 10 ^ point`. -/
def digitsAndPoint (d : Decimal) : List Char × Int :=
  let digits := decimalDigits d.coefficient
  ((digits.reverse.dropWhile (· == '0')).reverse, digits.length + d.exponent)

/-- All digits in place, without an exponent; a whole number ends in `wholeEnd`. -/
def positional (wholeEnd : List Char) (digits : List Char) (point : Int) : List Char :=
  if point ≤ 0 then
    '0' :: '.' :: (List.replicate (-point).toNat '0' ++ digits)
  else if digits.length ≤ point.toNat then
    digits ++ List.replicate (point.toNat - digits.length) '0' ++ wholeEnd
  else digits.take point.toNat ++ '.' :: digits.drop point.toNat

/-- One digit before the point and an exponent that always has its sign. -/
def scientific (digits : List Char) (point : Int) : List Char :=
  let exponent := point - 1
  let mantissa :=
    match digits with
    | lead :: rest@(_ :: _) => lead :: '.' :: rest
    | short => short
  mantissa ++ 'e' :: (if exponent < 0 then '-' else '+') :: decimalDigits exponent.natAbs

end Decimal

namespace Binary64

/-- **The shortest text without an exponent.** A whole number has no point. -/
def plainText : Binary64 → String
  | nan => "NaN"
  | infinite negative => String.ofList (signedText negative "inf".toList)
  | finite negative m =>
    if m.significand = 0 then String.ofList (signedText negative ['0'])
    else
      let (digits, point) := (m.shortest .up).digitsAndPoint
      String.ofList (signedText negative (Decimal.positional [] digits point))

/-- **The shortest text in JSON.** From `10 ^ -5` up to `10 ^ 16` all digits are in place and a
whole number ends in `.0`; beyond, the notation is scientific. A number that is not finite is
`null`. -/
def jsonText : Binary64 → List Char
  | finite negative m =>
    if m.significand = 0 then signedText negative "0.0".toList
    else
      let (digits, point) := (m.shortest .even).digitsAndPoint
      signedText negative
        (if -5 < point ∧ point ≤ 16 then Decimal.positional ['.', '0'] digits point
         else Decimal.scientific digits point)
  | _ => "null".toList

end Binary64

end SynthReport
