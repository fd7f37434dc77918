import SynthReport.Number.Binary64

/-! # Arithmetic of binary64 numbers

Each operation computes the exact result in whole numbers and rounds it once, to nearest and ties
to even. The cases without a finite exact result follow the standard: an undefined form is
not-a-number, and every other one is an infinity or a zero with the sign of its operands.

* **`*`**, **`/`**, **`-`** — product, quotient and negation;
* **`roundHalfAway`** — the nearest whole number, an exact half going away from zero;
* **`powerOfTen`** — the power a repeated squaring of `10` gives, rounded at each step, which is
  in general not the double nearest to the power. -/

namespace SynthReport.Binary64

/-- Negation: the other sign, zero included. -/
protected def neg : Binary64 → Binary64
  | nan => nan
  | infinite negative => infinite !negative
  | finite negative m => finite (!negative) m

instance : Neg Binary64 := ⟨Binary64.neg⟩

/-- Negating twice gives the number again. -/
@[simp] theorem neg_neg (x : Binary64) : -(-x) = x := by
  change x.neg.neg = x
  cases x <;> simp [Binary64.neg]

/-- **The product**, rounded once. -/
protected def mul : Binary64 → Binary64 → Binary64
  | nan, _ => nan
  | _, nan => nan
  | infinite a, infinite b => infinite (a ^^ b)
  | infinite a, finite b n => if n.significand = 0 then nan else infinite (a ^^ b)
  | finite a m, infinite b => if m.significand = 0 then nan else infinite (a ^^ b)
  | finite a m, finite b n => ofQuanta (a ^^ b) (m.quanta * n.quanta) quantaPerOne

instance : Mul Binary64 := ⟨Binary64.mul⟩

/-- **The quotient**, rounded once. A number other than zero over zero is infinite. -/
protected def div : Binary64 → Binary64 → Binary64
  | nan, _ => nan
  | _, nan => nan
  | infinite _, infinite _ => nan
  | infinite a, finite b _ => infinite (a ^^ b)
  | finite a _, infinite b => finite (a ^^ b) .zero
  | finite a m, finite b n =>
    if n.significand = 0 then
      if m.significand = 0 then nan else infinite (a ^^ b)
    else ofFraction (a ^^ b) m.quanta n.quanta

instance : Div Binary64 := ⟨Binary64.div⟩

/-- **The nearest whole number**, an exact half going away from zero. -/
def roundHalfAway : Binary64 → Binary64
  | finite negative m => ofFraction negative (divNearestUp m.quanta quantaPerOne) 1
  | x => x

/-- Repeated squaring: `product * base ^ exponent`, rounding at every step, the lowest bit of the
exponent first. -/
def powerFrom (product base : Binary64) (exponent : Nat) : Binary64 :=
  let product := if exponent % 2 = 1 then product * base else product
  if _h : exponent / 2 = 0 then product
  else powerFrom product (base * base) (exponent / 2)
termination_by exponent
decreasing_by omega

/-- **Ten to a power by repeated squaring.** Exact up to `10 ^ 22`, infinite from `10 ^ 309` on. -/
def powerOfTen (exponent : Nat) : Binary64 := powerFrom (ofNat 1) (ofNat 10) exponent

end SynthReport.Binary64
