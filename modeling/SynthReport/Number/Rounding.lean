/-! # Rounded quotients of natural numbers

Every rounding of the library is one of the two quotients of this module:

* **`divNearestEven`** — the nearest integer, an exact half going to the even neighbour;
* **`divNearestUp`** — the nearest integer, an exact half going up.

The even rounding lies within half a unit of the exact quotient (`divNearestEven_within`) and is
exact on multiples of the denominator (`divNearestEven_mul`). -/

namespace SynthReport

/-- **The integer nearest to `num / den`**, an exact half going to the even neighbour. -/
def divNearestEven (num den : Nat) : Nat :=
  let quotient := num / den
  let twice := 2 * (num % den)
  if twice < den ∨ twice = den ∧ quotient % 2 = 0 then quotient else quotient + 1

/-- **The integer nearest to `num / den`**, an exact half going up. -/
def divNearestUp (num den : Nat) : Nat :=
  (2 * num + den) / (2 * den)

/-- The even rounding is the quotient or its successor. -/
theorem divNearestEven_eq_or (num den : Nat) :
    divNearestEven num den = num / den ∨ divNearestEven num den = num / den + 1 := by
  unfold divNearestEven
  dsimp only
  split
  · exact Or.inl rfl
  · exact Or.inr rfl

/-- A multiple of the denominator is divided exactly. -/
theorem divNearestEven_mul {den : Nat} (n : Nat) (h : 0 < den) :
    divNearestEven (n * den) den = n := by
  simp [divNearestEven, Nat.mul_div_cancel n h, h]

/-- Scaled back, the even rounding misses the numerator by at most half the denominator. -/
theorem divNearestEven_within {num den : Nat} (h : 0 < den) :
    2 * num ≤ 2 * (divNearestEven num den * den) + den ∧
      2 * (divNearestEven num den * den) ≤ 2 * num + den := by
  have hdiv := Nat.div_add_mod num den
  have hmod := Nat.mod_lt num h
  rw [Nat.mul_comm] at hdiv
  unfold divNearestEven
  dsimp only
  split
  · omega
  · rw [Nat.add_mul]
    omega

end SynthReport
