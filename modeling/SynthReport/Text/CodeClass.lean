/-! # Classes of characters

A class is a list of closed ranges of code points in increasing order, so that a look-up stops at
the first range beyond the character. -/

namespace SynthReport

/-- **A class of characters**: closed ranges in increasing order. -/
abbrev CodeClass : Type := List (Nat × Nat)

namespace CodeClass

/-- A code point lies in one of the ranges. -/
def containsCode (code : Nat) : CodeClass → Bool
  | [] => false
  | (low, high) :: rest => low ≤ code && (code ≤ high || containsCode code rest)

/-- A character lies in the class. -/
def contains (cls : CodeClass) (c : Char) : Bool := containsCode c.toNat cls

/-- Nothing lies in the empty class. -/
@[simp] theorem contains_nil (c : Char) : contains [] c = false := rfl

end CodeClass

end SynthReport
