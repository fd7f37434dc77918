import SynthReport.Number.Shortest
import SynthReport.Proofs.Json.Digits
import SynthReport.Proofs.Number.Nearest

/-! # The shortest decimal rounds to the magnitude

* **`Magnitude.Reaches`** — a decimal that is not zero and not above the upper end of the interval
  around a magnitude;
* **`roundsTo_of_lt`**, **`roundsTo_gridFloor`** — decimals inside the interval; on the finest grid
  there is always one;
* **`exists_onGrid?_of_le`** — seventeen digits are enough for one;
* **`exists_shortest_roundsTo`** — so the shortest decimal rounds to the magnitude and has no
  more. -/

namespace SynthReport.Magnitude

variable {m : Magnitude} {coefficient place : Nat} {ties : TieRule}

/-- **A decimal that stays near the magnitude from below**: it is not zero, and not above the upper
end of the interval in which decimals round to the magnitude. -/
structure Reaches (m : Magnitude) (coefficient place : Nat) : Prop where
  ne_zero : coefficient ≠ 0
  le : coefficient * 10 ^ place * (4 * quantaPerOne) ≤
    (4 * m.significand + 2) * (2 ^ m.shift * 10 ^ finestPlaces)

/-- The interval reaches down by one half at most. -/
theorem lowerQuarters_le (m : Magnitude) : m.lowerQuarters ≤ 2 := by
  rw [lowerQuarters]
  split <;> decide

/-- A decimal that rounds to a magnitude is such a decimal. -/
theorem RoundsTo.reaches (hm : m.significand ≠ 0) (h : m.RoundsTo coefficient place) :
    m.Reaches coefficient place := by
  rw [RoundsTo] at h
  simp only [Nat.pow_eq] at h
  have hlower := m.lowerQuarters_le
  have hlow : 0 < (4 * m.significand - m.lowerQuarters) * (2 ^ m.shift * 10 ^ finestPlaces) :=
    Nat.mul_pos (by omega) (Nat.mul_pos (Nat.two_pow_pos _) (Nat.pow_pos (by decide)))
  -- The lower end is above zero, whether it belongs to the interval or not.
  constructor
  · rintro rfl
    rw [Nat.zero_mul, Nat.zero_mul] at h
    split at h
    · exact absurd h.1 (by omega)
    · exact absurd h.1 (by omega)
  · split at h
    · exact h.2
    · exact Nat.le_of_lt h.2

/-! ## Grids -/

/-- The quanta of a magnitude on the finest grid are its significand in units of the shift. -/
theorem quanta_mul_pow (m : Magnitude) :
    m.quanta * 10 ^ finestPlaces = m.significand * (2 ^ m.shift * 10 ^ finestPlaces) := by
  rw [quanta, Nat.pow_eq, Nat.mul_assoc]

/-- **A decimal inside the interval rounds to the magnitude**: it is less than one half of a unit
above, and less below than the interval reaches. -/
theorem roundsTo_of_lt (hm : m.significand ≠ 0)
    (hlow : 4 * (m.quanta * 10 ^ finestPlaces) <
      4 * (coefficient * (quantaPerOne * 10 ^ place)) +
        m.lowerQuarters * (2 ^ m.shift * 10 ^ finestPlaces))
    (hhigh : 4 * (coefficient * (quantaPerOne * 10 ^ place)) <
      4 * (m.quanta * 10 ^ finestPlaces) + 2 * (2 ^ m.shift * 10 ^ finestPlaces)) :
    m.RoundsTo coefficient place := by
  have hlower : m.lowerQuarters ≤ 4 * m.significand := by
    have := m.lowerQuarters_le
    omega
  rw [quanta_mul_pow] at hlow hhigh
  rw [RoundsTo]
  simp only [Nat.pow_eq]
  have hdecimal : coefficient * 10 ^ place * (4 * quantaPerOne) =
      4 * (coefficient * (quantaPerOne * 10 ^ place)) := by
    generalize quantaPerOne = one
    ring
  rw [hdecimal]
  generalize coefficient * (quantaPerOne * 10 ^ place) = decimal at *
  generalize 2 ^ m.shift * 10 ^ finestPlaces = scale at *
  have hends : (4 * m.significand - m.lowerQuarters) * scale < 4 * decimal ∧
      4 * decimal < (4 * m.significand + 2) * scale := by
    rw [Nat.sub_mul, Nat.add_mul, Nat.mul_assoc]
    have := Nat.mul_le_mul_right scale hlower
    rw [Nat.mul_assoc] at this
    omega
  split
  · exact ⟨hends.1.le, hends.2.le⟩
  · exact hends

/-- The interval reaches down by two quarters of a quantum at least. -/
theorem two_le_lowerQuarters_mul (m : Magnitude) : 2 ≤ m.lowerQuarters * 2 ^ m.shift := by
  rw [lowerQuarters]
  split
  · rename_i h
    rw [Nat.one_mul]
    exact Nat.le_self_pow h.2 2
  · exact Nat.le_mul_of_pos_right 2 (Nat.two_pow_pos _)

/-- What the magnitude has above its neighbour below on a grid is less than a step. -/
theorem exists_gridFloor_add (m : Magnitude) (place : Nat) :
    ∃ rest, m.quanta * 10 ^ finestPlaces = m.gridFloor place * (quantaPerOne * 10 ^ place) + rest ∧
      rest < quantaPerOne * 10 ^ place := by
  have hstep : 0 < quantaPerOne * 10 ^ place :=
    Nat.mul_pos quantaPerOne_pos (Nat.pow_pos (by decide))
  refine ⟨m.quanta * 10 ^ finestPlaces % (quantaPerOne * 10 ^ place), ?_, Nat.mod_lt _ hstep⟩
  rw [gridFloor, Nat.pow_eq, Nat.pow_eq, Nat.mul_comm (_ / _), Nat.div_add_mod]

/-- **The neighbour below on the finest grid rounds to the magnitude.** The grid is finer than half a
quantum. -/
theorem roundsTo_gridFloor (hm : m.significand ≠ 0) : m.RoundsTo (m.gridFloor 0) 0 := by
  have hfine : 2 * quantaPerOne < 10 ^ finestPlaces := by
    rw [quantaPerOne, finestPlaces]
    decide +kernel
  obtain ⟨rest, hfloor, hrest⟩ := m.exists_gridFloor_add 0
  have hrestFine : 4 * rest < 2 * 10 ^ finestPlaces := by
    generalize quantaPerOne = one at hfine hrest
    rw [Nat.pow_zero, Nat.mul_one] at hrest
    generalize 10 ^ finestPlaces = fine at hfine
    omega
  have hreach : 4 * rest < m.lowerQuarters * (2 ^ m.shift * 10 ^ finestPlaces) := by
    calc 4 * rest < 2 * 10 ^ finestPlaces := hrestFine
      _ ≤ m.lowerQuarters * 2 ^ m.shift * 10 ^ finestPlaces :=
        Nat.mul_le_mul_right _ m.two_le_lowerQuarters_mul
      _ = m.lowerQuarters * (2 ^ m.shift * 10 ^ finestPlaces) := Nat.mul_assoc _ _ _
  have hunit : 0 < 2 ^ m.shift * 10 ^ finestPlaces := by positivity
  apply roundsTo_of_lt hm
  · rw [hfloor]
    omega
  · rw [hfloor]
    omega

/-- A neighbour that was chosen rounds to the magnitude. -/
theorem roundsTo_of_onGrid? (h : m.onGrid? ties place = some coefficient) :
    m.RoundsTo coefficient place := by
  rw [onGrid?] at h
  split at h
  · rename_i hbelow
    split at h
    · rename_i habove
      cases h
      exact of_decide_eq_true (Bool.and_eq_true_iff.1 habove).1
    · cases h
      exact hbelow
  · split at h
    · rename_i habove
      cases h
      exact habove
    · cases h

/-- A neighbour on a grid is one of two. -/
theorem onGrid?_le (h : m.onGrid? ties place = some coefficient) :
    coefficient ≤ m.gridFloor place + 1 := by
  rw [onGrid?] at h
  split_ifs at h with hbelow habove hupper
  · exact (Option.some.inj h).symm.le
  · rw [← Option.some.inj h]
    exact Nat.le_succ _
  · exact (Option.some.inj h).symm.le

/-- A neighbour that rounds to the magnitude is found. -/
theorem exists_onGrid? (ties : TieRule)
    (h : m.RoundsTo (m.gridFloor place) place ∨ m.RoundsTo (m.gridFloor place + 1) place) :
    ∃ coefficient, m.onGrid? ties place = some coefficient := by
  rw [onGrid?]
  split_ifs with hbelow habove hupper
  · exact ⟨_, rfl⟩
  · exact ⟨_, rfl⟩
  · exact ⟨_, rfl⟩
  · exact absurd h (not_or.2 ⟨hbelow, hupper⟩)

/-- A significand has less than ten to the sixteenth of what the interval is wide. -/
theorem four_mul_significand_lt (m : Magnitude) :
    4 * m.significand < 10 ^ 16 * (m.lowerQuarters + 2) := by
  have hbits := m.canonical.1
  have hbinade : binadeSize = 2 ^ 52 := rfl
  rw [lowerQuarters]
  split
  · rename_i h
    rw [h.1, hbinade]
    decide
  · omega

/-- **Seventeen digits are enough.** A grid on which the magnitude has so many is finer than the
interval is wide, so one of the two neighbours rounds to the magnitude. -/
theorem exists_onGrid?_of_le (hm : m.significand ≠ 0) (ties : TieRule)
    (h : 10 ^ 16 ≤ m.gridFloor place) : ∃ coefficient, m.onGrid? ties place = some coefficient := by
  obtain ⟨rest, hfloor, hrest⟩ := m.exists_gridFloor_add place
  have hunit : 0 < 2 ^ m.shift * 10 ^ finestPlaces := by positivity
  have hquanta := m.quanta_mul_pow
  refine exists_onGrid? ties (or_iff_not_imp_left.2 fun hbelow => ?_)
  -- Where the neighbour below is out of reach, the one above is nearer than one half of a unit.
  have hreach : m.lowerQuarters * (2 ^ m.shift * 10 ^ finestPlaces) ≤ 4 * rest := by
    refine Nat.le_of_not_lt fun hlt => hbelow (roundsTo_of_lt hm ?_ ?_)
    · rw [hfloor]
      omega
    · rw [hfloor]
      omega
  have hwidth : 4 * (quantaPerOne * 10 ^ place) <
      (m.lowerQuarters + 2) * (2 ^ m.shift * 10 ^ finestPlaces) := by
    refine Nat.lt_of_mul_lt_mul_left (a := 10 ^ 16) ?_
    calc 10 ^ 16 * (4 * (quantaPerOne * 10 ^ place))
        ≤ m.gridFloor place * (4 * (quantaPerOne * 10 ^ place)) := Nat.mul_le_mul_right _ h
      _ ≤ 4 * (m.significand * (2 ^ m.shift * 10 ^ finestPlaces)) := by
        rw [← hquanta, hfloor, Nat.mul_left_comm]
        exact Nat.mul_le_mul_left 4 (Nat.le_add_right _ _)
      _ = 4 * m.significand * (2 ^ m.shift * 10 ^ finestPlaces) := (Nat.mul_assoc _ _ _).symm
      _ < 10 ^ 16 * (m.lowerQuarters + 2) * (2 ^ m.shift * 10 ^ finestPlaces) :=
        Nat.mul_lt_mul_of_pos_right m.four_mul_significand_lt hunit
      _ = 10 ^ 16 * ((m.lowerQuarters + 2) * (2 ^ m.shift * 10 ^ finestPlaces)) :=
        Nat.mul_assoc _ _ _
  apply roundsTo_of_lt hm
  · rw [hfloor, Nat.add_one_mul (m.gridFloor place)]
    omega
  · rw [hfloor, Nat.add_one_mul (m.gridFloor place)]
    rw [Nat.add_mul] at hwidth
    omega

/-! ## The search -/

/-- On a grid ten times as coarse there is one digit less. -/
theorem gridFloor_succ (m : Magnitude) (place : Nat) :
    m.gridFloor (place + 1) = m.gridFloor place / 10 := by
  rw [gridFloor, gridFloor, Nat.div_div_eq_div_mul, Nat.mul_assoc]
  rfl

/-- On any grid the digits at the end are missing. -/
theorem gridFloor_eq_div (m : Magnitude) (place : Nat) :
    m.gridFloor place = m.gridFloor 0 / 10 ^ place := by
  induction place with
  | zero => rw [Nat.pow_zero, Nat.div_one]
  | succ place ih => rw [gridFloor_succ, ih, Nat.div_div_eq_div_mul, Nat.pow_succ]

/-- The search starts where the magnitude has one digit. -/
theorem gridFloor_start_lt (m : Magnitude) :
    m.gridFloor ((decimalDigits (m.gridFloor 0)).length - 1) < 10 := by
  have hvalue := Json.valueFrom_lt (@Json.isDigit_of_mem_decimalDigits (m.gridFloor 0)) 0
  rw [← Json.digitsValue_eq, Json.digitsValue_decimalDigits, Nat.zero_add, Nat.one_mul] at hvalue
  have hlength : 0 < (decimalDigits (m.gridFloor 0)).length :=
    List.length_pos_iff.2 (Json.decimalDigits_ne_nil _)
  rw [gridFloor_eq_div, Nat.div_lt_iff_lt_mul (Nat.pow_pos (by decide)), ← Nat.pow_succ',
    Nat.succ_eq_add_one, Nat.sub_add_cancel hlength]
  exact hvalue

/-- **What the search finds rounds to the magnitude.** -/
theorem roundsTo_shortestFrom (hm : m.significand ≠ 0) (ties : TieRule) (start : Nat) :
    m.RoundsTo (m.shortestFrom ties start).1 (m.shortestFrom ties start).2 := by
  induction start with
  | zero =>
    rw [shortestFrom]
    dsimp only
    cases h : m.onGrid? ties 0 with
    | none =>
      rw [Option.getD_none]
      exact roundsTo_gridFloor hm
    | some coefficient =>
      rw [Option.getD_some]
      exact roundsTo_of_onGrid? h
  | succ place ih =>
    rw [shortestFrom]
    cases h : m.onGrid? ties (place + 1) with
    | none => exact ih
    | some coefficient => exact roundsTo_of_onGrid? h

/-- **What the search finds has at most seventeen digits**, or it is the next power of ten. -/
theorem shortestFrom_le (hm : m.significand ≠ 0) (ties : TieRule) {start : Nat}
    (hstart : m.gridFloor start < 10 ^ 17) : (m.shortestFrom ties start).1 ≤ 10 ^ 17 := by
  induction start with
  | zero =>
    rw [shortestFrom]
    dsimp only
    cases h : m.onGrid? ties 0 with
    | none =>
      rw [Option.getD_none]
      exact hstart.le
    | some coefficient =>
      rw [Option.getD_some]
      exact (onGrid?_le h).trans hstart
  | succ place ih =>
    rw [shortestFrom]
    cases h : m.onGrid? ties (place + 1) with
    | none =>
      -- Without a hit the magnitude has at most sixteen digits on this grid.
      refine ih ?_
      have hcoarse : m.gridFloor (place + 1) < 10 ^ 16 := by
        by_contra hlarge
        obtain ⟨coefficient, hhit⟩ := exists_onGrid?_of_le hm ties (Nat.le_of_not_lt hlarge)
        rw [h] at hhit
        cases hhit
      rw [gridFloor_succ] at hcoarse
      omega
    | some coefficient => exact (onGrid?_le h).trans hstart

/-- **The shortest decimal rounds to the magnitude** and has at most seventeen digits, or is the next
power of ten. -/
theorem exists_shortest_roundsTo (hm : m.significand ≠ 0) (ties : TieRule) :
    ∃ coefficient place : Nat, m.shortest ties = ⟨coefficient, (place : Int) - finestPlaces⟩ ∧
      m.RoundsTo coefficient place ∧ coefficient ≤ 10 ^ 17 := by
  rw [shortest]
  refine ⟨_, _, rfl, roundsTo_shortestFrom hm ties _, shortestFrom_le hm ties ?_⟩
  exact m.gridFloor_start_lt.trans (by decide)

/-- The shortest decimal stays near the magnitude from below. -/
theorem exists_shortest_reaches (hm : m.significand ≠ 0) (ties : TieRule) :
    ∃ coefficient place : Nat, m.shortest ties = ⟨coefficient, (place : Int) - finestPlaces⟩ ∧
      m.Reaches coefficient place := by
  obtain ⟨coefficient, place, hshortest, hrounds, -⟩ := exists_shortest_roundsTo hm ties
  exact ⟨coefficient, place, hshortest, hrounds.reaches hm⟩

end SynthReport.Magnitude
