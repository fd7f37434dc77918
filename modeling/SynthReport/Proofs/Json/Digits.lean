import Mathlib
import SynthReport.Json.Numeral
import SynthReport.Number.Fixed

/-! # Digits and their values

* **`valueFrom`**, **`valueFrom_eq_add`** — the value of digits after a number;
* **`mul_pow_le_valueFrom`**, **`valueFrom_lt`** — how large it is;
* **`digitsValue_decimalDigits`** — the decimal digits of a number have its value;
* **`gather_eq`**, **`gather_of_le`**, **`length_gather_lt`** — which digits fit into a
  significand. -/

namespace SynthReport.Json

/-- The value of digits that stand behind a number. -/
def valueFrom (n : Nat) (digits : List Char) : Nat :=
  digits.foldl (fun n c => n * 10 + digitValue c) n

@[simp] theorem valueFrom_nil (n : Nat) : valueFrom n [] = n := rfl

@[simp] theorem valueFrom_cons (n : Nat) (c : Char) (digits : List Char) :
    valueFrom n (c :: digits) = valueFrom (n * 10 + digitValue c) digits := by
  rw [valueFrom, valueFrom, List.foldl_cons]

/-- Digits after digits. -/
theorem valueFrom_append (n : Nat) (first second : List Char) :
    valueFrom n (first ++ second) = valueFrom (valueFrom n first) second :=
  List.foldl_append

/-- The value of digits by themselves. -/
theorem digitsValue_eq (digits : List Char) : digitsValue digits = valueFrom 0 digits := rfl

/-- **Digits behind a number** move it to the left and add their own value. -/
theorem valueFrom_eq_add (n : Nat) (digits : List Char) :
    valueFrom n digits = n * 10 ^ digits.length + digitsValue digits := by
  induction digits generalizing n with
  | nil => simp [digitsValue_eq]
  | cons c digits ih =>
    rw [digitsValue_eq, valueFrom_cons, valueFrom_cons, ih, ih (0 * 10 + digitValue c),
      List.length_cons, Nat.pow_succ]
    ring

/-- Zeros only move it. -/
theorem valueFrom_replicate (n count : Nat) :
    valueFrom n (List.replicate count '0') = n * 10 ^ count := by
  have hdigit : digitValue '0' = 0 := rfl
  induction count generalizing n with
  | zero => rw [List.replicate_zero, valueFrom_nil, Nat.pow_zero, Nat.mul_one]
  | succ count ih =>
    rw [List.replicate_succ, valueFrom_cons, hdigit, Nat.add_zero, ih, Nat.pow_succ', Nat.mul_assoc]

/-- Digits move the number in front of them to the left. -/
theorem mul_pow_le_valueFrom (n : Nat) (digits : List Char) :
    n * 10 ^ digits.length ≤ valueFrom n digits := by
  rw [valueFrom_eq_add]
  exact Nat.le_add_right _ _

/-- A digit is below ten. -/
theorem digitValue_lt {c : Char} (h : c.isDigit = true) : digitValue c < 10 := by
  obtain ⟨hlow, hhigh⟩ : 48 ≤ c.toNat ∧ c.toNat ≤ 57 := by
    simpa [Char.isDigit, UInt32.le_iff_toNat_le] using h
  rw [digitValue, show '0'.toNat = 48 from rfl]
  omega

/-- A digit other than zero has another value. -/
theorem digitValue_pos {c : Char} (h : c.isDigit = true) (hne : c ≠ '0') : 0 < digitValue c := by
  obtain ⟨hlow, -⟩ : 48 ≤ c.toNat ∧ c.toNat ≤ 57 := by
    simpa [Char.isDigit, UInt32.le_iff_toNat_le] using h
  have hcode : c.toNat ≠ 48 := fun heq => hne (Char.toNat_inj.1 heq)
  rw [digitValue, show '0'.toNat = 48 from rfl]
  omega

/-- Digits do not make up for one more in front of them. -/
theorem valueFrom_lt {digits : List Char} (h : ∀ c ∈ digits, c.isDigit = true) (n : Nat) :
    valueFrom n digits < (n + 1) * 10 ^ digits.length := by
  induction digits generalizing n with
  | nil => simp
  | cons c digits ih =>
    obtain ⟨hc, hdigits⟩ := List.forall_mem_cons.1 h
    have hdigit := digitValue_lt hc
    calc valueFrom n (c :: digits) < (n * 10 + digitValue c + 1) * 10 ^ digits.length :=
          ih hdigits _
      _ ≤ (n + 1) * 10 * 10 ^ digits.length := Nat.mul_le_mul_right _ (by omega)
      _ = (n + 1) * 10 ^ (c :: digits).length := by
          rw [List.length_cons, Nat.pow_succ, Nat.mul_assoc, Nat.mul_comm 10]

/-! ## Decimal digits -/

/-- **The decimal digits of a number have its value.** -/
theorem digitsValue_decimalDigits (n : Nat) : digitsValue (decimalDigits n) = n := by
  have h := @Nat.ofDigitChars_toDigits 10 n (by decide) (by decide)
  rw [Nat.ofDigitChars] at h
  simpa only [digitsValue, digitValue, decimalDigits, Nat.mul_comm 10] using h

/-- They are digits. -/
theorem isDigit_of_mem_decimalDigits {n : Nat} : ∀ c ∈ decimalDigits n, c.isDigit = true :=
  fun _ hc => Nat.isDigit_of_mem_toDigits (by decide) (by decide) hc

theorem decimalDigits_ne_nil (n : Nat) : decimalDigits n ≠ [] := Nat.toDigits_ne_nil

/-- A number of several digits does not start with a zero. -/
theorem head?_decimalDigits_ne {n : Nat} (h : n ≠ 0) : (decimalDigits n).head? ≠ some '0' := by
  -- All digits but the last are those of the tenth part, which is not zero either.
  induction n using Nat.strongRecOn with
  | ind n ih =>
    rw [decimalDigits]
    by_cases hlt : n < 10
    · rw [Nat.toDigits_of_lt_base hlt]
      have hall : ∀ m < 10, m ≠ 0 → [m.digitChar].head? ≠ some '0' := by decide
      exact hall n hlt h
    · rw [Nat.toDigits_of_base_le (by decide) (by omega),
        List.head?_append_of_ne_nil _ Nat.toDigits_ne_nil]
      exact ih (n / 10) (by omega) (by omega)

/-- The digits at the front of a number are no more than the number with their power of ten. -/
theorem digitsValue_mul_pow_le {n : Nat} {taken dropped : List Char}
    (hdigits : decimalDigits n = taken ++ dropped) :
    digitsValue taken * 10 ^ dropped.length ≤ n := by
  have hall := digitsValue_decimalDigits n
  rw [hdigits, digitsValue_eq, valueFrom_append] at hall
  exact (mul_pow_le_valueFrom (digitsValue taken) dropped).trans_eq hall

/-- Digits at the front of a number that is not zero are not all zero. -/
theorem digitsValue_pos_of_append {n : Nat} {taken dropped : List Char} (htaken : taken ≠ [])
    (hdigits : decimalDigits n = taken ++ dropped) (hn : n ≠ 0) : 0 < digitsValue taken := by
  obtain ⟨c, more, rfl⟩ := List.exists_cons_of_ne_nil htaken
  have hc : c.isDigit = true :=
    isDigit_of_mem_decimalDigits c (by rw [hdigits]; exact List.mem_cons_self)
  have hne : c ≠ '0' := by
    rintro rfl
    exact head?_decimalDigits_ne hn (by rw [hdigits]; rfl)
  have hpos := digitValue_pos hc hne
  calc 0 < (0 * 10 + digitValue c) * 10 ^ more.length := by positivity
    _ ≤ valueFrom (0 * 10 + digitValue c) more := mul_pow_le_valueFrom _ _
    _ = digitsValue (c :: more) := rfl

/-! ## Significands -/

/-- **The digits that were gathered** are those in front, up to the ones that were not. -/
theorem gather_eq (n : Nat) (digits : List Char) :
    ∃ taken, digits = taken ++ (gather n digits).2 ∧ (gather n digits).1 = valueFrom n taken := by
  induction digits generalizing n with
  | nil => exact ⟨[], rfl, rfl⟩
  | cons c rest ih =>
    rw [gather]
    split
    · obtain ⟨taken, hrest, hvalue⟩ := ih (n * 10 + digitValue c)
      exact ⟨c :: taken, by rw [List.cons_append, ← hrest], hvalue⟩
    · exact ⟨[], rfl, rfl⟩

/-- **All digits are gathered** if their value fits. -/
theorem gather_of_le {n : Nat} {digits : List Char}
    (h : valueFrom n digits ≤ 0xFFFFFFFFFFFFFFFF) : gather n digits = (valueFrom n digits, []) := by
  induction digits generalizing n with
  | nil => rfl
  | cons c rest ih =>
    -- What is gathered on the way is no more than the value of all digits.
    have hnext : n * 10 + digitValue c ≤ valueFrom n (c :: rest) :=
      (Nat.le_mul_of_pos_right _ (Nat.pow_pos (by decide))).trans (mul_pow_le_valueFrom _ rest)
    rw [gather]
    rw [if_pos (hnext.trans h), ih h, valueFrom_cons]

/-- Up to nineteen digits are gathered. -/
theorem gather_of_length_le {digits : List Char} (hdigits : ∀ c ∈ digits, c.isDigit = true)
    (h : digits.length ≤ 19) : gather 0 digits = (digitsValue digits, []) := by
  refine gather_of_le ?_
  have hlt := valueFrom_lt hdigits 0
  have hpow : 10 ^ digits.length ≤ 10 ^ 19 := Nat.pow_le_pow_right (by decide) h
  omega

/-- Where one more digit fits, one is gathered. -/
theorem length_gather_lt {n : Nat} {digits : List Char} (hne : digits ≠ [])
    (hdigits : ∀ c ∈ digits, c.isDigit = true) (h : n * 10 + 9 ≤ 0xFFFFFFFFFFFFFFFF) :
    (gather n digits).2.length < digits.length := by
  cases digits with
  | nil => exact absurd rfl hne
  | cons c rest =>
    have hdigit := digitValue_lt (hdigits c List.mem_cons_self)
    rw [gather]
    rw [if_pos (by omega)]
    obtain ⟨taken, hrest, -⟩ := gather_eq (n * 10 + digitValue c) rest
    have hlength := congrArg List.length hrest
    rw [List.length_append] at hlength
    rw [List.length_cons]
    omega

end SynthReport.Json
