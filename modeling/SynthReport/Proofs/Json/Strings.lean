import Mathlib.Tactic.SplitIfs
import SynthReport.Json.Reader
import SynthReport.Json.Writer
import SynthReport.Proofs.Traversal

/-! # Strings are read back

* **`Reads`** — a reader finds a value at the start of a text, and what is left of the text;
* **`reads_escapedChar`** — an escaped character is read as that character;
* **`reads_quoted`** — a string in quotes is read as that string. -/

namespace SynthReport.Json

/-- **The reader finds a value at the start of a text**, with so much of it left. -/
def Reads {α : Type} (read : Reader α) (text : List Char) (value : α) (rest : List Char) : Prop :=
  ∃ h : rest.length ≤ text.length, read text = .ok ⟨value, rest, h⟩

section Characters

variable {text chars rest : List Char}

/-- A quote ends a string. -/
theorem reads_quote (rest : List Char) : Reads readCharacters ('"' :: rest) [] rest := by
  rw [Reads, readCharacters]
  exact ⟨_, rfl⟩

/-- A character that needs no escape. -/
theorem reads_plain {c : Char} (hquote : c ≠ '"') (hescape : c ≠ '\\') (hcontrol : 0x20 ≤ c.toNat)
    (h : Reads readCharacters text chars rest) :
    Reads readCharacters (c :: text) (c :: chars) rest := by
  obtain ⟨hle, hr⟩ := h
  rw [Reads, readCharacters, if_neg (by omega), hr]
  · exact ⟨_, rfl⟩
  all_goals simp_all

/-- An escape by a letter. -/
theorem reads_letter {letter c : Char} (hletter : escaped? letter = some c)
    (h : Reads readCharacters text chars rest) :
    Reads readCharacters ('\\' :: letter :: text) (c :: chars) rest := by
  obtain ⟨hle, hr⟩ := h
  rw [Reads, readCharacters, hletter]
  · dsimp only
    rw [hr]
    exact ⟨_, rfl⟩
  · rintro rfl
    cases hletter

/-- Four hexadecimal digits. -/
theorem reads_readHex {a b c d : Char} {a' b' c' d' : Nat} (ha : hexValue? a = some a')
    (hb : hexValue? b = some b') (hc : hexValue? c = some c') (hd : hexValue? d = some d')
    (rest : List Char) :
    Reads readHex (a :: b :: c :: d :: rest) (((a' * 16 + b') * 16 + c') * 16 + d') rest := by
  rw [Reads, readHex, ha, hb, hc, hd]
  exact ⟨_, rfl⟩

/-- A code unit that is no surrogate is a character. -/
theorem reads_readCodeUnit {n : Nat} (hlow : ¬ (0xDC00 ≤ n ∧ n ≤ 0xDFFF))
    (hhigh : ¬ (0xD800 ≤ n ∧ n ≤ 0xDBFF)) (h : Reads readHex text n rest) :
    Reads readCodeUnit text (Char.ofNat n) rest := by
  obtain ⟨hle, hr⟩ := h
  rw [Reads, readCodeUnit, hr, ok_bind]
  dsimp only
  rw [if_neg hlow, if_neg hhigh]
  exact ⟨_, rfl⟩

/-- An escape by a number. -/
theorem reads_number {c : Char} {middle : List Char} (hc : Reads readCodeUnit text c middle)
    (h : Reads readCharacters middle chars rest) :
    Reads readCharacters ('\\' :: 'u' :: text) (c :: chars) rest := by
  obtain ⟨_, hunit⟩ := hc
  obtain ⟨_, hr⟩ := h
  rw [Reads, readCharacters, hunit, ok_bind]
  dsimp only
  rw [hr]
  exact ⟨_, rfl⟩

/-- The letter of a hexadecimal digit has its value. -/
theorem hexValue?_hexDigit {n : Nat} (h : n < 16) : hexValue? (hexDigit n) = some n := by
  have hall : ∀ m < 16, hexValue? (hexDigit m) = some m := by decide
  exact hall n h

/-- **An escaped character is read as that character.** -/
theorem reads_escapedChar (c : Char) (h : Reads readCharacters text chars rest) :
    Reads readCharacters (escapedChar c ++ text) (c :: chars) rest := by
  -- Seven characters have a letter of their own, the other control characters have a number.
  rw [escapedChar]
  split_ifs with hquote hescape
  all_goals subst_vars
  · exact reads_letter rfl h
  · exact reads_letter rfl h
  · exact reads_letter rfl h
  · exact reads_letter rfl h
  · exact reads_letter rfl h
  · exact reads_letter rfl h
  · exact reads_letter rfl h
  · rename_i hcontrol
    have hhigh := hexValue?_hexDigit (show c.toNat / 16 < 16 by omega)
    have hlow := hexValue?_hexDigit (show c.toNat % 16 < 16 by omega)
    have hunit : Reads readHex
        ('0' :: '0' :: hexDigit (c.toNat / 16) :: hexDigit (c.toNat % 16) :: text) c.toNat
        text := by
      have hzero : hexValue? '0' = some 0 := by decide
      have hvalue : ((0 * 16 + 0) * 16 + c.toNat / 16) * 16 + c.toNat % 16 = c.toNat := by omega
      have hhex := reads_readHex hzero hzero hhigh hlow text
      rwa [hvalue] at hhex
    have hchar := reads_readCodeUnit (by omega) (by omega) hunit
    rw [Char.ofNat_toNat] at hchar
    exact reads_number hchar h
  · rename_i hcontrol
    exact reads_plain hquote hescape (by omega) h

/-- The characters of a string are read up to its quote. -/
theorem reads_flatMap_escapedChar (chars rest : List Char) :
    Reads readCharacters (chars.flatMap escapedChar ++ '"' :: rest) chars rest := by
  induction chars with
  | nil => exact reads_quote rest
  | cons c chars ih =>
    rw [List.flatMap_cons, List.append_assoc]
    exact reads_escapedChar c ih

/-- **A string in quotes is read as that string**, after its opening quote. -/
theorem reads_quoted (s : String) (rest : List Char) :
    ∃ body, quoted s ++ rest = '"' :: body ∧ Reads readString body s rest := by
  refine ⟨s.toList.flatMap escapedChar ++ '"' :: rest, by simp [quoted], ?_⟩
  obtain ⟨_, hr⟩ := reads_flatMap_escapedChar s.toList rest
  have hstring := String.ofList_toList (s := s)
  rw [Reads, readString, hr, ok_bind, Reading.map]
  exact ⟨_, by rw [hstring]; rfl⟩

end Characters

end SynthReport.Json
