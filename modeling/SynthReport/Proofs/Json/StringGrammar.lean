import SynthReport.Proofs.Json.NumeralGrammar

/-! # The strings that are read

The reader of strings takes those whose characters are whole ones of the grammar: surrogates come in
pairs.

* **`taken_of_readCodeUnit`**, **`taken_of_readCharacters`** — what was read is of the grammar;
* **`exists_reads_wholeCharacter`**, **`exists_reads_characters`** — what is of the grammar is read;
* **`recognises_readString`** — the strings that are read. -/

namespace SynthReport.Json

open JsonText
open scoped Computability

/-! ## Texts one after the other -/

/-- What was taken after something else. -/
theorem taken_trans {text first middle taken rest : List Char} (hfirst : text = first ++ middle)
    (hmiddle : middle = taken ++ rest) : text = first ++ taken ++ rest := by
  rw [hfirst, hmiddle, List.append_assoc]

/-! ## Characters -/

section Characters

variable {text : List Char}

/-- Four hexadecimal digits were taken. -/
theorem taken_of_readHex {r : Reading Nat text} (h : readHex text = .ok r) :
    ∃ digits, codeUnit? digits = some r.value ∧ text = digits ++ r.rest := by
  unfold readHex at h
  split at h
  · rename_i a b c d rest
    split at h
    · rename_i ha hb hc hd
      cases h
      refine ⟨[a, b, c, d], ?_, rfl⟩
      rw [codeUnit?, ha, hb, hc, hd]
      rfl
    · cases h
  · cases h

/-- The second half of a surrogate pair was taken. -/
theorem taken_of_readTrailing {r : Reading Nat text} (h : readTrailing text = .ok r) :
    ∃ taken ∈ unitEscape IsLowSurrogate, text = taken ++ r.rest := by
  unfold readTrailing at h
  split at h
  · cases h
  · cases h
  · obtain ⟨unit, hunit, h⟩ := bind_eq_ok_iff.1 h
    split at h
    · rename_i hlow
      cases h
      obtain ⟨digits, hdigits, htext⟩ := taken_of_readHex hunit
      refine ⟨_, ⟨digits, unit.value, hdigits, hlow, rfl⟩, ?_⟩
      exact congrArg ('\\' :: 'u' :: ·) htext
    · cases h
  · cases h

/-- **An escape by number was taken**, or two of them for a surrogate pair. -/
theorem taken_of_readCodeUnit {r : Reading Char text} (h : readCodeUnit text = .ok r) :
    ∃ taken ∈ wholeCharacter, '\\' :: 'u' :: text = taken ++ r.rest := by
  obtain ⟨unit, hunit, h⟩ := bind_eq_ok_iff.1 h
  obtain ⟨digits, hdigits, htext⟩ := taken_of_readHex hunit
  have hescape : '\\' :: 'u' :: text = '\\' :: 'u' :: digits ++ unit.rest :=
    congrArg ('\\' :: 'u' :: ·) htext
  split at h
  · cases h
  · rename_i hlow
    split at h
    · rename_i hhigh
      obtain ⟨trailing, htrailing, rfl⟩ := bind_pure_eq_ok_iff.1 h
      obtain ⟨second, hsecond, hrest⟩ := taken_of_readTrailing htrailing
      exact ⟨_, Or.inr (Language.append_mem_mul ⟨digits, unit.value, hdigits, hhigh, rfl⟩ hsecond),
        taken_trans hescape hrest⟩
    · rename_i hhigh
      cases h
      exact ⟨_, Or.inl (Or.inr ⟨digits, unit.value, hdigits, ⟨hhigh, hlow⟩, rfl⟩), hescape⟩

/-- A letter with an escape is one of those of the grammar. -/
theorem mem_of_escaped? {letter c : Char} (h : escaped? letter = some c) :
    letter ∈ ['"', '\\', '/', 'b', 'f', 'n', 'r', 't'] := by
  unfold escaped? at h
  split at h <;> simp at h ⊢

/-- **The characters of a string were taken**, with the quote after them. -/
theorem taken_of_readCharacters {r : Reading (List Char) text} (h : readCharacters text = .ok r) :
    ∃ taken ∈ wholeCharacter∗, text = taken ++ '"' :: r.rest := by
  induction hlength : text.length using Nat.strong_induction_on generalizing text with
  | _ length ih =>
    unfold readCharacters at h
    split at h
    · cases h
    · -- The quote.
      cases h
      exact ⟨[], Language.nil_mem_kstar _, rfl⟩
    · cases h
    · -- An escape by number.
      rename_i rest
      obtain ⟨unit, hunit, h⟩ := bind_eq_ok_iff.1 h
      obtain ⟨tail, htail, rfl⟩ := bind_pure_eq_ok_iff.1 h
      have hle := unit.length_le
      simp only [List.length_cons] at hlength
      obtain ⟨first, hfirst, htext⟩ := taken_of_readCodeUnit hunit
      obtain ⟨taken, htaken, hrest⟩ := ih _ (by omega) htail rfl
      exact ⟨first ++ taken, append_mem_kstar hfirst htaken, taken_trans htext hrest⟩
    · -- An escape by letter.
      rename_i letter rest _
      split at h
      · cases h
      · rename_i c hletter
        obtain ⟨tail, htail, rfl⟩ := bind_pure_eq_ok_iff.1 h
        simp only [List.length_cons] at hlength
        obtain ⟨taken, htaken, hrest⟩ := ih _ (by omega) htail rfl
        refine ⟨['\\', letter] ++ taken, append_mem_kstar ?_ htaken, taken_trans rfl hrest⟩
        exact Or.inl (Or.inl (Or.inr ⟨letter, mem_of_escaped? hletter, rfl⟩))
    · -- A character that stands for itself.
      rename_i c rest hquote hends _ hletter
      split at h
      · cases h
      · rename_i hcontrol
        obtain ⟨tail, htail, rfl⟩ := bind_pure_eq_ok_iff.1 h
        simp only [List.length_cons] at hlength
        obtain ⟨taken, htaken, hrest⟩ := ih _ (by omega) htail rfl
        refine ⟨[c] ++ taken, append_mem_kstar ?_ htaken, taken_trans rfl hrest⟩
        refine Or.inl (Or.inl (Or.inl ⟨c, by omega, hquote, ?_, rfl⟩))
        rintro rfl
        cases rest with
        | nil => exact hends rfl rfl
        | cons letter more => exact hletter letter more rfl rfl

/-- The digits of a code unit are read. -/
theorem reads_readHex_of_codeUnit? {digits : List Char} {unit : Nat}
    (h : codeUnit? digits = some unit) (rest : List Char) :
    Reads readHex (digits ++ rest) unit rest := by
  unfold codeUnit? at h
  split at h
  · simp only [Option.bind_eq_bind, Option.bind_eq_some_iff, Option.pure_def, Option.some_inj] at h
    obtain ⟨a', ha, b', hb, c', hc, d', hd, rfl⟩ := h
    exact reads_readHex ha hb hc hd rest
  · cases h

/-- A surrogate pair is one character. -/
theorem reads_readCodeUnit_pair {high low : Nat} {rest : List Char} {digits : List Char}
    (hhigh : IsHighSurrogate high) (hlow : IsLowSurrogate low)
    (hdigits : codeUnit? digits = some low)
    (h : Reads readHex text high ('\\' :: 'u' :: (digits ++ rest))) :
    Reads readCodeUnit text
      (Char.ofNat ((high - 0xD800) * 0x400 + (low - 0xDC00) + 0x10000)) rest := by
  obtain ⟨hle, hr⟩ := h
  obtain ⟨hle', hr'⟩ := reads_readHex_of_codeUnit? hdigits rest
  have htrailing : Reads readTrailing ('\\' :: 'u' :: (digits ++ rest)) low rest := by
    rw [IsLowSurrogate] at hlow
    rw [Reads, readTrailing, hr', ok_bind]
    dsimp only
    rw [if_pos hlow]
    exact ⟨_, rfl⟩
  obtain ⟨hle'', hr''⟩ := htrailing
  rw [IsHighSurrogate] at hhigh
  have hnot : ¬ (0xDC00 ≤ high ∧ high ≤ 0xDFFF) := by omega
  rw [Reads, readCodeUnit, hr, ok_bind]
  dsimp only
  rw [if_neg hnot, if_pos hhigh, hr'', ok_bind]
  refine ⟨hle''.trans hle, ?_⟩
  simp only [Reading.map, Reading.widen, pure, Except.pure]

/-- **A whole character is read**, in front of any others. -/
theorem exists_reads_wholeCharacter {taken : List Char} (h : taken ∈ wholeCharacter) :
    ∃ c, ∀ {text chars rest : List Char}, Reads readCharacters text chars rest →
      Reads readCharacters (taken ++ text) (c :: chars) rest := by
  rcases h with ((⟨c, hcontrol, hquote, hescape, rfl⟩ | ⟨letter, hletter, rfl⟩) |
    ⟨digits, unit, hdigits, ⟨hhigh, hlow⟩, rfl⟩) |
    ⟨_, ⟨digits, unit, hdigits, hhigh, rfl⟩, _, ⟨digits', unit', hdigits', hlow, rfl⟩, rfl⟩
  · exact ⟨c, reads_plain hquote hescape hcontrol⟩
  · obtain ⟨c, hc⟩ : ∃ c, escaped? letter = some c := by
      simp only [List.mem_cons, List.not_mem_nil, or_false] at hletter
      rcases hletter with rfl | rfl | rfl | rfl | rfl | rfl | rfl | rfl <;> exact ⟨_, rfl⟩
    exact ⟨c, reads_letter hc⟩
  · exact ⟨_, reads_number
      (reads_readCodeUnit hlow hhigh (reads_readHex_of_codeUnit? hdigits _))⟩
  · refine ⟨Char.ofNat ((unit - 0xD800) * 0x400 + (unit' - 0xDC00) + 0x10000),
      fun {text chars rest} htext => ?_⟩
    change Reads _ (('\\' :: 'u' :: digits) ++ ('\\' :: 'u' :: digits') ++ text) _ _
    rw [List.append_assoc]
    exact reads_number
      (reads_readCodeUnit_pair hhigh hlow hdigits' (reads_readHex_of_codeUnit? hdigits _)) htext

/-- **The characters of a string are read**, up to the quote. -/
theorem exists_reads_characters {taken : List Char} (h : taken ∈ wholeCharacter∗) :
    ∃ chars, ∀ rest, Reads readCharacters (taken ++ '"' :: rest) chars rest := by
  obtain ⟨parts, rfl, hparts⟩ := Language.mem_kstar.1 h
  clear h
  induction parts with
  | nil => exact ⟨[], reads_quote⟩
  | cons part parts ih =>
    obtain ⟨hpart, hparts⟩ := List.forall_mem_cons.1 hparts
    obtain ⟨c, hc⟩ := exists_reads_wholeCharacter hpart
    obtain ⟨chars, hchars⟩ := ih hparts
    refine ⟨c :: chars, fun rest => ?_⟩
    rw [List.flatten_cons, List.append_assoc]
    exact hc (hchars rest)

/-- **The reader of strings recognises those of whole characters**, after the opening quote. -/
theorem recognises_readString :
    Recognises readString (fun _ => True) (wholeCharacter∗ * {['"']}) where
  exists_taken := by
    rintro text value rest ⟨_, h⟩ -
    obtain ⟨characters, hcharacters, heq⟩ := bind_pure_eq_ok_iff.1 h
    obtain ⟨taken, htaken, htext⟩ := taken_of_readCharacters hcharacters
    cases heq
    refine ⟨taken ++ ['"'], Language.append_mem_mul htaken rfl, ?_⟩
    rw [List.append_assoc]
    exact htext
  exists_legible := by
    rintro _ ⟨taken, htaken, _, rfl, rfl⟩
    obtain ⟨chars, hchars⟩ := exists_reads_characters htaken
    refine ⟨String.ofList chars, trivial, fun rest _ => ?_⟩
    obtain ⟨_, hr⟩ := hchars rest
    change Reads readString ((taken ++ ['"']) ++ rest) _ _
    rw [List.append_assoc, List.singleton_append, Reads, readString, hr]
    exact ⟨_, rfl⟩

end Characters

end SynthReport.Json
