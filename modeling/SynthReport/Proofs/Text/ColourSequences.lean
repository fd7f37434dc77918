/-! # Colour sequences in a text

A console takes a colour from a sequence in the text: an escape character, a bracket, the digits of a
code and an `m`.

* **`colourSequence`**, **`IsCode`** — such a sequence;
* **`withoutColours`** — a text from which all of them are removed;
* **`uncoloured_append`**, **`uncoloured_sequence`** — text without escapes stays, sequences go;
* **`ColoursEnd`** — every sequence that sets a colour is followed by a reset on the same line;
* **`coloursEnd_append`**, **`coloursEnd_coloured`** — texts put together from such parts. -/

namespace SynthReport

/-! ## Sequences -/

/-- The character that a sequence starts with. -/
def escape : Char := '\x1b'

/-- **The digits of a code**, at least one. -/
def IsCode (code : List Char) : Prop := code ≠ [] ∧ ∀ c ∈ code, c.isDigit = true

instance (code : List Char) : Decidable (IsCode code) :=
  -- By the characters of the code, not by all the characters there are.
  @instDecidableAnd _ _ inferInstance (List.decidableBAll (fun c => c.isDigit = true) code)

/-- **The colour sequence of a code.** -/
def colourSequence (code : List Char) : List Char := escape :: '[' :: (code ++ ['m'])

/-- The code that resets all colours. -/
def resetCode : List Char := ['0']

/-! ## Removing sequences -/

/-- What stands behind a colour sequence, if the text starts with one. -/
def afterSequence? : List Char → Option (List Char)
  | c :: d :: rest =>
    if c = escape ∧ d = '[' ∧ rest.takeWhile Char.isDigit ≠ [] then
      match rest.dropWhile Char.isDigit with
      | 'm' :: after => some after
      | _ => none
    else none
  | _ => none

/-- A sequence is taken from the text. -/
theorem length_afterSequence?_lt {text after : List Char} (h : afterSequence? text = some after) :
    after.length < text.length := by
  unfold afterSequence? at h
  split at h
  · rename_i c d rest
    split at h
    · split at h
      · rename_i tail hdrop
        obtain rfl := Option.some.inj h
        have hle := (List.dropWhile_suffix Char.isDigit (l := rest)).length_le
        rw [hdrop, List.length_cons] at hle
        simp only [List.length_cons]
        omega
      · cases h
    · cases h
  · cases h

/-- The characters that are left when all colour sequences are removed. -/
def uncoloured (text : List Char) : List Char :=
  match _h : afterSequence? text with
  | some after => uncoloured after
  | none =>
    match text with
    | [] => []
    | c :: rest => c :: uncoloured rest
termination_by text.length
decreasing_by
  · exact length_afterSequence?_lt _h
  · exact Nat.lt_succ_self _

/-- **A text without its colour sequences.** -/
def withoutColours (text : String) : String := String.ofList (uncoloured text.toList)

/-- Nothing is removed from an empty text. -/
@[simp] theorem uncoloured_nil : uncoloured [] = [] := by
  rw [uncoloured]
  rfl

/-- Any character but an escape stays. -/
theorem uncoloured_cons_of_ne {c : Char} (h : c ≠ escape) (rest : List Char) :
    uncoloured (c :: rest) = c :: uncoloured rest := by
  have hnone : afterSequence? (c :: rest) = none := by
    cases rest with
    | nil => rfl
    | cons d rest => exact if_neg fun hsequence => h hsequence.1
  rw [uncoloured]
  split
  · rename_i after hsome
    rw [hnone] at hsome
    cases hsome
  · rfl

/-- **Text without escapes stays** in front of what is removed from the rest. -/
theorem uncoloured_append {plain : List Char} (h : escape ∉ plain) (rest : List Char) :
    uncoloured (plain ++ rest) = plain ++ uncoloured rest := by
  induction plain with
  | nil => rfl
  | cons c plain ih =>
    obtain ⟨hc, hplain⟩ := List.ne_and_not_mem_of_not_mem_cons h
    rw [List.cons_append, uncoloured_cons_of_ne (Ne.symm hc), ih hplain, List.cons_append]

/-- The digits of a code end at the `m`. -/
theorem dropWhile_code {code : List Char} (h : IsCode code) (rest : List Char) :
    (code ++ 'm' :: rest).dropWhile Char.isDigit = 'm' :: rest := by
  rw [List.dropWhile_append_of_pos h.2]
  rfl

/-- **A colour sequence is removed.** -/
theorem uncoloured_sequence {code : List Char} (h : IsCode code) (rest : List Char) :
    uncoloured (colourSequence code ++ rest) = uncoloured rest := by
  have htake : (code ++ 'm' :: rest).takeWhile Char.isDigit ≠ [] := by
    rw [List.takeWhile_append_of_pos h.2]
    simp [h.1]
  have hafter : afterSequence? (colourSequence code ++ rest) = some rest := by
    rw [colourSequence, List.cons_append, List.cons_append, List.append_assoc, List.singleton_append,
      afterSequence?, if_pos ⟨rfl, rfl, htake⟩, dropWhile_code h]
    rfl
  rw [uncoloured]
  split
  · rename_i after hsome
    rw [hafter] at hsome
    rw [Option.some.inj hsome]
  · rename_i hnone
    rw [hafter] at hnone
    cases hnone

/-! ## Where sequences stand -/

section Occurrences

variable {plain rest before after code other : List Char}

/-- **A sequence does not start in text without escapes**, so it stands behind it. -/
theorem occurrence_behind (h : escape ∉ plain)
    (htext : plain ++ rest = before ++ colourSequence code ++ after) :
    ∃ middle, rest = middle ++ colourSequence code ++ after := by
  rw [List.append_assoc] at htext
  rcases List.append_eq_append_iff.1 htext with ⟨middle, -, hrest⟩ | ⟨middle, hplain, hsequence⟩
  · exact ⟨middle, by rw [hrest, List.append_assoc]⟩
  · cases middle with
    | nil => exact ⟨[], by rw [← List.nil_append rest, ← hsequence]; rfl⟩
    | cons c middle =>
      obtain ⟨rfl, -⟩ := List.cons_eq_cons.1 hsequence
      exact absurd (hplain ▸ List.mem_append_right before List.mem_cons_self) h

/-- A code has no escape in it. -/
theorem escape_notMem_code (h : IsCode code) : escape ∉ code := by
  intro hmem
  exact absurd (h.2 escape hmem) (by decide)

/-- **Behind a sequence another one is that sequence itself**, or it stands in the rest. -/
theorem occurrence_of_sequence_append (hcode : IsCode code) (hother : IsCode other)
    (htext : colourSequence code ++ rest = before ++ colourSequence other ++ after) :
    other = code ∧ after = rest ∨ ∃ middle, rest = middle ++ colourSequence other ++ after := by
  cases before with
  | nil =>
    left
    simp only [colourSequence, List.nil_append, List.cons_append, List.append_assoc,
      List.cons.injEq, true_and] at htext
    have hdrop := congrArg (List.dropWhile Char.isDigit) htext
    rw [dropWhile_code hcode, dropWhile_code hother] at hdrop
    obtain rfl := (List.cons_eq_cons.1 hdrop).2
    exact ⟨(List.append_cancel_right htext).symm, rfl⟩
  | cons c before =>
    right
    have htail : ('[' :: (code ++ ['m'])) ++ rest = before ++ colourSequence other ++ after :=
      (List.cons_eq_cons.1 htext).2
    refine occurrence_behind (fun hmem => ?_) htail
    rcases List.mem_cons.1 hmem with h | hmem
    · exact absurd h (by decide)
    rcases List.mem_append.1 hmem with hmem | hmem
    · exact escape_notMem_code hcode hmem
    · exact absurd (List.mem_singleton.1 hmem) (by decide)

end Occurrences

/-! ## Colours end on their line -/

/-- **Colours end on their line**: behind every sequence that sets a colour there is a reset before
the next line feed. -/
def ColoursEnd (text : List Char) : Prop :=
  ∀ before code after, IsCode code → code ≠ resetCode →
    text = before ++ colourSequence code ++ after →
    ∃ within rest, after = within ++ colourSequence resetCode ++ rest ∧ '\n' ∉ within

/-- An empty text sets no colour. -/
theorem coloursEnd_nil : ColoursEnd [] := by
  intro before code after _ _ htext
  simp [colourSequence] at htext

/-- **Text without escapes** in front. -/
theorem coloursEnd_append {plain rest : List Char} (hplain : escape ∉ plain)
    (hrest : ColoursEnd rest) : ColoursEnd (plain ++ rest) := by
  intro before code after hcode hcolour htext
  obtain ⟨middle, htail⟩ := occurrence_behind hplain htext
  exact hrest middle code after hcode hcolour htail

/-- **Text in a colour** in front, with a reset at its end, if it has no line feed. -/
theorem coloursEnd_coloured {code inner rest : List Char} (hcode : IsCode code)
    (hinner : escape ∉ inner) (hfeed : '\n' ∉ inner) (hrest : ColoursEnd rest) :
    ColoursEnd (colourSequence code ++ (inner ++ (colourSequence resetCode ++ rest))) := by
  intro before other after hother hcolour htext
  rcases occurrence_of_sequence_append hcode hother htext with ⟨-, rfl⟩ | ⟨middle, htail⟩
  · exact ⟨inner, rest, by rw [List.append_assoc], hfeed⟩
  · -- Neither the text nor the reset sets a colour, so the sequence stands in the rest.
    obtain ⟨behind, hreset⟩ := occurrence_behind hinner htail
    rcases occurrence_of_sequence_append (by decide) hother hreset with ⟨rfl, -⟩ | ⟨last, hlast⟩
    · exact absurd rfl hcolour
    · exact hrest last other after hother hcolour hlast

end SynthReport
