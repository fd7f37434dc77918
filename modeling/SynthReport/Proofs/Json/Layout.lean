import SynthReport.Proofs.Json.DoubleText
import SynthReport.Proofs.Json.Reader

/-! # Arrays and objects are read back

Elements and members stand between commas, each after a gap of space. Whatever the gaps are, they
are read as the values of their texts.

* **`IsGap`** — text that is skipped between tokens;
* **`separated`**, **`memberText`** — texts with commas between them, and a key with its value;
* **`legible_literal`**, **`legible_string`**, **`legible_number`** — scalars;
* **`legible_array`**, **`legible_object`** — elements and members that are legible make an array
  and an object that are. -/

namespace SynthReport.Json

/-! ## Space -/

/-- **A text of nothing but space.** -/
def IsGap (gap : List Char) : Prop := ∀ c ∈ gap, isSpace c = true

/-- There may be no gap at all. -/
theorem isGap_nil : IsGap [] := List.forall_mem_nil _

variable {gap text rest : List Char}

/-- A gap is skipped. -/
theorem skipSpace_append_of_isGap (hgap : IsGap gap) (text : List Char) :
    skipSpace (gap ++ text) = skipSpace text := by
  induction gap with
  | nil => rfl
  | cons c gap ih =>
    obtain ⟨hc, hgap⟩ := List.forall_mem_cons.1 hgap
    rw [List.cons_append, skipSpace, if_pos hc, ih hgap]

/-- Nothing is skipped in front of another character. -/
theorem skipSpace_cons_of_not {c : Char} (hc : ¬ isSpace c = true) (rest : List Char) :
    skipSpace (c :: rest) = c :: rest := by
  rw [skipSpace, if_neg hc]

/-- After space has been skipped, there is none. -/
@[simp] theorem skipSpace_skipSpace (text : List Char) :
    skipSpace (skipSpace text) = skipSpace text := by
  induction text with
  | nil => rfl
  | cons c rest ih =>
    by_cases hc : isSpace c = true
    · rw [skipSpace, if_pos hc, ih]
    · rw [skipSpace_cons_of_not hc, skipSpace_cons_of_not hc]

/-- Space is not part of a numeral. -/
theorem endsNumber_append_of_isGap (hgap : IsGap gap) (hrest : EndsNumber rest) :
    EndsNumber (gap ++ rest) := by
  cases gap with
  | nil => exact hrest
  | cons c gap =>
    have hc : isSpace c = true := hgap c List.mem_cons_self
    simp only [isSpace, Bool.or_eq_true, beq_iff_eq] at hc
    refine endsNumber_cons ?_
    rcases hc with ((rfl | rfl) | rfl) | rfl <;> decide

/-! ## Values -/

section Values

variable {depth : Nat} {value : Json}

/-- A value is read after the space in front of it, by readers of arrays and objects that do not
matter for scalars. -/
theorem exists_readValue_eq (depth : Nat) :
    ∃ readArrayRest readObjectRest,
      readValue depth = spaced (readPlainValue readArrayRest readObjectRest) := by
  cases depth with
  | zero => exact ⟨_, _, rfl⟩
  | succ depth => exact ⟨_, _, rfl⟩

/-- Space in front of a value makes no difference. -/
theorem reads_readValue_skipSpace_iff :
    Reads (readValue depth) (skipSpace text) value rest ↔
      Reads (readValue depth) text value rest := by
  obtain ⟨_, _, hread⟩ := exists_readValue_eq depth
  rw [hread, reads_spaced_iff, reads_spaced_iff, skipSpace_skipSpace]

/-- A value does not start with a closing bracket. -/
theorem exists_cons_of_reads_readValue (h : Reads (readValue depth) text value rest) :
    ∃ c more, skipSpace text = c :: more ∧ c ≠ ']' := by
  obtain ⟨_, _, hread⟩ := exists_readValue_eq depth
  rw [hread, reads_spaced_iff] at h
  cases hskip : skipSpace text with
  | nil =>
    rw [hskip] at h
    obtain ⟨_, hr⟩ := h
    cases hr
  | cons c more =>
    refine ⟨c, more, rfl, ?_⟩
    rintro rfl
    rw [hskip] at h
    obtain ⟨_, hr⟩ := h
    cases hr

/-- A value that does not start with space. -/
theorem legible_of_plain {c : Char} (hc : ¬ isSpace c = true)
    (h : ∀ readArrayRest readObjectRest rest, EndsNumber rest →
      Reads (readPlainValue readArrayRest readObjectRest) (c :: (text ++ rest)) value rest) :
    Legible (readValue depth) (c :: text) value := by
  intro rest hrest
  obtain ⟨readArrayRest, readObjectRest, hread⟩ := exists_readValue_eq depth
  rw [hread, reads_spaced_iff, List.cons_append, skipSpace_cons_of_not hc]
  exact h readArrayRest readObjectRest rest hrest

/-- Null is read. -/
theorem legible_null : Legible (readValue depth) "null".toList .null :=
  legible_of_plain (by decide) fun _ _ rest _ =>
    ⟨(List.suffix_append "null".toList rest).length_le, rfl⟩

/-- A boolean is read by its name. -/
theorem legible_true : Legible (readValue depth) "true".toList (.bool true) :=
  legible_of_plain (by decide) fun _ _ rest _ =>
    ⟨(List.suffix_append "true".toList rest).length_le, rfl⟩

theorem legible_false : Legible (readValue depth) "false".toList (.bool false) :=
  legible_of_plain (by decide) fun _ _ rest _ =>
    ⟨(List.suffix_append "false".toList rest).length_le, rfl⟩

/-- **A string in quotes is read.** -/
theorem legible_string (s : String) : Legible (readValue depth) (quoted s) (.string s) := by
  refine legible_of_plain (by decide) fun readArrayRest readObjectRest rest _ => ?_
  obtain ⟨body, hbody, _, hr⟩ := reads_quoted s rest
  rw [← List.cons_append]
  change Reads _ (quoted s ++ rest) _ _
  rw [hbody, Reads, readPlainValue, hr]
  exact ⟨_, rfl⟩

/-- A numeral starts with a sign or a digit. -/
theorem exists_cons_of_reads_readNumber {n : JsonNumber} (h : Reads readNumber text n rest) :
    ∃ c more, text = c :: more ∧ (c = '-' ∨ c.isDigit = true) := by
  obtain ⟨_, hr⟩ := h
  cases text with
  | nil => cases hr
  | cons c more =>
    refine ⟨c, more, rfl, ?_⟩
    by_contra hc
    obtain ⟨hminus, hdigit⟩ := not_or.1 hc
    have hspan : spanDigits (c :: more) = ([], c :: more) := by rw [spanDigits, if_neg hdigit]
    rw [readNumber] at hr
    · obtain ⟨digits, hdigits, -⟩ := bind_eq_ok_iff.1 hr
      rw [readDigits] at hdigits
      split at hdigits
      · cases hdigits
      · rename_i hne hfound _
        rw [hspan] at hfound
        cases hfound
        exact hne rfl
    · rintro _ ⟨rfl, -⟩
      exact hminus rfl

/-- **A number is read**, if its text is read as a numeral. -/
theorem legible_number {n : JsonNumber} {chars : List Char} (h : Legible readNumber chars n) :
    Legible (readValue depth) chars (.number n) := by
  intro rest hrest
  obtain ⟨readArrayRest, readObjectRest, hread⟩ := exists_readValue_eq depth
  obtain ⟨c, more, hcons, hc⟩ := exists_cons_of_reads_readNumber (h rest hrest)
  obtain ⟨_, hr⟩ := h rest hrest
  -- Signs and digits are neither space nor the start of any other value.
  have hspace : ¬ isSpace c = true := by
    intro hspace
    simp only [isSpace, Bool.or_eq_true, beq_iff_eq] at hspace
    rcases hspace with ((rfl | rfl) | rfl) | rfl <;> exact absurd hc (by decide)
  rw [hread, reads_spaced_iff, hcons, skipSpace_cons_of_not hspace, Reads, readPlainValue]
  · rw [if_pos hc, ← hcons, hr]
    exact ⟨_, rfl⟩
  all_goals
    rintro rfl
    exact absurd hc (by decide)

/-! ## Arrays -/

/-- The last element, with the bracket after it. -/
theorem reads_readItems_last {after : List Char} {readElement : Reader Json}
    (h : Reads readElement text value after) (hafter : skipSpace after = ']' :: rest) :
    Reads (readItems readElement) text [value] rest := by
  obtain ⟨hle, hr⟩ := h
  have hlt := length_lt_of_skipSpace_eq_cons hafter
  refine ⟨by omega, ?_⟩
  rw [readItems, hr, ok_bind]
  dsimp only
  -- The reader tries the end of the text, the bracket, a comma and anything else in turn.
  split
  · rename_i hskip
    cases hskip.symm.trans hafter
  · rename_i hskip
    cases hskip.symm.trans hafter
    rfl
  · rename_i hskip
    cases hskip.symm.trans hafter
  · rename_i hbracket _ hskip
    exact absurd (hskip.symm.trans hafter) (by simp_all)

/-- An element with a comma after it, where another element is due. -/
theorem reads_readItems_cons {after next : List Char} {readElement : Reader Json}
    {values : List Json} {c : Char} {more : List Char}
    (h : Reads readElement text value after) (hafter : skipSpace after = ',' :: next)
    (hnext : skipSpace next = c :: more) (hc : c ≠ ']')
    (hitems : Reads (readItems readElement) (skipSpace next) values rest) :
    Reads (readItems readElement) text (value :: values) rest := by
  obtain ⟨hle, hr⟩ := h
  obtain ⟨hrestLe, hrest⟩ := hitems
  have hlt := length_lt_of_skipSpace_eq_cons hafter
  have hspace := length_skipSpace_le next
  refine ⟨by omega, ?_⟩
  rw [readItems, hr, ok_bind]
  dsimp only
  -- Of the four branches only that of the comma is met, and in it no bracket follows.
  split
  · rename_i hskip
    cases hskip.symm.trans hafter
  · rename_i hskip
    cases hskip.symm.trans hafter
  · rename_i hskip
    cases hskip.symm.trans hafter
    split
    · rename_i hbracket
      cases hbracket.symm.trans hnext
      exact absurd rfl hc
    · rw [hrest]
      rfl
  · rename_i hcomma hskip
    exact absurd (hskip.symm.trans hafter) (by simp_all)

/-- **Texts with commas between them**, each after a gap. -/
def separated (gap : List Char) : List (List Char) → List Char
  | [] => []
  | [text] => gap ++ text
  | text :: rest => gap ++ text ++ ',' :: separated gap rest

/-- Two texts have a comma between them. -/
theorem separated_cons_cons (gap text second : List Char) (rest : List (List Char)) :
    separated gap (text :: second :: rest) = gap ++ text ++ ',' :: separated gap (second :: rest) :=
  rfl

/-- Each of the texts is a part of the whole. -/
theorem infix_separated (gap : List Char) {texts : List (List Char)} (h : text ∈ texts) :
    text <:+: separated gap texts := by
  induction texts with
  | nil => cases h
  | cons first rest ih =>
    cases rest with
    | nil =>
      rw [List.mem_singleton.1 h]
      exact (List.suffix_append _ _).isInfix
    | cons second more =>
      rw [separated_cons_cons]
      rcases List.mem_cons.1 h with rfl | h
      · exact List.infix_append _ _ _
      · exact (ih h).trans ((List.suffix_cons _ _).trans (List.suffix_append _ _)).isInfix

/-- A value is read after a gap. -/
theorem Legible.reads_after_gap (h : Legible (readValue depth) text value) (hgap : IsGap gap)
    (hrest : EndsNumber rest) : Reads (readValue depth) (gap ++ (text ++ rest)) value rest := by
  rw [← reads_readValue_skipSpace_iff, skipSpace_append_of_isGap hgap,
    reads_readValue_skipSpace_iff]
  exact h rest hrest

/-- Elements do not start with a closing bracket. -/
theorem exists_cons_of_reads_readItems {values : List Json}
    (h : Reads (readItems (readValue depth)) text values rest) :
    ∃ c more, skipSpace text = c :: more ∧ c ≠ ']' := by
  obtain ⟨first, after, hfirst, -⟩ := reads_readItems_cases h
  exact exists_cons_of_reads_readValue hfirst

variable {closing : List Char}

/-- A character that closes or separates values, after space. -/
theorem skipSpace_append_cons (hclosing : IsGap closing) {c : Char} (hc : ¬ isSpace c = true)
    (rest : List Char) : skipSpace (closing ++ c :: rest) = c :: rest := by
  rw [skipSpace_append_of_isGap hclosing, skipSpace_cons_of_not hc]

/-- Elements with commas between them are read up to the bracket. -/
theorem reads_readItems_separated {texts : List (List Char)} {values : List Json}
    (h : List.Forall₂ (Legible (readValue depth)) texts values) (hne : texts ≠ [])
    (hgap : IsGap gap) (hclosing : IsGap closing) (rest : List Char) :
    Reads (readItems (readValue depth))
      (skipSpace (separated gap texts ++ (closing ++ ']' :: rest))) values rest := by
  -- Along the elements: each is read up to the comma or bracket after it, which ends it.
  induction h with
  | nil => exact absurd rfl hne
  | @cons text value texts values hfirst hothers ih =>
    cases hothers with
    | nil =>
      have hends : EndsNumber (closing ++ ']' :: rest) :=
        endsNumber_append_of_isGap hclosing (endsNumber_cons (by decide))
      refine reads_readItems_last ?_ (skipSpace_append_cons hclosing (by decide) rest)
      rw [reads_readValue_skipSpace_iff, separated, List.append_assoc]
      exact hfirst.reads_after_gap hgap hends
    | cons hsecond hmore =>
      -- What follows the comma is read as the other elements, so it is no bracket.
      have hitems := ih (List.cons_ne_nil _ _)
      obtain ⟨c, more, hnext, hc⟩ := exists_cons_of_reads_readItems hitems
      rw [skipSpace_skipSpace] at hnext
      refine reads_readItems_cons ?_ (skipSpace_cons_of_not (by decide) _) hnext hc hitems
      rw [reads_readValue_skipSpace_iff, separated_cons_cons, List.append_assoc,
        List.append_assoc, List.cons_append]
      exact hfirst.reads_after_gap hgap (endsNumber_cons (by decide))

/-- An array after its opening bracket. -/
theorem reads_readPlainValue_array {readArrayRest readObjectRest : Reader Json}
    (h : Reads readArrayRest text value rest) :
    Reads (readPlainValue readArrayRest readObjectRest) ('[' :: text) value rest := by
  obtain ⟨hle, hr⟩ := h
  refine ⟨Nat.le_succ_of_le hle, ?_⟩
  rw [readPlainValue, hr]
  rfl

/-- An empty array is read where arrays may nest. -/
theorem legible_array_nil (hclosing : IsGap closing) :
    Legible (readValue (depth + 1)) ('[' :: (closing ++ [']'])) (.array []) := by
  intro rest hrest
  have hskip : skipSpace (closing ++ [']'] ++ rest) = ']' :: rest := by
    rw [List.append_assoc]
    exact skipSpace_append_cons hclosing (by decide) rest
  rw [readValue, reads_spaced_iff, List.cons_append, skipSpace_cons_of_not (by decide)]
  have hle := length_lt_of_skipSpace_eq_cons hskip
  refine reads_readPlainValue_array ⟨hle.le, ?_⟩
  rw [readArray]
  -- The bracket is found before any element is tried.
  split
  · rename_i hfound
    cases hfound.symm.trans hskip
  · rename_i hfound
    cases hfound.symm.trans hskip
    rfl
  · rename_i hbracket _ hfound
    exact absurd (hfound.symm.trans hskip) (by simp_all)

/-- **An array is read** where its elements are, one level deeper. -/
theorem legible_array_of_reads {inner : List Char} {values : List Json}
    (h : ∀ rest, Reads (readItems (readValue depth)) (skipSpace (inner ++ ']' :: rest)) values rest) :
    Legible (readValue (depth + 1)) ('[' :: (inner ++ [']'])) (.array values) := by
  intro rest hrest
  have hitems := h rest
  obtain ⟨c, more, hskip, hc⟩ := exists_cons_of_reads_readItems hitems
  rw [skipSpace_skipSpace] at hskip
  rw [readValue, reads_spaced_iff, List.cons_append, skipSpace_cons_of_not (by decide),
    List.append_assoc, List.singleton_append]
  refine reads_readPlainValue_array ⟨hitems.1.trans (length_skipSpace_le _), ?_⟩
  rw [readArray]
  -- The elements start with another character than the bracket.
  split
  · rename_i hfound
    cases hfound.symm.trans hskip
  · rename_i hfound
    cases hfound.symm.trans hskip
    exact absurd rfl hc
  · rename_i hbracket hfound
    rw [hfound] at hitems
    obtain ⟨_, hr⟩ := hitems
    rw [hr]
    rfl

/-- Elements with commas between them make an array. -/
theorem legible_array {texts : List (List Char)} {values : List Json}
    (h : List.Forall₂ (Legible (readValue depth)) texts values) (hne : texts ≠ [])
    (hgap : IsGap gap) (hclosing : IsGap closing) :
    Legible (readValue (depth + 1)) ('[' :: (separated gap texts ++ closing ++ [']']))
      (.array values) := by
  refine legible_array_of_reads fun rest => ?_
  rw [List.append_assoc]
  exact reads_readItems_separated h hne hgap hclosing rest

/-! ## Objects -/

/-- **A key and the text of its value**, with a gap after the colon. -/
def memberText (gap : List Char) (key : String) (text : List Char) : List Char :=
  quoted key ++ ':' :: (gap ++ text)

/-- A member starts with a quote. -/
theorem skipSpace_memberText (key : String) (text rest : List Char) :
    skipSpace (memberText gap key text ++ rest) = memberText gap key text ++ rest :=
  skipSpace_cons_of_not (by decide) _

/-- **A member is read**: a key, a colon and a value. -/
theorem reads_readMember {readElement : Reader Json} {body after next : List Char} {key : String}
    (hkey : Reads readString body key after) (hcolon : skipSpace after = ':' :: next)
    (hvalue : Reads readElement next value rest) :
    Reads (readMember readElement) ('"' :: body) (key, value) rest := by
  obtain ⟨hkeyLe, hkey⟩ := hkey
  obtain ⟨hvalueLe, hvalue⟩ := hvalue
  have hlt := length_lt_of_skipSpace_eq_cons hcolon
  refine ⟨by rw [List.length_cons]; omega, ?_⟩
  rw [readMember, hkey, ok_bind]
  dsimp only
  -- After the key only the branch of the colon is met.
  split
  · rename_i hfound
    cases hfound.symm.trans hcolon
  · rename_i hfound
    cases hfound.symm.trans hcolon
    rw [hvalue]
    rfl
  · rename_i hother _ hfound
    exact absurd (hfound.symm.trans hcolon) (by simp_all)

/-- A member with a legible value is read. -/
theorem legible_member (hgap : IsGap gap) (key : String)
    (h : Legible (readValue depth) text value) :
    Legible (readMember (readValue depth)) (memberText gap key text) (key, value) := by
  intro rest hrest
  have htext : memberText gap key text ++ rest = quoted key ++ ':' :: (gap ++ (text ++ rest)) := by
    rw [memberText, List.append_assoc, List.cons_append, List.append_assoc]
  obtain ⟨body, hbody, hkey⟩ := reads_quoted key (':' :: (gap ++ (text ++ rest)))
  rw [htext, hbody]
  exact reads_readMember hkey (skipSpace_cons_of_not (by decide) _) (h.reads_after_gap hgap hrest)

/-- The last member, with the brace after it. -/
theorem reads_readMembers_last {after : List Char} {readElement : Reader Json}
    {member : String × Json} (h : Reads (readMember readElement) text member after)
    (hafter : skipSpace after = '}' :: rest) :
    Reads (readMembers readElement) text [member] rest := by
  obtain ⟨hle, hr⟩ := h
  have hlt := length_lt_of_skipSpace_eq_cons hafter
  refine ⟨by omega, ?_⟩
  rw [readMembers, hr, ok_bind]
  dsimp only
  -- Of the four branches only that of the brace is met.
  split
  · rename_i hskip
    cases hskip.symm.trans hafter
  · rename_i hskip
    cases hskip.symm.trans hafter
    rfl
  · rename_i hskip
    cases hskip.symm.trans hafter
  · rename_i hbrace _ hskip
    exact absurd (hskip.symm.trans hafter) (by simp_all)

/-- A member with a comma after it, where another member is due. -/
theorem reads_readMembers_cons {after next : List Char} {readElement : Reader Json}
    {member : String × Json} {members : List (String × Json)}
    (h : Reads (readMember readElement) text member after) (hafter : skipSpace after = ',' :: next)
    (hmembers : Reads (readMembers readElement) (skipSpace next) members rest) :
    Reads (readMembers readElement) text (member :: members) rest := by
  obtain ⟨hle, hr⟩ := h
  obtain ⟨hrestLe, hrest⟩ := hmembers
  have hlt := length_lt_of_skipSpace_eq_cons hafter
  have hspace := length_skipSpace_le next
  refine ⟨by omega, ?_⟩
  rw [readMembers, hr, ok_bind]
  dsimp only
  -- Of the four branches only that of the comma is met.
  split
  · rename_i hskip
    cases hskip.symm.trans hafter
  · rename_i hskip
    cases hskip.symm.trans hafter
  · rename_i hskip
    cases hskip.symm.trans hafter
    rw [hrest]
    rfl
  · rename_i hcomma hskip
    exact absurd (hskip.symm.trans hafter) (by simp_all)

/-- Members start with a quote. -/
theorem exists_quote_of_reads_readMembers {readElement : Reader Json}
    {members : List (String × Json)} (h : Reads (readMembers readElement) text members rest) :
    ∃ more, text = '"' :: more := by
  obtain ⟨first, after, hfirst, -⟩ := reads_readMembers_cases h
  obtain ⟨body, _, _, htext, -⟩ := reads_readMember_cases hfirst
  exact ⟨body, htext⟩

variable {inner : List Char}

/-- **A written member is legible**: its key is that of the member, and its value is read. -/
def LegibleMember (depth : Nat) (text : String × List Char) (member : String × Json) : Prop :=
  text.1 = member.1 ∧ Legible (readValue depth) text.2 member.2

/-- The texts of members. -/
def memberTexts (inner : List Char) (texts : List (String × List Char)) : List (List Char) :=
  texts.map fun text => memberText inner text.1 text.2

theorem memberTexts_nil : memberTexts inner [] = [] := rfl

theorem memberTexts_cons (text : String × List Char) (texts : List (String × List Char)) :
    memberTexts inner (text :: texts) =
      memberText inner text.1 text.2 :: memberTexts inner texts := rfl

/-- Members with commas between them are read up to the brace. -/
theorem reads_readMembers_separated {texts : List (String × List Char)}
    {members : List (String × Json)} (h : List.Forall₂ (LegibleMember depth) texts members)
    (hne : texts ≠ []) (hgap : IsGap gap) (hinner : IsGap inner) (hclosing : IsGap closing)
    (rest : List Char) :
    Reads (readMembers (readValue depth))
      (skipSpace (separated gap (memberTexts inner texts) ++ (closing ++ '}' :: rest)))
      members rest := by
  -- Along the members, in the same way.
  induction h with
  | nil => exact absurd rfl hne
  | @cons text member texts members hfirst hothers ih =>
    obtain ⟨key, value⟩ := member
    obtain ⟨rfl, hvalue⟩ := hfirst
    have hmember := legible_member hinner text.1 hvalue
    cases hothers with
    | nil =>
      have hends : EndsNumber (closing ++ '}' :: rest) :=
        endsNumber_append_of_isGap hclosing (endsNumber_cons (by decide))
      refine reads_readMembers_last ?_ (skipSpace_append_cons hclosing (by decide) rest)
      rw [memberTexts_cons, memberTexts_nil, separated, List.append_assoc,
        skipSpace_append_of_isGap hgap, skipSpace_memberText]
      exact hmember _ hends
    | cons hsecond hmore =>
      have hmembers := ih (List.cons_ne_nil _ _)
      refine reads_readMembers_cons ?_ (skipSpace_cons_of_not (by decide) _) hmembers
      rw [memberTexts_cons, memberTexts_cons, separated_cons_cons, List.append_assoc,
        List.append_assoc, List.cons_append, skipSpace_append_of_isGap hgap, skipSpace_memberText]
      exact hmember _ (endsNumber_cons (by decide))

/-- An object after its opening brace. -/
theorem reads_readPlainValue_object {readArrayRest readObjectRest : Reader Json}
    (h : Reads readObjectRest text value rest) :
    Reads (readPlainValue readArrayRest readObjectRest) ('{' :: text) value rest := by
  obtain ⟨hle, hr⟩ := h
  refine ⟨Nat.le_succ_of_le hle, ?_⟩
  rw [readPlainValue, hr]
  rfl

/-- An empty object is read where objects may nest. -/
theorem legible_object_nil (hclosing : IsGap closing) :
    Legible (readValue (depth + 1)) ('{' :: (closing ++ ['}'])) (.object []) := by
  intro rest hrest
  have hskip : skipSpace (closing ++ ['}'] ++ rest) = '}' :: rest := by
    rw [List.append_assoc]
    exact skipSpace_append_cons hclosing (by decide) rest
  rw [readValue, reads_spaced_iff, List.cons_append, skipSpace_cons_of_not (by decide)]
  have hle := length_lt_of_skipSpace_eq_cons hskip
  refine reads_readPlainValue_object ⟨hle.le, ?_⟩
  rw [readObject]
  -- The brace is found before any member is tried.
  split
  · rename_i hfound
    cases hfound.symm.trans hskip
  · rename_i hfound
    cases hfound.symm.trans hskip
    rfl
  · rename_i hbrace _ hfound
    exact absurd (hfound.symm.trans hskip) (by simp_all)

/-- **An object is read** where the values of its members are, one level deeper. It holds its
fields in the order of their keys. -/
theorem legible_object_of_reads {inner : List Char} {members : List (String × Json)}
    (h : ∀ rest, Reads (readMembers (readValue depth)) (skipSpace (inner ++ '}' :: rest)) members
      rest) :
    Legible (readValue (depth + 1)) ('{' :: (inner ++ ['}']))
      (.object (fieldsOfMembers members)) := by
  intro rest hrest
  have hmembers := h rest
  obtain ⟨more, hskip⟩ := exists_quote_of_reads_readMembers hmembers
  rw [readValue, reads_spaced_iff, List.cons_append, skipSpace_cons_of_not (by decide),
    List.append_assoc, List.singleton_append]
  refine reads_readPlainValue_object ⟨hmembers.1.trans (length_skipSpace_le _), ?_⟩
  rw [readObject]
  -- The members start with a quote.
  split
  · rename_i hfound
    cases hfound.symm.trans hskip
  · rename_i hfound
    cases hfound.symm.trans hskip
  · rename_i hbrace hfound
    rw [hfound] at hmembers
    obtain ⟨_, hr⟩ := hmembers
    rw [hr]
    rfl

/-- Members with commas between them make an object. -/
theorem legible_object {texts : List (String × List Char)} {members : List (String × Json)}
    (h : List.Forall₂ (LegibleMember depth) texts members) (hne : texts ≠ []) (hgap : IsGap gap)
    (hinner : IsGap inner) (hclosing : IsGap closing) :
    Legible (readValue (depth + 1))
      ('{' :: (separated gap (memberTexts inner texts) ++ closing ++ ['}']))
      (.object (fieldsOfMembers members)) := by
  refine legible_object_of_reads fun rest => ?_
  rw [List.append_assoc]
  exact reads_readMembers_separated h hne hgap hinner hclosing rest

end Values

end SynthReport.Json
