import SynthReport.Proofs.Json.Inversion
import SynthReport.Proofs.Json.Numeral

/-! # What the values that are read have in common

A property of JSON values holds of every value that is read, if it holds of the literals, of strings
and of proper numbers, and passes from the parts of arrays and objects to the whole. An array may be
taken to have no more elements than the text has characters.

* **`ReadInduction`** — those conditions on a property;
* **`YieldsUpTo`** — a reader gives only values with a property to texts of at most some length;
* **`yields_readItems`**, **`yields_readMembers`** — elements and members, for any reader of values;
* **`yields_readValue`** — values that nest up to some depth;
* **`ReadInduction.of_parse`** — whole documents. -/

namespace SynthReport.Json

/-- **A property that passes from parts to whole values**, for values as they are read from texts of
at most some length. -/
structure ReadInduction (bound : Nat) (P : Json → Prop) : Prop where
  null : P .null
  bool : ∀ b, P (.bool b)
  number : ∀ n : JsonNumber, n.IsProper → P (.number n)
  string : ∀ s, P (.string s)
  array : ∀ items : List Json, items.length ≤ bound → (∀ item ∈ items, P item) → P (.array items)
  object : ∀ members : List (String × Json), (∀ member ∈ members, P member.2) →
    P (.object (fieldsOfMembers members))

/-- **The reader gives only values with the property** to texts of at most some length. -/
def YieldsUpTo {α : Type} (bound : Nat) (P : α → Prop) (read : Reader α) : Prop :=
  ∀ {text value rest}, text.length ≤ bound → Reads read text value rest → P value

variable {bound : Nat} {P : Json → Prop} {readElement : Reader Json} {text rest : List Char}

/-- **The elements of an array** have a property that the reader of elements gives them, and there
are no more of them than characters. -/
theorem yields_readItems (hread : YieldsUpTo bound P readElement) (htext : text.length ≤ bound)
    {items : List Json} (h : Reads (readItems readElement) text items rest) :
    items.length ≤ text.length ∧ ∀ item ∈ items, P item := by
  induction hlength : text.length using Nat.strong_induction_on generalizing text items with
  | _ length ih =>
    obtain ⟨first, after, helement, hafter⟩ := reads_readItems_cases h
    have hfirst := hread htext helement
    obtain ⟨hle, -⟩ := helement
    rcases hafter with ⟨rfl, hbracket⟩ | ⟨next, more, rfl, hcomma, hmore⟩
    · have hlt := length_lt_of_skipSpace_eq_cons hbracket
      exact ⟨by rw [List.length_singleton]; omega, List.forall_mem_singleton.2 hfirst⟩
    · -- After a comma there is less text than before.
      have hlt := length_lt_of_skipSpace_eq_cons hcomma
      have hspace := length_skipSpace_le next
      obtain ⟨hcount, hrest⟩ := ih _ (by omega) (by omega) hmore rfl
      refine ⟨?_, List.forall_mem_cons.2 ⟨hfirst, hrest⟩⟩
      rw [List.length_cons]
      omega

/-- An array after its opening bracket. -/
theorem yields_readArray (hP : ReadInduction bound P) (hread : YieldsUpTo bound P readElement) :
    YieldsUpTo bound P (readArray readElement) := by
  intro text value rest htext h
  obtain ⟨rfl, -⟩ | ⟨items, rfl, hitems⟩ := reads_readArray_cases h
  · exact hP.array [] (Nat.zero_le _) nofun
  · have hspace := (length_skipSpace_le text).trans htext
    obtain ⟨hcount, hall⟩ := yields_readItems hread hspace hitems
    exact hP.array items (hcount.trans hspace) hall

/-- A member has a value that the reader of values gives. -/
theorem yields_readMember (hread : YieldsUpTo bound P readElement) :
    YieldsUpTo bound (fun member => P member.2) (readMember readElement) := by
  intro text member rest htext h
  obtain ⟨body, after, next, rfl, ⟨hkey, -⟩, hcolon, hvalue⟩ := reads_readMember_cases h
  have hlt := length_lt_of_skipSpace_eq_cons hcolon
  rw [List.length_cons] at htext
  exact hread (by omega) hvalue

/-- **The members of an object** have values that the reader of values gives. -/
theorem yields_readMembers (hread : YieldsUpTo bound P readElement) :
    YieldsUpTo bound (fun members => ∀ member ∈ members, P member.2)
      (readMembers readElement) := by
  intro text members rest htext h
  induction hlength : text.length using Nat.strong_induction_on generalizing text members with
  | _ length ih =>
    obtain ⟨first, after, hmember, hafter⟩ := reads_readMembers_cases h
    have hfirst := yields_readMember hread htext hmember
    obtain ⟨hle, -⟩ := hmember
    rcases hafter with ⟨rfl, -⟩ | ⟨next, more, rfl, hcomma, hmore⟩
    · exact List.forall_mem_singleton.2 hfirst
    · -- After a comma there is less text than before.
      have hlt := length_lt_of_skipSpace_eq_cons hcomma
      have hspace := length_skipSpace_le next
      exact List.forall_mem_cons.2 ⟨hfirst, ih _ (by omega) (by omega) hmore rfl⟩

/-- An object after its opening brace. -/
theorem yields_readObject (hP : ReadInduction bound P) (hread : YieldsUpTo bound P readElement) :
    YieldsUpTo bound P (readObject readElement) := by
  intro text value rest htext h
  obtain ⟨rfl, -⟩ | ⟨members, rfl, hmembers⟩ := reads_readObject_cases h
  · exact hP.object [] nofun
  · exact hP.object members
      (yields_readMembers hread ((length_skipSpace_le text).trans htext) hmembers)

/-- A value without space in front, for readers of arrays and objects. -/
theorem yields_readPlainValue (hP : ReadInduction bound P)
    {readArrayRest readObjectRest : Reader Json} (harray : YieldsUpTo bound P readArrayRest)
    (hobject : YieldsUpTo bound P readObjectRest) :
    YieldsUpTo bound P (readPlainValue readArrayRest readObjectRest) := by
  intro text value rest htext h
  cases plainReading_of_reads h with
  | null => exact hP.null
  | true => exact hP.bool true
  | false => exact hP.bool false
  | number hnumber =>
    obtain ⟨_, hr⟩ := hnumber
    exact hP.number _ (yields_readNumber _ _ hr)
  | string => exact hP.string _
  | array hbracket hrest =>
    rw [hbracket] at htext
    exact harray (Nat.le_of_succ_le htext) hrest
  | object hbrace hrest =>
    rw [hbrace] at htext
    exact hobject (Nat.le_of_succ_le htext) hrest

/-- Skipping space in front changes nothing about the values. -/
theorem yields_spaced {read : Reader Json} (h : YieldsUpTo bound P read) :
    YieldsUpTo bound P (spaced read) := by
  intro text value rest htext hr
  exact h ((length_skipSpace_le text).trans htext) (reads_spaced_iff.1 hr)

/-- Where nothing may be nested any more, nothing is read. -/
theorem yields_tooDeep : YieldsUpTo bound P tooDeep := by
  rintro text value rest - ⟨_, hr⟩
  cases hr

/-- **Values that nest at most so deep** have the property. -/
theorem yields_readValue (hP : ReadInduction bound P) (depth : Nat) :
    YieldsUpTo bound P (readValue depth) := by
  induction depth with
  | zero => exact yields_spaced (yields_readPlainValue hP yields_tooDeep yields_tooDeep)
  | succ depth ih =>
    exact yields_spaced
      (yields_readPlainValue hP (yields_readArray hP ih) (yields_readObject hP ih))

/-- **The value of a document** has the property. -/
theorem ReadInduction.of_parse {document : String} (hP : ReadInduction document.length P)
    {value : Json} (h : parse document = .ok value) : P value := by
  obtain ⟨reading, hreading, h⟩ := bind_eq_ok_iff.1 h
  split at h
  · rw [← Except.ok.inj h]
    exact yields_readValue hP maxDepth String.length_toList.le ⟨reading.length_le, hreading⟩
  · cases h

end SynthReport.Json
