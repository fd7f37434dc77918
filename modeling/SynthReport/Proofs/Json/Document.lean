import SynthReport.Proofs.Json.Layout
import SynthReport.Proofs.Traversal

/-! # Written documents are read back

* **`Printable`** — the values whose text is read: they nest no deeper than the reader goes, and
  their numbers are proper;
* **`Echo`** — what is read of a value: the value itself, up to the order of fields and to the
  digits of doubles;
* **`exists_legible_array`**, **`exists_legible_object`** — parts with any gaps between them are read
  as an echo of the whole;
* **`exists_legible_prettyChars`** — the indented text of a printable value is read as an echo of
  it;
* **`exists_parse_pretty`** — so is the document. -/

namespace SynthReport

namespace Json

/-- **The value nests at most so deep and its numbers are proper.** -/
def Printable : Nat → Json → Prop
  | _, .null => True
  | _, .bool _ => True
  | _, .number n => n.IsProper
  | _, .string _ => True
  | 0, .array _ => False
  | 0, .object _ => False
  | depth + 1, .array items => ∀ item ∈ items, Printable depth item
  | depth + 1, .object fields => ∀ field ∈ fields, Printable depth field.2

section Printable

variable {depth : Nat}

theorem printable_string {s : String} : Printable depth (.string s) := by
  cases depth <;> trivial

theorem printable_number_iff {n : JsonNumber} : Printable depth (.number n) ↔ n.IsProper := by
  cases depth <;> exact Iff.rfl

theorem printable_array_iff {items : List Json} :
    Printable (depth + 1) (.array items) ↔ ∀ item ∈ items, Printable depth item := Iff.rfl

theorem printable_object_iff {fields : List (String × Json)} :
    Printable (depth + 1) (.object fields) ↔ ∀ field ∈ fields, Printable depth field.2 := Iff.rfl

end Printable

/-- **What is read of a written value.** A double is read as some finite double, and an object holds
its fields in the order of their keys. -/
inductive Echo : Json → Json → Prop where
  | null : Echo .null .null
  | bool (b : Bool) : Echo (.bool b) (.bool b)
  | integer (i : Int) : Echo (.number (.integer i)) (.number (.integer i))
  | double {x y : Binary64} : y.isFinite = true →
      Echo (.number (.double x)) (.number (.double y))
  | string (s : String) : Echo (.string s) (.string s)
  | array {items copies : List Json} : List.Forall₂ Echo items copies →
      Echo (.array items) (.array copies)
  | object {fields copies : List (String × Json)} :
      fields.map Prod.fst = copies.map Prod.fst →
        List.Forall₂ Echo (fields.map Prod.snd) (copies.map Prod.snd) →
          Echo (.object fields) (.object (fieldsOfMembers copies))

/-- The echo of an object has the members of the object, each with an echo of its value. -/
theorem Echo.exists_members {fields : List (String × Json)} {value : Json}
    (h : Echo (.object fields) value) :
    ∃ copies, value = .object (fieldsOfMembers copies) ∧
      List.Forall₂ (fun field copy => field.1 = copy.1 ∧ Echo field.2 copy.2) fields copies := by
  -- Only the last way to make an echo is one of an object.
  obtain _ | _ | _ | _ | _ | _ | ⟨hkeys, hvalues⟩ := h
  rename_i copies
  refine ⟨copies, rfl, ?_⟩
  induction fields generalizing copies with
  | nil =>
    rw [List.map_eq_nil_iff.1 hkeys.symm]
    exact .nil
  | cons field rest ih =>
    obtain ⟨copy, more, rfl, hkey, hmore⟩ := List.map_eq_cons_iff.1 hkeys.symm
    obtain _ | ⟨hfirst, hothers⟩ := hvalues
    exact .cons ⟨hkey.symm, hfirst⟩ (ih hmore.symm hothers)

/-- Elements that have no other echo are read as they are. -/
theorem eq_of_forall₂_echo {items copies : List Json} (h : List.Forall₂ Echo items copies)
    (hitems : ∀ item ∈ items, ∀ copy, Echo item copy → item = copy) : items = copies := by
  have heq := forall₂_imp_of_mem h hitems
  rwa [List.forall₂_eq_eq_eq] at heq

/-! ## Numbers -/

/-- **The text of a proper number is read** as that integer, or as some finite double. -/
theorem exists_legible_numberText {n : JsonNumber} (hn : n.IsProper) (depth : Nat) :
    ∃ copy, Echo (.number n) copy ∧ Legible (readValue depth) (numberText n) copy := by
  cases n with
  | integer i =>
    exact ⟨_, .integer i, legible_number (legible_integer hn.1 hn.2)⟩
  | double x =>
    obtain ⟨y, hlegible, hy⟩ := exists_legible_jsonText hn
    exact ⟨_, .double hy, legible_number hlegible⟩

/-! ## Indented text -/

/-- The start of a line is skipped. -/
theorem isGap_newLine (level : Nat) : IsGap (newLine level) := by
  intro c hc
  rcases List.mem_cons.1 hc with rfl | hc
  · decide
  · rw [List.eq_of_mem_replicate hc]
    decide

/-- The space after a colon is skipped. -/
theorem isGap_space : IsGap [' '] := List.forall_mem_singleton.2 (by decide)

/-- Elements stand on lines of their own, with commas between them. -/
theorem prettyItems_eq (level : Nat) (items : List Json) :
    prettyItems level items = separated (newLine level) (items.map (prettyChars level)) := by
  -- The writer tells the last element from the others by looking one element ahead.
  induction items with
  | nil => rw [prettyItems, List.map_nil, separated]
  | cons item rest ih =>
    cases rest with
    | nil => rw [prettyItems, List.map_singleton, separated]
    | cons second more =>
      rw [prettyItems, ih]
      · rfl
      · exact List.cons_ne_nil second more

/-- A member on its line. -/
def memberChars (level : Nat) (field : String × Json) : String × List Char :=
  (field.1, prettyChars level field.2)

/-- Members stand on lines of their own, with commas between them. -/
theorem prettyFields_eq (level : Nat) (fields : List (String × Json)) :
    prettyFields level fields =
      separated (newLine level) (memberTexts [' '] (fields.map (memberChars level))) := by
  induction fields with
  | nil => rw [prettyFields, List.map_nil, memberTexts_nil, separated]
  | cons field rest ih =>
    obtain ⟨key, value⟩ := field
    cases rest with
    | nil =>
      rw [prettyFields, List.map_singleton, memberTexts_cons, memberTexts_nil, separated,
        memberText, memberChars, List.append_assoc]
      rfl
    | cons second more =>
      rw [prettyFields, ih]
      · change _ = newLine level ++ memberText [' '] key (prettyChars level value) ++ ',' ::
          separated (newLine level) (memberTexts [' '] ((second :: more).map (memberChars level)))
        rw [memberText]
        simp only [List.append_assoc, List.cons_append, List.nil_append]
      · exact List.cons_ne_nil second more

/-- The indented text of an array with elements. -/
theorem prettyChars_array {items : List Json} (h : items ≠ []) (level : Nat) :
    prettyChars level (.array items) =
      '[' :: (separated (newLine (level + 1)) (items.map (prettyChars (level + 1))) ++
        newLine level ++ [']']) := by
  rw [prettyChars, prettyItems_eq]
  exact h

/-- The indented text of an object with members. -/
theorem prettyChars_object {fields : List (String × Json)} (h : fields ≠ []) (level : Nat) :
    prettyChars level (.object fields) =
      '{' :: (separated (newLine (level + 1))
        (memberTexts [' '] (fields.map (memberChars (level + 1)))) ++ newLine level ++ ['}']) := by
  rw [prettyChars, prettyFields_eq]
  exact h

/-- **The text of a field is a part of the text of its object.** -/
theorem prettyChars_infix_of_mem {fields : List (String × Json)} {field : String × Json}
    (h : field ∈ fields) (level : Nat) :
    prettyChars (level + 1) field.2 <:+: prettyChars level (.object fields) := by
  have hvalue : prettyChars (level + 1) field.2 <:+:
      memberText [' '] field.1 (prettyChars (level + 1) field.2) :=
    ((List.suffix_append _ _).trans (List.suffix_cons _ _)).isInfix.trans
      (List.suffix_append _ _).isInfix
  have hmember := infix_separated (newLine (level + 1))
    (List.mem_map_of_mem (List.mem_map_of_mem h) :
      memberText [' '] (memberChars (level + 1) field).1 (memberChars (level + 1) field).2 ∈
        memberTexts [' '] (fields.map (memberChars (level + 1))))
  rw [prettyChars_object (List.ne_nil_of_mem h)]
  refine (hvalue.trans hmember).trans ?_
  rw [List.append_assoc]
  exact (List.prefix_append _ _).isInfix.trans (List.suffix_cons _ _).isInfix

/-- The texts of the elements are a part of the text of their array. -/
theorem separated_infix_prettyChars (items : List Json) (level : Nat) :
    separated (newLine (level + 1)) (items.map (prettyChars (level + 1))) <:+:
      prettyChars level (.array items) := by
  cases items with
  | nil => exact List.nil_infix
  | cons item rest =>
    rw [prettyChars_array (List.cons_ne_nil item rest), List.append_assoc]
    exact (List.prefix_append _ _).isInfix.trans (List.suffix_cons _ _).isInfix

/-! ## Documents -/

section Parts

variable {depth : Nat} {text : Json → List Char} {gap inner closing : List Char}

/-- **Elements between brackets**, if each is read one level deeper, whatever its text is. -/
theorem exists_legible_array {items : List Json} (hne : items ≠ []) (hgap : IsGap gap)
    (hclosing : IsGap closing)
    (h : ∀ item ∈ items, ∃ copy, Echo item copy ∧ Legible (readValue depth) (text item) copy) :
    ∃ copy, Echo (.array items) copy ∧ Legible (readValue (depth + 1))
      ('[' :: (separated gap (items.map text) ++ closing ++ [']'])) copy := by
  -- The copies of the elements, chosen one by one, are the copy of the array.
  obtain ⟨copies, hcopies⟩ := exists_forall₂ h
  have htexts : List.Forall₂ (Legible (readValue depth)) (items.map text) copies :=
    List.forall₂_map_left_iff.2 (hcopies.imp fun _ _ h => h.2)
  exact ⟨.array copies, .array (hcopies.imp fun _ _ h => h.1),
    legible_array htexts (by simpa using hne) hgap hclosing⟩

/-- An array without elements. -/
theorem exists_legible_array_nil :
    ∃ copy, Echo (.array []) copy ∧ Legible (readValue (depth + 1)) "[]".toList copy :=
  ⟨_, .array .nil, @legible_array_nil depth [] isGap_nil⟩

/-- **Members between braces**, if each value is read one level deeper. -/
theorem exists_legible_object {fields : List (String × Json)} (hne : fields ≠ [])
    (hgap : IsGap gap) (hinner : IsGap inner) (hclosing : IsGap closing)
    (h : ∀ field ∈ fields, ∃ copy, Echo field.2 copy ∧
      Legible (readValue depth) (text field.2) copy) :
    ∃ copy, Echo (.object fields) copy ∧ Legible (readValue (depth + 1))
      ('{' :: (separated gap (memberTexts inner (fields.map fun field => (field.1, text field.2))) ++
        closing ++ ['}'])) copy := by
  obtain ⟨copies, hcopies⟩ : ∃ copies : List (String × Json),
      List.Forall₂ (fun field copy => field.1 = copy.1 ∧ Echo field.2 copy.2 ∧
        Legible (readValue depth) (text field.2) copy.2) fields copies := by
    refine exists_forall₂ fun field hfield => ?_
    obtain ⟨copy, hecho, hlegible⟩ := h field hfield
    exact ⟨(field.1, copy), rfl, hecho, hlegible⟩
  have htexts : List.Forall₂ (LegibleMember depth)
      (fields.map fun field => (field.1, text field.2)) copies :=
    List.forall₂_map_left_iff.2 (hcopies.imp fun _ _ h => ⟨h.1, h.2.2⟩)
  refine ⟨.object (fieldsOfMembers copies), .object ?_ ?_,
    legible_object htexts (by simpa using hne) hgap hinner hclosing⟩
  · exact map_eq_map_of_forall₂ hcopies fun _ _ h => h.1
  · exact List.forall₂_map_left_iff.2
      (List.forall₂_map_right_iff.2 (hcopies.imp fun _ _ h => h.2.1))

/-- An object without members. -/
theorem exists_legible_object_nil :
    ∃ copy, Echo (.object []) copy ∧
      Legible (readValue (depth + 1)) "\x7b\x7d".toList copy := by
  refine ⟨.object (fieldsOfMembers []), ?_, @legible_object_nil depth [] isGap_nil⟩
  exact @Echo.object [] [] rfl .nil

end Parts

/-- The indented text of an array, if the elements are read one level deeper. -/
theorem exists_legible_prettyChars_array {depth level : Nat} {items : List Json}
    (h : ∀ item ∈ items, ∃ copy, Echo item copy ∧
      Legible (readValue depth) (prettyChars (level + 1) item) copy) :
    ∃ copy, Echo (.array items) copy ∧
      Legible (readValue (depth + 1)) (prettyChars level (.array items)) copy := by
  cases items with
  | nil => exact exists_legible_array_nil
  | cons item items =>
    rw [prettyChars_array (List.cons_ne_nil item items)]
    exact exists_legible_array (List.cons_ne_nil item items) (isGap_newLine _) (isGap_newLine _) h

/-- The indented text of an object, if the values are read one level deeper. -/
theorem exists_legible_prettyChars_object {depth level : Nat} {fields : List (String × Json)}
    (h : ∀ field ∈ fields, ∃ copy, Echo field.2 copy ∧
      Legible (readValue depth) (prettyChars (level + 1) field.2) copy) :
    ∃ copy, Echo (.object fields) copy ∧
      Legible (readValue (depth + 1)) (prettyChars level (.object fields)) copy := by
  cases fields with
  | nil => exact exists_legible_object_nil
  | cons field fields =>
    rw [prettyChars_object (List.cons_ne_nil field fields)]
    exact exists_legible_object (List.cons_ne_nil field fields) (isGap_newLine _) isGap_space
      (isGap_newLine _) h

/-- **The indented text of a printable value is read as an echo of it.** -/
theorem exists_legible_prettyChars : ∀ {depth : Nat} {value : Json}, Printable depth value →
    ∀ level, ∃ copy, Echo value copy ∧ Legible (readValue depth) (prettyChars level value) copy
  | _, .null, _, _ => ⟨_, .null, legible_null⟩
  | _, .bool false, _, _ => ⟨_, .bool false, legible_false⟩
  | _, .bool true, _, _ => ⟨_, .bool true, legible_true⟩
  | depth, .number _, h, _ => exists_legible_numberText (printable_number_iff.1 h) depth
  | _, .string s, _, _ => ⟨_, .string s, legible_string s⟩
  | 0, .array _, h, _ => h.elim
  | 0, .object _, h, _ => h.elim
  | _ + 1, .array _, h, level =>
    exists_legible_prettyChars_array fun item hitem =>
      exists_legible_prettyChars (h item hitem) (level + 1)
  | _ + 1, .object _, h, level =>
    exists_legible_prettyChars_object fun field hfield =>
      exists_legible_prettyChars (h field hfield) (level + 1)

/-- **A legible text is read as a whole document.** -/
theorem parse_of_legible {chars : List Char} {value : Json}
    (h : Legible (readValue maxDepth) chars value) : parse (String.ofList chars) = .ok value := by
  have hreads := h [] nofun
  rw [List.append_nil] at hreads
  obtain ⟨_, hr⟩ := hreads
  rw [parse, String.toList_ofList, hr]
  rfl

/-- **A printable document is read as an echo of it.** -/
theorem exists_parse_pretty {value : Json} (h : Printable maxDepth value) :
    ∃ copy, parse value.pretty = .ok copy ∧ Echo value copy := by
  obtain ⟨copy, hecho, hlegible⟩ := exists_legible_prettyChars h 0
  exact ⟨copy, parse_of_legible hlegible, hecho⟩

end Json

end SynthReport
