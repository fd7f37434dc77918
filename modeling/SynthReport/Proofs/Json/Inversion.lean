import SynthReport.Proofs.Json.Strings

/-! # What was read, part by part

If a reader finds a value at the start of a text, then its parts were found one after the other.

* **`reads_spaced_iff`** — a reader that skips space;
* **`reads_readItems_cases`**, **`reads_readArray_cases`** — an element after another, and an array;
* **`reads_readMember_cases`**, **`reads_readMembers_cases`**, **`reads_readObject_cases`** — a
  member, a member after another, and an object;
* **`PlainReading`**, **`plainReading_of_reads`** — a value by its first character;
* **`reads_array_of_bracket`**, **`reads_object_of_brace`** — what stands behind a bracket. -/

namespace SynthReport.Json

variable {readElement : Reader Json} {text rest : List Char}

/-! ## Space -/

/-- What follows a character after space is shorter than the text. -/
theorem length_lt_of_skipSpace_eq_cons {c : Char} (h : skipSpace text = c :: rest) :
    rest.length < text.length := by
  have hspace := length_skipSpace_le text
  rw [h, List.length_cons] at hspace
  exact hspace

/-- A reader that skips space reads what follows the space. -/
theorem reads_spaced_iff {α : Type} {read : Reader α} {value : α} :
    Reads (spaced read) text value rest ↔ Reads read (skipSpace text) value rest := by
  constructor
  · rintro ⟨_, hr⟩
    obtain ⟨reading, hreading, heq⟩ := map_eq_ok_iff.1 hr
    cases heq
    exact ⟨reading.length_le, hreading⟩
  · rintro ⟨hle, hr⟩
    refine ⟨Nat.le_trans hle (length_skipSpace_le text), ?_⟩
    rw [spaced, hr]
    rfl

/-! ## Arrays -/

/-- **Elements were read**: a first one, and after a comma the others. -/
theorem reads_readItems_cases {items : List Json}
    (h : Reads (readItems readElement) text items rest) :
    ∃ first after, Reads readElement text first after ∧
      (items = [first] ∧ skipSpace after = ']' :: rest ∨
        ∃ next more, items = first :: more ∧ skipSpace after = ',' :: next ∧
          Reads (readItems readElement) (skipSpace next) more rest) := by
  obtain ⟨hle, hr⟩ := h
  rw [readItems] at hr
  obtain ⟨element, helement, hr⟩ := bind_eq_ok_iff.1 hr
  refine ⟨element.value, element.rest, ⟨element.length_le, helement⟩, ?_⟩
  dsimp only at hr
  split at hr
  · -- The text ends after the element.
    cases hr
  · -- The element was the last one.
    rename_i hbracket
    cases hr
    exact Or.inl ⟨rfl, hbracket⟩
  · -- A comma, after which another element is due.
    rename_i hcomma
    split at hr
    · cases hr
    · obtain ⟨tail, htail, heq⟩ := bind_pure_eq_ok_iff.1 hr
      cases heq
      exact Or.inr ⟨_, tail.value, rfl, hcomma, ⟨tail.length_le, htail⟩⟩
  · -- Neither a comma nor a bracket.
    cases hr

/-- **An array was read** after its opening bracket: it is empty, or there are elements. -/
theorem reads_readArray_cases {value : Json} (h : Reads (readArray readElement) text value rest) :
    value = .array [] ∧ skipSpace text = ']' :: rest ∨
      ∃ items, value = .array items ∧ Reads (readItems readElement) (skipSpace text) items rest := by
  obtain ⟨hle, hr⟩ := h
  unfold readArray at hr
  dsimp only at hr
  split at hr
  · cases hr
  · rename_i hbracket
    cases hr
    exact Or.inl ⟨rfl, hbracket⟩
  · rename_i hskip
    obtain ⟨items, hitems, heq⟩ := bind_pure_eq_ok_iff.1 hr
    cases heq
    rw [hskip]
    exact Or.inr ⟨items.value, rfl, items.length_le, hitems⟩

/-! ## Objects -/

/-- **A member was read**: a key, a colon and a value. -/
theorem reads_readMember_cases {member : String × Json}
    (h : Reads (readMember readElement) text member rest) :
    ∃ body after next, text = '"' :: body ∧ Reads readString body member.1 after ∧
      skipSpace after = ':' :: next ∧ Reads readElement next member.2 rest := by
  obtain ⟨hle, hr⟩ := h
  unfold readMember at hr
  split at hr
  · cases hr
  · obtain ⟨key, hkey, hr⟩ := bind_eq_ok_iff.1 hr
    dsimp only at hr
    split at hr
    · -- No text after the key.
      cases hr
    · rename_i hcolon
      obtain ⟨value, hvalue, heq⟩ := bind_pure_eq_ok_iff.1 hr
      cases heq
      exact ⟨_, key.rest, _, rfl, ⟨key.length_le, hkey⟩, hcolon, value.length_le, hvalue⟩
    · -- No colon.
      cases hr
  · -- No key.
    cases hr

/-- **Members were read**: a first one, and after a comma the others. -/
theorem reads_readMembers_cases {members : List (String × Json)}
    (h : Reads (readMembers readElement) text members rest) :
    ∃ first after, Reads (readMember readElement) text first after ∧
      (members = [first] ∧ skipSpace after = '}' :: rest ∨
        ∃ next more, members = first :: more ∧ skipSpace after = ',' :: next ∧
          Reads (readMembers readElement) (skipSpace next) more rest) := by
  obtain ⟨hle, hr⟩ := h
  rw [readMembers] at hr
  obtain ⟨member, hmember, hr⟩ := bind_eq_ok_iff.1 hr
  refine ⟨member.value, member.rest, ⟨member.length_le, hmember⟩, ?_⟩
  dsimp only at hr
  split at hr
  · -- The text ends after the member.
    cases hr
  · -- The member was the last one.
    rename_i hbrace
    cases hr
    exact Or.inl ⟨rfl, hbrace⟩
  · -- A comma, after which another member is due.
    rename_i hcomma
    obtain ⟨tail, htail, heq⟩ := bind_pure_eq_ok_iff.1 hr
    cases heq
    exact Or.inr ⟨_, tail.value, rfl, hcomma, ⟨tail.length_le, htail⟩⟩
  · -- Neither a comma nor a brace.
    cases hr

/-- **An object was read** after its opening brace: it is empty, or there are members. -/
theorem reads_readObject_cases {value : Json} (h : Reads (readObject readElement) text value rest) :
    value = .object [] ∧ skipSpace text = '}' :: rest ∨
      ∃ members, value = .object (fieldsOfMembers members) ∧
        Reads (readMembers readElement) (skipSpace text) members rest := by
  obtain ⟨hle, hr⟩ := h
  unfold readObject at hr
  dsimp only at hr
  split at hr
  · cases hr
  · rename_i hbrace
    cases hr
    exact Or.inl ⟨rfl, hbrace⟩
  · rename_i hskip
    obtain ⟨members, hmembers, heq⟩ := bind_pure_eq_ok_iff.1 hr
    cases heq
    rw [hskip]
    exact Or.inr ⟨members.value, rfl, members.length_le, hmembers⟩

/-! ## Values -/

/-- A literal was read: it stands at the start of the text. -/
theorem reads_readLiteral_cases {value found : Json} {expected : List Char}
    (h : Reads (readLiteral value expected) text found rest) :
    found = value ∧ text = expected ++ rest := by
  obtain ⟨hle, hr⟩ := h
  induction expected generalizing text with
  | nil =>
    cases hr
    exact ⟨rfl, rfl⟩
  | cons c more ih =>
    cases text with
    | nil => cases hr
    | cons d tail =>
      rw [readLiteral_cons] at hr
      split at hr
      · rename_i heq
        obtain ⟨reading, hreading, hsame⟩ := map_eq_ok_iff.1 hr
        cases hsame
        obtain ⟨hvalue, htext⟩ := ih reading.length_le hreading
        exact ⟨hvalue, by rw [heq, List.cons_append, ← htext]⟩
      · cases hr

/-- What was read at the end of a longer text. -/
theorem reads_of_widen {α : Type} {read : Reader α} {short : List Char} {value : α}
    {hshort : short.length ≤ text.length} {hle : rest.length ≤ text.length}
    (h : (read short).map (·.widen hshort) = .ok ⟨value, rest, hle⟩) :
    Reads read short value rest := by
  obtain ⟨reading, hreading, heq⟩ := map_eq_ok_iff.1 h
  cases heq
  exact ⟨reading.length_le, hreading⟩

/-- **How a value was read**, by its first character. -/
inductive PlainReading (readArrayRest readObjectRest : Reader Json) (text rest : List Char) :
    Json → Prop where
  | null (htext : text = "null".toList ++ rest) :
    PlainReading readArrayRest readObjectRest text rest .null
  | true (htext : text = "true".toList ++ rest) :
    PlainReading readArrayRest readObjectRest text rest (.bool true)
  | false (htext : text = "false".toList ++ rest) :
    PlainReading readArrayRest readObjectRest text rest (.bool false)
  | number {n : JsonNumber} (h : Reads readNumber text n rest) :
    PlainReading readArrayRest readObjectRest text rest (.number n)
  | string {body : List Char} {s : String} (htext : text = '"' :: body)
    (h : Reads readString body s rest) :
    PlainReading readArrayRest readObjectRest text rest (.string s)
  | array {body : List Char} {value : Json} (htext : text = '[' :: body)
    (h : Reads readArrayRest body value rest) :
    PlainReading readArrayRest readObjectRest text rest value
  | object {body : List Char} {value : Json} (htext : text = '{' :: body)
    (h : Reads readObjectRest body value rest) :
    PlainReading readArrayRest readObjectRest text rest value

/-- **A value was read** in one of those ways. -/
theorem plainReading_of_reads {readArrayRest readObjectRest : Reader Json} {value : Json}
    (h : Reads (readPlainValue readArrayRest readObjectRest) text value rest) :
    PlainReading readArrayRest readObjectRest text rest value := by
  obtain ⟨hle, hr⟩ := h
  unfold readPlainValue at hr
  split at hr
  · -- No text.
    cases hr
  · -- Null, true and false.
    obtain ⟨rfl, rfl⟩ := reads_readLiteral_cases (reads_of_widen hr)
    exact .null rfl
  · obtain ⟨rfl, rfl⟩ := reads_readLiteral_cases (reads_of_widen hr)
    exact .true rfl
  · obtain ⟨rfl, rfl⟩ := reads_readLiteral_cases (reads_of_widen hr)
    exact .false rfl
  · -- A string, an array and an object.
    obtain ⟨string, hstring, heq⟩ := map_eq_ok_iff.1 hr
    cases heq
    exact .string rfl ⟨string.length_le, hstring⟩
  · exact .array rfl (reads_of_widen hr)
  · exact .object rfl (reads_of_widen hr)
  · -- A numeral, or no value at all.
    split at hr
    · obtain ⟨number, hnumber, heq⟩ := map_eq_ok_iff.1 hr
      cases heq
      exact .number ⟨number.length_le, hnumber⟩
    · cases hr

/-- Behind an opening bracket, an array was read. -/
theorem reads_array_of_bracket {readArrayRest readObjectRest : Reader Json} {value : Json}
    (h : Reads (readPlainValue readArrayRest readObjectRest) ('[' :: text) value rest) :
    Reads readArrayRest text value rest := by
  obtain ⟨_, hr⟩ := h
  exact reads_of_widen hr

/-- Behind an opening brace, an object was read. -/
theorem reads_object_of_brace {readArrayRest readObjectRest : Reader Json} {value : Json}
    (h : Reads (readPlainValue readArrayRest readObjectRest) ('{' :: text) value rest) :
    Reads readObjectRest text value rest := by
  obtain ⟨_, hr⟩ := h
  exact reads_of_widen hr

end SynthReport.Json
