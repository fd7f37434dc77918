import SynthReport.Proofs.Json.Reader
import SynthReport.Proofs.Record.Accessors
import SynthReport.Record.Load

/-! # Values whose numbers are finite

* **`Json.Within`** — a value occurs in another one, at any depth;
* **`Json.NumbersFinite`** — every number in a value is finite as a double;
* **`isFinite_of_leadsTo`**, **`isFinite_time`** — and so is what a record gives of such a value;
* **`numbersFinite_of_parse`**, **`numbersFinite_of_parseAll`** — every value that is read from text
  is such a value. -/

namespace SynthReport

namespace Json

/-- **A value occurs in another one**: it is that value, or occurs in an element or a field of
it. -/
inductive Within (part : Json) : Json → Prop where
  | self : Within part part
  | item {items : List Json} {item : Json} : item ∈ items → Within part item →
      Within part (array items)
  | field {fields : List (String × Json)} {key : String} {value : Json} :
      (key, value) ∈ fields → Within part value → Within part (object fields)

/-- **Every number in the value is finite as a double.** -/
def NumbersFinite (value : Json) : Prop :=
  ∀ n, Within (number n) value → n.toBinary64.isFinite = true

@[simp] theorem numbersFinite_null : NumbersFinite .null := nofun

@[simp] theorem numbersFinite_bool (b : Bool) : NumbersFinite (.bool b) := nofun

@[simp] theorem numbersFinite_string (s : String) : NumbersFinite (.string s) := nofun

@[simp] theorem numbersFinite_number_iff {n : JsonNumber} :
    NumbersFinite (.number n) ↔ n.toBinary64.isFinite = true := by
  constructor
  · intro h
    exact h n .self
  · rintro h m ⟨⟩
    exact h

/-- The numbers of an array are those of its elements. -/
@[simp] theorem numbersFinite_array_iff {items : List Json} :
    NumbersFinite (.array items) ↔ ∀ item ∈ items, item.NumbersFinite := by
  constructor
  · intro h item hitem n hn
    exact h n (.item hitem hn)
  · rintro h n (_ | ⟨hitem, hn⟩)
    exact h _ hitem n hn

/-- The numbers of an object are those of its fields. -/
@[simp] theorem numbersFinite_object_iff {fields : List (String × Json)} :
    NumbersFinite (.object fields) ↔ ∀ field ∈ fields, field.2.NumbersFinite := by
  constructor
  · intro h field hfield n hn
    exact h n (.field hfield hn)
  · rintro h n (_ | _ | ⟨hfield, hn⟩)
    exact h _ hfield n hn

/-! ## Along paths -/

/-- What a path leads to occurs in the value. -/
theorem LeadsTo.within {value target : Json} {path : FieldPath} (h : value.LeadsTo path target) :
    Within target value := by
  induction h with
  | here value => exact .self
  | step hkey _ ih =>
    obtain ⟨fields, rfl, hlookup⟩ := field?_eq_some_iff.1 hkey
    exact .field (mem_of_lookup_eq_some hlookup) ih

/-- What occurs in a part occurs in the whole. -/
theorem Within.trans {part middle value : Json} (hpart : Within part middle)
    (hmiddle : Within middle value) : Within part value := by
  induction hmiddle with
  | self => exact hpart
  | item hitem _ ih => exact .item hitem ih
  | field hfield _ ih => exact .field hfield ih

/-- What a path leads to has no other numbers than the value. -/
theorem NumbersFinite.of_leadsTo {value target : Json} (h : value.NumbersFinite)
    {path : FieldPath} (hpath : value.LeadsTo path target) : target.NumbersFinite := by
  intro n hn
  exact h n (hn.trans hpath.within)

/-- A number that a path leads to is finite. -/
theorem NumbersFinite.isFinite_of_leadsTo {value : Json} (h : value.NumbersFinite)
    {path : FieldPath} {n : JsonNumber} (hpath : value.LeadsTo path (.number n)) :
    n.toBinary64.isFinite = true :=
  h n hpath.within

/-! ## From text -/

/-- Putting in a field adds no other one. -/
theorem mem_insertField {key : String} {value : Json} {fields : List (String × Json)}
    {field : String × Json} (h : field ∈ insertField key value fields) :
    field = (key, value) ∨ field ∈ fields := by
  induction fields with
  | nil => exact Or.inl (List.mem_singleton.1 h)
  | cons head rest ih =>
    obtain ⟨other, held⟩ := head
    rw [insertField] at h
    split at h
    · -- The key is that of the head.
      rcases List.mem_cons.1 h with h | h
      · exact Or.inl h
      · exact Or.inr (List.mem_cons_of_mem _ h)
    · split at h
      · -- It stands before the head.
        exact List.mem_cons.1 h
      · -- It stands somewhere after the head.
        rcases List.mem_cons.1 h with h | h
        · exact Or.inr (h ▸ List.mem_cons_self)
        · exact (ih h).imp id (List.mem_cons_of_mem _)

/-- The fields of an object are members of its text. -/
theorem mem_of_mem_fieldsOfMembers {members : List (String × Json)} {field : String × Json}
    (h : field ∈ fieldsOfMembers members) : field ∈ members := by
  -- Going through the members, every field so far is one of those that were put in.
  have hfold : ∀ (members fields : List (String × Json)),
      field ∈ members.foldl (fun fields member => insertField member.1 member.2 fields) fields →
        field ∈ fields ∨ field ∈ members := by
    intro members
    induction members with
    | nil => exact fun fields h => Or.inl h
    | cons member rest ih =>
      intro fields h
      rw [List.mem_cons]
      rcases ih _ h with h | h
      · rcases mem_insertField h with h | h
        · exact Or.inr (Or.inl h)
        · exact Or.inl h
      · exact Or.inr (Or.inr h)
  exact (hfold members [] h).resolve_left List.not_mem_nil

/-- Finite numbers pass from the parts of values that are read to the whole. -/
theorem readInduction_numbersFinite (bound : Nat) : ReadInduction bound NumbersFinite where
  null := numbersFinite_null
  bool := numbersFinite_bool
  number _ hn := numbersFinite_number_iff.2 hn.isFinite
  string := numbersFinite_string
  array _ _ hitems := numbersFinite_array_iff.2 hitems
  object _ hmembers := numbersFinite_object_iff.2 fun field hfield =>
    hmembers field (mem_of_mem_fieldsOfMembers hfield)

/-- **Every number that is read from a document is finite.** -/
theorem numbersFinite_of_parse {document : String} {value : Json}
    (h : parse document = .ok value) : value.NumbersFinite :=
  (readInduction_numbersFinite _).of_parse h

end Json

namespace Record

/-- Records are elements of the array. -/
theorem mem_of_ofItems {index : Nat} {items : List Json} {records : List Record}
    (h : ofItems index items = .ok records) : ∀ record ∈ records, record.json ∈ items := by
  induction items generalizing index records with
  | nil =>
    rw [← Except.ok.inj h]
    exact nofun
  | cons item rest ih =>
    cases item with
    | object fields =>
      obtain ⟨others, hothers, rfl⟩ := map_eq_ok_iff.1 h
      intro record hrecord
      rcases List.mem_cons.1 hrecord with rfl | hrecord
      · exact List.mem_cons_self
      · exact List.mem_cons_of_mem _ (ih hothers record hrecord)
    | null => cases h
    | bool b => cases h
    | number n => cases h
    | string s => cases h
    | array items => cases h

/-- **The numbers in loaded records are finite.** -/
theorem numbersFinite_of_parseAll {document : String} {records : List Record}
    (h : parseAll document = .ok records) : ∀ record ∈ records, record.json.NumbersFinite := by
  rw [parseAll] at h
  split at h
  · cases h
  · rename_i items hitems
    have hfinite := Json.numbersFinite_array_iff.1 (Json.numbersFinite_of_parse hitems)
    intro record hrecord
    exact hfinite record.json (mem_of_ofItems h record hrecord)
  · cases h

end Record

/-- The time of a result in such a value is finite. -/
theorem Derivability.IsAt.isFinite_time {d : Derivability} {json : Json} {path : FieldPath}
    (hd : d.IsAt json path) (hfinite : json.NumbersFinite) : d.time.isFinite = true := by
  obtain ⟨n, htime, hn⟩ := hd.time
  rw [hn]
  exact hfinite.isFinite_of_leadsTo htime

end SynthReport
