import SynthReport.Proofs.Json.Finite

/-! # How long the arrays are that are read

Every element takes up at least one character of its document.

* **`Json.ArraysUpTo`** — no array in a value is longer than a bound;
* **`arraysUpTo_of_parse`**, **`arraysUpTo_of_parseAll`** — a document has no longer arrays than its
  text. -/

namespace SynthReport

namespace Json

/-- **No array in the value is longer than the bound.** -/
def ArraysUpTo (bound : Nat) (value : Json) : Prop :=
  ∀ items, Within (array items) value → items.length ≤ bound

variable {bound : Nat}

/-- The arrays in an array are itself and those of its elements. -/
theorem arraysUpTo_array_iff {items : List Json} :
    ArraysUpTo bound (.array items) ↔
      items.length ≤ bound ∧ ∀ item ∈ items, item.ArraysUpTo bound := by
  constructor
  · intro h
    exact ⟨h items .self, fun item hitem more hmore => h more (.item hitem hmore)⟩
  · rintro ⟨hlength, hitems⟩ more (_ | ⟨hitem, hmore⟩)
    · exact hlength
    · exact hitems _ hitem more hmore

/-- The bound passes from the parts of values that are read to the whole. -/
theorem readInduction_arraysUpTo (bound : Nat) : ReadInduction bound (ArraysUpTo bound) where
  null := nofun
  bool _ := nofun
  number _ _ := nofun
  string _ := nofun
  array _ hlength hitems := arraysUpTo_array_iff.2 ⟨hlength, hitems⟩
  object _ hmembers := by
    rintro items (_ | _ | ⟨hfield, hitems⟩)
    exact hmembers _ (mem_of_mem_fieldsOfMembers hfield) items hitems

/-- **A document has no longer arrays than its text.** -/
theorem arraysUpTo_of_parse {document : String} {value : Json} (h : parse document = .ok value) :
    value.ArraysUpTo document.length :=
  (readInduction_arraysUpTo _).of_parse h

/-- An array that a path leads to is in the value. -/
theorem ArraysUpTo.length_le {value : Json} (h : value.ArraysUpTo bound) {path : FieldPath}
    {items : List Json} (hpath : value.LeadsTo path (.array items)) : items.length ≤ bound :=
  h items hpath.within

end Json

namespace Record

/-- There are as many records as elements. -/
theorem length_of_ofItems {index : Nat} {items : List Json} {records : List Record}
    (h : ofItems index items = .ok records) : records.length = items.length := by
  induction items generalizing index records with
  | nil =>
    rw [← Except.ok.inj h]
    rfl
  | cons item rest ih =>
    cases item with
    | object fields =>
      obtain ⟨others, hothers, rfl⟩ := map_eq_ok_iff.1 h
      rw [List.length_cons, List.length_cons, ih hothers]
    | null => cases h
    | bool b => cases h
    | number n => cases h
    | string s => cases h
    | array items => cases h

/-- **The records of a document are no more than its characters**, and neither are the elements of
any array in them. -/
theorem arraysUpTo_of_parseAll {document : String} {records : List Record}
    (h : parseAll document = .ok records) :
    records.length ≤ document.length ∧
      ∀ record ∈ records, record.json.ArraysUpTo document.length := by
  rw [parseAll] at h
  split at h
  · cases h
  · rename_i items hitems
    obtain ⟨hlength, hall⟩ := Json.arraysUpTo_array_iff.1 (Json.arraysUpTo_of_parse hitems)
    rw [length_of_ofItems h]
    exact ⟨hlength, fun record hrecord => hall record.json (mem_of_ofItems h record hrecord)⟩
  · cases h

end Record

end SynthReport
