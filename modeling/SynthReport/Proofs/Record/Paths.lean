import SynthReport.Record

/-! # Where a path leads

What it means for a path of keys to lead to a value, and for it to lead nowhere, told by single
look-ups and without the walk that records use.

* **`Json.LeadsTo`** — key by key, every value on the way but the last is an object with that key;
* **`Json.Breaks`** — the path meets a value without keys, an absent key or a null;
* **`walk_eq_some_iff`**, **`walk_eq_none_iff`** — the walk finds what the path leads to, nulls
  apart, and finds nothing exactly if the path breaks.

A path is written with dots between its keys. **`ofText_text`** — keys without dots can be read
back from that text, so a failure that shows the text names its path. -/

namespace SynthReport

namespace Json

/-- **The path leads from one value to another**, by one key after the other. -/
inductive LeadsTo : Json → FieldPath → Json → Prop where
  | here (value : Json) : LeadsTo value [] value
  | step {value next target : Json} {key : String} {path : FieldPath} :
      value.field? key = some next → LeadsTo next path target → LeadsTo value (key :: path) target

/-- **The path leads nowhere**: some step of it meets a value without keys, an absent key or a
null. -/
inductive Breaks : Json → FieldPath → Prop where
  | noObject {value : Json} {key : String} {path : FieldPath} :
      (∀ fields, value ≠ object fields) → Breaks value (key :: path)
  | absent {fields : List (String × Json)} {key : String} {path : FieldPath} :
      key ∉ fields.map Prod.fst → Breaks (object fields) (key :: path)
  | null {value : Json} {key : String} {path : FieldPath} :
      value.field? key = some .null → Breaks value (key :: path)
  | later {value next : Json} {key : String} {path : FieldPath} :
      value.field? key = some next → Breaks next path → Breaks value (key :: path)

/-! ## Single look-ups -/

/-- A key is looked up in vain exactly if no field has it. -/
theorem lookup_eq_none_iff {key : String} {fields : List (String × Json)} :
    lookup key fields = none ↔ key ∉ fields.map Prod.fst := by
  induction fields with
  | nil => simp [lookup]
  | cons head rest ih =>
    obtain ⟨other, held⟩ := head
    rw [lookup, List.map_cons, List.mem_cons, not_or, ← ih]
    by_cases h : key = other
    · simp [h]
    · simp [h]

/-- What a look-up finds is a field of the object. -/
theorem mem_of_lookup_eq_some {key : String} {value : Json} {fields : List (String × Json)}
    (h : lookup key fields = some value) : (key, value) ∈ fields := by
  induction fields with
  | nil => simp [lookup] at h
  | cons head rest ih =>
    obtain ⟨other, held⟩ := head
    rw [lookup] at h
    split at h
    · rename_i hkey
      rw [hkey, Option.some.inj h]
      exact List.mem_cons_self
    · exact List.mem_cons_of_mem _ (ih h)

/-- Only objects have fields. -/
theorem field?_eq_some_iff {value next : Json} {key : String} :
    value.field? key = some next ↔
      ∃ fields, value = object fields ∧ lookup key fields = some next := by
  cases value <;> simp [field?]

/-- A value has no field with a key if it is no object or the object lacks the key. -/
theorem field?_eq_none_iff {value : Json} {key : String} :
    value.field? key = none ↔
      (∀ fields, value ≠ object fields) ∨
        ∃ fields, value = object fields ∧ key ∉ fields.map Prod.fst := by
  cases value <;> simp [field?, lookup_eq_none_iff]

/-- Only null is null. -/
theorem isNull_iff {value : Json} : value.isNull = true ↔ value = .null := by
  cases value <;> simp [isNull]

/-! ## Longer paths -/

/-- The empty path leads to the value itself. -/
@[simp] theorem leadsTo_nil_iff {value target : Json} :
    value.LeadsTo [] target ↔ target = value := by
  constructor
  · rintro ⟨⟩
    rfl
  · rintro rfl
    exact .here target

/-- A path with a key in front leads through the value of that key. -/
theorem leadsTo_cons_iff {value target : Json} {key : String} {path : FieldPath} :
    value.LeadsTo (key :: path) target ↔
      ∃ next, value.field? key = some next ∧ next.LeadsTo path target := by
  constructor
  · rintro (_ | ⟨hkey, hpath⟩)
    exact ⟨_, hkey, hpath⟩
  · rintro ⟨next, hkey, hpath⟩
    exact .step hkey hpath

/-- A path in two parts leads through the end of the first one. -/
theorem leadsTo_append_iff {value target : Json} {path more : FieldPath} :
    value.LeadsTo (path ++ more) target ↔
      ∃ middle, value.LeadsTo path middle ∧ middle.LeadsTo more target := by
  induction path generalizing value with
  | nil => simp
  | cons key rest ih =>
    rw [List.cons_append, leadsTo_cons_iff]
    constructor
    · rintro ⟨next, hkey, hpath⟩
      obtain ⟨middle, hrest, hmore⟩ := ih.1 hpath
      exact ⟨middle, .step hkey hrest, hmore⟩
    · rintro ⟨middle, hpath, hmore⟩
      obtain ⟨next, hkey, hrest⟩ := leadsTo_cons_iff.1 hpath
      exact ⟨next, hkey, ih.2 ⟨middle, hrest, hmore⟩⟩

/-- A path leads to one value at most. -/
theorem LeadsTo.unique {value first second : Json} {path : FieldPath}
    (hfirst : value.LeadsTo path first) (hsecond : value.LeadsTo path second) :
    first = second := by
  induction hfirst with
  | here value => exact (leadsTo_nil_iff.1 hsecond).symm
  | step hkey _ ih =>
    obtain ⟨next, hnext, hpath⟩ := leadsTo_cons_iff.1 hsecond
    rw [hkey] at hnext
    obtain rfl := Option.some.inj hnext
    exact ih hpath

/-- A path that breaks after another one has led somewhere breaks as a whole. -/
theorem LeadsTo.breaks_append {value middle : Json} {path more : FieldPath}
    (hpath : value.LeadsTo path middle) (hmore : middle.Breaks more) :
    value.Breaks (path ++ more) := by
  induction hpath with
  | here value => exact hmore
  | step hkey _ ih => exact .later hkey (ih hmore)

/-- Null has no keys, so no key leads on from it. -/
theorem not_leadsTo_null_cons {key : String} {path : FieldPath} {target : Json} :
    ¬ Json.null.LeadsTo (key :: path) target := by
  rintro (_ | ⟨hkey, -⟩)
  cases hkey

/-- The empty path breaks nowhere. -/
@[simp] theorem not_breaks_nil (value : Json) : ¬ value.Breaks [] := nofun

/-- A path with a key in front breaks at that key or after it. -/
theorem breaks_cons_iff {value : Json} {key : String} {path : FieldPath} :
    value.Breaks (key :: path) ↔
      value.field? key = none ∨ value.field? key = some .null ∨
        ∃ next, value.field? key = some next ∧ next.Breaks path := by
  rw [field?_eq_none_iff]
  constructor
  · rintro (hvalue | hkey | hnull | ⟨hkey, hpath⟩)
    · exact Or.inl (Or.inl hvalue)
    · exact Or.inl (Or.inr ⟨_, rfl, hkey⟩)
    · exact Or.inr (Or.inl hnull)
    · exact Or.inr (Or.inr ⟨_, hkey, hpath⟩)
  · rintro ((hvalue | ⟨fields, rfl, hkey⟩) | hnull | ⟨next, hkey, hpath⟩)
    · exact .noObject hvalue
    · exact .absent hkey
    · exact .null hnull
    · exact .later hkey hpath

end Json

namespace Record

open Json

/-- **The walk finds what the path leads to.** After at least one step, a null does not count. -/
theorem walk_eq_some_iff {value target : Json} {path : FieldPath} :
    walk value path = some target ↔ value.LeadsTo path target ∧ (path ≠ [] → target ≠ .null) := by
  induction path generalizing value with
  | nil => simp [eq_comm]
  | cons key rest ih =>
    rw [walk_cons, leadsTo_cons_iff]
    cases hkey : value.field? key with
    | none => simp
    | some next =>
      dsimp only
      by_cases hnull : next = .null
      · -- A null on the way ends the walk, and as the last value it is not found.
        subst hnull
        cases rest with
        | nil => simp [isNull]
        | cons other more => simp [isNull, not_leadsTo_null_cons]
      · rw [if_neg (mt isNull_iff.1 hnull), ih]
        cases rest with
        | nil =>
          simp only [leadsTo_nil_iff, Option.some.injEq, exists_eq_left']
          constructor
          · rintro ⟨rfl, -⟩
            exact ⟨rfl, fun _ => hnull⟩
          · rintro ⟨rfl, -⟩
            exact ⟨rfl, by simp⟩
        | cons other more => simp

/-- **The walk finds nothing exactly if the path breaks.** -/
theorem walk_eq_none_iff {value : Json} {path : FieldPath} :
    walk value path = none ↔ value.Breaks path := by
  induction path generalizing value with
  | nil => simp
  | cons key rest ih =>
    rw [walk_cons, breaks_cons_iff]
    cases hkey : value.field? key with
    | none => simp
    | some next =>
      dsimp only
      by_cases hnull : next = .null
      · simp [hnull, isNull]
      · rw [if_neg (mt isNull_iff.1 hnull), ih]
        simp [hnull]

/-- A path that leads to a value other than null is walked to its end. -/
theorem walk_of_leadsTo {value target : Json} {path : FieldPath} (h : value.LeadsTo path target)
    (hnull : target ≠ .null) : walk value path = some target :=
  walk_eq_some_iff.2 ⟨h, fun _ => hnull⟩

/-- The only failure of a field is that its path breaks. -/
theorem field_eq_error_iff {record : Record} {path : FieldPath} {error : RowError} :
    record.field path = .error error ↔
      record.json.Breaks path ∧ error = .missingField path := by
  rw [← walk_eq_none_iff]
  unfold field
  cases walk record.json path with
  | none => simp [eq_comm]
  | some value => simp

end Record

/-! ## Paths as text -/

namespace FieldPath

/-- **A path of at least one key, and none with a dot.** -/
def IsPlain (path : FieldPath) : Prop := path ≠ [] ∧ ∀ key ∈ path, '.' ∉ key.toList

instance (path : FieldPath) : Decidable path.IsPlain := inferInstanceAs (Decidable (_ ∧ _))

/-- One more key without a dot. -/
theorem IsPlain.append_singleton {path : FieldPath} (h : path.IsPlain) {key : String}
    (hkey : '.' ∉ key.toList) : IsPlain (path ++ [key]) := by
  refine ⟨by simp, ?_⟩
  intro other hother
  rcases List.mem_append.1 hother with hother | hother
  · exact h.2 other hother
  · rw [List.mem_singleton.1 hother]
    exact hkey

/-- **A plain path can be read back from its text.** -/
theorem ofText_text {path : FieldPath} (h : path.IsPlain) : ofText path.text = path := by
  have hkeys : path.map String.toList ≠ [] := by simpa using h.1
  rw [ofText, text, String.toList_intercalate, show ".".toList = ['.'] from rfl,
    List.splitOn_intercalate '.' (by simpa using h.2) hkeys, List.map_map]
  simp

end FieldPath

end SynthReport
