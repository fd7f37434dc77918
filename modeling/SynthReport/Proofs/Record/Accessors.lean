import SynthReport.Proofs.Record.Paths
import SynthReport.Proofs.Traversal

/-! # What the accessors of a record give

For every accessor, exactly when it succeeds and with what, and exactly which failure it has
otherwise.

* **`fieldAs_eq_ok_iff`**, **`fieldAs_eq_error_iff`** — a field taken as one kind of value, and from
  it each of the four kinds;
* **`Derivability.IsAt`** — the object at a path has two arrays of strings and a number;
* **`derivability_eq_ok_iff`**, **`derivability_eq_error_iff`** — the accessor of such a result. -/

namespace SynthReport

/-! ## Values of one kind -/

namespace Json

/-- Only strings are taken as strings. -/
theorem string?_eq_some_iff {value : Json} {s : String} :
    value.string? = some s ↔ value = .string s := by
  cases value <;> simp [string?]

/-- Only numbers are taken as numbers. -/
theorem number?_eq_some_iff {value : Json} {n : JsonNumber} :
    value.number? = some n ↔ value = .number n := by
  cases value <;> simp [number?]

/-- Only arrays have elements. -/
theorem items?_eq_some_iff {value : Json} {items : List Json} :
    value.items? = some items ↔ value = .array items := by
  cases value <;> simp [items?]

/-- **Numbers, strings and booleans.** -/
inductive IsScalar : Json → Prop where
  | number (n : JsonNumber) : IsScalar (.number n)
  | string (s : String) : IsScalar (.string s)
  | bool (b : Bool) : IsScalar (.bool b)

end Json

/-- Only scalars are taken as cells. -/
theorem Cell.exists_ofScalar?_iff {value : Json} :
    (∃ cell, Cell.ofScalar? value = some cell) ↔ value.IsScalar := by
  constructor
  · rintro ⟨cell, hcell⟩
    cases value with
    | null => cases hcell
    | bool b => exact .bool b
    | number n => exact .number n
    | string s => exact .string s
    | array items => cases hcell
    | object fields => cases hcell
  · rintro (n | s | b)
    · exact ⟨_, rfl⟩
    · exact ⟨_, rfl⟩
    · exact ⟨_, rfl⟩

namespace Record

variable {α : Type} {record : Record} {path : FieldPath}

/-- **A field of one kind is there exactly if the path leads to a value of that kind.** -/
theorem fieldAs_eq_ok_iff {read? : Json → Option α} (hnull : read? .null = none)
    {expected : String} {result : α} :
    record.fieldAs read? expected path = .ok result ↔
      ∃ value, record.json.LeadsTo path value ∧ read? value = some result := by
  unfold fieldAs
  rw [bind_eq_ok_iff]
  constructor
  · rintro ⟨value, hfield, hread⟩
    refine ⟨value, (walk_eq_some_iff.1 (field_eq_ok_iff.1 hfield)).1, ?_⟩
    cases h : read? value with
    | none => simp [h, throw, throwThe, MonadExceptOf.throw] at hread
    | some result' => simpa [h, pure, Except.pure] using hread
  · rintro ⟨value, hpath, hread⟩
    -- Nothing is read from null, so the walk does not stop at the value.
    have hvalue : value ≠ .null := by
      rintro rfl
      rw [hnull] at hread
      cases hread
    refine ⟨value, field_eq_ok_iff.2 (walk_of_leadsTo hpath hvalue), ?_⟩
    rw [hread]
    rfl

/-- **A field of one kind fails because its path breaks**, or because what it leads to is of another
kind, nulls apart. -/
theorem fieldAs_eq_error_iff {read? : Json → Option α} {expected : String} {error : RowError} :
    record.fieldAs read? expected path = .error error ↔
      record.json.Breaks path ∧ error = .missingField path ∨
        ∃ value, record.json.LeadsTo path value ∧ (path ≠ [] → value ≠ .null) ∧
          read? value = none ∧ error = .wrongType path expected := by
  unfold fieldAs
  rw [bind_eq_error_iff, field_eq_error_iff]
  refine or_congr_right (exists_congr fun value => ?_)
  rw [field_eq_ok_iff, walk_eq_some_iff, and_assoc]
  refine and_congr_right fun _ => and_congr_right fun _ => ?_
  cases read? value with
  | none => simp [throw, throwThe, MonadExceptOf.throw, eq_comm]
  | some result => simp [pure, Except.pure]

/-- The string at a path. -/
theorem stringAt_eq_ok_iff {s : String} :
    record.stringAt path = .ok s ↔ record.json.LeadsTo path (.string s) := by
  rw [stringAt, fieldAs_eq_ok_iff rfl]
  simp [Json.string?_eq_some_iff]

/-- The number at a path, which is given as a double. -/
theorem numberAt_eq_ok_iff {x : Binary64} :
    record.numberAt path = .ok x ↔
      ∃ n, record.json.LeadsTo path (.number n) ∧ x = n.toBinary64 := by
  rw [numberAt, fieldAs_eq_ok_iff rfl]
  constructor
  · rintro ⟨value, hpath, hread⟩
    obtain ⟨n, hn, rfl⟩ := Option.map_eq_some_iff.1 hread
    exact ⟨n, Json.number?_eq_some_iff.1 hn ▸ hpath, rfl⟩
  · rintro ⟨n, hpath, rfl⟩
    exact ⟨.number n, hpath, rfl⟩

/-- The length of the array at a path. -/
theorem lengthAt_eq_ok_iff {length : Nat} :
    record.lengthAt path = .ok length ↔
      ∃ items, record.json.LeadsTo path (.array items) ∧ length = items.length := by
  rw [lengthAt, fieldAs_eq_ok_iff rfl]
  constructor
  · rintro ⟨value, hpath, hread⟩
    obtain ⟨items, hitems, rfl⟩ := Option.map_eq_some_iff.1 hread
    exact ⟨items, Json.items?_eq_some_iff.1 hitems ▸ hpath, rfl⟩
  · rintro ⟨items, hpath, rfl⟩
    exact ⟨.array items, hpath, rfl⟩

/-- The scalar at a path, as a cell. -/
theorem cellAt_eq_ok_iff {cell : Cell} :
    record.cellAt path = .ok cell ↔
      ∃ value, record.json.LeadsTo path value ∧ Cell.ofScalar? value = some cell := by
  rw [cellAt, fieldAs_eq_ok_iff rfl]

end Record

/-! ## Derivability results -/

/-- **The object at a path holds the result**: two arrays of strings, and a number. -/
structure Derivability.IsAt (d : Derivability) (json : Json) (path : FieldPath) : Prop where
  can : json.LeadsTo (path ++ ["can"]) (.array (d.can.map .string))
  cannot : json.LeadsTo (path ++ ["cannot"]) (.array (d.cannot.map .string))
  time : ∃ n, json.LeadsTo (path ++ ["time"]) (.number n) ∧ d.time = n.toBinary64

namespace Record

open Json

variable {record : Record} {path : FieldPath}

/-- All elements are strings exactly if they are the JSON of some texts. -/
theorem mapM_string?_eq_some_iff {items : List Json} {texts : List String} :
    items.mapM Json.string? = some texts ↔ items = texts.map .string := by
  induction items generalizing texts with
  | nil => cases texts <;> simp
  | cons item rest ih =>
    rw [List.mapM_cons]
    simp only [Option.bind_eq_bind, Option.bind_eq_some_iff, string?_eq_some_iff, ih,
      Option.pure_def, Option.some.injEq]
    constructor
    · rintro ⟨s, rfl, texts, rfl, rfl⟩
      rfl
    · intro h
      cases texts with
      | nil => cases h
      | cons s texts =>
        obtain ⟨rfl, rfl⟩ := List.cons_eq_cons.1 h
        exact ⟨s, rfl, texts, rfl, rfl⟩

/-- Only an array of strings is taken as texts. -/
theorem strings?_eq_some_iff {value : Json} {texts : List String} :
    strings? value = some texts ↔ value = .array (texts.map .string) := by
  rw [strings?]
  simp only [Option.bind_eq_bind, Option.bind_eq_some_iff, items?_eq_some_iff,
    mapM_string?_eq_some_iff]
  constructor
  · rintro ⟨items, rfl, rfl⟩
    rfl
  · rintro rfl
    exact ⟨_, rfl, rfl⟩

/-- One key leads to the field with that key. -/
theorem leadsTo_singleton_iff {value target : Json} {key : String} :
    value.LeadsTo [key] target ↔ value.field? key = some target := by
  rw [leadsTo_cons_iff]
  simp

/-- A value stands for a result exactly if its own fields hold it. -/
theorem derivabilityOf?_eq_some_iff {value : Json} {d : Derivability} :
    derivabilityOf? value = some d ↔ d.IsAt value [] := by
  rw [derivabilityOf?]
  simp only [Option.bind_eq_bind, Option.bind_eq_some_iff, strings?_eq_some_iff,
    number?_eq_some_iff, Option.pure_def, Option.some.injEq]
  constructor
  · rintro ⟨_, hcan, can, rfl, _, hcannot, cannot, rfl, _, htime, n, rfl, rfl⟩
    exact ⟨leadsTo_singleton_iff.2 hcan, leadsTo_singleton_iff.2 hcannot, n,
      leadsTo_singleton_iff.2 htime, rfl⟩
  · rintro ⟨hcan, hcannot, n, htime, hd⟩
    refine ⟨_, leadsTo_singleton_iff.1 hcan, d.can, rfl, _, leadsTo_singleton_iff.1 hcannot,
      d.cannot, rfl, _, leadsTo_singleton_iff.1 htime, n, rfl, ?_⟩
    rw [← hd]

/-- A field is lacking exactly if the path of its key breaks. -/
theorem lacks_iff {value : Json} {key : String} : lacks value key = true ↔ value.Breaks [key] := by
  rw [lacks, isNull_iff, breaks_cons_iff]
  cases value.field? key <;> simp

/-- A key that leads somewhere other than to null does not break. -/
theorem not_breaks_of_leadsTo {value target : Json} (hpath : value.LeadsTo path target)
    (hnull : target ≠ .null) : ¬ value.Breaks path := by
  rw [← walk_eq_none_iff, walk_of_leadsTo hpath hnull]
  simp

/-- A result that is held by a value has all of its three fields. -/
theorem not_breaks_of_isAt {value : Json} {d : Derivability} (h : d.IsAt value []) :
    ∀ key ∈ ["can", "cannot", "time"], ¬ value.Breaks [key] := by
  obtain ⟨n, htime, -⟩ := h.time
  intro key hkey
  simp only [List.mem_cons, List.not_mem_nil, or_false] at hkey
  rcases hkey with rfl | rfl | rfl
  · exact not_breaks_of_leadsTo h.can nofun
  · exact not_breaks_of_leadsTo h.cannot nofun
  · exact not_breaks_of_leadsTo htime nofun

/-- A result is at a path exactly if the path leads to an object that holds it. -/
theorem isAt_iff {json : Json} {d : Derivability} :
    d.IsAt json path ↔ ∃ value, json.LeadsTo path value ∧ d.IsAt value [] := by
  constructor
  · rintro ⟨hcan, hcannot, n, htime, hd⟩
    -- The three fields are reached through one and the same value.
    obtain ⟨value, hpath, hcan⟩ := leadsTo_append_iff.1 hcan
    obtain ⟨value', hpath', hcannot⟩ := leadsTo_append_iff.1 hcannot
    obtain ⟨value'', hpath'', htime⟩ := leadsTo_append_iff.1 htime
    obtain rfl := hpath.unique hpath'
    obtain rfl := hpath.unique hpath''
    exact ⟨value, hpath, hcan, hcannot, n, htime, hd⟩
  · rintro ⟨value, hpath, hcan, hcannot, n, htime, hd⟩
    exact ⟨leadsTo_append_iff.2 ⟨value, hpath, hcan⟩,
      leadsTo_append_iff.2 ⟨value, hpath, hcannot⟩, n, leadsTo_append_iff.2 ⟨value, hpath, htime⟩,
      hd⟩

/-- The search for a missing field, as a property of the value. -/
theorem find?_lacks_eq_none_iff {value : Json} :
    ["can", "cannot", "time"].find? (lacks value) = none ↔
      ∀ key ∈ ["can", "cannot", "time"], ¬ value.Breaks [key] := by
  rw [List.find?_eq_none]
  simp only [lacks_iff]

/-- **The accessor finds exactly the result at the path.** -/
theorem derivability_eq_ok_iff {d : Derivability} :
    record.derivability path = .ok d ↔ d.IsAt record.json path := by
  rw [derivability, bind_eq_ok_iff, isAt_iff]
  constructor
  · rintro ⟨value, -, h⟩
    split at h
    · cases h
    · obtain ⟨value, hpath, hread⟩ := (fieldAs_eq_ok_iff rfl).1 h
      exact ⟨value, hpath, derivabilityOf?_eq_some_iff.1 hread⟩
  · rintro ⟨value, hpath, hvalue⟩
    have hnull : value ≠ .null := by
      rintro rfl
      exact not_leadsTo_null_cons hvalue.can
    refine ⟨value, field_eq_ok_iff.2 (walk_of_leadsTo hpath hnull), ?_⟩
    rw [find?_lacks_eq_none_iff.2 (not_breaks_of_isAt hvalue)]
    exact (fieldAs_eq_ok_iff rfl).2 ⟨value, hpath, derivabilityOf?_eq_some_iff.2 hvalue⟩

/-- **The accessor fails for one of three causes**: the path breaks; a field of the object at its
end is missing, and then the first such field counts; or all three are there and are not a
result. -/
theorem derivability_eq_error_iff {error : RowError} :
    record.derivability path = .error error ↔
      record.json.Breaks path ∧ error = .missingField path ∨
        ∃ value, record.json.LeadsTo path value ∧ (path ≠ [] → value ≠ .null) ∧
          ((∃ key, FirstOf (value.Breaks [·]) ["can", "cannot", "time"] key ∧
              error = .missingField (path ++ [key])) ∨
            (∀ key ∈ ["can", "cannot", "time"], ¬ value.Breaks [key]) ∧
              (¬ ∃ d : Derivability, d.IsAt value []) ∧
              error = .wrongType path "a derivability result") := by
  rw [derivability, bind_eq_error_iff, field_eq_error_iff]
  refine or_congr_right (exists_congr fun value => ?_)
  rw [field_eq_ok_iff, walk_eq_some_iff, and_assoc]
  refine and_congr_right fun hpath => and_congr_right fun hnull => ?_
  -- A missing field settles the failure; without one, the object is taken as a whole.
  cases hfind : ["can", "cannot", "time"].find? (lacks value) with
  | some key =>
    have hfirst : FirstOf (value.Breaks [·]) ["can", "cannot", "time"] key := by
      simpa only [lacks_iff] using find?_eq_some_iff_firstOf.1 hfind
    constructor
    · intro h
      cases h
      exact Or.inl ⟨key, hfirst, rfl⟩
    · -- Only one field is the first that is missing.
      rintro (⟨key', hfirst', rfl⟩ | ⟨hall, -⟩)
      · have hfind' : ["can", "cannot", "time"].find? (lacks value) = some key' :=
          find?_eq_some_iff_firstOf.2 (by simpa only [lacks_iff] using hfirst')
        rw [hfind] at hfind'
        rw [Option.some.inj hfind']
        rfl
      · exact absurd hfirst.holds (hall key hfirst.mem)
  | none =>
    have hall := find?_lacks_eq_none_iff.1 hfind
    rw [fieldAs_eq_error_iff]
    constructor
    · -- The path is walked a second time, and cannot break then.
      rintro (⟨hbreaks, -⟩ | ⟨value', hpath', -, hread, rfl⟩)
      · rw [← walk_eq_none_iff, walk_eq_some_iff.2 ⟨hpath, hnull⟩] at hbreaks
        cases hbreaks
      · obtain rfl := hpath.unique hpath'
        refine Or.inr ⟨hall, ?_, rfl⟩
        rintro ⟨d, hd⟩
        rw [derivabilityOf?_eq_some_iff.2 hd] at hread
        cases hread
    · rintro (⟨key, hfirst, -⟩ | ⟨-, hresult, rfl⟩)
      · exact absurd hfirst.holds (hall key hfirst.mem)
      · refine Or.inr ⟨value, hpath, hnull, ?_, rfl⟩
        rw [Option.eq_none_iff_forall_ne_some]
        intro d hd
        exact hresult ⟨d, derivabilityOf?_eq_some_iff.1 hd⟩

end Record

end SynthReport
