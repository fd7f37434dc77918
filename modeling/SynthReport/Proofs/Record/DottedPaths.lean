import SynthReport.Proofs.Record.Accessors

/-! # Results and fields by dotted paths

Paths are written with dots, and one path behind another leads on from where the first one ends. So
a derivability result can be told by its fields alone.

* **`FieldPath.dotted`**, **`FieldPath.ofText_dotted`** — one path behind another, with a dot
  between them;
* **`FieldPath.text_ofText`** — a path is shown as it was written, whatever its keys are;
* **`field_dotted_eq_ok_iff`**, **`field_eq_error`** — fields along such a path, and how one that
  fails names it;
* **`Json.IsResult`** — an object that is a derivability result;
* **`NoResult`** — why there is no result at a path, by the fields along it;
* **`derivability_agrees_with_fields`** — the accessor of results agrees with fields read one by
  one. -/

namespace SynthReport

/-! ## Paths written with dots -/

namespace FieldPath

/-- **One path behind another**, with a dot between them. -/
def dotted (path more : String) : String := path ++ "." ++ more

/-- **The keys of two paths** are those of the one and then those of the other. -/
theorem ofText_dotted (path more : String) :
    ofText (dotted path more) = ofText path ++ ofText more := by
  rw [ofText, dotted, String.toList_append, String.toList_append, show ".".toList = ['.'] from rfl,
    List.append_assoc, List.singleton_append, List.splitOn_append_cons_self, List.map_append]
  rfl

/-- A text without a dot behind a path is one more key. -/
theorem ofText_dotted_key (path : String) {key : String} (h : '.' ∉ key.toList) :
    ofText (dotted path key) = ofText path ++ [key] := by
  have hkey : ofText key = [key] := by
    rw [ofText, List.splitOn_eq_singleton h]
    simp
  rw [ofText_dotted, hkey]

/-- **A path is shown as it was written.** -/
theorem text_ofText (path : String) : (ofText path).text = path := by
  have hkeys : (ofText path).map String.toList = path.toList.splitOn '.' := by
    simp [ofText]
  rw [text, ← String.toList_inj, String.toList_intercalate, hkeys]
  exact List.intercalate_splitOn '.'

end FieldPath

/-- The wording of a missing field. -/
theorem RowError.message_missingField (path : FieldPath) :
    (missingField path).message = "missing field `" ++ path.text ++ "`" := rfl

/-! ## Fields along a path -/

namespace Record

open Json FieldPath

variable {record : Record} {path more key : String} {value : Json} {error : RowError}

/-- **A longer path is walked on** from the value that its first part leads to. -/
theorem field_dotted_eq_ok_iff {target : Json} :
    record.field (ofText (dotted path more)) = .ok target ↔
      ∃ middle, record.field (ofText path) = .ok middle ∧
        (Record.mk middle).field (ofText more) = .ok target := by
  simp only [field_eq_ok_iff, ofText_dotted, walk_append, Option.bind_eq_some_iff]

/-- A field that fails names its whole path, as it was written. -/
theorem field_eq_error (h : record.field (ofText path) = .error error) :
    error = .missingField (ofText path) ∧ error.message = "missing field `" ++ path ++ "`" := by
  obtain ⟨-, rfl⟩ := field_eq_error_iff.1 h
  refine ⟨rfl, ?_⟩
  rw [RowError.message_missingField, text_ofText]

/-- Where the first part of a path leads to a value, one more key fails exactly if it breaks
there. -/
theorem exists_field_dotted_error_iff (hvalue : record.field (ofText path) = .ok value)
    (hkey : '.' ∉ key.toList) :
    (∃ e, record.field (ofText (dotted path key)) = .error e) ↔ value.Breaks [key] := by
  rw [field_eq_ok_iff] at hvalue
  simp only [field_eq_error_iff, exists_and_left, exists_eq, and_true]
  rw [← walk_eq_none_iff, ofText_dotted_key path hkey, walk_append, hvalue, Option.bind_some,
    walk_eq_none_iff]

end Record

/-! ## Results -/

/-- **A value is a derivability result**: an object whose `can` and `cannot` are arrays of strings,
in their order, and whose `time` is a number. -/
inductive Json.IsResult (d : Derivability) : Json → Prop where
  | object {fields : List (String × Json)} {time : JsonNumber} :
      lookup "can" fields = some (.array (d.can.map .string)) →
      lookup "cannot" fields = some (.array (d.cannot.map .string)) →
      lookup "time" fields = some (.number time) → d.time = time.toBinary64 →
      IsResult d (.object fields)

namespace Record

open Json FieldPath

/-- **Why there is no result at a path.** The field itself fails, or else the first of three fields
behind it that does is missing, or all three are there and the value is no result. -/
inductive NoResult (record : Record) (path : String) : RowError → Prop where
  | unreached {error : RowError} : record.field (ofText path) = .error error →
      NoResult record path error
  | lacking {value : Json} {key : String} : record.field (ofText path) = .ok value →
      FirstOf (fun key => ∃ e, record.field (ofText (dotted path key)) = .error e)
        ["can", "cannot", "time"] key →
      NoResult record path (.missingField (ofText (dotted path key)))
  | mistyped {value : Json} : record.field (ofText path) = .ok value →
      (∀ key ∈ ["can", "cannot", "time"],
        ∃ member, record.field (ofText (dotted path key)) = .ok member) →
      (¬ ∃ d, value.IsResult d) →
      NoResult record path (.wrongType (ofText path) "a derivability result")

variable {record : Record} {path : String} {value : Json} {d : Derivability} {error : RowError}

/-- A value is a result exactly if its own fields hold it. -/
theorem isResult_iff : value.IsResult d ↔ d.IsAt value [] := by
  constructor
  · rintro ⟨hcan, hcannot, htime, hd⟩
    exact ⟨leadsTo_singleton_iff.2 hcan, leadsTo_singleton_iff.2 hcannot, _,
      leadsTo_singleton_iff.2 htime, hd⟩
  · rintro ⟨hcan, hcannot, n, htime, hd⟩
    obtain ⟨fields, rfl, hlookup⟩ := field?_eq_some_iff.1 (leadsTo_singleton_iff.1 hcan)
    exact .object hlookup (leadsTo_singleton_iff.1 hcannot) (leadsTo_singleton_iff.1 htime) hd

/-- **The accessor finds the result that the field at the path is.** -/
theorem derivability_eq_ok_iff_isResult :
    record.derivability (ofText path) = .ok d ↔
      ∃ value, record.field (ofText path) = .ok value ∧ value.IsResult d := by
  rw [derivability_eq_ok_iff, isAt_iff]
  apply exists_congr
  intro value
  rw [field_eq_ok_iff, walk_eq_some_iff, ← isResult_iff]
  constructor
  · rintro ⟨hpath, hvalue⟩
    refine ⟨⟨hpath, fun _ hnull => ?_⟩, hvalue⟩
    -- Null is no object.
    rw [hnull] at hvalue
    cases hvalue
  · rintro ⟨⟨hpath, -⟩, hvalue⟩
    exact ⟨hpath, hvalue⟩

/-- **The parts of a result** are what the fields behind the path give one by one. -/
theorem fields_of_derivability (h : record.derivability (ofText path) = .ok d) :
    record.lengthAt (ofText (dotted path "can")) = .ok d.can.length ∧
      record.lengthAt (ofText (dotted path "cannot")) = .ok d.cannot.length ∧
      record.numberAt (ofText (dotted path "time")) = .ok d.time := by
  obtain ⟨hcan, hcannot, htime⟩ := derivability_eq_ok_iff.1 h
  rw [ofText_dotted_key path (by decide), ofText_dotted_key path (by decide),
    ofText_dotted_key path (by decide)]
  refine ⟨lengthAt_eq_ok_iff.2 ⟨_, hcan, ?_⟩, lengthAt_eq_ok_iff.2 ⟨_, hcannot, ?_⟩,
    numberAt_eq_ok_iff.2 htime⟩
  · rw [List.length_map]
  · rw [List.length_map]

/-- **The accessor fails exactly if there is no result**, and with that cause. -/
theorem derivability_eq_error_iff_noResult :
    record.derivability (ofText path) = .error error ↔ record.NoResult path error := by
  have hdots : ∀ key ∈ ["can", "cannot", "time"], '.' ∉ key.toList := by decide
  have hresult : ∀ value, (∃ d : Derivability, d.IsAt value []) ↔ ∃ d, value.IsResult d :=
    fun value => exists_congr fun d => isResult_iff.symm
  -- Where the field is there, the fields behind it fail exactly if their keys break.
  have hkeys : ∀ value, record.field (ofText path) = .ok value →
      ∀ key ∈ ["can", "cannot", "time"],
        ((∃ e, record.field (ofText (dotted path key)) = .error e) ↔ value.Breaks [key]) :=
    fun value hvalue key hkey => exists_field_dotted_error_iff hvalue (hdots key hkey)
  rw [derivability_eq_error_iff, ← field_eq_error_iff]
  simp only [hresult, ← and_assoc, ← walk_eq_some_iff, ← field_eq_ok_iff]
  constructor
  · rintro (hfield | ⟨value, hvalue, ⟨key, hfirst, rfl⟩ | ⟨⟨hall, hnone⟩, rfl⟩⟩)
    · exact .unreached hfield
    · rw [← ofText_dotted_key path (hdots key hfirst.mem)]
      exact .lacking hvalue ((firstOf_congr (hkeys value hvalue) key).2 hfirst)
    · refine .mistyped hvalue (fun key hkey => ?_) hnone
      rw [exists_eq_ok_iff, hkeys value hvalue key hkey]
      exact hall key hkey
  · rintro (hfield | ⟨hvalue, hfirst⟩ | ⟨hvalue, hall, hnone⟩)
    · exact Or.inl hfield
    · refine Or.inr ⟨_, hvalue, Or.inl ⟨_, (firstOf_congr (hkeys _ hvalue) _).1 hfirst, ?_⟩⟩
      rw [ofText_dotted_key path (hdots _ hfirst.mem)]
    · refine Or.inr ⟨_, hvalue, Or.inr ⟨⟨fun key hkey => ?_, hnone⟩, rfl⟩⟩
      rw [← hkeys _ hvalue key hkey, ← exists_eq_ok_iff]
      exact hall key hkey

/-- **The accessor of results agrees with fields read one by one.** It succeeds exactly if the field
at the path is an object that is a result, and gives that result; its lengths and its time are what
the accessors of arrays and numbers give behind the path. Else it fails with the failure of the
field, with the first of three fields behind it that fails, or with the type of the value. A path
behind another one is walked on from the value that the first one leads to, and if it fails, the
failure names the whole path as it was written. -/
theorem derivability_agrees_with_fields (record : Record) (path more : String) :
    (∀ d, record.derivability (ofText path) = .ok d ↔
        ∃ value, record.field (ofText path) = .ok value ∧ value.IsResult d) ∧
      (∀ d, record.derivability (ofText path) = .ok d →
        record.numberAt (ofText (dotted path "time")) = .ok d.time ∧
          ∃ can cannot, record.lengthAt (ofText (dotted path "can")) = .ok can ∧
            record.lengthAt (ofText (dotted path "cannot")) = .ok cannot ∧
            d.total = can + cannot) ∧
      (∀ error, record.derivability (ofText path) = .error error ↔ record.NoResult path error) ∧
      (∀ target, record.field (ofText (dotted path more)) = .ok target ↔
        ∃ middle, record.field (ofText path) = .ok middle ∧
          (Record.mk middle).field (ofText more) = .ok target) ∧
      ∀ error, record.field (ofText (dotted path more)) = .error error →
        error = .missingField (ofText (dotted path more)) ∧
          error.message = "missing field `" ++ dotted path more ++ "`" := by
  refine ⟨fun d => derivability_eq_ok_iff_isResult, fun d hd => ?_,
    fun error => derivability_eq_error_iff_noResult, fun target => field_dotted_eq_ok_iff,
    fun error => field_eq_error⟩
  obtain ⟨hcan, hcannot, htime⟩ := fields_of_derivability hd
  exact ⟨htime, _, _, hcan, hcannot, rfl⟩

/-- An array has no fields, so behind its path the first field is missing. -/
example : (Record.mk (.object [("lhs", .array [.string "a"])])).derivability (ofText "lhs") =
    .error (.missingField ["lhs", "can"]) := by
  rfl

end Record

end SynthReport
