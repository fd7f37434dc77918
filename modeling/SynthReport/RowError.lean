/-! # Failures of a single row

* **`FieldPath`** — the keys that lead to a nested field, written with dots between them;
* **`RowError`** — why a record has no row, one constructor for each cause;
* **`RowError.message`** — the wording of each cause. -/

namespace SynthReport

/-- **A path of keys** into nested objects. -/
abbrev FieldPath : Type := List String

namespace FieldPath

/-- The path with a given text. A dot always separates two keys, and a key may be empty. -/
def ofText (text : String) : FieldPath := (text.toList.splitOn '.').map String.ofList

/-- The path written with dots. -/
def text (path : FieldPath) : String := ".".intercalate path

end FieldPath

/-- **Why a record has no row.** -/
inductive RowError where
  /-- A field on the path is absent or null. -/
  | missingField (path : FieldPath)
  /-- The field is there but is not what is expected of it. -/
  | wrongType (path : FieldPath) (expected : String)
  /-- A rule without an arrow. -/
  | malformedRule (rule : String)
deriving DecidableEq

namespace RowError

/-- **The wording of a failure.** -/
def message : RowError → String
  | missingField path => "missing field `" ++ path.text ++ "`"
  | wrongType path expected => "field `" ++ path.text ++ "` is not " ++ expected
  | malformedRule rule => "malformed rule `" ++ rule ++ "` (expected `<lhs> ==> <rhs>`)"

end RowError

end SynthReport
