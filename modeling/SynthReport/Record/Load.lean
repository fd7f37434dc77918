import SynthReport.Record
import SynthReport.Json.Reader

/-! # Loading records

The results file is one JSON array of objects. Anything else fails the whole run.

* **`LoadError`** — why there are no records, with its wording `LoadError.message`;
* **`Record.parseAll`** — the records of a document;
* **`Record.parseFile`** — the records of the bytes of a file. -/

namespace SynthReport

/-- **Why the records could not be loaded.** -/
inductive LoadError where
  /-- The file could not be read as text. -/
  | unreadable (path : String) (reason : String)
  /-- The text is not a JSON document. -/
  | notJson (fault : Json.Fault)
  /-- The document is not an array. -/
  | notAnArray (found : String)
  /-- An element of the array is not an object. -/
  | notAnObject (index : Nat)
deriving DecidableEq

namespace LoadError

/-- What is said of a text that is no document. Only the kind of the fault is told, not the line and
the column where it was met. -/
def faultMessage : Json.Fault → String
  | .unfinished => "the text ends before the document is complete"
  | .malformed => "the text is not well formed"

/-- **The wording of a failed load.** -/
def message : LoadError → String
  | unreadable path reason => "failed to read " ++ path ++ ": " ++ reason
  | notJson fault => "invalid JSON: " ++ faultMessage fault
  | notAnArray found => "expected a JSON array of experiment records, found " ++ found
  | notAnObject index => "record " ++ toString index ++ " is not a JSON object"

end LoadError

namespace Record

/-- The records of array elements, counted from an index; the first that is no object fails. -/
def ofItems (index : Nat) : List Json → Except LoadError (List Record)
  | [] => .ok []
  | .object fields :: rest => (ofItems (index + 1) rest).map (⟨.object fields⟩ :: ·)
  | _ :: _ => .error (.notAnObject index)

/-- **The records of a document.** -/
def parseAll (document : String) : Except LoadError (List Record) :=
  match Json.parse document with
  | .error fault => .error (.notJson fault)
  | .ok (.array items) => ofItems 0 items
  | .ok other => .error (.notAnArray other.kindName)

/-- **The records of the bytes of a file.** They have to be UTF-8. -/
def parseFile (path : String) (bytes : ByteArray) : Except LoadError (List Record) :=
  match String.fromUTF8? bytes with
  | some document => parseAll document
  | none => .error (.unreadable path "stream did not contain valid UTF-8")

end Record

end SynthReport
