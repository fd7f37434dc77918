import SynthReport.Json.Numeral

/-! # Reading JSON text

The reader of the strict grammar, with two limits of its own: arrays and objects nest at most 127
deep, and an escape stands for a whole character, so surrogates come in pairs.

A refused text is told apart only by its **`Fault`**: whether the text ended too early, or something
in it is wrong. The first fault met from left to right counts.

* **`readString`** — the rest of a string after its opening quote;
* **`readItems`**, **`readMembers`** — the elements of an array and the members of an object, for
  any reader of their values;
* **`readValue`** — a value that may nest so deep;
* **`Json.parse`** — a whole document. -/

namespace SynthReport.Json

/-- The four characters that may stand between tokens. -/
def isSpace (c : Char) : Bool := c == ' ' || c == '\n' || c == '\t' || c == '\r'

/-- A text without the space at its start. -/
def skipSpace : List Char → List Char
  | [] => []
  | c :: rest => if isSpace c then skipSpace rest else c :: rest

/-- Skipping space does not lengthen a text. -/
theorem length_skipSpace_le (text : List Char) : (skipSpace text).length ≤ text.length := by
  induction text with
  | nil => simp [skipSpace]
  | cons c rest ih =>
    unfold skipSpace
    split
    · simp only [List.length_cons]
      omega
    · exact Nat.le_refl _

/-! ## Literals and strings -/

/-- The rest of a literal, character by character. -/
def readLiteral (value : Json) : List Char → Reader Json
  | [], text => .ok ⟨value, text, Nat.le_refl _⟩
  | _ :: _, [] => .error .unfinished
  | expected :: more, c :: rest =>
    if c = expected then (readLiteral value more rest).map (·.widen (by simp))
    else .error .malformed

/-- A literal goes on while the text has its characters. -/
theorem readLiteral_cons (value : Json) (expected c : Char) (more rest : List Char) :
    readLiteral value (expected :: more) (c :: rest) =
      if c = expected then
        (readLiteral value more rest).map (·.widen (by simp only [List.length_cons]; omega))
      else .error .malformed := rfl

/-- The value of a hexadecimal digit of either case. -/
def hexValue? (c : Char) : Option Nat :=
  if c.isDigit then some (digitValue c)
  else if 'a' ≤ c ∧ c ≤ 'f' then some (c.toNat - 'a'.toNat + 10)
  else if 'A' ≤ c ∧ c ≤ 'F' then some (c.toNat - 'A'.toNat + 10)
  else none

/-- The fault of four digits that are not there: the text counts as ended if it has fewer than four
bytes left. -/
def hexFault (text : List Char) : Fault :=
  if (String.ofList (text.take 4)).utf8ByteSize < 4 then .unfinished else .malformed

/-- **Four hexadecimal digits**, as the code unit they stand for. -/
def readHex : Reader Nat := fun text =>
  match text with
  | a :: b :: c :: d :: rest =>
    match hexValue? a, hexValue? b, hexValue? c, hexValue? d with
    | some a', some b', some c', some d' =>
      .ok ⟨((a' * 16 + b') * 16 + c') * 16 + d', rest, by simp only [List.length_cons]; omega⟩
    | _, _, _, _ => .error (hexFault (a :: b :: c :: d :: rest))
  | short => .error (hexFault short)

/-- The second half of a surrogate pair, which is an escape of its own. -/
def readTrailing : Reader Nat
  | [] => .error .unfinished
  | '\\' :: [] => .error .unfinished
  | '\\' :: 'u' :: rest => do
    let unit ← readHex rest
    if 0xDC00 ≤ unit.value ∧ unit.value ≤ 0xDFFF then
      return unit.widen (by simp only [List.length_cons]; omega)
    else throw .malformed
  | _ => .error .malformed

/-- **The character of an escape by number**, read after the letter `u`. -/
def readCodeUnit : Reader Char := fun text => do
  let unit ← readHex text
  if 0xDC00 ≤ unit.value ∧ unit.value ≤ 0xDFFF then throw .malformed
  else if 0xD800 ≤ unit.value ∧ unit.value ≤ 0xDBFF then
    let trailing ← readTrailing unit.rest
    return (trailing.map fun low =>
      Char.ofNat ((unit.value - 0xD800) * 0x400 + (low - 0xDC00) + 0x10000)).widen unit.length_le
  else return unit.map Char.ofNat

/-- The character that a letter after the backslash stands for. -/
def escaped? : Char → Option Char
  | '"' => some '"'
  | '\\' => some '\\'
  | '/' => some '/'
  | 'b' => some '\x08'
  | 'f' => some '\x0c'
  | 'n' => some '\n'
  | 'r' => some '\r'
  | 't' => some '\t'
  | _ => none

/-- **The rest of a string after its opening quote.** Control characters need an escape. -/
def readCharacters (text : List Char) : Except Fault (Reading (List Char) text) :=
  match text with
  | [] => .error .unfinished
  | '"' :: rest => .ok ⟨[], rest, by simp⟩
  | '\\' :: [] => .error .unfinished
  | '\\' :: 'u' :: rest => do
    let unit ← readCodeUnit rest
    have := unit.length_le
    let tail ← readCharacters unit.rest
    return (tail.map (unit.value :: ·)).widen (by simp only [List.length_cons]; omega)
  | '\\' :: letter :: rest =>
    match escaped? letter with
    | none => .error .malformed
    | some c => do
      let tail ← readCharacters rest
      return (tail.map (c :: ·)).widen (by simp only [List.length_cons]; omega)
  | c :: rest =>
    if c.toNat < 0x20 then .error .malformed
    else do
      let tail ← readCharacters rest
      return (tail.map (c :: ·)).widen (by simp)
termination_by text.length
decreasing_by all_goals simp only [List.length_cons]; omega

/-- A string after its opening quote. -/
def readString : Reader String := fun text => do
  let characters ← readCharacters text
  return characters.map String.ofList

/-! ## Arrays, objects and values -/

/-- **The elements of an array after its first `[` and space**, for any reader of elements. An
element is due, so a closing bracket is a fault. -/
def readItems (readElement : Reader Json) (text : List Char) :
    Except Fault (Reading (List Json) text) := do
  let element ← readElement text
  have hElement := element.length_le
  have hSpace := length_skipSpace_le element.rest
  match hAfter : skipSpace element.rest with
  | [] => throw .unfinished
  | ']' :: rest =>
    return ⟨[element.value], rest, by simp only [hAfter, List.length_cons] at hSpace; omega⟩
  | ',' :: rest =>
    have hRest := length_skipSpace_le rest
    match hNext : skipSpace rest with
    | ']' :: _ => throw .malformed
    | next => do
      have hShorter : next.length < text.length := by
        rw [hNext] at hRest
        simp only [hAfter, List.length_cons] at hSpace
        omega
      let items ← readItems readElement next
      return (items.map (element.value :: ·)).widen (by omega)
  | _ :: _ => throw .malformed
termination_by text.length

/-- An array after its opening bracket. -/
def readArray (readElement : Reader Json) : Reader Json := fun text =>
  have hSpace := length_skipSpace_le text
  match hText : skipSpace text with
  | [] => .error .unfinished
  | ']' :: rest =>
    .ok ⟨array [], rest, by simp only [hText, List.length_cons] at hSpace; omega⟩
  | c :: rest => do
    let items ← readItems readElement (c :: rest)
    return (items.map array).widen (by rw [hText] at hSpace; exact hSpace)

/-- **One member of an object**: a key, a colon and a value. -/
def readMember (readElement : Reader Json) : Reader (String × Json)
  | [] => .error .unfinished
  | '"' :: start => do
    let key ← readString start
    have hKey := key.length_le
    have hSpace := length_skipSpace_le key.rest
    match hColon : skipSpace key.rest with
    | [] => throw .unfinished
    | ':' :: rest =>
      let value ← readElement rest
      return (value.map (key.value, ·)).widen (by
        simp only [hColon, List.length_cons] at hSpace ⊢
        omega)
    | _ :: _ => throw .malformed
  | _ :: _ => .error .malformed

/-- **The members of an object after its first `{` and space**, where a member is due. -/
def readMembers (readElement : Reader Json) (text : List Char) :
    Except Fault (Reading (List (String × Json)) text) := do
  let member ← readMember readElement text
  have hMember := member.length_le
  have hSpace := length_skipSpace_le member.rest
  match hAfter : skipSpace member.rest with
  | [] => throw .unfinished
  | '}' :: rest =>
    return ⟨[member.value], rest, by simp only [hAfter, List.length_cons] at hSpace; omega⟩
  | ',' :: rest =>
    have hRest := length_skipSpace_le rest
    have hShorter : (skipSpace rest).length < text.length := by
      simp only [hAfter, List.length_cons] at hSpace
      omega
    let members ← readMembers readElement (skipSpace rest)
    return (members.map (member.value :: ·)).widen (by omega)
  | _ :: _ => throw .malformed
termination_by text.length

/-- An object after its opening brace. -/
def readObject (readElement : Reader Json) : Reader Json := fun text =>
  have hSpace := length_skipSpace_le text
  match hText : skipSpace text with
  | [] => .error .unfinished
  | '}' :: rest =>
    .ok ⟨object [], rest, by simp only [hText, List.length_cons] at hSpace; omega⟩
  | c :: rest => do
    let members ← readMembers readElement (c :: rest)
    return (members.map fun ms => object (fieldsOfMembers ms)).widen
      (by rw [hText] at hSpace; exact hSpace)

/-- A value that starts without space, for readers of arrays and objects after their opening. -/
def readPlainValue (readArrayRest readObjectRest : Reader Json) : Reader Json
  | [] => .error .unfinished
  | 'n' :: rest => (readLiteral null "ull".toList rest).map (·.widen (by simp))
  | 't' :: rest => (readLiteral (bool true) "rue".toList rest).map (·.widen (by simp))
  | 'f' :: rest => (readLiteral (bool false) "alse".toList rest).map (·.widen (by simp))
  | '"' :: rest => (readString rest).map fun r => (r.map string).widen (by simp)
  | '[' :: rest => (readArrayRest rest).map (·.widen (by simp))
  | '{' :: rest => (readObjectRest rest).map (·.widen (by simp))
  | c :: rest =>
    if c = '-' ∨ c.isDigit then (readNumber (c :: rest)).map (·.map number)
    else .error .malformed

/-- A reader that skips the space in front. -/
def spaced {α : Type} (read : Reader α) : Reader α := fun text =>
  (read (skipSpace text)).map (·.widen (length_skipSpace_le text))

/-- An array or object where none may be nested any more. -/
def tooDeep : Reader Json := fun _ => .error .malformed

/-- **A value with space in front**, in which arrays and objects nest at most so deep. -/
def readValue : Nat → Reader Json
  | 0 => spaced (readPlainValue tooDeep tooDeep)
  | depth + 1 =>
    spaced (readPlainValue (readArray (readValue depth)) (readObject (readValue depth)))

/-- The deepest nesting of arrays and objects that is read. -/
def maxDepth : Nat := 127

/-- **A whole document**: one value, with nothing but space around it. -/
def parse (text : String) : Except Fault Json := do
  let document ← readValue maxDepth text.toList
  if skipSpace document.rest = [] then return document.value
  else throw .malformed

end SynthReport.Json
