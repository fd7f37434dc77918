import SynthReport.Json.Basic
import SynthReport.Number.Shortest

/-! # Writing JSON text

* **`quoted`** — a string with the escapes JSON demands and no others;
* **`Json.compact`** — a value without any space;
* **`Json.pretty`** — a document with two spaces of indent for each level.

The members of an object are written in the order in which it holds them. -/

namespace SynthReport.Json

/-- A digit of a hexadecimal number, in lower case. -/
def hexDigit (n : Nat) : Char := Nat.digitChar n

/-- **A character inside quotes.** The quote, the backslash and the control characters are escaped,
by a letter of their own if they have one. -/
def escapedChar (c : Char) : List Char :=
  if c = '"' then ['\\', '"']
  else if c = '\\' then ['\\', '\\']
  else if c = '\x08' then ['\\', 'b']
  else if c = '\x0c' then ['\\', 'f']
  else if c = '\n' then ['\\', 'n']
  else if c = '\r' then ['\\', 'r']
  else if c = '\t' then ['\\', 't']
  else if c.toNat < 0x20 then
    ['\\', 'u', '0', '0', hexDigit (c.toNat / 16), hexDigit (c.toNat % 16)]
  else [c]

/-- A string in quotes. -/
def quoted (s : String) : List Char :=
  '"' :: (s.toList.flatMap escapedChar ++ ['"'])

/-- The text of a number. -/
def numberText : JsonNumber → List Char
  | .integer i => (toString i).toList
  | .double x => x.jsonText

/-! ## Compact text -/

mutual

/-- A value without any space. -/
def compactChars : Json → List Char
  | null => "null".toList
  | bool true => "true".toList
  | bool false => "false".toList
  | number n => numberText n
  | string s => quoted s
  | array items => '[' :: (compactItems items ++ [']'])
  | object fields => '{' :: (compactFields fields ++ ['}'])

/-- Elements with commas between them. -/
def compactItems : List Json → List Char
  | [] => []
  | [item] => compactChars item
  | item :: rest => compactChars item ++ ',' :: compactItems rest

/-- Members with commas between them. -/
def compactFields : List (String × Json) → List Char
  | [] => []
  | [(key, value)] => quoted key ++ ':' :: compactChars value
  | (key, value) :: rest => quoted key ++ ':' :: (compactChars value ++ ',' :: compactFields rest)

end

/-- **A value as text without any space.** -/
def compact (value : Json) : String := String.ofList (compactChars value)

/-! ## Indented text -/

/-- The start of a line at a level. -/
def newLine (level : Nat) : List Char := '\n' :: List.replicate (2 * level) ' '

mutual

/-- A value that starts within a line of the given level. An empty array or object stays on it. -/
def prettyChars (level : Nat) : Json → List Char
  | null => "null".toList
  | bool true => "true".toList
  | bool false => "false".toList
  | number n => numberText n
  | string s => quoted s
  | array [] => "[]".toList
  | array items => '[' :: (prettyItems (level + 1) items ++ newLine level ++ [']'])
  | object [] => "\x7b\x7d".toList
  | object fields => '{' :: (prettyFields (level + 1) fields ++ newLine level ++ ['}'])

/-- Elements on lines of their own. -/
def prettyItems (level : Nat) : List Json → List Char
  | [] => []
  | [item] => newLine level ++ prettyChars level item
  | item :: rest => newLine level ++ prettyChars level item ++ ',' :: prettyItems level rest

/-- Members on lines of their own. -/
def prettyFields (level : Nat) : List (String × Json) → List Char
  | [] => []
  | [(key, value)] => newLine level ++ quoted key ++ ':' :: ' ' :: prettyChars level value
  | (key, value) :: rest =>
    newLine level ++ quoted key ++ ':' :: ' ' :: (prettyChars level value ++
      ',' :: prettyFields level rest)

end

/-- **A document as indented text.** -/
def pretty (value : Json) : String := String.ofList (prettyChars 0 value)

end SynthReport.Json
