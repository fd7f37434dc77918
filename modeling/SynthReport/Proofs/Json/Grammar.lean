import Mathlib.Computability.Language
import SynthReport.Json.Reader
import SynthReport.Proofs.Json.Digits

/-! # The grammar of JSON text

JSON text as a language over characters, without the values that it stands for and apart from any
reader. What a text is made of comes from a lexicon, so that the same grammar describes all of JSON
and the part of it that is supported.

* **`gap`**, **`arrayOf`** — space between tokens, and an array of given texts;
* **`Numeral`**, **`Numeral.InRange`** — a numeral by its parts, and one that a double can hold;
* **`character`**, **`wholeCharacter`** — the characters of strings, where half of a surrogate pair
  may stand by itself, and where it may not;
* **`Lexicon`** — the numerals and characters of a text: **`Lexicon.json`** has all of them,
  **`Lexicon.supported`** those within limits;
* **`Lexicon.value`**, **`Lexicon.records`** — values, and arrays of objects, by how deep they nest;
* **`IsRecordsText`**, **`IsSupportedRecordsText`** — documents that are arrays of objects;
* **`listOf_induction`** — a list is one item, or an item in front of a list;
* **`IsSupportedRecordsText.isRecordsText`** — the limits leave out some JSON text and add none. -/

namespace SynthReport.JsonText

open Json
open scoped Computability

/-! ## Punctuation -/

/-- **Space between tokens.** -/
def gap : Language Char := {text | ∀ c ∈ text, c ∈ [' ', '\t', '\n', '\r']}

/-- One item or several, with commas between them. -/
def listOf (item : Language Char) : Language Char := item * ({[',']} * item)∗

/-- **Any number of items in brackets**, with space around each of them. -/
def bracketed (opening closing : Char) (item : Language Char) : Language Char :=
  {[opening]} * ((gap + listOf (gap * item * gap)) * {[closing]})

/-- **An array** of items. -/
def arrayOf (item : Language Char) : Language Char := bracketed '[' ']' item

/-! ## Numerals -/

/-- **Decimal digits**, of which there is at least one. -/
def decimal : Language Char := {text | text ≠ [] ∧ ∀ c ∈ text, c.isDigit = true}

/-- **The exponent of a numeral**: a letter, perhaps a sign, and digits. -/
structure Exponent where
  letter : Char
  sign : List Char
  digits : List Char
  letter_mem : letter ∈ ['e', 'E']
  sign_mem : sign ∈ [[], ['+'], ['-']]
  digits_mem : digits ∈ decimal

namespace Exponent

/-- The exponent as it is written. -/
def text (exponent : Exponent) : List Char :=
  exponent.letter :: (exponent.sign ++ exponent.digits)

/-- The power of ten that it stands for. -/
def value (exponent : Exponent) : Int :=
  if exponent.sign = ['-'] then -digitsValue exponent.digits else digitsValue exponent.digits

/-- An exponent as it is written, if there is one. -/
def textOf (exponent : Option Exponent) : List Char := exponent.elim [] text

/-- The power of ten that it stands for. -/
def valueOf (exponent : Option Exponent) : Int := exponent.elim 0 value

end Exponent

/-- The digits after a point, which is there if they are. -/
def pointText (fraction : List Char) : List Char := if fraction = [] then [] else '.' :: fraction

/-- **A numeral.** Without digits after it, there is no point. -/
structure Numeral where
  negative : Bool
  whole : List Char
  fraction : List Char
  exponent : Option Exponent
  whole_mem : whole ∈ decimal
  /-- A zero in front stands alone. -/
  length_whole : whole.head? = some '0' → whole.length = 1
  isDigit_of_mem_fraction : ∀ c ∈ fraction, c.isDigit = true

/-- **The longest start of some digits that 64 bits hold**, as they stand behind a number. -/
structure IsLongestFit (n : Nat) (digits start : List Char) : Prop where
  isPrefix : start <+: digits
  lt : valueFrom n start < 2 ^ 64
  length_le : ∀ other, other <+: digits → valueFrom n other < 2 ^ 64 →
    other.length ≤ start.length

/-- **A number times a power of ten is not too large for a double**: the doubles nearest to the two
have a product that is finite. -/
def FitsDouble (significand : Nat) (power : Int) : Prop :=
  significand = 0 ∨ power < 0 ∨ power ≤ 308 ∧
    (Binary64.ofNat significand * Binary64.ofNat (10 ^ power.toNat)).isFinite = true

namespace Numeral

/-- **The numeral as it is written.** -/
def text (numeral : Numeral) : List Char :=
  signedText numeral.negative
    (numeral.whole ++ (pointText numeral.fraction ++ Exponent.textOf numeral.exponent))

/-- **The numeral is not too large for a double.** Only the digits in front that 64 bits hold are
taken into account; each further digit of the whole part still counts as a power of ten. -/
def InRange (numeral : Numeral) : Prop :=
  ∃ whole fraction, IsLongestFit 0 numeral.whole whole ∧
    IsLongestFit (digitsValue whole) numeral.fraction fraction ∧
    FitsDouble (digitsValue (whole ++ fraction))
      (numeral.whole.length - whole.length - fraction.length + Exponent.valueOf numeral.exponent)

end Numeral

/-- The texts of some numerals. -/
def numeral (kind : Numeral → Prop) : Language Char := {text | ∃ n, kind n ∧ n.text = text}

/-! ## Characters of strings -/

/-- A character that stands for itself. -/
def plainCharacter : Language Char :=
  {text | ∃ c, 0x20 ≤ c.toNat ∧ c ≠ '"' ∧ c ≠ '\\' ∧ text = [c]}

/-- A backslash and a letter. -/
def letterEscape : Language Char :=
  {text | ∃ c ∈ ['"', '\\', '/', 'b', 'f', 'n', 'r', 't'], text = ['\\', c]}

/-- The code unit that four hexadecimal digits stand for. -/
def codeUnit? : List Char → Option Nat
  | [a, b, c, d] => do
    return (((← hexValue? a) * 16 + (← hexValue? b)) * 16 + (← hexValue? c)) * 16 + (← hexValue? d)
  | _ => none

/-- **An escape by number**, for code units of some kind. -/
def unitEscape (kind : Nat → Prop) : Language Char :=
  {text | ∃ digits unit, codeUnit? digits = some unit ∧ kind unit ∧ text = '\\' :: 'u' :: digits}

/-- The first half of a surrogate pair. -/
def IsHighSurrogate (unit : Nat) : Prop := 0xD800 ≤ unit ∧ unit ≤ 0xDBFF

/-- The second half of a surrogate pair. -/
def IsLowSurrogate (unit : Nat) : Prop := 0xDC00 ≤ unit ∧ unit ≤ 0xDFFF

/-- **A character of a string**, or half of one. -/
def character : Language Char := plainCharacter + letterEscape + unitEscape fun _ => True

/-- **A whole character of a string**: surrogates come in pairs. -/
def wholeCharacter : Language Char :=
  plainCharacter + letterEscape +
    unitEscape (fun unit => ¬ IsHighSurrogate unit ∧ ¬ IsLowSurrogate unit) +
    unitEscape IsHighSurrogate * unitEscape IsLowSurrogate

/-! ## Values -/

/-- **What a text may be made of.** -/
structure Lexicon where
  numeral : Language Char
  character : Language Char

namespace Lexicon

/-- **All numerals and characters of JSON.** -/
def json : Lexicon := ⟨JsonText.numeral fun _ => True, JsonText.character⟩

/-- **The numerals and characters within limits**: those that are doubles and whole characters. -/
def supported : Lexicon := ⟨JsonText.numeral Numeral.InRange, wholeCharacter⟩

variable (words : Lexicon)

/-- A string in quotes. -/
def string : Language Char := {['"']} * (words.character∗ * {['"']})

/-- A value that is neither an array nor an object. -/
def scalar : Language Char :=
  {"null".toList} + {"true".toList} + {"false".toList} + words.numeral + words.string

/-- A key with a value. -/
def member (item : Language Char) : Language Char :=
  words.string * (gap * ({[':']} * (gap * item)))

/-- **An object** with values of some kind. -/
def objectOf (item : Language Char) : Language Char := bracketed '{' '}' (words.member item)

/-- **Values** in which arrays and objects nest at most so deep. -/
def value : Nat → Language Char
  | 0 => words.scalar
  | depth + 1 => words.scalar + arrayOf (value depth) + words.objectOf (value depth)

/-- **Arrays of objects**, with values that nest at most so deep. -/
def records (depth : Nat) : Language Char :=
  gap * arrayOf (words.objectOf (words.value depth)) * gap

end Lexicon

/-- **JSON text of an array of objects.** -/
def IsRecordsText (text : String) : Prop := ∃ depth, text.toList ∈ Lexicon.json.records depth

/-- **Such a text within limits**: arrays and objects nest at most 127 deep, the array and its
objects among them, and numerals and characters are supported. -/
def IsSupportedRecordsText (text : String) : Prop := text.toList ∈ Lexicon.supported.records 125

/-! ## Lists -/

/-- A text before others of its kind. -/
theorem append_mem_kstar {l : Language Char} {first rest : List Char} (hfirst : first ∈ l)
    (hrest : rest ∈ l∗) : first ++ rest ∈ l∗ :=
  (show l * l∗ ≤ l∗ from mul_kstar_le_kstar) (Language.append_mem_mul hfirst hrest)

section Lists

variable {item : Language Char}

/-- One item is a list. -/
theorem mem_listOf_of_mem {taken : List Char} (h : taken ∈ item) : taken ∈ listOf item := by
  have hlist := Language.append_mem_mul h (Language.nil_mem_kstar ({[',']} * item))
  rwa [List.append_nil] at hlist

/-- An item in front of a list makes a list. -/
theorem append_cons_mem_listOf {first others : List Char} (hfirst : first ∈ item)
    (hothers : others ∈ listOf item) : first ++ ',' :: others ∈ listOf item := by
  obtain ⟨second, hsecond, more, hmore, rfl⟩ := hothers
  have hcomma : [','] ∈ ({[',']} : Language Char) := rfl
  exact Language.append_mem_mul hfirst
    (append_mem_kstar (Language.append_mem_mul hcomma hsecond) hmore)

/-- **There is no other list.** -/
theorem listOf_induction {motive : (taken : List Char) → taken ∈ listOf item → Prop}
    (single : ∀ taken (h : taken ∈ item), motive taken (mem_listOf_of_mem h))
    (cons : ∀ first others (hfirst : first ∈ item) (hothers : others ∈ listOf item),
      motive others hothers →
        motive (first ++ ',' :: others) (append_cons_mem_listOf hfirst hothers))
    {taken : List Char} (h : taken ∈ listOf item) : motive taken h := by
  obtain ⟨first, hfirst, others, hothers, rfl⟩ := id h
  obtain ⟨parts, rfl, hparts⟩ := Language.mem_kstar.1 hothers
  clear hothers
  induction parts generalizing first with
  | nil =>
    have hsingle := single first hfirst
    simp only [List.flatten_nil, List.append_nil]
    exact hsingle
  | cons part parts ih =>
    obtain ⟨⟨_, rfl, second, hsecond, rfl⟩, hmore⟩ := List.forall_mem_cons.1 hparts
    have hothers := Language.append_mem_mul hsecond (Language.join_mem_kstar hmore)
    exact cons first _ hfirst hothers (ih second hsecond hmore hothers)

end Lists

/-- One item in brackets. -/
theorem mem_bracketed_of_mem {opening closing : Char} {item : Language Char} {taken : List Char}
    (h : taken ∈ item) : opening :: (taken ++ [closing]) ∈ bracketed opening closing item := by
  have hgap : [] ∈ gap := List.forall_mem_nil _
  have hopening : [opening] ∈ ({[opening]} : Language Char) := rfl
  have hclosing : [closing] ∈ ({[closing]} : Language Char) := rfl
  have hitem := Language.append_mem_mul (Language.append_mem_mul hgap h) hgap
  rw [List.nil_append, List.append_nil] at hitem
  exact Language.append_mem_mul hopening
    (Language.append_mem_mul (Or.inr (mem_listOf_of_mem hitem)) hclosing)

/-! ## The limits only leave out -/

/-- More kinds of items in brackets. -/
theorem bracketed_mono (opening closing : Char) {few many : Language Char} (h : few ≤ many) :
    bracketed opening closing few ≤ bracketed opening closing many := by
  have hitem : gap * few * gap ≤ gap * many * gap := by gcongr
  have hlist : listOf (gap * few * gap) ≤ listOf (gap * many * gap) :=
    mul_le_mul' hitem (kstar_mono (mul_le_mul' le_rfl hitem))
  exact mul_le_mul' le_rfl (mul_le_mul' (add_le_add le_rfl hlist) le_rfl)

/-- Numerals of more kinds. -/
theorem numeral_mono {few many : Numeral → Prop} (h : ∀ n, few n → many n) :
    numeral few ≤ numeral many := by
  rintro _ ⟨n, hn, rfl⟩
  exact ⟨n, h n hn, rfl⟩

/-- Escapes of code units of more kinds. -/
theorem unitEscape_mono {few many : Nat → Prop} (h : ∀ unit, few unit → many unit) :
    unitEscape few ≤ unitEscape many := by
  rintro _ ⟨digits, unit, hdigits, hunit, rfl⟩
  exact ⟨digits, unit, hdigits, h unit hunit, rfl⟩

/-- **A whole character is one or two characters**, each of which may be half of one. -/
theorem wholeCharacter_le : wholeCharacter ≤ character∗ := by
  have hplain : plainCharacter ≤ character := le_self_add.trans le_self_add
  have hletter : letterEscape ≤ character := le_add_self.trans le_self_add
  have hunit (kind : Nat → Prop) : unitEscape kind ≤ character :=
    (unitEscape_mono fun _ _ => trivial).trans le_add_self
  have hpair : unitEscape IsHighSurrogate * unitEscape IsLowSurrogate ≤ character∗ :=
    calc unitEscape IsHighSurrogate * unitEscape IsLowSurrogate
        ≤ character∗ * character∗ :=
          mul_le_mul' ((hunit _).trans le_kstar) ((hunit _).trans le_kstar)
      _ = character∗ := kstar_mul_kstar character
  exact add_le ((add_le (add_le hplain hletter) (hunit _)).trans le_kstar) hpair

namespace Lexicon

variable {less more : Lexicon}

/-- Strings of more kinds of characters. -/
theorem string_mono (hcharacter : less.character∗ ≤ more.character∗) :
    less.string ≤ more.string :=
  mul_le_mul' le_rfl (mul_le_mul' hcharacter le_rfl)

/-- Objects of more kinds of keys and values. -/
theorem objectOf_mono (hcharacter : less.character∗ ≤ more.character∗) {few many : Language Char}
    (h : few ≤ many) : less.objectOf few ≤ more.objectOf many := by
  have hstring := string_mono hcharacter
  have hmember : less.member few ≤ more.member many := by
    rw [member, member]
    gcongr
  exact bracketed_mono '{' '}' hmember

/-- **Values of more kinds of numerals and characters.** -/
theorem value_mono (hnumeral : less.numeral ≤ more.numeral)
    (hcharacter : less.character∗ ≤ more.character∗) (depth : Nat) :
    less.value depth ≤ more.value depth := by
  have hscalar : less.scalar ≤ more.scalar :=
    add_le_add (add_le_add le_rfl hnumeral) (string_mono hcharacter)
  induction depth with
  | zero => exact hscalar
  | succ depth ih =>
    exact add_le_add (add_le_add hscalar (bracketed_mono '[' ']' ih)) (objectOf_mono hcharacter ih)

/-- Arrays of objects of more kinds of numerals and characters. -/
theorem records_mono (hnumeral : less.numeral ≤ more.numeral)
    (hcharacter : less.character∗ ≤ more.character∗) (depth : Nat) :
    less.records depth ≤ more.records depth := by
  have hobject := objectOf_mono hcharacter (value_mono hnumeral hcharacter depth)
  exact mul_le_mul' (mul_le_mul' le_rfl (bracketed_mono '[' ']' hobject)) le_rfl

end Lexicon

/-- **A text within limits is JSON text.** -/
theorem IsSupportedRecordsText.isRecordsText {text : String} (h : IsSupportedRecordsText text) :
    IsRecordsText text := by
  have hnumeral : Lexicon.supported.numeral ≤ Lexicon.json.numeral :=
    numeral_mono fun _ _ => trivial
  have hcharacter : Lexicon.supported.character∗ ≤ Lexicon.json.character∗ :=
    calc wholeCharacter∗ ≤ character∗∗ := kstar_mono wholeCharacter_le
      _ = character∗ := kstar_idem character
  exact ⟨_, Lexicon.records_mono hnumeral hcharacter _ h⟩

end SynthReport.JsonText
