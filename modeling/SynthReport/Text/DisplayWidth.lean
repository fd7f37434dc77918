import SynthReport.Text.Columns
import SynthReport.Text.Emoji
import SynthReport.Text.Joining

/-! # Display width

How many columns a text fills on a terminal. A character alone fills none, one or two, but some
sequences are drawn as one glyph, so the width of a text is not the sum over its characters.

* **`charWidth`** — the columns of a character alone; control characters count one.
* **`Following`** — what a character has to know of the text after it: whether that starts with a
  picture, a flag, a selector, or a letter that may join.
* **`advance`** — the columns that a character adds in front of such a text, which are negative
  where it merges two glyphs into one, and what its own predecessor has to know.
* **`displayWidth`** — the columns of a text, folded from its end. -/

namespace SynthReport

/-! ## Single characters -/

/-- **The columns of a character alone.** Controls count one. -/
def charWidth (c : Char) : Nat :=
  if c.toNat < 0xA0 then 1
  else if c.toNat = 0x17D8 then 3
  else if zeroWidthClass.contains c then 0
  else if wideClass.contains c then 2
  else 1

/-- The letters from which flags are made. -/
def isRegional (c : Char) : Bool := 0x1F1E6 ≤ c.toNat && c.toNat ≤ 0x1F1FF

/-- The skin tones. -/
def isModifier (c : Char) : Bool := 0x1F3FB ≤ c.toNat && c.toNat ≤ 0x1F3FF

/-- The letters of tags. -/
def isTagLetter (c : Char) : Bool := 0xE0061 ≤ c.toNat && c.toNat ≤ 0xE007A

/-- The digits of tags. -/
def isTagDigit (c : Char) : Bool := 0xE0030 ≤ c.toNat && c.toNat ≤ 0xE0039

/-- The consonants of the Tifinagh script that stack. -/
def isTifinaghConsonant (c : Char) : Bool :=
  0x2D31 ≤ c.toNat && c.toNat ≤ 0x2D65 || c.toNat == 0x2D6F

/-! ## What follows a character -/

/-- **A letter that joins with what stands before it.** -/
inductive JoiningLetter where
  /-- An Arabic alef, which joins with a lam. -/
  | alef
  /-- A Hebrew lamed, and one with a joiner in front, which joins with an alef. -/
  | lamed (joined : Bool)
  /-- A Buginese ya, and one with a joiner in front, which joins with vowel and letter. -/
  | ya (joined : Bool)
  /-- A Buginese ya with joiner and vowel in front, which joins with the letter a. -/
  | yaWithVowel
  /-- A Tifinagh consonant, and one with a joiner in front. -/
  | consonant (joined : Bool)
  /-- A Tifinagh consonant with the consonant joiner in front. -/
  | stackedConsonant
  /-- A Lisu tone letter that joins with another. -/
  | toneLetter
  /-- An Old Turkic letter, and one with a joiner in front. -/
  | orkhon (joined : Bool)
  /-- A Khmer letter, which goes below the line after a coeng. -/
  | coengLetter
deriving DecidableEq

/-- **What the text after a character starts with.** -/
inductive Following where
  | plain
  | lineFeed
  | picture
  /-- A skin tone. -/
  | modifier
  /-- One regional letter. -/
  | regional
  /-- Two regional letters or more. -/
  | regionals
  /-- A joiner and a picture. -/
  | joinedPicture
  /-- A key cap, a joiner and a picture. -/
  | joinedKeycap
  /-- One regional letter, a joiner and a picture. -/
  | joinedRegional
  /-- An even count of regional letters, a joiner and a picture. -/
  | joinedEven
  /-- An odd count of them above one. -/
  | joinedOdd
  /-- So many tag letters and the end of a tag, a joiner and a picture. -/
  | tagLetters (count : Nat)
  /-- So many tag digits in front of tag letters, a joiner and a picture. -/
  | tagDigits (count : Nat)
  | letter (letter : JoiningLetter)
deriving DecidableEq

/-- **The state of the fold**: what follows, and which style selectors stand in front of it. -/
structure Ahead where
  following : Following
  emojiStyle : Bool := false
  textStyle : Bool := false
deriving DecidableEq

namespace Ahead

/-- Nothing that matters follows. -/
def plain : Ahead := ⟨.plain, false, false⟩

/-- A selector for emoji style comes in front: it keeps what may still join with a base. -/
def withEmojiStyle (ahead : Ahead) : Ahead :=
  match ahead.following with
  | .letter _ | .joinedPicture | .joinedKeycap => { ahead with emojiStyle := true }
  | _ => ⟨.plain, true, false⟩

/-- The selector had no base: letters behind it may still join, pictures do not. -/
def withoutEmojiStyle (ahead : Ahead) : Ahead :=
  match ahead.following with
  | .letter _ => { ahead with emojiStyle := false }
  | _ => plain

/-- A selector for text style comes in front. -/
def withTextStyle (ahead : Ahead) : Ahead :=
  match ahead.following with
  | .letter _ => { ahead with textStyle := true }
  | _ => ⟨.plain, false, true⟩

/-- The selector had no base. -/
def withoutTextStyle (ahead : Ahead) : Ahead := { ahead with textStyle := false }

end Ahead

/-! ## The fold -/

/-- What a character is by itself: its columns, and what its predecessor has to know. -/
def alone (c : Char) : Nat × Ahead :=
  let code := c.toNat
  let ahead : Ahead :=
    if code = 0xFE0F then ⟨.plain, true, false⟩
    else if code = 0xFE0E then ⟨.plain, false, true⟩
    else if isRegional c then ⟨.regional, false, false⟩
    else if isModifier c then ⟨.modifier, false, false⟩
    else if emojiPresentationClass.contains c then ⟨.picture, false, false⟩
    else if alefClass.contains c then ⟨.letter .alef, false, false⟩
    else if code = 0x05DC then ⟨.letter (.lamed false), false, false⟩
    else if coengLetterClass.contains c then ⟨.letter .coengLetter, false, false⟩
    else if code = 0x1A10 then ⟨.letter (.ya false), false, false⟩
    else if isTifinaghConsonant c then ⟨.letter (.consonant false), false, false⟩
    else if code = 0xA4FC ∨ code = 0xA4FD then ⟨.letter .toneLetter, false, false⟩
    else if code = 0x10C03 then ⟨.letter (.orkhon false), false, false⟩
    else .plain
  (charWidth c, ahead)

/-- A joiner in front of a letter. Letters that already joined stay as they are. -/
def JoiningLetter.joined : JoiningLetter → JoiningLetter
  | .lamed _ => .lamed true
  | .ya _ => .ya true
  | .consonant _ => .consonant true
  | .orkhon _ => .orkhon true
  | other => other

/-- **A character in front of a joining letter**: the columns it adds and what follows from it, if
the two form a ligature or the character does not come between. -/
def joinLetter? (c : Char) (next : JoiningLetter) : Option (Int × Following) :=
  let code := c.toNat
  -- A joiner is kept in mind, and what does not come between changes nothing.
  if next ≠ .alef ∧ code = 0x200D then some (0, .letter next.joined)
  else if next ≠ .alef ∧ ligatureTransparentClass.contains c then some (0, .letter next)
  else
    match next with
    | .alef =>
      if lamClass.contains c then some (0, .plain)
      else if joiningTransparentClass.contains c then some (0, .letter .alef)
      else none
    -- Alef in front of a joined lamed.
    | .lamed true => if code = 0x05D0 then some (0, .plain) else none
    -- The coeng sign, which takes the letter below the line.
    | .coengLetter => if code = 0x17D2 then some (-1, .plain) else none
    -- The vowel sign and the letter of the Buginese ligature.
    | .ya true => if code = 0x1A17 then some (0, .letter .yaWithVowel) else none
    | .yaWithVowel => if code = 0x1A15 then some (0, .plain) else none
    -- The Tifinagh joiner stacks two consonants.
    | .consonant joined =>
      if code = 0x2D7F then some (1, .letter .stackedConsonant)
      else if joined ∧ isTifinaghConsonant c then some (0, .plain)
      else none
    | .stackedConsonant => if isTifinaghConsonant c then some (-1, .plain) else none
    | .toneLetter => if 0xA4F8 ≤ code ∧ code ≤ 0xA4FB then some (0, .plain) else none
    | .orkhon true => if code = 0x10C32 then some (0, .plain) else none
    | _ => none

/-- **A character in front of a picture or a part of one**, if the two belong together. -/
def joinPicture? (c : Char) (next : Following) : Option (Int × Following) :=
  let code := c.toNat
  match next with
  | .modifier =>
    if modifierBaseClass.contains c then some (0, .picture)
    else if code = 0x200D then some (0, .joinedPicture)
    else none
  | .regional => if isRegional c then some (1, .regionals) else none
  | .regionals =>
    if isRegional c then some (1, .regionals)
    else if code = 0x200D then some (0, .joinedPicture)
    else none
  | .picture => if code = 0x200D then some (0, .joinedPicture) else none
  | .joinedPicture =>
    if code = 0x20E3 then some (0, .joinedKeycap)
    else if isRegional c then some (1, .joinedRegional)
    else if isModifier c then some (0, .modifier)
    else if code = 0xE007F then some (0, .tagLetters 0)
    else if emojiPresentationClass.contains c then some (0, .picture)
    else none
  | .joinedRegional => if isRegional c then some (-1, .joinedEven) else none
  | .joinedEven =>
    if isRegional c then some (3, .joinedOdd)
    else if code = 0x200D then some (0, .joinedPicture)
    else none
  | .joinedOdd =>
    if isRegional c then some (-1, .joinedEven)
    else if code = 0x200D then some (0, .joinedPicture)
    else none
  -- Tags are read from their end: up to six letters, three digits, and a black flag in front.
  | .tagLetters n =>
    if n < 6 ∧ isTagLetter c then some (0, .tagLetters (n + 1))
    else if n ≤ 4 ∧ isTagDigit c then some (0, .tagDigits 1)
    else if 3 ≤ n ∧ code = 0x1F3F4 then some (0, .picture)
    else none
  | .tagDigits n =>
    if n < 3 ∧ isTagDigit c then some (0, .tagDigits (n + 1))
    else if n = 3 ∧ code = 0x1F3F4 then some (0, .picture)
    else none
  | _ => none

/-- The two as one function of what follows. -/
def join? (c : Char) : Following → Option (Int × Following)
  | .letter next => joinLetter? c next
  | next => joinPicture? c next

/-- A character that is not in the first Latin blocks, in front of a text that matters. -/
def advanceBefore (c : Char) (ahead : Ahead) : Int × Ahead :=
  -- The two style selectors have no columns of their own.
  if c.toNat = 0xFE0F then (0, ahead.withEmojiStyle)
  else if c.toNat = 0xFE0E then (0, ahead.withTextStyle)
  else if ahead.textStyle ∧ textStyleClass.contains c then (1, .plain)
  else
    let next := ahead.withoutTextStyle
    match join? c next.following with
    | some (added, following) => (added, ⟨following, false, false⟩)
    | none => ((alone c).1, (alone c).2)

/-- **The columns that a character adds in front of a text**, and what its own predecessor has to
know. A selector for emoji style makes its base a picture of two columns, or of none if it joins
with a picture behind it. -/
def advance (c : Char) (ahead : Ahead) : Int × Ahead :=
  if ahead.emojiStyle ∧ emojiStyleClass.contains c then
    let joins := ahead.following = .joinedPicture ∨ ahead.following = .joinedKeycap
    (if joins then 0 else 2, ⟨.picture, false, false⟩)
  else
    -- From here on a selector for emoji style has found no base.
    let ahead := if ahead.emojiStyle then ahead.withoutEmojiStyle else ahead
    if c.toNat ≤ 0xA0 then
      if c = '\n' then (0, ⟨.lineFeed, false, false⟩)
      else if c = '\r' ∧ ahead.following = .lineFeed then (0, .plain)
      else (1, .plain)
    else if ahead = .plain then ((alone c).1, (alone c).2)
    else advanceBefore c ahead

/-- The width of a text from its end, with what stands at its start. -/
def foldWidth (text : List Char) : Int × Ahead :=
  text.foldr
    (fun c (width, ahead) =>
      let (added, next) := advance c ahead
      (width + added, next))
    (0, .plain)

/-- **The columns that a text fills.** -/
def displayWidth (text : String) : Nat := (foldWidth text.toList).1.toNat

end SynthReport
