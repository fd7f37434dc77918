import SynthReport.Text.CodeClass

/-! # Blank texts

White space in the sense of the Unicode property, which is wider than the space of ASCII. -/

namespace SynthReport

/-- The characters with the property of white space. -/
def whiteSpaceClass : CodeClass := [
  (0x0009, 0x000D), (0x0020, 0x0020), (0x0085, 0x0085), (0x00A0, 0x00A0), (0x1680, 0x1680),
  (0x2000, 0x200A), (0x2028, 0x2029), (0x202F, 0x202F), (0x205F, 0x205F), (0x3000, 0x3000)]

/-- **A text of nothing but white space.** -/
def isBlank (text : String) : Bool := text.toList.all whiteSpaceClass.contains

end SynthReport
