import SynthReport.Text.Printable

/-! # Quoted texts of a log

A logged name stands in double quotes, and whatever would not be legible in it is escaped: quotes
and backslashes, controls, marks that would attach to the quote, and characters without a visible
form. Apostrophes are legible between double quotes and stay. -/

namespace SynthReport

/-- **The escape of a character**, or the character itself. -/
def legible (c : Char) : List Char :=
  if c = '\x00' then ['\\', '0']
  else if c = '\t' then ['\\', 't']
  else if c = '\r' then ['\\', 'r']
  else if c = '\n' then ['\\', 'n']
  else if c = '"' ∨ c = '\\' then ['\\', c]
  else if graphemeExtendClass.contains c ∨ unprintableClass.contains c then
    '\\' :: 'u' :: '\x7b' :: (Nat.toDigits 16 c.toNat ++ ['\x7d'])
  else [c]

/-- **A name in quotes**, also that of a file. -/
def quoted (name : String) : String :=
  String.ofList ('"' :: (name.toList.flatMap legible ++ ['"']))

end SynthReport
