/-! # Lines of a text

A line ends at a line feed, and a carriage return right before it belongs to the end. What stands
after the last line feed is a line of its own unless it is empty. -/

namespace SynthReport

/-- A line without a carriage return at its end. -/
def dropReturn (line : List Char) : List Char :=
  if line.getLast? = some '\r' then line.dropLast else line

/-- The lines of a text, when some of the first one has been read; that part is in reverse. -/
def linesFrom (reversed : List Char) : List Char → List (List Char)
  | [] => if reversed = [] then [] else [reversed.reverse]
  | c :: rest =>
    if c = '\n' then dropReturn reversed.reverse :: linesFrom [] rest
    else linesFrom (c :: reversed) rest

/-- **The lines of a text.** -/
def lines (text : String) : List String := (linesFrom [] text.toList).map String.ofList

/-- The empty text has no lines. -/
@[simp] theorem lines_empty : lines "" = [] := rfl

/-- Lines as a text, each ended. -/
def textOfLines (lines : List String) : String := String.join (lines.map (· ++ "\n"))

end SynthReport
