/-!
Contract: the lines of a typed or piped input.

Owns: the splitting of an input into lines. A line ends at a line feed, at a
carriage return, or at a carriage return and line feed taken together; a last
line without an end counts when it is not empty.

Does not own: the line structure of configuration documents, where a lone
carriage return ends nothing.
-/

namespace PartitionBench.Text

/-- The lines of `rest`, given the characters of the current line in reverse. -/
def linesFrom (current : List Char) : List Char → List (List Char)
  | [] => if current.isEmpty then [] else [current.reverse]
  | '\r' :: '\n' :: rest => current.reverse :: linesFrom [] rest
  | c :: rest =>
      if c = '\n' ∨ c = '\r' then current.reverse :: linesFrom [] rest
      else linesFrom (c :: current) rest

/-- The lines of a text, in order and without their ends. -/
def lines (text : String) : List String :=
  (linesFrom [] text.toList).map String.ofList

end PartitionBench.Text
