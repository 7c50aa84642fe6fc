/-!
Contract: cutting a list of characters at a separator, and joining pieces again.

Owns: the pieces between the occurrences of one separator, the part before the
first and after the last occurrence, and the search for a fixed run of
characters.

Does not own: any notion of line, word or path component.
-/

namespace PartitionBench.Text

/-- The pieces between the occurrences of `separator`; their number is one more
than the number of occurrences. -/
def pieces (separator : Char) : List Char → List (List Char)
  | [] => [[]]
  | c :: rest =>
      if c = separator then [] :: pieces separator rest
      else
        match pieces separator rest with
        | [] => [[c]]
        | piece :: others => (c :: piece) :: others

/-- The part of `chars` behind the last `separator`, or all of it when there is
none. -/
def afterLast (separator : Char) (chars : List Char) : List Char :=
  (chars.reverse.takeWhile (· ≠ separator)).reverse

/-- The part of `chars` before the last `separator`, or all of it when there is
none. -/
def beforeLast (separator : Char) (chars : List Char) : List Char :=
  if separator ∈ chars then ((chars.reverse.dropWhile (· ≠ separator)).drop 1).reverse
  else chars

/-- What follows `opening` at the start of `chars`, if `chars` starts with it. -/
def dropOpening? : List Char → List Char → Option (List Char)
  | [], chars => some chars
  | _ :: _, [] => none
  | o :: opening, c :: chars => if o = c then dropOpening? opening chars else none

end PartitionBench.Text
