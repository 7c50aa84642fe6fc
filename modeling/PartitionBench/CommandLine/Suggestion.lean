import PartitionBench.CommandLine.Option
import PartitionBench.Text.Units

/-!
Contract: suggestions for misspelt options.

Owns: the distance between two words, counting insertions, deletions,
replacements and exchanges of neighbours, and the choice of the options that are
near enough to be suggested. The letters of words are their sixteen-bit units.

Does not own: the message that a suggestion is added to (`CommandLine.Usage`).
-/

namespace PartitionBench.CommandLine

/-- The distances of the prefixes of a word from a prefix of another that ends in
`letter`, in a row. `left` is the distance to the left in this row, `above` the row
for the prefix without `letter`, from the place to the left on, and `earlier` the row
before that one, from the place two to the left on. No letter is changed twice, so
only neighbours are exchanged. -/
def distanceRow (letter : Nat) (lastLetter : Option Nat) :
    (lastOfWord : Option Nat) → (left : Nat) → (word : List Nat) → (above earlier : List Nat) →
      List Nat
  | lastOfWord, left, c :: word, diagonal :: up :: above, earlier =>
      let direct := min (min (left + 1) (up + 1)) (diagonal + if c = letter then 0 else 1)
      let distance :=
        match earlier with
        | exchange :: _ =>
            if lastOfWord = some letter ∧ lastLetter = some c then min direct (exchange + 1)
            else direct
        | [] => direct
      distance
        :: distanceRow letter lastLetter (some c) distance word (up :: above)
          (if lastOfWord.isSome then earlier.drop 1 else earlier)
  | _, _, _, _, _ => []

/-- The last row of distances of the prefixes of a word, given the two rows before
the remaining letters of the other. -/
def lastRow (word : List Nat) (lastLetter : Option Nat) (earlier above : List Nat) :
    List Nat → List Nat
  | [] => above
  | letter :: rest =>
      let first := above.headD 0 + 1
      lastRow word (some letter) above
        (first :: distanceRow letter lastLetter none first word above earlier) rest

def maxDistance : Nat := 3

/-- The distance between two words. Words that differ much in length count as wholly
different. -/
def wordDistance (first second : List Nat) : Nat :=
  let longer := max first.length second.length
  if min first.length second.length + maxDistance < longer then longer
  else (lastRow first none [] (List.range (first.length + 1)) second).getLastD 0

/-- The words that may be suggested so far, and their distance. -/
structure Nearest where
  distance : Nat := maxDistance
  words : List String := []

/-- Consider one more word: it has to be similar in more than two fifths of its
length, and no farther than those before it. -/
def Nearest.consider (word : List Nat) (nearest : Nearest) (candidate : String) : Nearest :=
  let letters := Text.unitsOfAll candidate.toList
  let distance := wordDistance word letters
  let longer := max word.length letters.length
  if letters.length ≤ 1 ∨ 5 * (longer - distance) ≤ 2 * longer then nearest
  else if distance < nearest.distance then ⟨distance, [candidate]⟩
  else if distance = nearest.distance then { nearest with words := nearest.words ++ [candidate] }
  else nearest

/-- The names of all long options, in alphabetical order. -/
def longNames : List String :=
  [configOption, dimensionsOption, dryRunOption, fileFormatOption, fileNameOption, helpOption,
    numBlocksOption, toolsOption, versionOption].map OptionSpec.long

/-- What is added to a message on an unknown option: the long options that are
nearest to it, if any is near enough. -/
def suggestion (argument : String) : String :=
  match argument.toList with
  | '-' :: '-' :: word =>
      match (longNames.foldl (Nearest.consider (Text.unitsOfAll word)) {}).words.map
          ("--" ++ ·) with
      | [] => ""
      | [option] => "\n(Did you mean " ++ option ++ "?)"
      | options => "\n(Did you mean one of " ++ String.intercalate ", " options ++ "?)"
  | _ => ""

end PartitionBench.CommandLine
