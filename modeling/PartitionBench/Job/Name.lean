import PartitionBench.Numeric.Shortest
import PartitionBench.Text.Split
import PartitionBench.Text.Units

/-!
Contract: the names of jobs.

Owns:
- the cleaning of texts for use in names;
- the base name of a job, from its tool, its graph and its block count;
- the register of names already given, which tells repeated base names apart by a
  number.

Does not own: the files that are named after jobs (`Job.Plan`).
-/

namespace PartitionBench.Job

def isNameCharacter (c : Char) : Bool :=
  ('A' ≤ c && c ≤ 'Z') || ('a' ≤ c && c ≤ 'z') || ('0' ≤ c && c ≤ '9')
    || c = '_' || c = '.' || c = '-'

/-- What a character becomes in a name: itself, or one underscore for each of its
units. -/
def cleanCharacter (c : Char) : List Char :=
  if isNameCharacter c then [c] else List.replicate (Text.units c) '_'

def clean (chars : List Char) : List Char :=
  chars.flatMap cleanCharacter

/-- The characters of a base name: the tool, the graph without its last extension,
and the block count. -/
def baseNameChars (tool graphName : String) (blockCount : Int) : List Char :=
  clean tool.toList ++ '_' :: clean (Text.beforeLast '.' graphName.toList)
    ++ '_' :: 'k' :: (Numeric.integerText blockCount).toList

def baseName (tool graphName : String) (blockCount : Int) : String :=
  String.ofList (baseNameChars tool graphName blockCount)

def numbered (base : String) (number : Nat) : String :=
  base ++ "_" ++ toString number

/-- The first numbered name from `number` on that is not taken, found within the
given number of probes. -/
def freeFrom (taken : List String) (base : String) : Nat → Nat → String
  | 0, number => numbered base number
  | probes + 1, number =>
      if numbered base number ∈ taken then freeFrom taken base probes (number + 1)
      else numbered base number

/-- The name that a job with the given base name gets: the base name itself, or
with the least number from two on that makes it new. Among as many numbers as
there are names taken, one is free. -/
def freeName (taken : List String) (base : String) : String :=
  if base ∈ taken then freeFrom taken base taken.length 2 else base

/-- The names that jobs with the given base names get, in order, and the names
that are taken afterwards. -/
def claimAll (taken : List String) : List String → List String × List String
  | [] => ([], taken)
  | base :: rest =>
      let name := freeName taken base
      let later := claimAll (name :: taken) rest
      (name :: later.1, later.2)

end PartitionBench.Job
