import PartitionBench.Numeric.Shortest

/-!
Contract: advice on arguments that look wrong but are accepted.

Owns: the kinds of warning and their wording.

Does not own: when a warning is given (`Validation`).
-/

namespace PartitionBench

open PartitionBench.Numeric

/-- Advice on the arguments of a submission. -/
inductive Warning where
  | formatMismatch (code : Int) (found usual : String)
  | blockCount (count : Int)
  | dimension (count : Int)
  | fileFormat (code : Int)
  deriving DecidableEq, Repr

/-- Block counts are expected to be multiples of this number. -/
def blockCountMultiple : Int := 16

def Warning.text : Warning → String
  | .formatMismatch code found usual =>
      "file format " ++ integerText code ++ " expects a ." ++ usual
        ++ " file but got ." ++ found
        ++ "; file format and file given probably do not agree."
  | .blockCount count =>
      "k= " ++ integerText count ++ " is not a multiple of " ++ integerText blockCountMultiple
  | .dimension count => "wrong value for dimension: " ++ integerText count
  | .fileFormat code => "wrong value for fileFormat: " ++ integerText code

end PartitionBench
