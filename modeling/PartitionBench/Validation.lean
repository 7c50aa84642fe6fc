import PartitionBench.Activity
import PartitionBench.Arguments
import PartitionBench.FileFormat

/-!
Contract: advice on the arguments of a submission, and the one hard demand that
the file exists.

Owns: which warnings arguments give rise to and in which order, and the look-up
of the file between the first of them and the others.

Does not own: the wording of warnings (`Warning`) and how a file is looked up.
-/

namespace PartitionBench.Validation

/-- The warning that the file name does not end as its format usually does. -/
def formatAdvice (arguments : Arguments) : List Warning :=
  let found := fileExtension arguments.fileName
  match FileFormat.extension? arguments.fileFormat with
  | some usual =>
      if found = usual then [] else [.formatMismatch arguments.fileFormat found usual]
  | none => []

/-- The warnings on block counts that are no multiples, one for each, in order. -/
def countAdvice (arguments : Arguments) : List Warning :=
  (arguments.blockCounts.filter (fun count => count % blockCountMultiple ≠ 0)).map .blockCount

/-- The warning on a dimension that is not positive. -/
def dimensionAdvice (arguments : Arguments) : List Warning :=
  if arguments.dimensions ≤ 0 then [.dimension arguments.dimensions] else []

def codeAdvice (arguments : Arguments) : List Warning :=
  if arguments.fileFormat < 0 then [.fileFormat arguments.fileFormat] else []

/-- All warnings that arguments give rise to, in order. -/
def advice (arguments : Arguments) : List Warning :=
  formatAdvice arguments ++ countAdvice arguments ++ dimensionAdvice arguments
    ++ codeAdvice arguments

/-- Look the file up and give the warnings. When the file is missing, the failure
carries the warning that was found before it was looked up. -/
def validate {σ : Type} (present : σ → String → Except Failure Bool) (arguments : Arguments) :
    Activity σ (List Warning) :=
  fun state =>
    let result : Except Failure (List Warning) :=
      match present state arguments.fileName with
      | .error failure => .error failure
      | .ok true => .ok (advice arguments)
      | .ok false => .error (.missingInput arguments.fileName (formatAdvice arguments))
    ⟨result, [.lookedUp arguments.fileName], state⟩

end PartitionBench.Validation
