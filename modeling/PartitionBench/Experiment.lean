import PartitionBench.Arguments
import PartitionBench.Check
import PartitionBench.FileFormat
import PartitionBench.Path

/-!
Contract: the experiment that a submission runs.

Owns:
- the descriptor of an experiment and its shape as a document value;
- the descriptor built from arguments;
- the summary that the operator sees before being asked.

Does not own: advice on the arguments (`Validation`) and jobs (`Job.Plan`).
-/

namespace PartitionBench

open PartitionBench.Document PartitionBench.Numeric

/-- An experiment: runs of one kind on a list of graphs, one run per block count.
The lists have `size` entries each. -/
structure Experiment where
  experimentType : Int
  dimension : Int
  fileFormatCode : Int
  identifier : Int
  blockCounts : List Int
  size : Int
  paths : List String
  graphNames : List String
  deriving DecidableEq, Repr

namespace Experiment

/-- The kind of experiment that runs a single file with listed block counts. -/
def singleFileType : Int := 2

/-- The identifier of an experiment that has not been given one. -/
def unassignedIdentifier : Int := -1

/-- A descriptor whose numbers have not been found to be integers yet. -/
structure Draft where
  experimentType : Binary64
  dimension : Binary64
  fileFormatCode : Binary64
  identifier : Binary64
  blockCounts : List Binary64
  size : Binary64
  paths : List String
  graphNames : List String

/-- The three lists of a draft have as many entries as it says. -/
def Draft.isAligned (draft : Draft) : Bool :=
  draft.size.integer? = some (draft.blockCounts.length : Int)
    && draft.size.integer? = some (draft.paths.length : Int)
    && draft.size.integer? = some (draft.graphNames.length : Int)

/-- The descriptor that a draft of integers is. -/
def ofDraft (draft : Draft) : Experiment :=
  { experimentType := draft.experimentType.toInt
    dimension := draft.dimension.toInt
    fileFormatCode := draft.fileFormatCode.toInt
    identifier := draft.identifier.toInt
    blockCounts := draft.blockCounts.map Binary64.toInt
    size := draft.size.toInt
    paths := draft.paths
    graphNames := draft.graphNames }

/-- The message of a descriptor whose lists differ in length. -/
def misaligned : String :=
  "blockCounts, paths and graphNames must all have `size` entries"

/-- The descriptor in a document value. That the lists are aligned is checked
whenever each field could be read, even if a field has issues of its own. -/
def check (value : Value) : Checked Experiment :=
  ofDraft <$> (Check.record (fun fields =>
    Draft.mk
      <$> Check.field "experimentType" Check.whole fields
      <*> Check.field "dimension" Check.whole fields
      <*> Check.field "fileFormatCode" Check.whole fields
      <*> Check.field "identifier" Check.whole fields
      <*> Check.field "blockCounts" (Check.someList Check.whole) fields
      <*> Check.field "size" (Check.wholeFrom 1) fields
      <*> Check.field "paths" (Check.anyList Check.someText) fields
      <*> Check.field "graphNames" (Check.anyList Check.someText) fields) value).refine
    Draft.isAligned misaligned

def toValue (experiment : Experiment) : Value :=
  .record [
    ("experimentType", .ofInt experiment.experimentType),
    ("dimension", .ofInt experiment.dimension),
    ("fileFormatCode", .ofInt experiment.fileFormatCode),
    ("identifier", .ofInt experiment.identifier),
    ("blockCounts", .list (experiment.blockCounts.map .ofInt)),
    ("size", .ofInt experiment.size),
    ("paths", .ofTexts experiment.paths),
    ("graphNames", .ofTexts experiment.graphNames)]

/-- The experiment that arguments describe: the same file for every block count. -/
def ofArguments (arguments : Arguments) : Experiment :=
  let count := arguments.blockCounts.length
  { experimentType := singleFileType
    dimension := arguments.dimensions
    fileFormatCode := arguments.fileFormat
    identifier := unassignedIdentifier
    blockCounts := arguments.blockCounts
    size := count
    paths := List.replicate count arguments.fileName
    graphNames := List.replicate count (Path.name arguments.fileName) }

/-- The line of the summary for one run. An entry that a list does not have is
left empty. -/
def runLine (experiment : Experiment) (index : Nat) (blockCount : Int) : String :=
  "  k= " ++ integerText blockCount
    ++ "\t" ++ experiment.graphNames.getD index ""
    ++ "\t" ++ experiment.paths.getD index ""

/-- The summary of an experiment, line by line. -/
def summary (experiment : Experiment) : List String :=
  let format :=
    match FileFormat.name? experiment.fileFormatCode with
    | some name => " (" ++ name ++ ")"
    | none => ""
  ["Experiment type: " ++ integerText experiment.experimentType
      ++ ", ID: " ++ integerText experiment.identifier,
    "Dimension: " ++ integerText experiment.dimension,
    "File format: " ++ integerText experiment.fileFormatCode ++ format,
    "Number of runs: " ++ integerText experiment.size]
    ++ experiment.blockCounts.mapIdx (runLine experiment)

end Experiment

end PartitionBench
