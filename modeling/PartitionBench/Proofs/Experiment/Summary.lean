import PartitionBench.Experiment
import PartitionBench.Proofs.FileName
import PartitionBench.Proofs.Numeric.Reading

/-!
Contract: what the summary of an experiment tells of the arguments it comes of.

Owns:
- the line of one run, from which its block count and its file are told;
- that arguments with the same summary describe the same experiment, tools apart, which no summary
  shows.

Does not own: where the summary is printed (`Proofs.Pipeline.Order`).
-/

namespace PartitionBench

open PartitionBench.Numeric

/-- The numbers of arguments are stored ones. -/
structure Arguments.AreStored (arguments : Arguments) : Prop where
  blockCounts : ∀ blockCount ∈ arguments.blockCounts, IsStored blockCount
  fileFormat : IsStored arguments.fileFormat
  dimensions : IsStored arguments.dimensions

namespace Experiment

/-! ## Runs -/

/-- The line of a run on a file. -/
def runOn (fileName : String) (blockCount : Int) : String :=
  "  k= " ++ integerText blockCount ++ "\t" ++ Path.name fileName ++ "\t" ++ fileName

/-- All runs of arguments are on their file. -/
theorem runLines_ofArguments (arguments : Arguments) :
    (ofArguments arguments).blockCounts.mapIdx (runLine (ofArguments arguments)) =
      arguments.blockCounts.map (runOn arguments.fileName) := by
  refine List.ext_getElem (by simp [ofArguments]) ?_
  intro place inLines inRuns
  have inCounts : place < arguments.blockCounts.length := by simpa using inRuns
  simp [runLine, runOn, ofArguments, inCounts]

theorem runOn_injective {fileName otherName : String} {blockCount otherCount : Int}
    (isStored : IsStored blockCount) (otherIsStored : IsStored otherCount)
    (same : runOn fileName blockCount = runOn otherName otherCount) :
    blockCount = otherCount ∧ fileName = otherName := by
  have ofLine : ∀ (name : String) (count : Int), (runOn name count).toList =
      "  k= ".toList ++ ((integerText count).toList ++
        '\t' :: (Path.nameChars name.toList ++ '\t' :: name.toList)) := by
    intro name count
    simp [runOn, Path.name, String.toList_append]
  have tabEnds : ∀ rest : List Char, ∀ c ∈ ('\t' :: rest).head?, isNumeralCharacter c = false := by
    intro rest c isFirst
    cases isFirst
    decide
  have sameLine := congrArg String.toList same
  rw [ofLine, ofLine] at sameLine
  obtain ⟨sameCount, sameRest⟩ := integerText_append_injective isStored otherIsStored (tabEnds _)
    (tabEnds _) (List.append_cancel_left sameLine)
  exact ⟨sameCount,
    String.toList_injective (Path.named_injective '\t' (List.cons.inj sameRest).2)⟩

theorem runs_injective {fileName otherName : String} {blockCounts otherCounts : List Int}
    (areStored : ∀ blockCount ∈ blockCounts, IsStored blockCount)
    (othersAreStored : ∀ blockCount ∈ otherCounts, IsStored blockCount)
    (same : blockCounts.map (runOn fileName) = otherCounts.map (runOn otherName)) :
    blockCounts = otherCounts ∧ (blockCounts ≠ [] → fileName = otherName) := by
  induction blockCounts generalizing otherCounts with
  | nil => exact ⟨(List.map_eq_nil_iff.mp same.symm).symm, fun someCounts => absurd rfl someCounts⟩
  | cons blockCount rest inductionHypothesis =>
      cases otherCounts with
      | nil => cases same
      | cons otherCount others =>
          obtain ⟨isStored, restAreStored⟩ := List.forall_mem_cons.mp areStored
          obtain ⟨otherIsStored, restOfOthers⟩ := List.forall_mem_cons.mp othersAreStored
          -- The first runs tell the file, and the others are asked for their block counts only.
          obtain ⟨sameRun, sameRest⟩ := List.cons.inj same
          obtain ⟨rfl, rfl⟩ := runOn_injective isStored otherIsStored sameRun
          obtain ⟨rfl, _⟩ := inductionHypothesis restAreStored restOfOthers sameRest
          exact ⟨rfl, fun _ => rfl⟩

/-! ## Summaries -/

/-- What stands behind the code of a file format: its name in brackets, if it has one. -/
def formatNote (code : Int) : String :=
  match FileFormat.name? code with
  | some name => " (" ++ name ++ ")"
  | none => ""

theorem formatNote_ends (code : Int) :
    ∀ c ∈ (formatNote code).toList.head?, isNumeralCharacter c = false := by
  unfold formatNote
  split
  · intro c isFirst
    rw [String.toList_append, String.toList_append] at isFirst
    cases isFirst
    decide
  · intro c isFirst
    cases isFirst

theorem summary_ofArguments (arguments : Arguments) :
    summary (ofArguments arguments) =
      ["Experiment type: 2, ID: -1", "Dimension: " ++ integerText arguments.dimensions,
        "File format: " ++ integerText arguments.fileFormat ++ formatNote arguments.fileFormat,
        "Number of runs: " ++ integerText arguments.blockCounts.length] ++
        arguments.blockCounts.map (runOn arguments.fileName) := by
  have opening : "Experiment type: " ++ integerText singleFileType ++ ", ID: " ++
      integerText unassignedIdentifier = "Experiment type: 2, ID: -1" := by decide +kernel
  rw [← runLines_ofArguments, ← opening]
  rfl

/-- **The summary identifies the experiment.** Arguments with some block counts have the same
summary exactly when they have the same file name, the same block counts in the same order, the same
file format and the same dimensions. Integers have no bound here, and so they are asked to be stored
ones. -/
theorem summary_ofArguments_eq_iff {first second : Arguments} (firstAreStored : first.AreStored)
    (secondAreStored : second.AreStored) (someBlockCounts : first.blockCounts ≠ []) :
    summary (ofArguments first) = summary (ofArguments second) ↔
      first.fileName = second.fileName ∧ first.blockCounts = second.blockCounts ∧
        first.fileFormat = second.fileFormat ∧ first.dimensions = second.dimensions := by
  rw [summary_ofArguments, summary_ofArguments]
  constructor
  · intro same
    simp only [List.cons_append, List.nil_append, List.cons.injEq, true_and] at same
    obtain ⟨sameDimensions, sameFormat, _, sameRuns⟩ := same
    have dimensions := integerText_injective firstAreStored.dimensions secondAreStored.dimensions
      ((String.append_right_inj _).mp sameDimensions)
    have formatChars := congrArg String.toList sameFormat
    rw [String.append_assoc, String.append_assoc, String.toList_append, String.toList_append,
      String.toList_append, String.toList_append] at formatChars
    obtain ⟨fileFormat, _⟩ := integerText_append_injective firstAreStored.fileFormat
      secondAreStored.fileFormat (formatNote_ends _) (formatNote_ends _)
      (List.append_cancel_left formatChars)
    obtain ⟨blockCounts, sameFile⟩ :=
      runs_injective firstAreStored.blockCounts secondAreStored.blockCounts sameRuns
    exact ⟨sameFile someBlockCounts, blockCounts, fileFormat, dimensions⟩
  · rintro ⟨fileName, blockCounts, fileFormat, dimensions⟩
    rw [fileName, blockCounts, fileFormat, dimensions]

/-- File names of which one stands in front of the other behind a tab, and tools that no summary
shows. -/
theorem summary_ofArguments_ne_with_tabs :
    let first : Arguments := ⟨["Geographer"], "a\ta//", [16, -16], 1, 2⟩
    let second : Arguments := ⟨["Geographer"], "a//", [16, -16], 1, 2⟩
    let third : Arguments := ⟨["metis"], "a\ta//", [16, -16], 1, 2⟩
    summary (ofArguments first) ≠ summary (ofArguments second) ∧
      summary (ofArguments first) = summary (ofArguments third) := by
  intro first second third
  have areStored : ∀ tools fileName, Arguments.AreStored ⟨tools, fileName, [16, -16], 1, 2⟩ := by
    intro tools fileName
    have small : ∀ value ∈ [16, -16, 1, 2], IsStored value := by simp [isStored_of_small]
    exact ⟨fun value member => small value (List.mem_append_left [1, 2] member),
      small 1 (by decide), small 2 (by decide)⟩
  constructor
  · intro same
    have sameFile := ((summary_ofArguments_eq_iff (areStored _ _) (areStored _ _) (by decide)).mp
      same).1
    exact absurd sameFile (by decide)
  · exact (summary_ofArguments_eq_iff (areStored _ _) (areStored _ _) (by decide)).mpr
      ⟨rfl, rfl, rfl, rfl⟩

end Experiment

end PartitionBench
