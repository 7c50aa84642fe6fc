import PartitionBench.CommandLine.Usage
import PartitionBench.Proofs.Arguments
import PartitionBench.Proofs.Check.Issues

/-!
Contract: how the texts of options become arguments.

Owns:
- what is complained about a text that is given for an integer;
- the arguments that the texts of options denote, and that these are the ones that are read.

Does not own: the usage error that the complaints are put into (`Arguments`), and how a command
line is taken apart (`CommandLine.Usage`).
-/

namespace PartitionBench

open PartitionBench.Document PartitionBench.Numeric Checked Check

namespace Arguments

/-- The complaints of an integer option about the text it is given: one at most, and which one is
decided by the integer that the text spells. -/
structure Judges (option text : String) (complaints : List String) : Prop where
  accepted : complaints = [] ↔ ∃ value, Spells text value ∧ value.natAbs ≤ 2 ^ 53 - 1
  outOfRange : complaints = [option ++ " is out of range"] ↔
    ∃ value, Spells text value ∧ 2 ^ 53 - 1 < value.natAbs
  notInteger : complaints = [option ++ " expects an integer"] ↔ ∀ value, ¬ Spells text value

theorem messages_differ (option : String) :
    option ++ " is out of range" ≠ option ++ " expects an integer" := by
  intro equal
  have characters := congrArg String.toList equal
  rw [String.toList_append, String.toList_append] at characters
  exact absurd (List.append_cancel_left characters) (by decide)

theorem integerOption_judges (option text : String) :
    Judges option text ((integerOption option (.text text)).complaintsAt []) := by
  have differ : [option ++ " is out of range"] ≠ [option ++ " expects an integer"] :=
    fun equal => messages_differ option (List.cons.inj equal).1
  have isRead := readInteger_spec text
  simp only [isSafe_iff] at isRead
  simp only [integerOption]
  generalize readInteger text = reading at *
  cases reading with
  | notInteger =>
      constructor
      case accepted =>
        refine iff_of_false (List.cons_ne_nil _ _) ?_
        rintro ⟨value, spells, _⟩
        exact isRead value spells
      case outOfRange =>
        refine iff_of_false differ.symm ?_
        rintro ⟨value, spells, _⟩
        exact isRead value spells
      case notInteger => exact iff_of_true rfl isRead
  | outOfRange stored =>
      obtain ⟨spelled, isSpelled, beyond⟩ := isRead
      constructor
      case accepted =>
        refine iff_of_false (List.cons_ne_nil _ _) ?_
        rintro ⟨value, spells, inRange⟩
        obtain rfl := isSpelled.unique spells
        omega
      case outOfRange => exact iff_of_true rfl ⟨spelled, isSpelled, by omega⟩
      case notInteger => exact iff_of_false differ fun none => none spelled isSpelled
  | integer spelled =>
      obtain ⟨isSpelled, inRange⟩ := isRead
      constructor
      case accepted => exact iff_of_true rfl ⟨spelled, isSpelled, by omega⟩
      case outOfRange =>
        refine iff_of_false (List.cons_ne_nil _ _).symm ?_
        rintro ⟨value, spells, beyond⟩
        obtain rfl := isSpelled.unique spells
        omega
      case notInteger =>
        exact iff_of_false (List.cons_ne_nil _ _).symm fun none => none spelled isSpelled

end Arguments

namespace CommandLine.SubmitOptions

/-- A text is given for an integer: one for each block count, one for the file format and one for
the dimensions. -/
inductive GivesInteger (options : SubmitOptions) : String → List Step → String → Prop
  | blockCount {index : Nat} {text : String} (isGiven : options.blockCounts[index]? = some text) :
      GivesInteger options "--numBlocks" [.field "numBlocks", .item index] text
  | fileFormat : GivesInteger options "--fileFormat" [.field "fileFormat"] options.fileFormat
  | dimensions : GivesInteger options "--dimensions" [.field "dimensions"] options.dimensions

/-- The texts of options denote arguments: names are taken as they are, and integers are those that
the texts spell. -/
structure Denotes (options : SubmitOptions) (arguments : Arguments) : Prop where
  tools : arguments.tools = options.tools
  someTools : options.tools ≠ []
  toolsNamed : ∀ tool ∈ options.tools, tool ≠ ""
  fileName : arguments.fileName = options.fileName
  fileNamed : options.fileName ≠ ""
  someBlockCounts : options.blockCounts ≠ []
  blockCounts : List.Forall₂ Arguments.Denotes options.blockCounts arguments.blockCounts
  fileFormat : Arguments.Denotes options.fileFormat arguments.fileFormat
  dimensions : Arguments.Denotes options.dimensions arguments.dimensions

theorem check_toValue (options : SubmitOptions) :
    Arguments.check options.toValue =
      Arguments.mk
        <$> (listOr (.stated "--tools needs at least one name") someText
              (.ofTexts options.tools)).under (.field "tools")
        <*> (textOr (.stated "--fileName must not be empty")
              (.text options.fileName)).under (.field "fileName")
        <*> (listOr (.stated "--numBlocks needs at least one value")
              (Arguments.integerOption "--numBlocks")
              (.ofTexts options.blockCounts)).under (.field "numBlocks")
        <*> (Arguments.integerOption "--fileFormat"
              (.text options.fileFormat)).under (.field "fileFormat")
        <*> (Arguments.integerOption "--dimensions"
              (.text options.dimensions)).under (.field "dimensions") :=
  rfl

theorem accepts_toValue {options : SubmitOptions} {arguments : Arguments} :
    (Arguments.check options.toValue).Accepts arguments ↔ options.Denotes arguments := by
  rw [check_toValue]
  simp only [accepts_seq, accepts_map, accepts_under, accepts_ofTexts, accepts_textOr,
    accepts_someText, Arguments.accepts_integerOption]
  constructor
  · rintro ⟨_, ⟨_, ⟨_, ⟨_, ⟨tools, ⟨someTools, areTools⟩, rfl⟩, fileName, isName, rfl⟩,
      blockCounts, ⟨someBlockCounts, areBlockCounts⟩, rfl⟩, fileFormat, isFormat, rfl⟩,
      dimensions, areDimensions, rfl⟩
    obtain ⟨toolsNamed, rfl⟩ := areTexts_iff.mp areTools
    obtain ⟨sameName, fileNamed⟩ := isName
    obtain rfl := Value.text.inj sameName
    exact ⟨rfl, someTools, toolsNamed, rfl, fileNamed, someBlockCounts, areBlockCounts, isFormat,
      areDimensions⟩
  · obtain ⟨tools, fileName, blockCounts, fileFormat, dimensions⟩ := arguments
    rintro ⟨rfl, someTools, toolsNamed, rfl, fileNamed, someBlockCounts, areBlockCounts, isFormat,
      areDimensions⟩
    exact ⟨_, ⟨_, ⟨_, ⟨_, ⟨_, ⟨someTools, areTexts_iff.mpr ⟨toolsNamed, rfl⟩⟩, rfl⟩, _,
      ⟨rfl, fileNamed⟩, rfl⟩, _, ⟨someBlockCounts, areBlockCounts⟩, rfl⟩, _, isFormat, rfl⟩, _,
      areDimensions, rfl⟩

/-- What is complained about a text that is given for an integer is what its option complains
about. -/
theorem complaintsAt_toValue {options : SubmitOptions} {option text : String} {place : List Step}
    (isGiven : options.GivesInteger option place text) :
    (Arguments.check options.toValue).complaintsAt place =
      (Arguments.integerOption option (.text text)).complaintsAt [] := by
  rw [check_toValue]
  simp only [complaintsAt_seq, complaintsAt_map]
  cases isGiven with
  | @blockCount index text isGiven =>
      have isItem : (options.blockCounts.map Value.text)[index]? = some (.text text) := by
        rw [List.getElem?_map, isGiven]
        rfl
      simp only [complaintsAt_inside, Value.ofTexts, listOr, complaintsAt_listWith isItem]
      simp [complaintsAt_elsewhere]
  | fileFormat => simp [complaintsAt_inside, complaintsAt_elsewhere]
  | dimensions => simp [complaintsAt_inside, complaintsAt_elsewhere]

/-- **Integer options** are read exactly: the complaint about a text is decided by the integer that
it spells, and what is accepted is that integer. -/
theorem integers_read_exactly (options : SubmitOptions) :
    (∀ option place text, options.GivesInteger option place text →
      Arguments.Judges option text ((Arguments.check options.toValue).complaintsAt place)) ∧
    ∀ arguments, Arguments.ofValue options.toValue = .ok arguments ↔ options.Denotes arguments := by
  constructor
  · intro option place text isGiven
    rw [complaintsAt_toValue isGiven]
    exact Arguments.integerOption_judges option text
  · intro arguments
    rw [Arguments.ofValue_eq_ok_iff]
    exact accepts_toValue

end CommandLine.SubmitOptions

end PartitionBench
