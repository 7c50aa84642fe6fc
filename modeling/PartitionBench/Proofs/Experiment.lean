import PartitionBench.Experiment
import PartitionBench.Proofs.Check

/-!
Contract: the descriptors that are accepted.

Owns: what makes a document value the descriptor of an experiment, and that the check of
descriptors accepts exactly these.

Does not own: what is done with a descriptor that is refused (`Proofs.Batch.Refusal`).
-/

namespace PartitionBench.Experiment

open PartitionBench.Document PartitionBench.Numeric Checked Check

/-- A value describes an experiment: it is a record whose fields hold the integers of the
experiment, its block counts, of which there is one at least, and for each of them a path and
the name of a graph, none of which is empty. -/
structure Describes (value : Value) (experiment : Experiment) : Prop where
  experimentType : ∃ found, value.field? "experimentType" = some found ∧
    IsInteger found experiment.experimentType
  dimension : ∃ found, value.field? "dimension" = some found ∧
    IsInteger found experiment.dimension
  fileFormatCode : ∃ found, value.field? "fileFormatCode" = some found ∧
    IsInteger found experiment.fileFormatCode
  identifier : ∃ found, value.field? "identifier" = some found ∧
    IsInteger found experiment.identifier
  blockCounts : ∃ found, value.field? "blockCounts" = some (.list found) ∧
    List.Forall₂ IsInteger found experiment.blockCounts
  size : ∃ found, value.field? "size" = some found ∧ IsInteger found experiment.size
  paths : ∃ found, value.field? "paths" = some (.list found) ∧
    List.Forall₂ IsText found experiment.paths
  graphNames : ∃ found, value.field? "graphNames" = some (.list found) ∧
    List.Forall₂ IsText found experiment.graphNames
  notEmpty : experiment.blockCounts ≠ []
  blockCountsAligned : experiment.size = experiment.blockCounts.length
  pathsAligned : experiment.size = experiment.paths.length
  graphNamesAligned : experiment.size = experiment.graphNames.length

/-- The fields of a record are read as a draft. -/
structure Drafted (fields : List (String × Value)) (draft : Draft) : Prop where
  experimentType : (field "experimentType" whole fields).Accepts draft.experimentType
  dimension : (field "dimension" whole fields).Accepts draft.dimension
  fileFormatCode : (field "fileFormatCode" whole fields).Accepts draft.fileFormatCode
  identifier : (field "identifier" whole fields).Accepts draft.identifier
  blockCounts : (field "blockCounts" (someList whole) fields).Accepts draft.blockCounts
  size : (field "size" (wholeFrom 1) fields).Accepts draft.size
  paths : (field "paths" (anyList someText) fields).Accepts draft.paths
  graphNames : (field "graphNames" (anyList someText) fields).Accepts draft.graphNames

/-- A descriptor is accepted when its fields are read as a draft with aligned lists. -/
theorem check_accepts_iff_drafted {value : Value} {experiment : Experiment} :
    (check value).Accepts experiment ↔
      ∃ fields draft, value = .record fields ∧ Drafted fields draft ∧ draft.isAligned = true ∧
        ofDraft draft = experiment := by
  simp only [check, accepts_map, accepts_refine, accepts_record, accepts_seq]
  constructor
  · rintro ⟨draft, ⟨⟨fields, rfl, _, ⟨_, ⟨_, ⟨_, ⟨_, ⟨_, ⟨_, ⟨experimentType, byType, rfl⟩, dimension,
      byDimension, rfl⟩, fileFormatCode, byFormat, rfl⟩, identifier, byIdentifier, rfl⟩,
      blockCounts, byCounts, rfl⟩, size, bySize, rfl⟩, paths, byPaths, rfl⟩, graphNames,
      byNames, rfl⟩, aligned⟩, rfl⟩
    exact ⟨fields, _, rfl, ⟨byType, byDimension, byFormat, byIdentifier, byCounts, bySize, byPaths,
      byNames⟩, aligned, rfl⟩
  · rintro ⟨fields, draft, rfl, drafted, aligned, rfl⟩
    exact ⟨draft, ⟨⟨fields, rfl, _, ⟨_, ⟨_, ⟨_, ⟨_, ⟨_, ⟨_, ⟨_, drafted.experimentType, rfl⟩, _,
      drafted.dimension, rfl⟩, _, drafted.fileFormatCode, rfl⟩, _, drafted.identifier, rfl⟩, _,
      drafted.blockCounts, rfl⟩, _, drafted.size, rfl⟩, _, drafted.paths, rfl⟩, _,
      drafted.graphNames, rfl⟩, aligned⟩, rfl⟩

/-! ## Numbers and the integers that they store -/

theorem isInteger_of_whole {value : Value} {number : Binary64}
    (isRead : (whole value).Accepts number) : IsInteger value number.toInt := by
  obtain ⟨rfl, integer, isInteger⟩ := accepts_whole.mp isRead
  rw [toInt_of_integer isInteger]
  exact ⟨number, rfl, isInteger⟩

theorem whole_of_isInteger {value : Value} {integer : Int} (isInteger : IsInteger value integer) :
    ∃ number, (whole value).Accepts number ∧ number.integer? = some integer := by
  obtain ⟨number, rfl, isStored⟩ := isInteger
  exact ⟨number, accepts_whole.mpr ⟨rfl, integer, isStored⟩, isStored⟩

theorem areIntegers_of_wholes {values : List Value} {numbers : List Binary64}
    (areRead : List.Forall₂ (fun value number => (whole value).Accepts number) values numbers) :
    List.Forall₂ IsInteger values (numbers.map Binary64.toInt) := by
  rw [List.forall₂_map_right_iff]
  exact areRead.imp fun _ _ => isInteger_of_whole

theorem wholes_of_areIntegers {values : List Value} {integers : List Int}
    (areIntegers : List.Forall₂ IsInteger values integers) :
    ∃ numbers, List.Forall₂ (fun value number => (whole value).Accepts number) values numbers ∧
      numbers.map Binary64.toInt = integers := by
  induction areIntegers with
  | nil => exact ⟨[], List.Forall₂.nil, rfl⟩
  | cons isInteger _ inductionHypothesis =>
      obtain ⟨number, isRead, isStored⟩ := whole_of_isInteger isInteger
      obtain ⟨numbers, areRead, areStored⟩ := inductionHypothesis
      refine ⟨number :: numbers, List.Forall₂.cons isRead areRead, ?_⟩
      rw [List.map_cons, toInt_of_integer isStored, areStored]

theorem accepts_texts {value : Value} {texts : List String} :
    (anyList someText value).Accepts texts ↔
      ∃ values, value = .list values ∧ List.Forall₂ IsText values texts := by
  simp only [accepts_anyList, accepts_someText]

/-! ## What is accepted -/

theorem isAligned_iff {draft : Draft} :
    draft.isAligned = true ↔ draft.size.integer? = some (draft.blockCounts.length : Int) ∧
      draft.size.integer? = some (draft.paths.length : Int) ∧
      draft.size.integer? = some (draft.graphNames.length : Int) := by
  simp [Draft.isAligned, and_assoc]

theorem describes_of_drafted {fields : List (String × Value)} {draft : Draft}
    (drafted : Drafted fields draft) (aligned : draft.isAligned = true) :
    Describes (.record fields) (ofDraft draft) := by
  have holdsInteger : ∀ {name : String} {number : Binary64},
      (field name whole fields).Accepts number →
        ∃ found, Table.find? fields name = some found ∧ IsInteger found number.toInt := by
    intro name number isRead
    obtain ⟨found, isFound, ofFound⟩ := accepts_field.mp isRead
    exact ⟨found, isFound, isInteger_of_whole ofFound⟩
  have holdsTexts : ∀ {name : String} {texts : List String},
      (field name (anyList someText) fields).Accepts texts →
        ∃ found, Table.find? fields name = some (.list found) ∧
          List.Forall₂ IsText found texts := by
    intro name texts isRead
    obtain ⟨found, isFound, ofFound⟩ := accepts_field.mp isRead
    obtain ⟨values, rfl, areTexts⟩ := accepts_texts.mp ofFound
    exact ⟨values, isFound, areTexts⟩
  obtain ⟨counts, countsFound, ofCounts⟩ := accepts_field.mp drafted.blockCounts
  obtain ⟨values, rfl, someValues, areRead⟩ := accepts_someList.mp ofCounts
  obtain ⟨size, sizeFound, ofSize⟩ := accepts_field.mp drafted.size
  obtain ⟨rfl, integer, isStored, _⟩ := accepts_wholeFrom.mp ofSize
  obtain ⟨byCounts, byPaths, byNames⟩ := isAligned_iff.mp aligned
  constructor
  case experimentType => exact holdsInteger drafted.experimentType
  case dimension => exact holdsInteger drafted.dimension
  case fileFormatCode => exact holdsInteger drafted.fileFormatCode
  case identifier => exact holdsInteger drafted.identifier
  case blockCounts => exact ⟨values, countsFound, areIntegers_of_wholes areRead⟩
  case size =>
    refine ⟨_, sizeFound, draft.size, rfl, ?_⟩
    rw [isStored]
    exact congrArg some (toInt_of_integer isStored).symm
  case paths => exact holdsTexts drafted.paths
  case graphNames => exact holdsTexts drafted.graphNames
  case notEmpty =>
    intro noCounts
    have noNumbers : draft.blockCounts = [] := List.map_eq_nil_iff.mp noCounts
    rw [noNumbers] at areRead
    exact someValues (List.forall₂_nil_right_iff.mp areRead)
  case blockCountsAligned =>
    exact (toInt_of_integer byCounts).trans (congrArg Nat.cast (List.length_map _).symm)
  case pathsAligned => exact toInt_of_integer byPaths
  case graphNamesAligned => exact toInt_of_integer byNames

theorem drafted_of_describes {fields : List (String × Value)} {experiment : Experiment}
    (describes : Describes (.record fields) experiment) :
    ∃ draft, Drafted fields draft ∧ draft.isAligned = true ∧ ofDraft draft = experiment := by
  have readsInteger : ∀ {name : String} {integer : Int},
      (∃ found, Table.find? fields name = some found ∧ IsInteger found integer) →
        ∃ number, (field name whole fields).Accepts number ∧ number.toInt = integer := by
    rintro name integer ⟨found, isFound, isInteger⟩
    obtain ⟨number, isRead, isStored⟩ := whole_of_isInteger isInteger
    exact ⟨number, accepts_field.mpr ⟨found, isFound, isRead⟩, toInt_of_integer isStored⟩
  have readsTexts : ∀ {name : String} {texts : List String},
      (∃ found, Table.find? fields name = some (.list found) ∧ List.Forall₂ IsText found texts) →
        (field name (anyList someText) fields).Accepts texts := by
    rintro name texts ⟨found, isFound, areTexts⟩
    exact accepts_field.mpr ⟨_, isFound, accepts_texts.mpr ⟨found, rfl, areTexts⟩⟩
  obtain ⟨experimentType, readsType, isType⟩ := readsInteger describes.experimentType
  obtain ⟨dimension, readsDimension, isDimension⟩ := readsInteger describes.dimension
  obtain ⟨fileFormatCode, readsFormat, isFormat⟩ := readsInteger describes.fileFormatCode
  obtain ⟨identifier, readsIdentifier, isIdentifier⟩ := readsInteger describes.identifier
  obtain ⟨values, valuesFound, areIntegers⟩ := describes.blockCounts
  obtain ⟨blockCounts, areRead, areStored⟩ := wholes_of_areIntegers areIntegers
  obtain ⟨found, sizeFound, size, rfl, sizeStored⟩ := describes.size
  have someValues : values ≠ [] := by
    rintro rfl
    exact describes.notEmpty (List.forall₂_nil_left_iff.mp areIntegers)
  have countsLength : blockCounts.length = experiment.blockCounts.length := by
    rw [← areStored, List.length_map]
  have atLeastOne : 1 ≤ experiment.size := by
    have positive := List.length_pos_iff.mpr describes.notEmpty
    rw [describes.blockCountsAligned]
    omega
  refine ⟨⟨experimentType, dimension, fileFormatCode, identifier, blockCounts, size,
    experiment.paths, experiment.graphNames⟩, ?_, ?_, ?_⟩
  · constructor
    case experimentType => exact readsType
    case dimension => exact readsDimension
    case fileFormatCode => exact readsFormat
    case identifier => exact readsIdentifier
    case blockCounts =>
      exact accepts_field.mpr ⟨_, valuesFound, accepts_someList.mpr ⟨values, rfl, someValues, areRead⟩⟩
    case size =>
      exact accepts_field.mpr ⟨_, sizeFound,
        accepts_wholeFrom.mpr ⟨rfl, experiment.size, sizeStored, atLeastOne⟩⟩
    case paths => exact readsTexts describes.paths
    case graphNames => exact readsTexts describes.graphNames
  · rw [isAligned_iff, sizeStored, countsLength, ← describes.blockCountsAligned,
      ← describes.pathsAligned, ← describes.graphNamesAligned]
    exact ⟨rfl, rfl, rfl⟩
  · simp only [ofDraft, isType, isDimension, isFormat, isIdentifier, areStored,
      toInt_of_integer sizeStored]

/-- The descriptors of an experiment are exactly the values that are accepted as it. -/
theorem check_accepts_iff {value : Value} {experiment : Experiment} :
    (check value).Accepts experiment ↔ Describes value experiment := by
  rw [check_accepts_iff_drafted]
  constructor
  · rintro ⟨fields, draft, rfl, drafted, aligned, rfl⟩
    exact describes_of_drafted drafted aligned
  · intro describes
    have isRecord : ∃ fields, value = .record fields := by
      obtain ⟨found, isFound, _⟩ := describes.size
      cases value with
      | record fields => exact ⟨fields, rfl⟩
      | _ => cases isFound
    obtain ⟨fields, rfl⟩ := isRecord
    obtain ⟨draft, drafted, aligned, isDraft⟩ := drafted_of_describes describes
    exact ⟨fields, draft, rfl, drafted, aligned, isDraft⟩

/-! ## The experiment of arguments -/

theorem isInteger_ofInt {value integer : Int} (isInteger : IsInteger (.ofInt value) integer) :
    value = integer := by
  obtain ⟨number, isNumber, isStored⟩ := isInteger
  cases isNumber
  rw [integer?_finite] at isStored
  exact Option.some.inj isStored

/-- An experiment that is accepted as the one of arguments has their block counts. -/
theorem blockCounts_of_arguments {arguments : Arguments} {experiment : Experiment}
    (describes : Describes (ofArguments arguments).toValue experiment) :
    experiment.blockCounts = arguments.blockCounts := by
  obtain ⟨found, isFound, areIntegers⟩ := describes.blockCounts
  have isGiven : (ofArguments arguments).toValue.field? "blockCounts" =
      some (.list (arguments.blockCounts.map .ofInt)) := rfl
  rw [isGiven] at isFound
  cases isFound
  rw [List.forall₂_map_left_iff] at areIntegers
  have same : List.Forall₂ Eq arguments.blockCounts experiment.blockCounts :=
    areIntegers.imp fun _ _ => isInteger_ofInt
  exact (List.forall₂_eq_eq_eq ▸ same : arguments.blockCounts = experiment.blockCounts).symm

end PartitionBench.Experiment
