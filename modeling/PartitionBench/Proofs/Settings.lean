import Mathlib.Data.List.Basic
import PartitionBench.Proofs.Check
import PartitionBench.Proofs.FileName
import PartitionBench.Proofs.Numeric.Stored
import PartitionBench.Settings.Load

/-!
Contract: what is known of settings that were checked.

Owns:
- the fields that settings are read from;
- the wall time of checked settings, and its characters;
- the cores of a node in checked settings;
- the failures of reading settings from a configuration file.

Does not own: what the checks themselves accept (`Proofs.Check`).
-/

namespace PartitionBench.Settings

open PartitionBench.Document PartitionBench.Numeric Checked Check

/-- The fields of a record are read as settings. -/
structure Read (fields : List (String × Value)) (settings : Settings) : Prop where
  submitCommand : (fieldOr "submitCommand" standard.submitCommand someText fields).Accepts
    settings.submitCommand
  account : (optionalField "account" someText fields).Accepts settings.account
  partition : (optionalField "partition" someText fields).Accepts settings.partition
  walltime : (fieldOr "walltime" standard.walltime walltimeCheck fields).Accepts settings.walltime
  coresPerNode : (fieldOr "coresPerNode" standard.coresPerNode (integerOf positiveWhole)
    fields).Accepts settings.coresPerNode
  jobDirectory : (fieldOr "jobDir" standard.jobDirectory someText fields).Accepts
    settings.jobDirectory
  outputDirectory : (fieldOr "outputDir" standard.outputDirectory someText fields).Accepts
    settings.outputDirectory
  launcher : (fieldOr "launcher" standard.launcher someText fields).Accepts settings.launcher
  repeatTimes : (fieldOr "repeatTimes" standard.repeatTimes (integerOf positiveWhole)
    fields).Accepts settings.repeatTimes
  initialPartition : (fieldOr "initialPartition" standard.initialPartition
    (integerOf (wholeFrom 0)) fields).Accepts settings.initialPartition
  initialMigration : (fieldOr "initialMigration" standard.initialMigration
    (integerOf (wholeFrom 0)) fields).Accepts settings.initialMigration
  executables : (fieldOr "executables" standard.executables (table someText) fields).Accepts
    settings.executables
  competitorsExecutable : (fieldOr "competitorsExecutable" standard.competitorsExecutable someText
    fields).Accepts settings.competitorsExecutable
  allCompetitorsExecutable : (fieldOr "allCompetitorsExecutable"
    standard.allCompetitorsExecutable someText fields).Accepts settings.allCompetitorsExecutable
  competitorTools : (fieldOr "competitorTools" standard.competitorTools (someList someText)
    fields).Accepts settings.competitorTools

theorem read_of_check {value : Value} {settings : Settings}
    (isChecked : (check value).Accepts settings) :
    ∃ fields, value = .record fields ∧ Read fields settings := by
  obtain ⟨fields, rfl, areChecked⟩ := accepts_record.mp isChecked
  simp only [accepts_seq, accepts_map] at areChecked
  obtain ⟨_, ⟨_, ⟨_, ⟨_, ⟨_, ⟨_, ⟨_, ⟨_, ⟨_, ⟨_, ⟨_, ⟨_, ⟨_, ⟨_, ⟨_, submitCommand, rfl⟩, _, account,
    rfl⟩, _, partition, rfl⟩, _, walltime, rfl⟩, _, coresPerNode, rfl⟩, _, jobDirectory, rfl⟩, _,
    outputDirectory, rfl⟩, _, launcher, rfl⟩, _, repeatTimes, rfl⟩, _, initialPartition, rfl⟩, _,
    initialMigration, rfl⟩, _, executables, rfl⟩, _, competitorsExecutable, rfl⟩, _,
    allCompetitorsExecutable, rfl⟩, _, competitorTools, rfl⟩ := areChecked
  exact ⟨fields, rfl, submitCommand, account, partition, walltime, coresPerNode, jobDirectory,
    outputDirectory, launcher, repeatTimes, initialPartition, initialMigration, executables,
    competitorsExecutable, allCompetitorsExecutable, competitorTools⟩

/-- Settings that are read of all fields of a record are accepted. -/
theorem check_of_read {fields : List (String × Value)} {settings : Settings}
    (read : Read fields settings) : (check (.record fields)).Accepts settings := by
  refine accepts_record.mpr ⟨fields, rfl, ?_⟩
  simp only [accepts_seq, accepts_map]
  exact ⟨_, ⟨_, ⟨_, ⟨_, ⟨_, ⟨_, ⟨_, ⟨_, ⟨_, ⟨_, ⟨_, ⟨_, ⟨_, ⟨_, ⟨_, read.submitCommand, rfl⟩, _,
    read.account, rfl⟩, _, read.partition, rfl⟩, _, read.walltime, rfl⟩, _, read.coresPerNode,
    rfl⟩, _, read.jobDirectory, rfl⟩, _, read.outputDirectory, rfl⟩, _, read.launcher, rfl⟩, _,
    read.repeatTimes, rfl⟩, _, read.initialPartition, rfl⟩, _, read.initialMigration, rfl⟩, _,
    read.executables, rfl⟩, _, read.competitorsExecutable, rfl⟩, _,
    read.allCompetitorsExecutable, rfl⟩, _, read.competitorTools, rfl⟩

/-- The wall time of checked settings is one, whether it was given or is the default. -/
theorem check_isWalltime {value : Value} {settings : Settings}
    (isChecked : (check value).Accepts settings) : isWalltime settings.walltime = true := by
  obtain ⟨fields, _, read⟩ := read_of_check isChecked
  rcases accepts_fieldOr.mp read.walltime with ⟨_, isStandard⟩ | ⟨found, _, isText⟩
  · rw [← isStandard]
    decide
  · exact (accepts_textWhere.mp isText).2

/-- A wall time consists of digits and colons. -/
theorem isWalltime_characters {text : String} (holds : isWalltime text = true) :
    ∀ c ∈ text.toList, c = ':' ∨ Text.isDigit c = true := by
  intro c member
  unfold isWalltime at holds
  split at holds
  next hours minutes seconds split =>
    simp only [Bool.and_eq_true, List.all_eq_true] at holds
    obtain ⟨⟨⟨⟨ofHours, ofMinutes⟩, ofSeconds⟩, _⟩, _⟩ := holds
    rcases Text.mem_pieces_of_mem ':' member with isColon | ⟨piece, isPiece, inPiece⟩
    · exact Or.inl isColon
    · rw [split] at isPiece
      simp only [List.mem_cons, List.not_mem_nil, or_false] at isPiece
      rcases isPiece with rfl | rfl | rfl
      · exact Or.inr (ofHours c inPiece)
      · exact Or.inr (ofMinutes c inPiece)
      · exact Or.inr (ofSeconds c inPiece)
  next => cases holds

theorem check_walltime {value : Value} {settings : Settings}
    (isChecked : (check value).accepted = .ok settings) :
    '\n' ∉ settings.walltime.toList := by
  intro member
  have holds := check_isWalltime (accepted_eq_ok_iff.mp isChecked)
  rcases isWalltime_characters holds '\n' member with isColon | isDigit
  · exact absurd isColon (by decide)
  · exact absurd isDigit (by decide)

/-- The cores of a node in checked settings are the default, or they were given as a number. -/
theorem check_coresPerNode {value : Value} {settings : Settings}
    (isChecked : (check value).Accepts settings) :
    settings.coresPerNode = standard.coresPerNode ∨
      ∃ number, value.field? "coresPerNode" = some (.number number) ∧
        number.integer? = some settings.coresPerNode ∧ 0 < settings.coresPerNode := by
  obtain ⟨fields, rfl, read⟩ := read_of_check isChecked
  rcases accepts_fieldOr.mp read.coresPerNode with ⟨_, isStandard⟩ | ⟨found, isField, ofField⟩
  · exact Or.inl isStandard.symm
  · obtain ⟨number, isNumber, isInteger⟩ := accepts_map.mp ofField
    obtain ⟨rfl, integer, storesInteger, positive⟩ := accepts_positiveWhole.mp isNumber
    rw [toInt_of_integer storesInteger] at isInteger
    subst isInteger
    exact Or.inr ⟨number, isField, storesInteger, positive⟩

theorem check_coresPerNode_isStored {value : Value} {settings : Settings}
    (isChecked : (check value).Accepts settings)
    (proper : ∀ number, value.field? "coresPerNode" = some (.number number) → IsProper number) :
    0 < settings.coresPerNode ∧ IsStored settings.coresPerNode := by
  rcases check_coresPerNode isChecked with isStandard | ⟨number, isField, isInteger, positive⟩
  · rw [isStandard]
    exact ⟨by decide, isStored_of_small (by decide)⟩
  · exact ⟨positive, (proper number isField).integer isInteger⟩

/-! ## Configuration files -/

/-- A failure that says that a configuration cannot be read, is not well formed or is not
acceptable. -/
def IsConfiguration : Failure → Prop
  | .configuration _ | .malformed _ => True
  | _ => False

theorem IsConfiguration.exitCode {failure : Failure} (isConfiguration : IsConfiguration failure) :
    failure.exitCode = 3 := by
  cases failure <;> first | rfl | cases isConfiguration

theorem ofDocument_fails {path : String} {document : Option Value} {failure : Failure}
    (failed : ofDocument path document = .error failure) : IsConfiguration failure := by
  unfold ofDocument at failed
  split at failed
  · cases failed
    trivial
  · dsimp only at failed
    split at failed
    · cases failed
    · cases failed
      trivial

theorem ofReading_fails {path : String} {allowMissing : Bool} {parse : String → Option Value}
    {reading : Except Fault String} {failure : Failure}
    (failed : ofReading path allowMissing parse reading = .error failure) :
    IsConfiguration failure := by
  unfold ofReading at failed
  split at failed
  · exact ofDocument_fails failed
  · split at failed
    · cases failed
    · cases failed
      trivial

end PartitionBench.Settings
