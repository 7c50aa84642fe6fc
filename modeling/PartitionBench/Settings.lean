import PartitionBench.Check
import PartitionBench.Text.Digits
import PartitionBench.Text.Split

/-!
Contract: the settings of a submitter.

Owns: the settings, their defaults, their shape as a document value, and the
overrides from the environment.

Does not own: reading a configuration file (`Settings.Load`).
-/

namespace PartitionBench

open PartitionBench.Document

/-- How jobs are planned and handed to the scheduler. -/
structure Settings where
  submitCommand : String := "sbatch"
  account : Option String := none
  partition : Option String := none
  walltime : String := "00:30:00"
  coresPerNode : Int := 16
  jobDirectory : String := "jobs"
  outputDirectory : String := "output"
  launcher : String := "mpiexec"
  repeatTimes : Int := 5
  initialPartition : Int := 3
  initialMigration : Int := 0
  /-- The programs that were configured for single tools. -/
  executables : List (String × String) := []
  competitorsExecutable : String := "competitorsMain"
  allCompetitorsExecutable : String := "allCompetitorsMain"
  competitorTools : List String :=
    ["parMetisGraph", "parMetisGeom", "parMetisSfc", "zoltanRcb", "zoltanRib", "zoltanMJ",
      "zoltanHsfc"]
  deriving DecidableEq, Repr

namespace Settings

def standard : Settings := {}

/-- A wall time is one to three digits, then twice a colon and two digits. -/
def isWalltime (text : String) : Bool :=
  match Text.pieces ':' text.toList with
  | [hours, minutes, seconds] =>
      hours.all Text.isDigit && minutes.all Text.isDigit && seconds.all Text.isDigit
        && decide (1 ≤ hours.length ∧ hours.length ≤ 3)
        && decide (minutes.length = 2 ∧ seconds.length = 2)
  | _ => false

def walltimeCheck : Value → Checked String :=
  Check.textWhere isWalltime "walltime must look like HH:MM:SS"

/-- The settings in a document value; what is absent takes its default. -/
def check : Value → Checked Settings :=
  Check.record fun fields =>
    let text (name : String) (default : String) := Check.fieldOr name default Check.someText fields
    let atLeast (bound : Int) (name : String) (default : Int) :=
      Check.fieldOr name default (Check.integerOf (Check.wholeFrom bound)) fields
    let positive (name : String) (default : Int) :=
      Check.fieldOr name default (Check.integerOf Check.positiveWhole) fields
    Settings.mk
      <$> text "submitCommand" standard.submitCommand
      <*> Check.optionalField "account" Check.someText fields
      <*> Check.optionalField "partition" Check.someText fields
      <*> Check.fieldOr "walltime" standard.walltime walltimeCheck fields
      <*> positive "coresPerNode" standard.coresPerNode
      <*> text "jobDir" standard.jobDirectory
      <*> text "outputDir" standard.outputDirectory
      <*> text "launcher" standard.launcher
      <*> positive "repeatTimes" standard.repeatTimes
      <*> atLeast 0 "initialPartition" standard.initialPartition
      <*> atLeast 0 "initialMigration" standard.initialMigration
      <*> Check.fieldOr "executables" standard.executables (Check.table Check.someText) fields
      <*> text "competitorsExecutable" standard.competitorsExecutable
      <*> text "allCompetitorsExecutable" standard.allCompetitorsExecutable
      <*> Check.fieldOr "competitorTools" standard.competitorTools
            (Check.someList Check.someText) fields

def optionalEntry (name : String) (value : Option String) : List (String × Value) :=
  match value with
  | some value => [(name, .text value)]
  | none => []

def toValue (settings : Settings) : Value :=
  .record (
    [("submitCommand", .text settings.submitCommand)]
      ++ optionalEntry "account" settings.account
      ++ optionalEntry "partition" settings.partition
      ++ [("walltime", .text settings.walltime),
        ("coresPerNode", .ofInt settings.coresPerNode),
        ("jobDir", .text settings.jobDirectory),
        ("outputDir", .text settings.outputDirectory),
        ("launcher", .text settings.launcher),
        ("repeatTimes", .ofInt settings.repeatTimes),
        ("initialPartition", .ofInt settings.initialPartition),
        ("initialMigration", .ofInt settings.initialMigration),
        ("executables", .record (settings.executables.map fun entry => (entry.1, .text entry.2))),
        ("competitorsExecutable", .text settings.competitorsExecutable),
        ("allCompetitorsExecutable", .text settings.allCompetitorsExecutable),
        ("competitorTools", .ofTexts settings.competitorTools)])

/-- The value of an environment variable; an empty value counts as none. -/
def override? (environment : List (String × String)) (name : String) : Option String :=
  match Table.find? environment name with
  | some value => if value = "" then none else some value
  | none => none

def accountVariable : String := "PARTSUBMIT_ACCOUNT"

def partitionVariable : String := "PARTSUBMIT_PARTITION"

def submitCommandVariable : String := "PARTSUBMIT_SUBMIT_COMMAND"

/-- Settings with the account, the partition and the submit command that the
environment names. -/
def overridden (settings : Settings) (environment : List (String × String)) : Settings :=
  { settings with
    account := (override? environment accountVariable).or settings.account
    partition := (override? environment partitionVariable).or settings.partition
    submitCommand :=
      (override? environment submitCommandVariable).getD settings.submitCommand }

end Settings

end PartitionBench
