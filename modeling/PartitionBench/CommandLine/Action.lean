import PartitionBench.Batch
import PartitionBench.CommandLine.Usage
import PartitionBench.Host.Command
import PartitionBench.Pipeline
import PartitionBench.Settings.Load
import PartitionBench.Text.Lines

/-!
Contract: the submit command.

Owns: its steps in order (read the arguments, load the settings, run the submission),
and what it leaves: an exit code, two outputs and the files.

Does not own: which arguments lead to the submit command (`CommandLine.Usage`).
-/

namespace PartitionBench.CommandLine

/-- What a command finds when it starts: its input, the environment and the files. -/
structure Surroundings where
  input : String
  environment : List (String × String)
  files : FileTree

/-- What a command leaves. A command that failed says so in its error output, behind
what it had written there before. -/
structure Finished where
  exitCode : Nat
  output : String
  logged : String
  failure : Option Failure
  files : FileTree

namespace Finished

def failureLine (failure : Failure) : String :=
  "Error: " ++ failure.message ++ "\n"

def errorOutput (finished : Finished) : String :=
  match finished.failure with
  | some failure => finished.logged ++ failureLine failure
  | none => finished.logged

/-- A command that failed before it did anything. -/
def stopped (failure : Failure) (files : FileTree) : Finished :=
  { exitCode := failure.exitCode, output := "", logged := "", failure := some failure, files }

def ofOutcome {τ : Type} (outcome : Outcome (Session (Batch.Site τ)) Pipeline.Result) :
    Finished :=
  let code :=
    match outcome.result with
    | .ok result => result.exitCode
    | .error failure => failure.exitCode
  let failure :=
    match outcome.result with
    | .ok _ => none
    | .error failure => some failure
  { exitCode := code
    output := outputOf outcome.events
    logged := errorOutputOf outcome.events
    failure
    files := outcome.state.backend.files }

end Finished

/-- The settings for a submission: those of the configuration file, then what the
environment overrides. Only the file that is looked for without being named may be
missing. -/
def settingsFor (config : Option String) (surroundings : Surroundings) :
    Except Failure Settings :=
  match Settings.load surroundings.files (config.getD Settings.standardPath) config.isNone with
  | .ok settings => .ok (settings.overridden surroundings.environment)
  | .error failure => .error failure

/-- Whether a file exists, in the course of a submission. -/
def fileExists {τ : Type} (session : Session (Batch.Site τ)) (fileName : String) :
    Except Failure Bool :=
  .ok (session.backend.files.isThere fileName)

def submission {τ : Type} (scheduler : Scheduler τ) (queue : τ) (scriptName : String)
    (arguments : Arguments) (settings : Settings) (dryRun : Bool)
    (surroundings : Surroundings) : Outcome (Session (Batch.Site τ)) Pipeline.Result :=
  let submitter := Batch.submitter scheduler settings dryRun
  Pipeline.run submitter fileExists scriptName arguments
    { operator := ⟨Text.lines surroundings.input, .closed⟩
      backend := ⟨surroundings.files, [], queue⟩ }

def submit {τ : Type} (scheduler : Scheduler τ) (queue : τ) (scriptName : String)
    (options : SubmitOptions) (surroundings : Surroundings) : Finished :=
  match Arguments.ofValue options.toValue with
  | .error failure => .stopped failure surroundings.files
  | .ok arguments =>
      match settingsFor options.config surroundings with
      | .error failure => .stopped failure surroundings.files
      | .ok settings =>
          .ofOutcome
            (submission scheduler queue scriptName arguments settings options.dryRun surroundings)

end PartitionBench.CommandLine
