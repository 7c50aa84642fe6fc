import PartitionBench.Dispatch
import PartitionBench.Experiment
import PartitionBench.Validation

/-!
Contract: a whole submission run.

Owns: the order of a run: validate, report the warnings, show the experiment, ask
and submit, take leave; and the result of a run that ends early because the file
is missing.

Does not own: the parts, and the program around a run (`CommandLine`).
-/

namespace PartitionBench.Pipeline

/-- The result of a run. There is no experiment when the file is missing. -/
structure Result where
  exitCode : Nat
  warnings : List Warning
  experiment : Option Experiment := none
  account : Option Dispatch.Account := none

variable {σ : Type}

def report (warnings : List Warning) : Activity σ Unit :=
  .forEach (fun warning => .log (.warning warning.text)) warnings

def present (experiment : Experiment) : Activity σ Unit :=
  .forEach (fun line => .leave (.printed line)) experiment.summary

/-- What is logged as an error when the file is missing. -/
def abortion (failure : Failure) : String :=
  failure.message ++ "\nAborting..."

def proceed (submitter : Submitter σ) (scriptName : String) (arguments : Arguments)
    (warnings : List Warning) : Activity (Session σ) Result := do
  report warnings
  let experiment := Experiment.ofArguments arguments
  present experiment
  let account ← Dispatch.dispatch submitter experiment.toValue arguments.tools
  Activity.log (.info ("Exiting " ++ scriptName ++ " script"))
  return { exitCode := successCode, warnings, experiment := experiment, account := account }

def run (submitter : Submitter σ) (lookUp : Session σ → String → Except Failure Bool)
    (scriptName : String) (arguments : Arguments) : Activity (Session σ) Result := do
  match ← (Validation.validate lookUp arguments).settled with
  | .ok warnings => proceed submitter scriptName arguments warnings
  | .error (.missingInput fileName warnings) =>
      let failure := Failure.missingInput fileName warnings
      report warnings
      Activity.log (.error (abortion failure))
      return { exitCode := failure.exitCode, warnings }
  | .error failure => Activity.fail failure

end PartitionBench.Pipeline
