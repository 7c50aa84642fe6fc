import PartitionBench.CommandLine.Action
import PartitionBench.CommandLine.EnvironmentChoice
import PartitionBench.CommandLine.LongForm

/-!
Contract: the whole program as a function of what it finds.

Owns: the environment file, the reading of the arguments, and what each request comes
to.

Does not own: talking to the system (`Main`).
-/

namespace PartitionBench.CommandLine

/-- Surroundings with the variables of the environment file, and the lines that are
written when it is read. -/
def Surroundings.extended (surroundings : Surroundings) (arguments : List String) :
    Surroundings × List String :=
  let choice := EnvironmentChoice.ofRun surroundings.environment arguments
  let applied := choice.apply surroundings.environment surroundings.files
  ({ surroundings with environment := applied.1 }, applied.2)

/-- The exit code of a run whose arguments cannot be understood. -/
def misuseCode : Nat := 1

/-- A run that only writes, and changes no file. -/
def written (exitCode : Nat) (output errorOutput : String) (surroundings : Surroundings) :
    Finished :=
  { exitCode, output, logged := errorOutput, failure := none, files := surroundings.files }

def fulfil (scriptName : String) (surroundings : Surroundings) : Request → Finished
  | .showVersion => written successCode (version ++ "\n") "" surroundings
  | .showHelp text => written successCode text "" surroundings
  | .showHelpAsError text => written misuseCode "" text surroundings
  | .refuse message => written misuseCode "" (message ++ "\n") surroundings
  | .submit options =>
      submit (Host.scheduler surroundings.environment) () scriptName options surroundings

/-- A run with lines written before it. -/
def Finished.behind (lines : List String) (finished : Finished) : Finished :=
  { finished with output := String.join (lines.map (· ++ "\n")) ++ finished.output }

def run (scriptName : String) (arguments : List String) (surroundings : Surroundings) :
    Finished :=
  let extended := surroundings.extended arguments
  (fulfil scriptName extended.1 (.ofArguments (expandAll arguments))).behind extended.2

end PartitionBench.CommandLine
