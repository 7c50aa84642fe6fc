import PartitionBench.Event
import PartitionBench.Experiment
import PartitionBench.Job
import PartitionBench.Job.Name
import PartitionBench.Settings

/-!
Contract: the jobs of an experiment.

Owns:
- the program that runs a tool, and the arguments it is given;
- the number of nodes of a job;
- the plan of an experiment for one tool or for all competitors: one job for each
  block count, in order, under names that are new.

Does not own: scripts (`Job.Script`) and the state in which names are kept
(`Batch`).
-/

namespace PartitionBench.Job

open PartitionBench.Numeric

/-- The tool that has a program of its own. -/
def ownTool : String := "Geographer"

/-- What stands for the tool in jobs that run all competitors. -/
def allCompetitorsLabel : String := "allCompetitors"

/-- What stands for the tool in the jobs of a target. -/
def label : Target → String
  | .tool name => name
  | .allCompetitors => allCompetitorsLabel

/-- The program that runs a tool: the one configured for it, else its own, else
the one for competitors. Under a name that every table answers, what is found is
no text. -/
def toolProgram (settings : Settings) (tool : String) : Option String :=
  match Table.lookUp settings.executables tool with
  | .value program => some program
  | .builtin => none
  | .nothing => some (if tool = ownTool then tool else settings.competitorsExecutable)

def program (settings : Settings) : Target → Option String
  | .tool name => toolProgram settings name
  | .allCompetitors => some settings.allCompetitorsExecutable

/-- The arguments that only the program of this target is given. -/
def ownArguments (settings : Settings) : Target → List String
  | .tool name =>
      if name = ownTool then
        ["--initialPartition", integerText settings.initialPartition,
          "--initialMigration", integerText settings.initialMigration, "--storeInfo"]
      else ["--tool", name]
  | .allCompetitors => ["--tools", String.intercalate "," settings.competitorTools]

def inputArguments (settings : Settings) (experiment : Experiment) (index : Nat)
    (blockCount : Int) : List String :=
  ["--graphFile", experiment.paths.getD index "",
    "--fileFormat", integerText experiment.fileFormatCode,
    "--dimensions", integerText experiment.dimension,
    "--numBlocks", integerText blockCount,
    "--repeatTimes", integerText settings.repeatTimes]

/-- The number of nodes for a number of tasks: their quotient by the cores of a
node, as a stored number, rounded up. -/
def nodeCount (tasks coresPerNode : Int) : Int :=
  (Binary64.divide tasks coresPerNode).ceiling

def scriptFile (settings : Settings) (name : String) : String :=
  Path.join settings.jobDirectory (name ++ ".sh")

/-- The path of the file that a job writes its results to. -/
def resultFile (settings : Settings) (name : String) : String :=
  Path.join settings.outputDirectory (name ++ ".info")

def commandWords (settings : Settings) (experiment : Experiment) (target : Target)
    (index : Nat) (blockCount : Int) (name : String) : List (Option String) :=
  [some settings.launcher, some "-n", some (integerText blockCount), program settings target]
    ++ (inputArguments settings experiment index blockCount
      ++ ownArguments settings target
      ++ ["--outFile", resultFile settings name]).map some

def baseNameAt (experiment : Experiment) (target : Target) (index : Nat) (blockCount : Int) :
    String :=
  baseName (label target) (experiment.graphNames.getD index "") blockCount

/-- The job for one block count, under a given name. -/
def planned (settings : Settings) (experiment : Experiment) (target : Target)
    (index : Nat) (blockCount : Int) (name : String) : Job :=
  { name := name
    tool := label target
    blockCount := blockCount
    nodes := nodeCount blockCount settings.coresPerNode
    tasks := blockCount
    command := commandWords settings experiment target index blockCount name
    scriptPath := scriptFile settings name }

/-- The jobs for the block counts from the given index on, and the names that are
taken afterwards. -/
def planFrom (settings : Settings) (experiment : Experiment) (target : Target) :
    Nat → List Int → List String → List Job × List String
  | _, [], taken => ([], taken)
  | index, blockCount :: rest, taken =>
      let name := freeName taken (baseNameAt experiment target index blockCount)
      let later := planFrom settings experiment target (index + 1) rest (name :: taken)
      (planned settings experiment target index blockCount name :: later.1, later.2)

/-- The jobs of an experiment for a target, one for each block count in order, and
the names that are taken afterwards. -/
def plan (settings : Settings) (experiment : Experiment) (target : Target)
    (taken : List String) : List Job × List String :=
  planFrom settings experiment target 0 experiment.blockCounts taken

end PartitionBench.Job
