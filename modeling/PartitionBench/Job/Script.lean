import PartitionBench.Failure
import PartitionBench.Job
import PartitionBench.Path
import PartitionBench.Settings
import PartitionBench.Shell.Word

/-!
Contract: the batch script of a job.

Owns: the lines of a script: the interpreter, the scheduler's directives, and the
command.

Does not own: where scripts are kept (`Batch`) and how words are written
(`Shell.Word`).
-/

namespace PartitionBench.Job

open PartitionBench.Numeric

def directive (name value : String) : String :=
  "#SBATCH --" ++ name ++ "=" ++ value

/-- A directive that is left out when it has no value. -/
def optionalDirective (name : String) (value : Option String) : List String :=
  match value with
  | some value => [directive name value]
  | none => []

/-- The lines of a script above its command. -/
def scriptHead (settings : Settings) (job : Job) : List String :=
  ["#!/bin/bash",
    directive "job-name" job.name,
    directive "output" (Path.join settings.outputDirectory (job.name ++ ".%j.out")),
    directive "nodes" (integerText job.nodes),
    directive "ntasks" (integerText job.tasks),
    directive "time" settings.walltime]
    ++ optionalDirective "account" settings.account
    ++ optionalDirective "partition" settings.partition

/-- The script of a job whose command consists of the given words. An empty line
separates the command from the directives. -/
def scriptOf (settings : Settings) (job : Job) (words : List String) : String :=
  String.intercalate "\n" (scriptHead settings job ++ ["", Shell.commandLine words, ""])

/-- The words of a command, if each is a text. -/
def texts? (command : List (Option String)) : Option (List String) :=
  command.mapM id

/-- The script of a job. There is none when a word of the command is no text. -/
def script (settings : Settings) (job : Job) : Except Failure String :=
  match texts? job.command with
  | some words => .ok (scriptOf settings job words)
  | none => .error (.unusable "word.replace is not a function")

end PartitionBench.Job
