import PartitionBench.CommandLine.Run

/-!
Contract: how much of its surroundings a run depends on.

Owns:
- the environment variables that are consulted;
- the paths that are read before the settings are known, and those that matter
  because of the settings.

Does not own: finding out what stands at the paths (`Main`).
-/

namespace PartitionBench.CommandLine

/-- The environment variables that a run consults. -/
def consultedVariables : List String :=
  [Settings.accountVariable, Settings.partitionVariable, Settings.submitCommandVariable,
    Host.searchVariable, EnvironmentChoice.homeVariable, EnvironmentChoice.keyVariable]
    ++ EnvironmentChoice.makers.map fun maker => EnvironmentChoice.variableOf maker.1

/-- The options of a submission, if the arguments ask for one. -/
def submitOptions? (arguments : List String) : Option SubmitOptions :=
  match Request.ofArguments (expandAll arguments) with
  | .submit options => some options
  | _ => none

/-- The paths that matter before the settings are known: the environment file, the
configuration file and the file to be partitioned. -/
def firstPaths (environment : List (String × String)) (arguments : List String) :
    List String :=
  (EnvironmentChoice.ofRun environment arguments).filePath environment
    :: match submitOptions? arguments with
      | some options => [options.config.getD Settings.standardPath, options.fileName]
      | none => []

/-- The settings of a submission, if the arguments ask for one and settings can be
read. -/
def settings? (arguments : List String) (surroundings : Surroundings) : Option Settings :=
  (submitOptions? arguments).bind fun options =>
    (settingsFor options.config (surroundings.extended arguments).1).toOption

/-- The paths that matter because of the settings: the directories of job scripts and
of outputs, and the submit command. -/
def laterPaths (settings : Settings) : List String :=
  [settings.jobDirectory, settings.outputDirectory, settings.submitCommand]

end PartitionBench.CommandLine
