import PartitionBench.CommandLine.Grammar
import PartitionBench.CommandLine.Help
import PartitionBench.CommandLine.Suggestion
import PartitionBench.Document.Value
import PartitionBench.Job.Plan

/-!
Contract: what a list of arguments asks the program to do.

Owns:
- the commands: submitting, showing a help text and showing the version;
- the checks on the options of the submit command, in their order: every option has
  its value, no help is asked for, the required options are there, and no option is
  unknown;
- the messages of failed checks.

Does not own: the values of options, which are checked when they are used
(`Arguments`).
-/

namespace PartitionBench.CommandLine

open PartitionBench.Document

/-- The values of the options of the submit command, as they were given. -/
structure SubmitOptions where
  tools : List String
  fileName : String
  blockCounts : List String
  fileFormat : String
  dimensions : String
  config : Option String
  dryRun : Bool
  deriving DecidableEq, Repr

/-- The options that make up the arguments of a submission, as a document value. -/
def SubmitOptions.toValue (options : SubmitOptions) : Value :=
  .record [
    ("tools", .ofTexts options.tools),
    ("fileName", .text options.fileName),
    ("numBlocks", .ofTexts options.blockCounts),
    ("fileFormat", .text options.fileFormat),
    ("dimensions", .text options.dimensions)]

/-- What the program is asked to do. -/
inductive Request where
  | submit (options : SubmitOptions)
  | showVersion
  | showHelp (text : String)
  /-- The command that help was asked for does not exist; the help text of the
  program is shown as an error. -/
  | showHelpAsError (text : String)
  | refuse (message : String)
  deriving DecidableEq, Repr

def lackingMessage (option : OptionSpec) : String :=
  "error: option '" ++ option.flags ++ "' argument missing"

/-- The message on a required option that is not there. -/
def missingMessage (option : OptionSpec) : String :=
  "error: required option '" ++ option.flags ++ "' not specified"

/-- The message on an option that is not known. -/
def unknownMessage (argument : String) : String :=
  "error: unknown option '" ++ argument ++ "'" ++ suggestion argument

def asksForHelp (arguments : List String) : Bool :=
  arguments.any helpOption.isCalled

/-- The options of the submit command in a reading that has the required ones. -/
def submitOptionsOf (reading : Reading) : SubmitOptions :=
  { tools := if reading.has toolsOption then reading.values toolsOption else [Job.ownTool]
    fileName := (reading.value? fileNameOption).getD ""
    blockCounts := reading.values numBlocksOption
    fileFormat := (reading.value? fileFormatOption).getD ""
    dimensions := (reading.value? dimensionsOption).getD ""
    config := reading.value? configOption
    dryRun := reading.has dryRunOption }

/-- What is asked of the submit command. Operands are ignored. -/
def submitRequest (arguments : List String) : Request :=
  let reading := read submitOptions arguments
  match reading.lacking with
  | some option => .refuse (lackingMessage option)
  | none =>
      if asksForHelp reading.unknown then .showHelp submitHelp
      else
        match submitOptions.find? (fun option => option.isRequired && !reading.has option) with
        | some option => .refuse (missingMessage option)
        | none =>
            match reading.unknown with
            | argument :: _ => .refuse (unknownMessage argument)
            | [] => .submit (submitOptionsOf reading)

def helpRequest (name : Option String) : Request :=
  match name with
  | none => .showHelp programHelp
  | some name =>
      if name = "" then .showHelp programHelp
      else if name = submitName then .showHelp submitHelp
      else .showHelpAsError programHelp

/-- What the program is asked to do. The options that the program itself does not
know are those of the command that is named first, or of the submit command when none
is named. -/
def Request.ofArguments (arguments : List String) : Request :=
  let reading := read [versionOption] arguments
  if reading.has versionOption then .showVersion
  else if reading.operands.head? = some submitName then submitRequest reading.unknown
  else if reading.operands.head? = some helpName then helpRequest reading.operands[1]?
  else if asksForHelp reading.unknown then .showHelp programHelp
  else submitRequest reading.unknown

end PartitionBench.CommandLine
