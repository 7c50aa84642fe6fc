/-!
Contract: the options of a command.

Owns: what an option looks like and how many values it takes, and the options of
the program and of its submit command.

Does not own: reading arguments (`CommandLine.Grammar`) and help texts
(`CommandLine.Help`).
-/

namespace PartitionBench.CommandLine

/-- How many values an option takes. A list option takes as many as follow it. -/
inductive Arity where
  | none
  | one (placeholder : String)
  | many (placeholder : String)
  deriving DecidableEq, Repr

structure OptionSpec where
  short : Option Char := none
  long : String
  arity : Arity := .none
  description : String
  isRequired : Bool := false
  default : Option String := none
  deriving DecidableEq, Repr

namespace OptionSpec

def takesValue (option : OptionSpec) : Bool :=
  option.arity ≠ .none

def isList (option : OptionSpec) : Bool :=
  match option.arity with
  | .many _ => true
  | _ => false

def shortArgument? (option : OptionSpec) : Option String :=
  option.short.map fun letter => String.ofList ['-', letter]

def longArgument (option : OptionSpec) : String :=
  "--" ++ option.long

def isCalled (option : OptionSpec) (argument : String) : Bool :=
  option.longArgument = argument || option.shortArgument? = some argument

/-- An option as it is written in messages and help texts. -/
def flags (option : OptionSpec) : String :=
  let short :=
    match option.shortArgument? with
    | some short => short ++ ", "
    | none => ""
  let placeholder :=
    match option.arity with
    | .none => ""
    | .one placeholder => " <" ++ placeholder ++ ">"
    | .many placeholder => " <" ++ placeholder ++ "...>"
  short ++ option.longArgument ++ placeholder

def fullDescription (option : OptionSpec) : String :=
  match option.default with
  | some default => option.description ++ " (default: " ++ default ++ ")"
  | none => option.description

end OptionSpec

def toolsOption : OptionSpec :=
  { short := some 't', long := "tools", arity := .many "names"
    description := "Name of the tools, e.g. Geographer, parMetisGraph, parMetisGeom, or "
      ++ "\"all\" for every competitor"
    default := some "[\"Geographer\"]" }

def fileNameOption : OptionSpec :=
  { short := some 'f', long := "fileName", arity := .one "path"
    description := "The file/graph to be partitioned", isRequired := true }

def numBlocksOption : OptionSpec :=
  { short := some 'k', long := "numBlocks", arity := .many "k"
    description := "The number of blocks/parts to partition to", isRequired := true }

def fileFormatOption : OptionSpec :=
  { long := "fileFormat", arity := .one "code"
    description := "The format of the file given (also -ff)", isRequired := true }

def dimensionsOption : OptionSpec :=
  { short := some 'd', long := "dimensions", arity := .one "d"
    description := "The dimensions of the coordinates", isRequired := true }

def configOption : OptionSpec :=
  { long := "config", arity := .one "path", description := "Path to config file"
    default := some "\".partsubmit.yaml\"" }

def dryRunOption : OptionSpec :=
  { long := "dry-run", description := "Write job scripts without submitting them" }

/-- The options of the submit command, in the order of its help text. -/
def submitOptions : List OptionSpec :=
  [toolsOption, fileNameOption, numBlocksOption, fileFormatOption, dimensionsOption,
    configOption, dryRunOption]

def versionOption : OptionSpec :=
  { short := some 'V', long := "version", description := "output the version number" }

def helpOption : OptionSpec :=
  { short := some 'h', long := "help", description := "display help for command" }

def version : String := "0.1.0"

/-- The name of the command that submits, which is also the one that runs when no
command is named. -/
def submitName : String := "submit"

def helpName : String := "help"

end PartitionBench.CommandLine
