import PartitionBench.Table

/-!
Contract: short options of more than one letter.

Owns: the long forms that such options stand for, and their replacement in a list
of command-line arguments.

Does not own: the meaning of options (`CommandLine.Grammar`).
-/

namespace PartitionBench.CommandLine

def longForms : List (String × String) :=
  [("-ff", "--fileFormat")]

/-- The part of an argument in front of its first equals sign. -/
def optionPart (argument : String) : List Char :=
  argument.toList.takeWhile (· ≠ '=')

/-- What is put in place of an option, if anything. The table of long forms answers
to the names that every table answers to. -/
def longForm? (option : String) : Option String :=
  match Table.lookUp longForms option with
  | .value long => some long
  | .builtin => Table.builtinText? option
  | .nothing => none

def expand (argument : String) : String :=
  let option := optionPart argument
  match longForm? (String.ofList option) with
  | some long => long ++ String.ofList (argument.toList.drop option.length)
  | none => argument

/-- Arguments with their options in long form. A bare `--` and what follows it stay
as they are. -/
def expandAll : List String → List String
  | [] => []
  | argument :: rest =>
      if argument = "--" then argument :: rest else expand argument :: expandAll rest

end PartitionBench.CommandLine
