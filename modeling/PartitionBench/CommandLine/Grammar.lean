import PartitionBench.CommandLine.Option
import PartitionBench.Text.Split

/-!
Contract: command-line arguments as options, operands and what is neither.

Owns:
- how options are written: long and short forms, values behind an equals sign or
  right behind a short form, and lists of values;
- the separator behind which nothing is an option;
- what is left over for another command to read: from the first unknown option on,
  everything that is not itself a known option.

Does not own: which options there are (`CommandLine.Option`).
-/

namespace PartitionBench.CommandLine

/-- An option that was given, with its value if it takes one. -/
structure Given where
  option : OptionSpec
  value : Option String
  deriving DecidableEq, Repr

/-- Arguments that were read. Reading stops at an option that lacks its value. -/
structure Reading where
  given : List Given := []
  operands : List String := []
  unknown : List String := []
  lacking : Option OptionSpec := none
  deriving Repr

namespace Reading

def withGiven (option : OptionSpec) (value : Option String) (reading : Reading) : Reading :=
  { reading with given := ⟨option, value⟩ :: reading.given }

/-- A reading with arguments that are no options in front, as operands or among
what is left over. -/
def withOthers (leftOver : Bool) (arguments : List String) (reading : Reading) : Reading :=
  if leftOver then { reading with unknown := arguments ++ reading.unknown }
  else { reading with operands := arguments ++ reading.operands }

end Reading

/-- An argument looks like an option: it begins with a dash and is longer than
that. -/
def looksLikeOption (argument : String) : Bool :=
  match argument.toList with
  | '-' :: _ :: _ => true
  | _ => false

/-- The option that an argument calls. -/
def called? (options : List OptionSpec) (argument : String) : Option OptionSpec :=
  options.find? (·.isCalled argument)

/-- An argument that begins with the short form of an option: the option, and what
stands behind it. -/
def cluster? (options : List OptionSpec) (argument : String) : Option (OptionSpec × String) :=
  match argument.toList with
  | '-' :: letter :: c :: rest =>
      if letter = '-' then none
      else
        (called? options (String.ofList ['-', letter])).map (·, String.ofList (c :: rest))
  | _ => none

/-- An argument that consists of the long form of an option that takes a value, an
equals sign and the value. -/
def assignment? (options : List OptionSpec) (argument : String) :
    Option (OptionSpec × String) :=
  let name := argument.toList.takeWhile (· ≠ '=')
  let rest := argument.toList.drop name.length
  if name.length ≤ 2 ∨ rest = [] then none
  else
    match called? options (String.ofList name) with
    | some option =>
        if option.takesValue ∧ option.longArgument = String.ofList name then
          some (option, String.ofList (rest.drop 1))
        else none
    | none => none

/-- Read arguments. `list` is the list option that an argument which looks like no
option belongs to, and `leftOver` says that an unknown option came before. Each step
of `fuel` reads at least one character. -/
def readFrom (options : List OptionSpec) : Nat → Option OptionSpec → Bool → List String → Reading
  | 0, _, _, _ => {}
  | _ + 1, _, _, [] => {}
  | fuel + 1, list, leftOver, argument :: rest =>
      if argument = "--" then
        Reading.withOthers leftOver (if leftOver then argument :: rest else rest) {}
      else
        match (if looksLikeOption argument then none else list) with
        | some option =>
            (readFrom options fuel list leftOver rest).withGiven option (some argument)
        | none =>
            match (if looksLikeOption argument then called? options argument else none) with
            | some option =>
                if option.takesValue then
                  match rest with
                  | [] => { lacking := some option }
                  | value :: rest =>
                      (readFrom options fuel (if option.isList then some option else none)
                        leftOver rest).withGiven option (some value)
                else (readFrom options fuel none leftOver rest).withGiven option none
            | none =>
                match cluster? options argument with
                | some (option, behind) =>
                    if option.takesValue then
                      (readFrom options fuel none leftOver rest).withGiven option (some behind)
                    else
                      (readFrom options fuel none leftOver (("-" ++ behind) :: rest)).withGiven
                        option none
                | none =>
                    match assignment? options argument with
                    | some (option, value) =>
                        (readFrom options fuel none leftOver rest).withGiven option (some value)
                    | none =>
                        let leftOver := leftOver || looksLikeOption argument
                        (readFrom options fuel none leftOver rest).withOthers leftOver [argument]

def read (options : List OptionSpec) (arguments : List String) : Reading :=
  let size := arguments.foldl (fun size argument => size + argument.length + 1) 1
  readFrom options size none false arguments

/-- The values given for an option, in order. -/
def Reading.values (reading : Reading) (option : OptionSpec) : List String :=
  (reading.given.filter (fun given => given.option = option)).filterMap (·.value)

def Reading.value? (reading : Reading) (option : OptionSpec) : Option String :=
  (reading.values option).getLast?

def Reading.has (reading : Reading) (option : OptionSpec) : Bool :=
  reading.given.any (fun given => given.option = option)

end PartitionBench.CommandLine
