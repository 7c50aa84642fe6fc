import PartitionBench.Host.Lookup

/-!
Contract: what the programs of the host have in common.

Owns:
- how a program is called, and what it can have run in turn;
- options in front of operands, and the messages on those that are wrong;
- reading operands that name files.

Does not own: what single programs do.
-/

namespace PartitionBench.Host

open Execution

/-- Runs a command with its arguments as a process of its own. A command without a slash is
looked for along the search path. -/
abbrev Launch := List (List Char) → Execution (Except ExecuteFault Ending)

/-- A program: it is called by a name with arguments, and ends with a status. -/
abbrev Utility := (name : List Char) → (arguments : List (List Char)) → Execution Nat

namespace Utility

def complain (name : List Char) (message : List Char) : Execution Unit :=
  warn (name ++ [':', ' '] ++ message ++ ['\n'])

def shown (name : List Char) : List Char := '\'' :: name ++ ['\'']

/-- Write to the output, and end with a status. -/
def print (text : List Char) (status : Nat) : Execution Nat := do
  let _ ← say text
  return status

/-- The hint behind a message on how a program is called. -/
def hint (name : List Char) : Execution Unit :=
  warn ("Try '".toList ++ name ++ " --help' for more information.\n".toList)

/-- An option, with its value if it takes one. -/
abbrev Given := Char × Option (List Char)

/-- What the arguments of a program are: options and operands, or the fault in them. -/
inductive Arguments where
  | taken (options : List Given) (operands : List (List Char))
  | unknown (option : Char)
  | unknownLong (option : List Char)
  | missing (option : Char)

def Arguments.withOption (given : Given) : Arguments → Arguments
  | .taken options operands => .taken (given :: options) operands
  | fault => fault

def Arguments.withOperand (operand : List Char) : Arguments → Arguments
  | .taken options operands => .taken options (operand :: operands)
  | fault => fault

/-- The options that a program knows: letters alone, letters with a value, and long names
with the letters that they stand for. -/
structure Known where
  flags : String := ""
  valued : String := ""
  long : List (String × Char) := []
  /-- A number behind the sign of an option is an option of its own. -/
  number : Option Char := none
  stopsAtOperand : Bool := false

/-- The letter that a long name stands for. The start of a name that no other name has stands
for it too. -/
def Known.longOption? (known : Known) (name : String) : Option Char :=
  match known.long.find? fun entry => entry.1 = name with
  | some (_, letter) => some letter
  | none =>
      match known.long.filter fun entry => name.toList.isPrefixOf entry.1.toList with
      | [] => none
      | (_, letter) :: others =>
          if others.all fun entry => entry.2 = letter then some letter else none

/-- Read the letters of one argument. The options that are left take a value from the next
argument where they need one. -/
def readLetters (known : Known) (rest : List (List Char)) :
    List Char → List (List Char) → (List (List Char) → Arguments) → Arguments
  | [], others, next => next others
  | letter :: letters, others, next =>
      if known.valued.toList.contains letter then
        match letters, others with
        | [], value :: behind => (next behind).withOption (letter, some value)
        | [], [] => .missing letter
        | _, _ => (next others).withOption (letter, some letters)
      else if known.flags.toList.contains letter then
        (readLetters known rest letters others next).withOption (letter, none)
      else .unknown letter

def readArguments (known : Known) : Nat → List (List Char) → Arguments
  | 0, arguments => .taken [] arguments
  | _ + 1, [] => .taken [] []
  | fuel + 1, argument :: rest =>
      match argument with
      | ['-', '-'] => .taken [] rest
      | '-' :: '-' :: written =>
          let name := String.ofList (written.takeWhile (· ≠ '='))
          match known.longOption? name with
          | none => .unknownLong argument
          | some letter =>
              if known.valued.toList.contains letter then
                match written.dropWhile (· ≠ '='), rest with
                | _ :: value, _ =>
                    (readArguments known fuel rest).withOption (letter, some value)
                | [], value :: behind =>
                    (readArguments known fuel behind).withOption (letter, some value)
                | [], [] => .missing letter
              else (readArguments known fuel rest).withOption (letter, none)
      | '-' :: c :: letters =>
          match known.number with
          | some letter =>
              if c.isDigit then
                (readArguments known fuel rest).withOption (letter, some (c :: letters))
              else readLetters known rest (c :: letters) rest (readArguments known fuel)
          | none => readLetters known rest (c :: letters) rest (readArguments known fuel)
      | _ =>
          if known.stopsAtOperand then .taken [] (argument :: rest)
          else (readArguments known fuel rest).withOperand argument

/-- Do something with the options and operands of a program, or say what is wrong with
them. -/
def withArguments (known : Known) (name : List Char) (arguments : List (List Char))
    (faultStatus : Nat) (work : List Given → List (List Char) → Execution Nat) :
    Execution Nat := do
  match readArguments known (arguments.length + 1) arguments with
  | .taken options operands => work options operands
  | .unknown option => do
      complain name ("invalid option -- ".toList ++ shown [option])
      hint name
      return faultStatus
  | .unknownLong option => do
      complain name ("unrecognized option ".toList ++ shown option)
      hint name
      return faultStatus
  | .missing option => do
      complain name ("option requires an argument -- ".toList ++ shown [option])
      hint name
      return faultStatus

def has (options : List Given) (letter : Char) : Bool :=
  options.any fun given => given.1 = letter

def valueOf? (options : List Given) (letter : Char) : Option (List Char) :=
  (options.reverse.find? fun given => given.1 = letter).bind (·.2)

def lastGiven? (options : List Given) (letters : String) : Option Char :=
  ((options.map (·.1)).filter letters.toList.contains).getLast?

/-- Refuse to work without an operand. -/
def missingOperand (name : List Char) : Execution Nat := do
  complain name "missing operand".toList
  hint name
  return 1

/-- The bytes that an operand names: those of a file, or the input. -/
def inputOf (operand : List Char) : Execution (Except OpenFault (List Char)) := do
  if operand = ['-'] then
    match (← streamOf? 0).map (← machine).stream? with
    | none => return .error .closed
    | some (some .directory) => return .error (.path .isDirectory)
    | some _ => return .ok (← readAll 0)
  else readFile operand

/-- The bytes of all operands one after the other, or the input if there are none. What
cannot be read is reported; the answer tells whether all could be. -/
def readOperands (name : List Char) (report : List Char → OpenFault → List Char) :
    List (List Char) → Execution (List (List Char × List Char) × Bool)
  | [] => return ([], true)
  | operand :: rest => do
      match ← inputOf operand with
      | .ok bytes => do
          let (read, isGood) ← readOperands name report rest
          return ((operand, bytes) :: read, isGood)
      | .error fault => do
          complain name (report operand fault)
          let (read, _) ← readOperands name report rest
          return (read, false)

/-- The operands, or the input if there are none. -/
def orInput (operands : List (List Char)) : List (List Char) :=
  if operands.isEmpty then [['-']] else operands

def usualReport (operand : List Char) (fault : OpenFault) : List Char :=
  operand ++ [':', ' '] ++ fault.reason.toList

def openingReport (operand : List Char) (fault : OpenFault) : List Char :=
  if fault = .path .isDirectory then
    "error reading ".toList ++ shown operand ++ [':', ' '] ++ fault.reason.toList
  else
    "cannot open ".toList ++ shown operand ++ " for reading: ".toList ++ fault.reason.toList

end Utility

end PartitionBench.Host
