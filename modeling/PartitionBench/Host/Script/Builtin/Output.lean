import PartitionBench.Host.Format
import PartitionBench.Host.Lookup
import PartitionBench.Host.Script.Builtin.Options
import PartitionBench.Host.Test

/-!
Contract: commands of the shell that print and test.

Owns: printing with and without a format, tests, and the working directory.

Does not own: variables and control (`Builtin.Variables`, `Builtin.Control`).
-/

namespace PartitionBench.Host.Script

open Execution

namespace Builtin

/-- Report a fault of a command, which then ends with a status. -/
def refuse (message : List Char) (status : Nat) : Execution Nat := do
  report message
  return status

/-- Report a fault of a command, which gives up the work that it is part of in the standard
dialect and ends with a status in the extended one. -/
def refuseOrFail (standard extended : List Char) (status : Nat) : Execution Nat := do
  match (← process).dialect with
  | .standard => do
      report standard
      throw (.fails 2)
  | .extended => refuse extended status

def print (text : List Char) (status : Nat) : Execution Nat := do
  if ← say text then return status
  else
    match (← process).dialect with
    | .standard => refuse (((← process).speaker.getD []) ++ utf8 ": I/O error") 1
    | .extended => refuse (utf8 "write error: Bad file descriptor") 1

/-- The arguments behind the options of a printing command in the extended dialect, whether
the line is ended, and whether stand-ins are replaced. -/
def echoOptions (endsLine replaces : Bool) :
    List (List Char) → Bool × Bool × List (List Char)
  | [] => (endsLine, replaces, [])
  | argument :: rest =>
      match argument with
      | '-' :: c :: letters =>
          if (c :: letters).all fun d => d = 'n' || d = 'e' || d = 'E' then
            let ends := endsLine && !(c :: letters).contains 'n'
            let replaced := (c :: letters).foldl
              (fun value letter =>
                if letter = 'e' then true else if letter = 'E' then false else value) replaces
            echoOptions ends replaced rest
          else (endsLine, replaces, argument :: rest)
      | _ => (endsLine, replaces, argument :: rest)

def echo : Builtin := fun _ arguments => do
  match (← process).dialect, arguments with
  | .standard, ['-', 'n'] :: rest =>
      print (unescapedLine EscapeRules.standardText false rest) 0
  | .standard, _ => print (unescapedLine EscapeRules.standardText true arguments) 0
  | .extended, _ => do
      let (endsLine, replaces, rest) := echoOptions true false arguments
      if replaces then print (unescapedLine EscapeRules.extendedText endsLine rest) 0
      else
        let line := List.intercalate [' '] rest
        print (if endsLine then line ++ ['\n'] else line) 0

def formatRules : Dialect → FormatRules
  | .standard => ⟨EscapeRules.standardFormat, EscapeRules.standardText, false⟩
  | .extended => ⟨EscapeRules.extendedFormat, EscapeRules.extendedArgument, true⟩

def formatMessage (dialect : Dialect) (fault : FormatFault) : List Char :=
  match dialect, fault with
  | .standard, .notNumeric argument => argument ++ utf8 ": expected numeric value"
  | .standard, .notComplete argument => argument ++ utf8 ": not completely converted"
  | .standard, .outOfRange argument => argument ++ utf8 ": Numerical result out of range"
  | .standard, .badDirective text => text ++ utf8 ": invalid directive"
  | .standard, .noDirective _ => utf8 "missing format character"
  | .extended, .notNumeric argument => argument ++ utf8 ": invalid number"
  | .extended, .notComplete argument => argument ++ utf8 ": invalid number"
  | .extended, .outOfRange argument =>
      utf8 "warning: " ++ argument ++ utf8 ": Numerical result out of range"
  | .extended, .badDirective text =>
      utf8 (quotedName (String.ofList (text.drop (text.length - 1))))
        ++ utf8 ": invalid format character"
  | .extended, .noDirective text =>
      utf8 (quotedName (String.ofList text)) ++ utf8 ": missing format character"

def formatStatus (dialect : Dialect) (faults : List FormatFault) : Nat :=
  if faults.isEmpty then 0
  else if dialect = .standard ∧ faults.any FormatFault.isFinal then 2
  else 1

/-- Print by a format, or give the result to a variable. -/
def printFormat (assign : List Char → List Char → Execution Unit) : Builtin :=
  fun _ arguments => do
    let dialect := (← process).dialect
    let (target, rest) : Option (List Char) × List (List Char) :=
      match dialect, arguments with
      | .extended, ['-', 'v'] :: name :: rest => (some name, rest)
      | _, _ => (none, arguments)
    let operands := if rest.head? = some ['-', '-'] then rest.tail else rest
    match rest with
    | ('-' :: c :: _) :: _ =>
        if c ≠ '-' then
          match dialect with
          | .standard => refuse (utf8 "Illegal option -" ++ [c]) 2
          | .extended => do
              report (['-', c] ++ utf8 ": invalid option")
              warn (utf8 "printf: usage: printf [-v var] format [arguments]\n")
              return 2
        else printOperands assign target operands
    | _ => printOperands assign target operands
where
  printOperands (assign : List Char → List Char → Execution Unit) (target : Option (List Char))
      (operands : List (List Char)) : Execution Nat := do
    let dialect := (← process).dialect
    match operands with
    | [] =>
        match dialect with
        | .standard => refuse (utf8 "usage: printf format [arg ...]") 2
        | .extended => do
            warn (utf8 "printf: usage: printf [-v var] format [arguments]\n")
            return 2
    | format :: values => do
        let made := formatted (formatRules dialect) format values
        for fault in made.faults do
          report (formatMessage dialect fault)
        let status := formatStatus dialect made.faults
        match target with
        | some name => do
            assign name made.text
            return status
        | none => print made.text status

def test : Builtin := fun name arguments => do
  let dialect := (← process).dialect
  let words : Option (List (List Char)) :=
    if name = ['['] then
      if arguments.getLast? = some [']'] then some arguments.dropLast else none
    else some arguments
  match words with
  | none => refuse (← inDialect "missing ]" "missing `]'") 2
  | some words =>
      match Test.holds (← get) dialect words with
      | .ok true => return 0
      | .ok false => return 1
      | .error fault => refuse (fault.text dialect) 2

def changeDirectory (assign : List Char → List Char → Execution Unit) : Builtin :=
  optioned fun _ _ operands => do
    let dialect := (← process).dialect
    match dialect, operands with
    | .extended, _ :: _ :: _ => refuse (utf8 "too many arguments") 1
    | _, _ => do
        let target : Option (List Char) ←
          match operands with
          | [] => value? "HOME".toList
          | ['-'] :: _ => value? "OLDPWD".toList
          | path :: _ => pure (some path)
        match target with
        | none =>
            match dialect, operands with
            | .standard, [] => return 0
            | .extended, [] => refuse (utf8 "HOME not set") 1
            | .standard, _ => print ((← value? "PWD".toList).getD [] ++ ['\n']) 0
            | .extended, _ => refuse (utf8 "OLDPWD not set") 1
        | some path => do
            let found ← if path = [] then locate ['.'] else locate path
            let failed (kind : FaultKind) : Execution Nat :=
              refuseOrFail (utf8 "can't cd to " ++ path)
                (path ++ [':', ' '] ++ (reason kind).toList) 1
            match found with
            | .ok (location, some .directory) => do
                let before := (← value? "PWD".toList).getD []
                alter fun process => { process with location }
                assign "OLDPWD".toList before
                assign "PWD".toList (pathOf location)
                if operands.head? = some ['-'] then print (pathOf location ++ ['\n']) 0
                else return 0
            | .ok (_, some _) => failed .notDirectory
            | .ok (_, none) => failed .notFound
            | .error kind => failed kind

def workingDirectory : Builtin := optioned fun _ _ _ => do
  print (pathOf (← process).location ++ ['\n']) 0

end Builtin

end PartitionBench.Host.Script
