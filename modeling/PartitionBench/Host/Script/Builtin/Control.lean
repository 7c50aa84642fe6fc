import PartitionBench.Host.Script.Builtin.Reading
import PartitionBench.Host.Script.Builtin.Signal

/-!
Contract: commands of the shell that leave a place in a script or concern the process.

Owns: leaving scripts, functions and loops, which names are commands of the shell, shortcuts,
and small commands about the state of the process.

Does not own: commands that run others (`Script.Invocation`).
-/

namespace PartitionBench.Host.Script.Builtin

open Execution

/-- The status that an argument asks for, or the present one. -/
def statusArgument (arguments : List (List Char)) (wrongStatus : Nat) :
    Execution (Except Nat Nat) := do
  match arguments with
  | [] => return .ok (← process).status
  | argument :: _ =>
      match natural? argument, (← process).dialect with
      | some number, _ => return .ok (number % 256)
      | none, .standard => do
          report (utf8 "Illegal number: " ++ argument)
          throw (.fails 2)
      | none, .extended =>
          match integer? argument with
          | some number => return .ok (number % 256).toNat
          | none => do
              report (argument ++ utf8 ": numeric argument required")
              return .error wrongStatus

def leave : Builtin := fun _ arguments => do
  match (← process).dialect, ← statusArgument arguments 2 with
  | _, .error status => throw (.leaves status)
  | .extended, .ok status =>
      if 1 < arguments.length then refuse (utf8 "too many arguments") 1
      else throw (.leaves status)
  | .standard, .ok status => throw (.leaves status)

/-- Leave a function or a script that is being read in. -/
def giveBack : Builtin := fun _ arguments => do
  let process ← process
  if process.dialect = .extended ∧ process.functionDepth = 0 ∧ process.sourceDepth = 0 then
    let _ ← statusArgument arguments 2
    refuse (utf8 "can only " ++ utf8 (quotedName "return")
      ++ utf8 " from a function or sourced script") 2
  else
    match ← statusArgument arguments 2 with
    | .ok status => throw (.returns status)
    | .error status => throw (.returns status)

def leaveLoop (departure : Nat → Departure) : Builtin := fun _ arguments => do
  let process ← process
  if process.dialect = .extended ∧ process.loopDepth = 0 then
    refuse (utf8 "only meaningful in a " ++ utf8 (quotedName "for") ++ utf8 ", "
      ++ utf8 (quotedName "while") ++ utf8 ", or " ++ utf8 (quotedName "until")
      ++ utf8 " loop") 0
  else
    let levels ←
      match arguments with
      | [] => pure (Except.ok 1)
      | argument :: _ => numberArgument argument 1
    match levels with
    | .error status => return status
    | .ok count =>
        if process.loopDepth = 0 then return 0
        else throw (departure (min count process.loopDepth))

/-! ## Names of commands -/

/-- Commands of the shell that stay what they are whatever their arguments do. -/
def specialNames : List String :=
  [".", ":", "break", "continue", "eval", "exec", "exit", "export", "local", "readonly", "return",
    "set", "shift", "times", "trap", "unset"]

def standardNames : List String :=
  specialNames
    ++ ["[", "alias", "bg", "cd", "chdir", "command", "echo", "false", "fg", "getopts", "hash",
      "jobs", "kill", "printf", "pwd", "read", "test", "true", "type", "ulimit", "umask",
      "unalias", "wait"]

def extendedNames : List String :=
  (standardNames.filter (· ≠ "chdir"))
    ++ ["builtin", "declare", "dirs", "disown", "enable", "help", "history", "let", "logout",
      "mapfile", "popd", "pushd", "readarray", "shopt", "source", "suspend", "typeset", "caller"]

def isBuiltin (dialect : Dialect) (name : List Char) : Bool :=
  match dialect with
  | .standard => standardNames.contains (String.ofList name)
  | .extended => extendedNames.contains (String.ofList name)

/-! ## The state of the process -/

/-- A number in octal digits, four at least. -/
def octal (number : Nat) : List Char :=
  let digits := Nat.toDigits 8 number
  List.replicate (4 - digits.length) '0' ++ digits

def rightsOf (masked : Nat) : List Char :=
  (if masked / 4 % 2 = 0 then ['r'] else []) ++ (if masked / 2 % 2 = 0 then ['w'] else [])
    ++ (if masked % 2 = 0 then ['x'] else [])

/-- Show or set the rights that new files do not get. -/
def mask : Builtin := optioned fun choices _ operands => do
  let current := (← process).mask
  match operands with
  | [] =>
      if choices.has 'S' then
        print (utf8 "u=" ++ rightsOf (current / 64 % 8) ++ utf8 ",g="
          ++ rightsOf (current / 8 % 8) ++ utf8 ",o=" ++ rightsOf (current % 8) ++ ['\n']) 0
      else print ((if choices.has 'p' then utf8 "umask " else []) ++ octal current ++ ['\n']) 0
  | value :: _ =>
      if value.all fun c => '0' ≤ c && c ≤ '7' then
        alter fun process => { process with mask := Text.valueFrom 8 0 value % 512 }
        return 0
      else if value.all Char.isDigit then
        refuseOrFail (utf8 "Illegal number: " ++ value)
          (value ++ utf8 ": octal number out of range") 1
      else return 0

/-- Wait for what runs in the background, which has ended already. -/
def wait : Builtin := optioned fun choices _ operands => do
  let process ← process
  match operands.getLast? with
  | none =>
      if ¬ choices.has 'n' then return 0
      else return if process.background.isSome then process.backgroundStatus else 127
  | some argument =>
      match integer? argument with
      | some number =>
          if process.background.map Int.ofNat = some number then return process.backgroundStatus
          else if process.dialect = .extended then
            refuse (utf8 "pid " ++ argument ++ utf8 " is not a child of this shell") 127
          else return 127
      | none =>
          if process.dialect = .extended then
            refuse (utf8 (quotedName (textOf argument)) ++ utf8 ": not a pid or valid job spec") 1
          else refuse (utf8 "Illegal number: " ++ argument) 2

def defineShortcuts : Builtin := optioned fun _ _ arguments => do
  let process ← process
  let lead : List Char := if process.dialect = .extended then utf8 "alias " else []
  let shownAs (entry : List Char × List Char) : List Char :=
    lead ++ entry.1 ++ '=' :: singleQuoted entry.2 ++ ['\n']
  match arguments with
  | [] =>
      let sorted := process.shortcuts.mergeSort fun a b => isBefore a.1 b.1
      print (sorted.flatMap shownAs) 0
  | _ =>
      forEach
        (fun argument => do
          let (name, value) := splitAssignment argument
          match value with
          | some text => do
              alter fun process =>
                { process with shortcuts := putEntry name text process.shortcuts }
              return 0
          | none =>
              match process.shortcuts.find? fun entry => entry.1 = name with
              | some entry => print (shownAs entry) 0
              | none =>
                  if process.dialect = .extended then refuse (name ++ utf8 ": not found") 1
                  else do
                    warn (utf8 "alias: " ++ name ++ utf8 " not found\n")
                    return 1)
        arguments

def removeShortcuts : Builtin := optioned fun choices _ operands => do
  if choices.has 'a' then
    alter fun process => { process with shortcuts := [] }
  forEach
    (fun name => do
      let process ← process
      if process.shortcuts.any fun entry => entry.1 = name then
        alter fun process =>
          { process with shortcuts := process.shortcuts.filter fun entry => entry.1 ≠ name }
        return 0
      else if process.dialect = .extended then refuse (name ++ utf8 ": not found") 1
      else do
        warn (utf8 "unalias: " ++ name ++ utf8 " not found\n")
        return 1)
    operands

def printRemembered : Execution Nat := do
  let process ← process
  match process.dialect, process.remembered with
  | .standard, entries => print (ofLines (entries.map fun entry => entry.2.1)) 0
  | .extended, [] => print (utf8 "hash: hash table empty\n") 0
  | .extended, entries =>
      let shown := entries.map fun entry =>
        let digits := digitsOfNat entry.2.2
        List.replicate (4 - digits.length) ' ' ++ digits ++ '\t' :: entry.2.1
      print (ofLines (utf8 "hits\tcommand" :: shown)) 0

/-- Look for commands, so that their paths are known. -/
def remember : Builtin := optioned fun choices _ operands => do
  if choices.has 'r' then
    alter fun process => { process with remembered := [] }
  if operands.isEmpty then
    if choices.isEmpty then printRemembered else return 0
  else
    forEach
      (fun name => do
        if isBuiltin (← process).dialect name then return 0
        else
          match ← findExecutable? name with
          | some path => do
              rememberCommand name path 0
              return 0
          | none => refuse (name ++ utf8 ": not found") 1)
      operands

/-- Show how much of something a process may use. Nothing is limited here. -/
def limits : Builtin := optioned fun _ _ operands => do
  match operands with
  | [] => print (utf8 "unlimited\n") 0
  | _ => return 0

/-- Show the time that was used, of which none is counted. -/
def times : Builtin := optioned fun _ _ _ =>
  print (utf8 "0m0.000000s 0m0.000000s\n0m0.000000s 0m0.000000s\n") 0

def refuseJobs : Builtin := fun _ _ => do
  match (← process).dialect with
  | .standard => refuse (utf8 "No current job") 2
  | .extended => refuse (utf8 "no job control") 1

def settingNames : List String :=
  ["autocd", "assoc_expand_once", "cdable_vars", "cdspell", "checkhash", "checkjobs",
    "checkwinsize", "cmdhist", "complete_fullquote", "direxpand", "dirspell", "dotglob",
    "execfail", "expand_aliases", "extdebug", "extglob", "extquote", "failglob", "force_fignore",
    "globasciiranges", "globskipdots", "globstar", "gnu_errfmt", "histappend", "histreedit",
    "histverify", "hostcomplete", "huponexit", "inherit_errexit", "interactive_comments",
    "lastpipe", "lithist", "localvar_inherit", "localvar_unset", "login_shell", "mailwarn",
    "no_empty_cmd_completion", "nocaseglob", "nocasematch", "noexpand_translation", "nullglob",
    "patsub_replacement", "progcomp", "progcomp_alias", "promptvars", "restricted_shell",
    "shift_verbose", "sourcepath", "syslog_history", "varredir_close", "xpg_echo"]

/-- Change settings of the extended dialect, or tell whether they are on. -/
def changeSettings : Builtin := optioned fun choices _ names => do
  forEach
    (fun name => do
      let text := textOf name
      let others := (← process).settings.filter (· ≠ text)
      if ¬ settingNames.contains text then
        refuse (name ++ utf8 ": invalid shell option name") 1
      else if choices.has 's' then do
        alter fun process => { process with settings := text :: others }
        return 0
      else if choices.has 'u' then do
        alter fun process => { process with settings := others }
        return 0
      else
        let isOn := (← process).settings.contains text
        let status := if isOn then 0 else 1
        if choices.has 'q' then return status
        else
          let blanks := List.replicate (15 - name.length) ' '
          print (name ++ blanks ++ '\t' :: utf8 (if isOn then "on\n" else "off\n")) status)
    names

/-- Do nothing. -/
def succeed : Builtin := fun _ _ => return 0

/-- Do nothing, and fail. -/
def failQuietly : Builtin := fun _ _ => return 1

/-- The command of a name in the shell that runs no others. -/
def named? (name : List Char) : Option Builtin :=
  match String.ofList name with
  | ":" | "true" => some succeed
  | "false" => some failQuietly
  | "echo" => some echo
  | "printf" => some (printFormat assign)
  | "test" | "[" => some test
  | "cd" | "chdir" => some (changeDirectory setValue)
  | "pwd" => some workingDirectory
  | "export" => some exportVariables
  | "readonly" => some protectVariables
  | "unset" => some unset
  | "local" => some localVariables
  | "declare" | "typeset" => some declare
  | "shift" => some shift
  | "set" => some set
  | "read" => some read
  | "mapfile" | "readarray" => some readLines
  | "let" => some calculateAll
  | "getopts" => some nextOption
  | "exit" => some leave
  | "return" => some giveBack
  | "break" => some (leaveLoop .breaks)
  | "continue" => some (leaveLoop .continues)
  | "umask" => some mask
  | "wait" => some wait
  | "alias" => some defineShortcuts
  | "unalias" => some removeShortcuts
  | "hash" => some remember
  | "ulimit" => some limits
  | "times" => some times
  | "bg" | "fg" => some refuseJobs
  | "shopt" => some changeSettings
  | "jobs" | "disown" => some (optioned fun _ _ _ => return 0)
  | "enable" | "history" => some succeed
  | _ => none

end PartitionBench.Host.Script.Builtin
