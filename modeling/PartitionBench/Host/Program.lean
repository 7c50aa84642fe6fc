import PartitionBench.Host.Shell
import PartitionBench.Host.Utility.Characters
import PartitionBench.Host.Utility.Clock
import PartitionBench.Host.Utility.Comparing
import PartitionBench.Host.Utility.Copying
import PartitionBench.Host.Utility.Editor
import PartitionBench.Host.Utility.Finding
import PartitionBench.Host.Utility.Listing
import PartitionBench.Host.Utility.Modes
import PartitionBench.Host.Utility.Search
import PartitionBench.Host.Utility.Sorting
import PartitionBench.Host.Utility.Values

/-!
Contract: the programs of the host and how they are run.

Owns:
- which program has which name;
- running a program as a process of its own, scripts by the programs that they name, and
  texts without a format by a shell.

Does not own: what single programs do (`Host.Utility`, `Host.Shell`).
-/

namespace PartitionBench.Host.Program

open Execution
open Script (Dialect)

/-- The shell that a program is, if it is one. -/
def shell? (name : String) : Option Dialect :=
  match name with
  | "sh" | "dash" => some .standard
  | "bash" | "rbash" => some .extended
  | _ => none

/-- The program with a name that is no shell. -/
def utility? (launch : Launch) (name : String) : Option Utility :=
  match name with
  | "true" | "sync" | "stty" => some Utility.succeed
  | "false" => some Utility.failQuietly
  | "echo" => some Utility.echo
  | "printf" => some Utility.printFormat
  | "yes" => some Utility.repeatLine
  | "seq" => some Utility.countUp
  | "basename" => some Utility.printLastName
  | "dirname" => some Utility.printDirectoryName
  | "expr" => some Utility.calculate
  | "test" | "[" => some Utility.test
  | "grep" => some (Utility.search (.expression { style := .basic }))
  | "egrep" => some fun _ => Utility.search (.expression { style := .extended }) "grep".toList
  | "fgrep" => some fun _ => Utility.search .fixed "grep".toList
  | "sed" => some Utility.edit
  | "cat" => some Utility.concatenate
  | "tac" => some Utility.reverseLines
  | "rev" => some Utility.reverseCharacters
  | "head" => some Utility.head
  | "tail" => some Utility.tail
  | "wc" => some Utility.count
  | "sort" => some Utility.sort
  | "uniq" => some Utility.unique
  | "comm" => some Utility.common
  | "cut" => some Utility.cut
  | "paste" => some Utility.paste
  | "nl" => some Utility.number
  | "fold" => some Utility.fold
  | "tr" => some Utility.translate
  | "tee" => some Utility.tee
  | "mkdir" => some Utility.makeDirectories
  | "rmdir" => some Utility.removeDirectories
  | "touch" => some Utility.touch
  | "rm" => some Utility.remove
  | "cp" | "install" => some Utility.copy
  | "mv" => some Utility.move
  | "ln" => some Utility.link
  | "chmod" => some Utility.changeMode
  | "ls" => some Utility.list
  | "realpath" => some Utility.realPath
  | "readlink" => some Utility.readLink
  | "mktemp" => some Utility.makeTemporary
  | "cmp" => some Utility.compareBytes
  | "pwd" => some Utility.workingDirectory
  | "printenv" => some Utility.printVariables
  | "hostname" => some Utility.printHostName
  | "uname" => some Utility.printSystem
  | "whoami" | "groups" => some Utility.printUser
  | "arch" => some Utility.printMachine
  | "id" => some Utility.printIdentity
  | "nproc" => some Utility.printProcessors
  | "tty" => some Utility.printTerminal
  | "which" => some Utility.which
  | "date" => some Utility.printTime
  | "sleep" => some Utility.pause
  | "env" => some (Utility.environment launch)
  | "timeout" => some (Utility.withTimeLimit launch)
  | "nohup" => some (Utility.unhindered launch)
  | "nice" => some (Utility.yielding launch)
  | "xargs" => some (Utility.withInputArguments launch)
  | "find" => some (Utility.find launch)
  | _ => none

def endingOf (result : Except Departure Nat) : Ending :=
  match result with
  | .ok status | .error (.leaves status) | .error (.fails status) | .error (.returns status)
  | .error (.abandons status) => .exited status
  | .error (.breaks _) | .error (.continues _) | .error .stops => .exited 0
  | .error (.dies signal) => .killed signal

/-- Run a program that is no shell under a name with arguments. -/
def runUtility (utility : Utility) (name : List Char) (arguments : List (List Char)) :
    Execution Ending := do
  return endingOf (← apart (utility name arguments))

/-- Run a shell on a script that no program is named for. -/
def runText (host : Script.Launcher) (dialect : Dialect) (path : List Char)
    (arguments : List (List Char)) : Execution Ending :=
  Shell.start (Script.runnerOn host) dialect path (path :: arguments)

/-- The candidates for a command: the path that it is, or its paths along the search
path. -/
def pathsOf (command : List Char) : Execution (List (List Char)) := do
  if command.contains '/' then return [command]
  else return candidates (← searchPath) command

/-- Run the first of some paths that can be run. A text without a format is run by the standard
shell. `fault` is what became of the paths before. -/
def launchFirst (host : Script.Launcher) (command : List Char) (arguments : List (List Char)) :
    (fault : ExecuteFault) → List (List Char) → Execution (Except ExecuteFault Ending)
  | fault, [] => return .error fault
  | fault, path :: rest => do
      match ← host.launch path command arguments with
      | .ok ending => return .ok ending
      | .error (.unformatted text others) => return .ok (← host.shell .standard text others)
      | .error .binary => return .ok (← host.shell .standard path arguments)
      | .error (.fault .permission) => launchFirst host command arguments .permission rest
      | .error (.fault found) =>
          if found.isMissing ∧ ¬ rest.isEmpty then launchFirst host command arguments fault rest
          else if found.isMissing ∧ fault = .permission then return .error fault
          else return .error found

def launchCommand (host : Script.Launcher) : Launch := fun words => do
  match words with
  | [] => return .error (.path .notFound)
  | command :: arguments =>
      if command = [] then return .error (.path .notFound)
      else launchFirst host command arguments (.path .notFound) (← pathsOf command)

/-- Run the program at a path under a name. What it runs in turn is run on `host`. -/
def launchPath (host : Script.Launcher) (path name : List Char) (arguments : List (List Char)) :
    Execution (Except Script.LaunchFault Ending) := do
  match ← executableAt path name arguments with
  | .error fault => return .error (.fault fault)
  | .ok .binary => return .error .binary
  | .ok (.unformatted text others) => return .error (.unformatted text others)
  | .ok (.program program words) =>
      let called := words.headD (bytesOf program)
      match shell? program, utility? (launchCommand host) program with
      | some dialect, _ =>
          return .ok (← Shell.start (Script.runnerOn host) dialect called words.tail)
      | none, some utility => return .ok (← runUtility utility called words.tail)
      | none, none => return .error (.fault (.path .notFound))

/-- The host on which processes may be nested up to a depth. -/
def hostAt : Nat → Script.Launcher
  | 0 =>
      { launch := fun _ _ _ => return .error (.fault (.path .notFound))
        shell := fun _ _ _ => return .killed 9 }
  | depth + 1 =>
      { launch := fun path name arguments => launchPath (hostAt depth) path name arguments
        shell := fun dialect path arguments => runText (hostAt depth) dialect path arguments }

def maxProcesses : Nat := 60

def host : Script.Launcher := hostAt maxProcesses

end PartitionBench.Host.Program
