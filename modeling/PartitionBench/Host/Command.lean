import PartitionBench.Host.Program
import PartitionBench.Scheduler
import PartitionBench.Table

/-!
Contract: commands of the host, as far as submission needs them.

Owns:
- running a command on files in an environment, and what it leaves: its output and the
  files;
- the messages of commands that cannot be started or that fail.

Does not own: what commands do (`Host.Program`).
-/

namespace PartitionBench.Host

open Execution

inductive StartFault where
  | notFound
  | notExecutable
  | notDirectory
  | nameTooLong
  | tooManyLinks
  /-- The command is no text that can be passed on, because it holds a null
  character. -/
  | unusable
  deriving DecidableEq, Repr

/-- The message of a fault. The name of the command stands in it when the fault may be
mended by another name. -/
def StartFault.message (command : String) : StartFault → String
  | .notFound => "spawn " ++ command ++ " ENOENT"
  | .notExecutable => "spawn " ++ command ++ " EACCES"
  | .notDirectory => "spawn ENOTDIR"
  | .nameTooLong => "spawn ENAMETOOLONG"
  | .tooManyLinks => "spawn ELOOP"
  | .unusable =>
      "The argument 'file' must be a string without null bytes. Received "
        ++ Text.shownInMessage command

def StartFault.ofExecution : ExecuteFault → StartFault
  | .path .notDirectory => .notDirectory
  | .path .nameTooLong => .nameTooLong
  | .path _ => .notFound
  | .permission => .notExecutable
  | .tooManyLinks => .tooManyLinks

def firstProcess : Nat := 1000

/-- How many bytes a command may write to one of its outputs. -/
def maxOutput : Nat := 1048576

/-- The streams that a command is given: no input, and two empty outputs. -/
def standardStreams : List Stream :=
  let output : Channel := { capacity := some maxOutput }
  [.channel {}, .channel output, .channel output]

def variablesOf (environment : List (String × String)) : List (List Char × Variable) :=
  environment.map fun entry =>
    (bytesOf entry.1, { value := some (bytesOf entry.2), isExported := true })

def startingProcess (environment : List (String × String)) (files : FileTree) : Process :=
  { dialect := .standard
    path := []
    arguments := []
    bindings := variablesOf environment
    functions := []
    flags := []
    failsByPipe := false
    status := 0
    substituted := 0
    location := files.workingDirectory
    descriptors := [(0, 0), (1, 1), (2, 2)]
    traps := []
    line := 1
    messageLine := 1
    lineShift := 0
    speaker := none
    textName := none
    number := firstProcess
    parent := 1
    background := none
    backgroundStatus := 0
    frames := []
    functionDepth := 0
    loopDepth := 0
    sourceDepth := 0
    documents := []
    nextDocument := 0
    shortcuts := []
    remembered := []
    settings := []
    optionPlace := 0
    mask := 18 }

/-- What a command leaves: how it ended, what it wrote to its two outputs, and the files. -/
structure Completed where
  ending : Ending
  output : String
  errorOutput : String
  files : FileTree

def complete (environment : List (String × String)) (files : FileTree) (command : String)
    (arguments : List String) : Except StartFault Completed :=
  let machine : Machine := ⟨files, standardStreams, firstProcess + 1⟩
  let words := bytesOf command :: arguments.map bytesOf
  let completed (ending : Ending) (machine : Machine) : Completed :=
    ⟨ending, textOf (machine.waiting 1), textOf (machine.waiting 2),
      { machine.files with workingDirectory := files.workingDirectory }⟩
  let starting : Session := ⟨machine, startingProcess environment files⟩
  match Program.launchCommand Program.host words starting with
  | .ok (.ok ending) session => .ok (completed ending session.machine)
  | .ok (.error fault) _ => .error (.ofExecution fault)
  | .error .stops session => .ok (completed (.killed 15) session.machine)
  | .error _ _ => .error .notFound

/-- Start a command. A command with a slash in it is a path. -/
def start (environment : List (String × String)) (files : FileTree) (command : String)
    (arguments : List String) : Except StartFault Completed :=
  if FileTree.hasNull command then .error .unusable
  else if ¬ command.toList.contains '/' ∧ FileTree.maxNameBytes < command.utf8ByteSize then
    .error .nameTooLong
  else complete environment files command arguments

/-- The name of an output to which a command wrote more than it may. -/
def Completed.overfull? (completed : Completed) : Option String :=
  if maxOutput < completed.output.utf8ByteSize then some "stdout"
  else if maxOutput < completed.errorOutput.utf8ByteSize then some "stderr"
  else none

def failureMessage (command : String) (arguments : List String) (errorOutput : String) : String :=
  "Command failed: " ++ String.intercalate " " (command :: arguments) ++ "\n" ++ errorOutput

/-- Run a command to its end: what it wrote to its output, or the message of its
failure, and the files that it leaves. -/
def run (environment : List (String × String)) (files : FileTree) (command : String)
    (arguments : List String) : Except String String × FileTree :=
  match start environment files command arguments with
  | .error fault => (.error (fault.message command), files)
  | .ok completed =>
      match completed.overfull? with
      | some name => (.error (name ++ " maxBuffer length exceeded"), completed.files)
      | none =>
          if completed.ending = .exited 0 then (.ok completed.output, completed.files)
          else (.error (failureMessage command arguments completed.errorOutput), completed.files)

def scheduler (environment : List (String × String)) : Scheduler Unit :=
  ⟨fun files command arguments _ =>
    let (outcome, later) := run environment files command arguments
    ⟨outcome.mapError .error, later, ()⟩⟩

end PartitionBench.Host
