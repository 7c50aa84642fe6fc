import PartitionBench.Host.Lookup
import PartitionBench.Host.Script.Builtin.Arguments

/-!
Contract: the running of commands as the commands that hold others see it.

Owns:
- what scripts need from the host, and the running of nested commands;
- the status of a command, and what a failure ends;
- how processes and subshells end;
- substitutions, which run commands for what they write.

Does not own: the commands (`Script.Execution`).
-/

namespace PartitionBench.Host.Script

open Execution

/-- Why a program was not run. -/
inductive LaunchFault where
  | fault (fault : ExecuteFault)
  | unformatted (path : List Char) (arguments : List (List Char))
  | binary

/-- What scripts need from the host: programs by their paths and names, and a shell of
its own for a script. -/
structure Launcher where
  launch : (path name : List Char) → (arguments : List (List Char)) →
    Execution (Except LaunchFault Ending)
  shell : Dialect → (path : List Char) → (arguments : List (List Char)) → Execution Ending

/-- The running of commands that are nested in others. -/
structure Runner where
  host : Launcher
  /-- Run a command. Its failure may be tested, so that it ends nothing. -/
  command : (command : Command) → (isTested : Bool) → Execution Nat
  text : (text : List Char) → (line : Nat) → (isTested : Bool) → Execution Nat

namespace Runner

/-! ## Statuses -/

def setStatus (status : Nat) : Execution Nat := do
  alter fun process => { process with status }
  return status

/-- End the script if it ends at the first failure and this one is not tested. -/
def checkFailure (runner : Runner) (isTested : Bool) (status : Nat) : Execution Nat := do
  let _ ← setStatus status
  let process ← process
  if status = 0 ∨ isTested then return status
  else do
    if process.dialect = .extended then
      match process.traps.find? fun entry => entry.1 = "ERR".toList with
      | some (_, action) => do
          let _ ← runner.text action process.line true
          alter fun process => { process with status }
      | none => pure ()
    if process.flags.contains 'e' then throw (.leaves status) else return status

def sequence (runner : Runner) (isTested : Bool) : List Command → Execution Nat
  | [] => return 0
  | [last] => runner.command last isTested
  | first :: rest => do
      let _ ← runner.command first isTested
      runner.sequence isTested rest

/-! ## Ends of processes -/

/-- How the process ends with some work, before what is done at its end. -/
def endingOf (result : Except Departure Nat) : Execution Ending := do
  match result with
  | .ok status => return .exited status
  | .error (.leaves status) | .error (.fails status) | .error (.abandons status)
  | .error (.returns status) => return .exited status
  | .error (.breaks _) | .error (.continues _) | .error .stops =>
      return .exited (← process).status
  | .error (.dies signal) => return .killed signal

def conclude (runner : Runner) (work : Execution Nat) : Execution Ending := do
  let ending ← endingOf (← attempt work)
  match ending with
  | .killed signal => return .killed signal
  | .exited status => do
      let traps := (← process).traps
      match traps.find? fun entry => entry.1 = "EXIT".toList with
      | none => return .exited status
      | some (_, action) => do
          alter fun process =>
            { process with
              status
              traps := traps.filter fun entry => entry.1 ≠ "EXIT".toList
              flags := process.flags.filter (· ≠ 'e') }
          match ← attempt (runner.text action 1 false) with
          | .error (.leaves later) => return .exited later
          | .error (.dies signal) => return .killed signal
          | _ => return .exited status

def subshellEnding (runner : Runner) (work : Execution Nat) : Execution Ending := do
  let result ← apart do
    alter fun process =>
      { process with
        traps := process.traps.filter fun entry => entry.2.isEmpty
        loopDepth := 0 }
    runner.conclude work
  resume result

/-- Do some work in a subshell. A signal that ends the subshell ends the script. -/
def inSubshell (runner : Runner) (work : Execution Nat) : Execution Nat := do
  match ← runner.subshellEnding work with
  | .exited status => return status
  | .killed signal => throw (.dies signal)

/-- A text without the line ends at its end and without null bytes. -/
def substituted (text : List Char) : List Char :=
  (text.reverse.dropWhile (· = '\n')).reverse.filter fun c => c.toNat ≠ 0

/-- Count the lines of commands from the present one on, as the extended dialect does where
they begin on a line. -/
def countLinesFrom (line : Nat) : Execution Unit :=
  alter fun process =>
    { process with
      lineShift := if process.dialect = .extended then (process.line : Int) - line else 0 }

def substituter (runner : Runner) : Substituter :=
  { output := fun line commands => do
      let (status, text) ← capture (runner.inSubshell do
        if ← isExtended then Builtin.setFlag false 'e'
        countLinesFrom line
        runner.sequence false commands)
      alter fun process =>
        { process with
          substituted := status
          status := if process.dialect = .extended then status else process.status }
      return substituted text
    channel := fun line commands => do
      let (_, text) ← capture (runner.inSubshell do
        countLinesFrom line
        runner.sequence false commands)
      let number ← openStream (.channel { ready := text })
      let descriptors := (← process).descriptors
      let free := ((List.range 64).reverse.find? fun descriptor =>
        !(descriptors.any fun entry => entry.1 = descriptor)).getD 63
      setDescriptor free (some number)
      return free }

end Runner

end PartitionBench.Host.Script
