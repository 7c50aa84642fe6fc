import PartitionBench.Host.Script.Source
import PartitionBench.Host.Session

/-!
Contract: what a shell says of faults.

Owns: the place that its messages begin with, and what becomes of a script in which
something goes wrong.

Does not own: the wording of single messages.
-/

namespace PartitionBench.Host.Script

open Execution

def utf8 (text : String) : List Char := bytesOf text

def placed (process : Process) (line : Nat) (message : List Char) : List Char :=
  let speaker : List Char :=
    match process.speaker with
    | some name => name ++ [':', ' ']
    | none => []
  match process.dialect with
  | .standard =>
      process.path ++ [':', ' '] ++ digitsOfNat line ++ [':', ' '] ++ speaker ++ message ++ ['\n']
  | .extended =>
      process.path ++ utf8 ": line " ++ digitsOfNat line ++ [':', ' '] ++ speaker ++ message
        ++ ['\n']

def report (message : List Char) : Execution Unit := do
  let process ← process
  warn (placed process process.messageLine message)

/-- Write a message in which no command is named. -/
def reportUnnamed (message : List Char) : Execution Unit := do
  let process ← process
  warn (placed { process with speaker := none } process.messageLine message)

def fail {α : Type} (message : List Char) : Execution α := do
  report message
  match (← process).dialect with
  | .standard => throw (.fails 2)
  | .extended => throw (.fails 1)

/-- Report a fault that ends the script in the standard dialect, and the line that is being
run in the extended one. -/
def giveUp {α : Type} (message : List Char) : Execution α := do
  let process ← process
  match process.dialect with
  | .standard => do
      report message
      throw (.fails 2)
  | .extended => do
      reportUnnamed message
      throw (.abandons 1)

def isExtended : Execution Bool :=
  return (← process).dialect = .extended

def inDialect (standard extended : String) : Execution (List Char) := do
  match (← process).dialect with
  | .standard => return utf8 standard
  | .extended => return utf8 extended

end PartitionBench.Host.Script
