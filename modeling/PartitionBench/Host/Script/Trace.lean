import PartitionBench.Host.Script.Builtin.Output

/-!
Contract: the trace of a script.

Owns: the lines that show commands before they are run, in both dialects.

Does not own: when they are shown (`Script.Execution`).
-/

namespace PartitionBench.Host.Script

open Execution

/-- A character that needs no quotes in a trace of the extended dialect. -/
def isTraceSafe (c : Char) : Bool :=
  isSafe c || c = '^' || c = '#'

/-- A word in a trace of the extended dialect: in quotes if it needs them. -/
def tracedWord (word : List Char) : List Char :=
  if word = [] then ['\'', '\'']
  else if word.all isTraceSafe then word
  else '\'' :: (word.flatMap fun c => if c = '\'' then ['\'', '\\', '\'', '\''] else [c]) ++ ['\'']

def traceTo (stream : Option Nat) (text : List Char) : Execution Unit := do
  let mark := (← value? "PS4".toList).getD ['+', ' ']
  match stream with
  | none => return ()
  | some number =>
      alterMachine fun machine =>
        (machine.write? number (mark ++ text ++ ['\n'])).getD machine

/-- Write the trace of a simple command, if that is asked for. -/
def traceCommand (stream : Option Nat) (assignments : List (List Char × List Char))
    (words : List (List Char)) : Execution Unit := do
  let process ← process
  if process.flags.contains 'x' then
    match process.dialect with
    | .standard =>
        let shown := assignments.map fun entry => entry.1 ++ '=' :: entry.2
        traceTo stream (List.intercalate [' '] (shown ++ words))
    | .extended => do
        for entry in assignments do
          traceTo stream (entry.1 ++ '=' :: (if entry.2 = [] then [] else tracedWord entry.2))
        if ¬ words.isEmpty then
          traceTo stream (List.intercalate [' '] (words.map tracedWord))
  else return ()

/-- Write the trace of the beginning of a compound command, which only the extended dialect
shows. -/
def traceStart (text : List Char) : Execution Unit := do
  let process ← process
  if process.dialect = .extended ∧ process.flags.contains 'x' then
    traceTo (← streamOf? 2) text
  else return ()

end PartitionBench.Host.Script
