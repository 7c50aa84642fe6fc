import PartitionBench.Host.Script.Builtin.Variables

/-!
Contract: signals, and the command of the shell that sends them.

Owns: the names and numbers of signals and their listings, what a signal does to the process,
and what the command is asked for.

Does not own: what is done on signals that are awaited (`Script.Invocation`).
-/

namespace PartitionBench.Host.Script.Builtin

open Execution

def signalNames : List String :=
  ["HUP", "INT", "QUIT", "ILL", "TRAP", "ABRT", "BUS", "FPE", "KILL", "USR1", "SEGV", "USR2",
    "PIPE", "ALRM", "TERM", "STKFLT", "CHLD", "CONT", "STOP", "TSTP", "TTIN", "TTOU", "URG", "XCPU",
    "XFSZ", "VTALRM", "PROF", "WINCH", "IO", "PWR", "SYS"]

/-- The names of the signals that have no name of their own, from the first on. -/
def realTimeNames : List String :=
  "RTMIN" :: (List.range 15).map (fun place => "RTMIN+" ++ toString (place + 1))
    ++ (List.range 14).map (fun place => "RTMAX-" ++ toString (14 - place)) ++ ["RTMAX"]

/-- The number of the first signal that has no name of its own. -/
def firstRealTime : Nat := 34

/-- Signals that end no process. -/
def harmlessSignals : List Nat := [17, 18, 23, 28]

/-- The number of a signal that is given by its number or its name. -/
def signal? (written : List Char) : Option Nat :=
  match natural? written with
  | some number => if number ≤ 64 then some number else none
  | none =>
      let upper := String.ofList (written.map Char.toUpper)
      let name := if upper.startsWith "SIG" then (upper.drop 3).toString else upper
      if name = "EXIT" then some 0
      else
        match signalNames.idxOf? name with
        | some place => some (place + 1)
        | none => (realTimeNames.idxOf? name).map (· + firstRealTime)

/-- The name of a signal, if it has one. -/
def signalName? (number : Nat) : Option String :=
  if number = 0 then some "EXIT"
  else if number < firstRealTime then signalNames[number - 1]?
  else realTimeNames[number - firstRealTime]?

def signalName (number : Nat) : List Char :=
  utf8 ((signalName? number).getD "")

/-- All signals as the extended dialect lists them, five on a line. -/
def signalTable : List Char :=
  let cells := (List.range 65).filterMap fun number =>
    if number = 0 then none
    else (signalName? number).map fun name =>
      (if number < 10 then [' '] else []) ++ digitsOfNat number ++ utf8 (") SIG" ++ name)
  (cells.zipIdx.flatMap fun entry =>
    entry.1 ++ (if entry.2 % 5 = 4 then ['\n'] else ['\t']))
    ++ (if cells.length % 5 = 0 then [] else ['\n'])

def signalLines : List Char :=
  ofLines ((List.range 65).map fun number =>
    match signalName? number with
    | some name => if number = 0 ∨ number = 16 then digitsOfNat number else utf8 name
    | none => digitsOfNat number)

/-- Send a signal to the process itself. The answer tells what is to be done if the signal
is awaited. -/
def receive (signal : Nat) : Execution (Option (List Char)) := do
  let process ← process
  match process.traps.find? fun entry => entry.1 = signalName signal with
  | some (_, action) =>
    if signal = 9 ∨ signal = 19 then throw (.dies signal) else return some action
  | none =>
      if signal = 0 ∨ harmlessSignals.contains signal then return none
      else throw (.dies signal)

/-- What a command that sends signals is asked for. -/
inductive SignalRequest where
  | list (statuses : List (List Char))
  | send (signal : Nat) (targets : List (List Char))
  | badOption (written : List Char)
  | badSignal (written : List Char)
  | usage

/-- What the arguments of a command that sends signals ask for. -/
def signalRequest : List (List Char) → SignalRequest
  | [] => .usage
  | ['-', 'l'] :: rest => .list rest
  | ['-', 's'] :: name :: rest =>
      match signal? name with
      | some number => .send number rest
      | none => .badSignal name
  | ['-', 'n'] :: name :: rest =>
      match signal? name with
      | some number => .send number rest
      | none => .badSignal name
  | ['-', '-'] :: rest => .send 15 rest
  | ('-' :: name) :: rest =>
      match signal? name with
      | some number => .send number rest
      | none => .badOption name
  | rest => .send 15 rest

/-- Send a signal. `act` does what is awaited. -/
def sendSignal (act : List Char → Execution Unit) : Builtin := fun _ arguments => do
  let process ← process
  let isExtended := process.dialect = .extended
  match signalRequest arguments with
  | .usage =>
      if isExtended then
        warn (utf8 ("kill: usage: kill [-s sigspec | -n signum | -sigspec] pid | jobspec ... or "
          ++ "kill -l [sigspec]\n"))
        return 2
      else
        refuse (utf8 ("Usage: kill [-s sigspec | -signum | -sigspec] [pid | job]... or\n"
          ++ "kill -l [exitstatus]")) 2
  | .list [] => print (if isExtended then signalTable else signalLines) 0
  | .list statuses =>
      forEach
        (fun status => do
          match natural? status with
          | some number =>
              let meant := if 128 < number then number - 128 else number
              match signalName? meant with
              | some name =>
                  if meant = 0 ∧ ¬ isExtended then
                    refuse (utf8 "invalid signal number or exit status: " ++ status) 2
                  else print (utf8 name ++ ['\n']) 0
              | none =>
                  if isExtended then refuse (status ++ utf8 ": invalid signal specification") 1
                  else refuse (utf8 "invalid signal number or exit status: " ++ status) 2
          | none =>
              match signal? status with
              | some number =>
                  if isExtended then print (digitsOfNat number ++ ['\n']) 0
                  else refuse (utf8 "Illegal number: " ++ status) 2
              | none =>
                  if isExtended then refuse (status ++ utf8 ": invalid signal specification") 1
                  else refuse (utf8 "Illegal number: " ++ status) 2)
        (if isExtended then statuses else statuses.take 1)
  | .badOption name =>
      if isExtended then refuse (name ++ utf8 ": invalid signal specification") 1
      else refuse (utf8 "Illegal option -" ++ name.take 1) 2
  | .badSignal name =>
      if isExtended then refuse (name ++ utf8 ": invalid signal specification") 1
      else refuse (utf8 "invalid signal number or name: " ++ name) 2
  | .send signal targets =>
      forEach
        (fun target => do
          match integer? target with
          | none =>
              if isExtended then
                refuse (target ++ utf8 ": arguments must be process or job IDs") 1
              else refuse (utf8 "Illegal number: " ++ target) 2
          | some number =>
              if number = process.number ∨ number = 0 then
                if signal = 0 then return 0
                else
                  match ← receive signal with
                  | some action => do
                      act action
                      return 0
                  | none => return 0
              else if isExtended then
                refuse ('(' :: target ++ utf8 ") - No such process") 1
              else do
                report (utf8 "No such process")
                warn ['\n']
                return 1)
        targets

end PartitionBench.Host.Script.Builtin
