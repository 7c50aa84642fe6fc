import PartitionBench.Host.Script.Assignment
import PartitionBench.Host.Script.Builtin.Meaning
import PartitionBench.Host.Script.Phrase
import PartitionBench.Host.Script.Redirection
import PartitionBench.Host.Script.Trace

/-!
Contract: what is run when a command is named.

Owns:
- calling functions and running programs, and the messages on those that are missing or
  end by a signal;
- builtins that run others: texts, scripts that are read in, and programs in place of the
  script;
- what is done on signals.

Does not own: the words of commands (`Script.Simple`), and builtins that run no others
(`Script.Builtin`).
-/

namespace PartitionBench.Host.Script

open Execution

namespace Runner

/-! ## Functions -/

/-- Give the variables of the last function their values back. -/
def leaveFrame : Execution Unit := do
  match (← process).frames with
  | [] => return ()
  | frame :: rest => do
      for entry in frame do
        match entry.2 with
        | some held => putVariable entry.1 held
        | none => dropVariable entry.1
      alter fun process => { process with frames := rest }

def pushItem (item : List Char) (usual : List (List Char)) (held : Option Variable) : Variable :=
  let items := (held.bind Variable.items).map fun entries => entries.map (·.2)
  { items := some ((item :: items.getD usual).zipIdx.map fun entry =>
      (digitsOfNat entry.2, entry.1)) }

/-- Tell a function which functions called it, in the extended dialect. The answer has what was
told before. -/
def tellCallers (name : List Char) : Execution (List (List Char × Option Variable)) := do
  let process ← process
  match process.dialect with
  | .standard => return []
  | .extended => do
      let told : List (List Char × List Char × List (List Char)) :=
        [(utf8 "FUNCNAME", name, [utf8 "main"]), (utf8 "BASH_SOURCE", process.path, []),
          (utf8 "BASH_LINENO", digitsOfNat process.line, [['0']])]
      told.mapM fun (named, item, usual) => do
        let held ← heldVariable? named
        putVariable named (pushItem item usual held)
        return (named, held)

def callFunction (runner : Runner) (name : List Char) (definition : Definition)
    (arguments : List (List Char)) (isTested : Bool) : Execution Nat := do
  let outer ← process
  let callers ← tellCallers name
  alter fun process =>
    { process with
      arguments
      frames := [] :: process.frames
      lineShift := 0
      functionDepth := process.functionDepth + 1
      loopDepth := 0 }
  ensuring
    (do
      match ← attempt (runner.command definition.body isTested) with
      | .error (.returns status) => return status
      | result => resume result)
    (do
      leaveFrame
      for entry in callers do
        match entry.2 with
        | some held => putVariable entry.1 held
        | none => dropVariable entry.1
      alter fun process =>
        { process with
          arguments := outer.arguments
          lineShift := outer.lineShift
          functionDepth := outer.functionDepth
          loopDepth := outer.loopDepth })

/-! ## Programs -/

def signalText (signal : Nat) : String :=
  match signal with
  | 1 => "Hangup"
  | 3 => "Quit"
  | 4 => "Illegal instruction"
  | 5 => "Trace/breakpoint trap"
  | 6 => "Aborted"
  | 8 => "Floating point exception"
  | 9 => "Killed"
  | 10 => "User defined signal 1"
  | 11 => "Segmentation fault"
  | 12 => "User defined signal 2"
  | 14 => "Alarm clock"
  | 15 => "Terminated"
  | _ => "Unknown signal"

/-- The status of a program that has ended. The signal that ended it is told, unless it is
one that users send. -/
def statusOf (ending : Ending) : Execution Nat := do
  match ending with
  | .exited status => return status
  | .killed signal => do
      if signal ≠ 2 ∧ signal ≠ 13 then warn (utf8 (signalText signal ++ "\n"))
      return 128 + signal

/-- What is said of a program that cannot be run, and the status then. -/
def launchMessage (dialect : Dialect) (path name : List Char) (isDirectory : Bool)
    (fault : ExecuteFault) : List Char × Nat :=
  match dialect with
  | .standard =>
      if fault.isMissing then (name ++ utf8 ": not found", 127)
      else if fault = .path .nameTooLong then (name ++ utf8 (": " ++ fault.reason), 127)
      else (name ++ utf8 (": " ++ fault.reason), 126)
  | .extended =>
      if isDirectory then (path ++ utf8 ": Is a directory", 126)
      else if fault = .path .notFound then (path ++ utf8 (": " ++ fault.reason), 127)
      else (path ++ utf8 (": " ++ fault.reason), 126)

def runProgram (runner : Runner) (path name : List Char) (arguments : List (List Char)) :
    Execution Nat := do
  let dialect := (← process).dialect
  match ← runner.host.launch path name arguments with
  | .ok ending => statusOf ending
  | .error (.unformatted path arguments) => do
      statusOf (← runner.host.shell dialect path arguments)
  | .error .binary =>
      match dialect with
      | .standard => Builtin.refuse (name ++ utf8 ": Exec format error") 126
      | .extended =>
          Builtin.refuse (path ++ utf8 ": cannot execute binary file: Exec format error") 126
  | .error (.fault fault) => do
      let found ← look path
      let isDirectory : Bool :=
        match found with
        | .ok (_, .directory) => true
        | _ => false
      let isThere : Bool :=
        match found with
        | .ok (_, .file _ _) => true
        | _ => false
      let (message, status) :=
        if dialect = .extended ∧ isThere ∧ fault.isMissing then
          (path ++ utf8 ": cannot execute: required file not found", 127)
        else launchMessage dialect path name isDirectory fault
      Builtin.refuse message status

/-- Run a command that is no command of the shell. -/
def runExternal (runner : Runner) (name : List Char) (arguments : List (List Char)) :
    Execution Nat := do
  if name.contains '/' then runner.runProgram name name arguments
  else
    let dialect := (← process).dialect
    let executable ← findExecutable? name
    match executable, ← findCommand name with
    | some path, _ => do
        rememberCommand name path 1
        runner.runProgram path name arguments
    | none, .ok path =>
        match dialect with
        | .standard => Builtin.refuse (name ++ utf8 ": Permission denied") 127
        | .extended => runner.runProgram path name arguments
    | none, .error isOther =>
        match dialect with
        | .standard =>
            Builtin.refuse
              (name ++ (if isOther then utf8 ": Permission denied" else utf8 ": not found")) 127
        | .extended =>
            let reason : String :=
              if (← value? (utf8 searchVariable)) = some [] then ": No such file or directory"
              else ": command not found"
            Builtin.refuse (name ++ utf8 reason) 127

/-! ## Commands that run others -/

/-- Do some work on a text that is no file and has a name. -/
def onText (name : Option (List Char)) (work : Execution Nat) : Execution Nat := do
  let outer := (← process).textName
  alter fun process => { process with textName := name }
  ensuring work (alter fun process => { process with textName := outer })

def evaluate (runner : Runner) (isTested : Bool) (arguments : List (List Char)) :
    Execution Nat := do
  let text := List.intercalate [' '] arguments
  if text.all fun c => c = ' ' then return 0
  else do
    let process ← process
    match process.dialect with
    | .standard => runner.text text 1 isTested
    | .extended => do
        alter fun process => { process with speaker := none }
        onText (some (utf8 "eval")) (runner.text text process.line isTested)

def sourcePath (name : List Char) : Execution (Option (List Char)) := do
  if name.contains '/' then return some name
  else
    let session ← get
    let paths := candidates (← searchPath) name
    let found := paths.find? fun path =>
      match session.machine.look session.process.location path with
      | .ok (_, .file _ _) => true
      | _ => false
    match found, session.process.dialect with
    | some path, _ => return some path
    | none, .extended => return some name
    | none, .standard => return none

def readIn (runner : Runner) (arguments : List (List Char)) : Execution Nat := do
  let process ← process
  match arguments with
  | [] =>
      match process.dialect with
      | .standard => return 0
      | .extended => do
          report (utf8 "filename argument required")
          warn (utf8 ".: usage: . filename [arguments]\n")
          return 2
  | name :: rest => do
      match ← sourcePath name with
      | none => do
          report (name ++ utf8 ": not found")
          throw (.fails 2)
      | some path =>
          match ← readFile path with
          | .error fault =>
              match process.dialect with
              | .standard => do
                  report (openMessage .standard .read path fault)
                  throw (.fails 2)
              | .extended => do
                  reportUnnamed (openMessage .extended .read path fault)
                  return 1
          | .ok text => do
              let isExtended := process.dialect = .extended
              alter fun process =>
                { process with
                  path := if isExtended then path else process.path
                  speaker := if isExtended then none else some path
                  sourceDepth := process.sourceDepth + 1
                  arguments := if isExtended ∧ rest ≠ [] then rest else process.arguments }
              ensuring
                (onText none do
                  match ← attempt (runner.text text 1 false) with
                  | .error (.returns status) => return status
                  | result => resume result)
                (alter fun later =>
                  { later with
                    path := process.path
                    sourceDepth := process.sourceDepth
                    arguments :=
                      if isExtended ∧ rest ≠ [] then process.arguments else later.arguments })

/-- Report that a program cannot be put in the place of a shell of the extended dialect. The
answer is the status then. -/
def refuseReplacing (path : List Char) (fault : LaunchFault) : Execution Nat := do
  let isRooted := path.head? = some '/'
  let inner := if path.take 2 = ['.', '/'] then path.drop 2 else path
  let start := pathOf (← process).location
  let shown := if isRooted then path else (if start = ['/'] then [] else start) ++ '/' :: inner
  let found ← look path
  let twice (reason : String) : Execution Nat := do
    reportUnnamed (shown ++ utf8 (": " ++ reason))
    Builtin.refuse (shown ++ utf8 (": cannot execute: " ++ reason)) 126
  match fault, found with
  | .fault (.path .notFound), .error _ => do
      reportUnnamed (shown ++ utf8 ": No such file or directory")
      return 127
  | .fault (.path .notFound), .ok _ => do
      reportUnnamed (shown ++ utf8 ": cannot execute: required file not found")
      return 127
  | .fault _, .ok (_, .directory) => twice "Is a directory"
  | .fault fault, _ => twice fault.reason
  | _, _ => do
      reportUnnamed (shown ++ utf8 ": cannot execute binary file: Exec format error")
      reportUnnamed (shown ++ utf8 ": Success")
      return 126

/-- Put a program in the place of the shell. If it cannot be run, the shell ends as if nothing
had been put in its place. -/
def replace (runner : Runner) (choices : Builtin.Choices) (operands : List (List Char)) :
    Execution Nat := do
  match operands with
  | [] => return 0
  | name :: rest => do
      let called := (choices.value? 'a').getD name
      let called := if choices.has 'l' then '-' :: called else called
      if choices.has 'c' then
        alter fun process =>
          { process with
            bindings := process.bindings.map fun entry =>
              (entry.1, { entry.2 with isExported := false }) }
      let process ← process
      let found ← if name.contains '/' then pure (some name) else findExecutable? name
      match found with
      | none => do
          if name = [] ∧ process.dialect = .standard then
            report (utf8 ": Permission denied")
            throw (.leaves 126)
          report (name ++ utf8 ": not found")
          throw (.leaves 127)
      | some path =>
          alter fun process =>
            { process with traps := process.traps.filter fun entry => entry.2.isEmpty }
          match ← runner.host.launch path called rest with
          | .ok (.exited status) => throw (.leaves status)
          | .ok (.killed signal) => throw (.dies signal)
          | .error (.unformatted path arguments) => do
              match ← runner.host.shell process.dialect path arguments with
              | .exited status => throw (.leaves status)
              | .killed signal => throw (.dies signal)
          | .error fault => do
              alter fun later => { later with traps := process.traps }
              match process.dialect with
              | .standard => throw (.leaves (← runner.runProgram path name rest))
              | .extended => throw (.leaves (← refuseReplacing path fault))

def setTraps (choices : Builtin.Choices) (operands : List (List Char)) : Execution Nat := do
  let process ← process
  let isExtended := process.dialect = .extended
  let listing (isMeant : List Char → Bool) : Execution Nat :=
    let shownName (name : List Char) : List Char :=
      if isExtended ∧ name ≠ utf8 "EXIT" ∧ name ≠ utf8 "ERR" then utf8 "SIG" ++ name else name
    let sorted := process.traps.mergeSort fun a b =>
      decide ((Builtin.signal? a.1).getD 0 ≤ (Builtin.signal? b.1).getD 0)
    let meant := sorted.filter fun entry => isMeant entry.1
    Builtin.print (meant.flatMap fun entry =>
      utf8 "trap -- " ++ Builtin.singleQuoted entry.2 ++ ' ' :: shownName entry.1 ++ ['\n']) 0
  if choices.has 'l' then Builtin.print Builtin.signalTable 0
  else if choices.has 'p' ∧ operands ≠ [] then
    let numbers := operands.map Builtin.signal?
    listing fun name => numbers.contains (Builtin.signal? name)
  else match operands with
  | [] => listing fun _ => true
  | first :: rest =>
      let resets := first = ['-'] ∨ (natural? first).isSome ∨ rest.isEmpty
      let names := if first = ['-'] ∨ ¬ resets then rest else operands
      Builtin.forEach
        (fun written => do
          let name? : Option (List Char) :=
            if isExtended ∧ ["ERR", "DEBUG", "RETURN"].contains (textOf written) then some written
            else (Builtin.signal? written).map Builtin.signalName
          match name? with
          | none =>
              if isExtended then
                Builtin.refuse (written ++ utf8 ": invalid signal specification") 1
              else do
                warn (utf8 "trap: " ++ written ++ utf8 ": bad trap\n")
                return 1
          | some name => do
              alter fun process =>
                { process with
                  traps :=
                    if resets then process.traps.filter fun entry => entry.1 ≠ name
                    else putEntry name first process.traps }
              return 0)
        names

def actOnSignal (runner : Runner) (action : List Char) : Execution Unit := do
  let outer ← process
  alter fun process => { process with speaker := none }
  let _ ← runner.text action 1 false
  alter fun process => { process with status := outer.status, speaker := outer.speaker }

/-- Tell that nothing is known of a name. -/
def tellMissing (name : List Char) : Execution Nat := do
  match (← process).dialect with
  | .standard => Builtin.print (name ++ utf8 ": not found\n") 127
  | .extended => Builtin.refuse (name ++ utf8 ": not found") 1

/-- A command of the shell by its name, if there is one. -/
def builtin? (runner : Runner) (isTested : Bool) (name : List Char) :
    Execution (Option Builtin) := do
  if ¬ Builtin.isBuiltin (← process).dialect name then return none
  else
    match String.ofList name with
    | "eval" =>
        return some (Builtin.optioned fun _ _ operands => runner.evaluate isTested operands)
    | "." | "source" => return some (Builtin.optioned fun _ _ operands => runner.readIn operands)
    | "exec" => return some (Builtin.optioned fun choices _ => runner.replace choices)
    | "trap" => return some (Builtin.optioned fun choices _ => setTraps choices)
    | "kill" => return some (Builtin.sendSignal runner.actOnSignal)
    | "type" => return some (Builtin.tellMeanings tellMissing)
    | _ => return Builtin.named? name

/-- Run a command of the shell. A fault in one that is not special ends only the
command. -/
def runBuiltin (builtin : Builtin) (isSpecial : Bool) (name : List Char)
    (arguments : List (List Char)) : Execution Nat := do
  let outer := (← process).speaker
  alter fun process => { process with speaker := some name }
  let result ← attempt (builtin name arguments)
  alter fun process => { process with speaker := outer }
  let runsText : Bool := ["eval", ".", "source"].contains (String.ofList name)
  match result with
  | .error (.fails status) => if isSpecial then throw (.fails status) else return status
  | .error (.abandons status) => if runsText then throw (.abandons status) else return status
  | _ => resume result

end Runner

end PartitionBench.Host.Script
