import PartitionBench.Host.Script.Compound

/-!
Contract: what scripts do.

Owns:
- pipelines and commands in the background;
- the running of every command, and of texts line by line;
- how deep commands may be nested.

Does not own: programs of the host, which are given to the functions of this module.
-/

namespace PartitionBench.Host.Script

open Execution

namespace Runner

/-! ## Pipelines -/

/-- Run the stages of a pipeline one after the other, each with what the one before wrote as
its input. The answer has the statuses of all stages. -/
def stages (runner : Runner) (isTested : Bool) : (input : Option Nat) → List Command →
    Execution (List Nat)
  | _, [] => return []
  | input, command :: rest => do
      let output ←
        if rest.isEmpty then pure none
        else some <$> openStream (.channel { capacity := some maxPiped })
      let stage : Execution Nat := do
        match input with
        | some number => setDescriptor 0 (some number)
        | none => pure ()
        match output with
        | some number => setDescriptor 1 (some number)
        | none => pure ()
        runner.command command isTested
      let status ←
        if rest.isEmpty then runner.inSubshell stage
        else Ending.status <$> runner.subshellEnding stage
      return status :: (← runner.stages isTested output rest)

def pipeline (runner : Runner) (commands : List Command) (isTested : Bool) : Execution Nat := do
  let statuses ← runner.stages isTested none commands
  let process ← process
  if process.dialect = .extended then
    putVariable "PIPESTATUS".toList
      { items := some (statuses.zipIdx.map fun entry =>
          (digitsOfNat entry.2, digitsOfNat entry.1)) }
  let last := statuses.getLast?.getD 0
  if process.failsByPipe then return (statuses.reverse.find? (· ≠ 0)).getD 0 else return last

def background (runner : Runner) (command : Command) : Execution Nat := do
  let status ← runner.inSubshell do
    setDescriptor 0 (some (← openStream .nothing))
    runner.command command false
  let number := (← machine).nextProcess
  alterMachine fun machine => { machine with nextProcess := number + 1 }
  alter fun process => { process with background := some number, backgroundStatus := status }
  return 0

/-! ## All commands -/

/-- What is told of the time that a command took, of which none is counted. -/
def timeReport (isTerse : Bool) : String :=
  if isTerse then "real 0.00\nuser 0.00\nsys 0.00\n"
  else "\nreal\t0m0.000s\nuser\t0m0.000s\nsys\t0m0.000s\n"

def run (runner : Runner) (command : Command) (isTested : Bool) : Execution Nat := do
  if ← hasFlag 'n' then return (← process).status
  match command with
  | .simple line assignments words redirections => do
      runner.checkFailure isTested
        (← runner.simple line assignments words redirections isTested)
  | .redirected line body redirections => do
      atLine line
      let status ← runner.redirecting redirections (runner.command body isTested)
      setStatus status
  | .pipeline commands => do
      runner.checkFailure isTested (← runner.pipeline commands isTested)
  | .background inner => do
      setStatus (← runner.background inner)
  | .negated inner => do
      let status ← runner.command inner true
      setStatus (if status = 0 then 1 else 0)
  | .timed isTerse inner => do
      let status ← runner.command inner isTested
      warn (utf8 (timeReport isTerse))
      setStatus status
  | .onSuccess first second => do
      let status ← runner.command first true
      if status = 0 then runner.command second isTested else setStatus status
  | .onFailure first second => do
      let status ← runner.command first true
      if status = 0 then setStatus status else runner.command second isTested
  | .sequence commands => runner.sequence isTested commands
  | .subshell line body redirections => do
      atLine line
      let status ← runner.inSubshell do
        runner.redirecting redirections (runner.sequence isTested body)
      runner.checkFailure isTested status
  | .group body => runner.sequence isTested body
  | .choice test body otherwise => do
      let status ← runner.sequence true test
      if status = 0 then runner.sequence isTested body
      else
        match otherwise with
        | some other => runner.command other isTested
        | none => setStatus 0
  | .loop isUntil test body => do
      setStatus (← runner.loop isUntil test body isTested)
  | .iteration line name written words body => do
      atLine line
      if isName name then
        let values ← runner.iterationValues words
        let shown := utf8 "for " ++ name ++ utf8 " in " ++ written
        setStatus (← runner.iterate line name shown values body isTested 0)
      else do
        reportUnnamed (utf8 (quotedName (textOf name)) ++ utf8 ": not a valid identifier")
        setStatus 1
  | .counting line start test step body => do
      atLine line
      setStatus (← runner.count start test step body isTested)
  | .selection line written word cases => do
      atLine line
      traceStart (utf8 "case " ++ written ++ utf8 " in")
      let text ← expandText runner.substituter word
      setStatus (← runner.select text isTested false cases)
  | .definition line name body => do
      alter fun process =>
        { process with functions := putEntry name ⟨line, body⟩ process.functions }
      setStatus 0
  | .condition line condition => do
      atLine line
      let value ← runner.holds 200 condition
      runner.checkFailure isTested (if value then 0 else 1)
  | .calculation line expression => do
      atLine line
      let value ← runner.calculated expression
      runner.checkFailure isTested (if value = 0 then 1 else 0)

/-! ## Texts -/

/-- Report that a text is no script, and end what cannot go on. -/
def refuseText (source : Source) (fault : Fault) : Execution Nat := do
  match (← process).dialect with
  | .standard => do
      alter fun process => { process with messageLine := source.line }
      report (utf8 ("Syntax error: " ++ fault.standardText))
      throw (.fails 2)
  | .extended => do
      let process ← process
      for entry in fault.extendedTexts source do
        let path : List Char :=
          match process.textName with
          | some name => process.path ++ utf8 ": " ++ name
          | none => process.path
        warn (path ++ utf8 ": line " ++ digitsOfNat entry.1 ++ utf8 ": " ++ utf8 entry.2
          ++ ['\n'])
      setStatus 2

def lines (runner : Runner) (isTested : Bool) : Nat → Source → Nat → Execution Nat
  | 0, _, status => return status
  | fuel + 1, source, status => do
      let before ← process
      let shortcuts := if before.dialect = .standard then before.shortcuts else []
      let started : Source :=
        { source with
          shortcuts
          documents := before.documents
          nextDocument := before.nextDocument
          warnings := [] }
      match readLine.run started with
      | .error fault later => refuseText later fault
      | .ok read later => do
          if before.flags.contains 'v' then
            warn (source.rest.take (source.rest.length - later.rest.length))
          if before.dialect = .extended then
            for entry in later.warnings do
              warn (before.path ++ utf8 ": line " ++ digitsOfNat entry.1 ++ utf8 ": "
                ++ utf8 entry.2 ++ ['\n'])
          match read with
          | none => return status
          | some commands => do
              alter fun process =>
                { process with
                  documents := later.documents
                  nextDocument := later.nextDocument
                  line := if process.dialect = .extended then process.line else later.line }
              match ← attempt (runner.sequence isTested commands) with
              | .ok result => runner.lines isTested fuel later result
              | .error (.abandons result) =>
                  if (← process).textName.isSome then throw (.abandons result)
                  else do
                    let _ ← setStatus result
                    runner.lines isTested fuel later result
              | .error departure => throw departure

/-- A text with its last line ended. In the extended dialect one more line end stands behind a
text that is no file. -/
def endedText (process : Process) (text : List Char) : List Char :=
  if process.dialect = .standard then text
  else if process.textName.isSome ∨ text.getLast? ≠ some '\n' then text ++ ['\n']
  else text

def runText (runner : Runner) (text : List Char) (line : Nat) (isTested : Bool) :
    Execution Nat := do
  let outer ← process
  let ended := endedText outer text
  let source : Source :=
    { dialect := outer.dialect, rest := ended, offset := 0, room := ended.length, line
      lineText := ended, endedLine := [], ahead := none, owed := [], warnings := []
      documents := [], nextDocument := 0, shortcuts := [], inUse := [] }
  alter fun process => { process with lineShift := 0 }
  ensuring (runner.lines isTested (ended.length + 2) source 0)
    (alter fun process => { process with lineShift := outer.lineShift })

end Runner

def maxNesting : Nat := 1200

/-- The running of commands that are nested up to a depth. -/
def runnerAt (host : Launcher) : Nat → Runner
  | 0 =>
      { host
        command := fun _ _ => throw (.dies 11)
        text := fun _ _ _ => throw (.dies 11) }
  | depth + 1 =>
      { host
        command := fun command isTested => (runnerAt host depth).run command isTested
        text := fun text line isTested => (runnerAt host depth).runText text line isTested }

def runnerOn (host : Launcher) : Runner := runnerAt host maxNesting

end PartitionBench.Host.Script
