import PartitionBench.Host.Script.Invocation

/-!
Contract: simple commands.

Owns: what the words of a command come to, the choice among functions, builtins and
programs, and the order of redirections, assignments and the command itself.

Does not own: what is run (`Script.Invocation`).
-/

namespace PartitionBench.Host.Script

open Execution

namespace Runner

/-- A name belongs to a command that stays what it is. -/
def isSpecialName (name : List Char) : Bool :=
  Builtin.specialNames.contains (String.ofList name)

/-- Expand the words of a command. The arguments of some commands are assignments. -/
def expandWords (runner : Runner) : (declares : Bool) → List Word → Execution (List (List Char))
  | _, [] => return []
  | declares, word :: rest => do
      let isAssignment : Bool :=
        declares && (match assignmentOf? word with
          | some _ => true
          | none => false)
      let fields ←
        if isAssignment then do pure [← expandValue runner.substituter word]
        else expandFields runner.substituter word
      return fields ++ (← runner.expandWords declares rest)

def declaringCommands : List String :=
  ["export", "readonly", "local", "declare", "typeset"]

def commandFields (runner : Runner) : List Word → Execution (List (List Char))
  | [] => return []
  | word :: rest => do
      match ← expandFields runner.substituter word with
      | [] => runner.commandFields rest
      | name :: others => do
          let dialect := (← process).dialect
          let declares := declaringCommands.contains (String.ofList name)
            && (dialect = .standard || word.plain?.isSome)
          return name :: others ++ (← runner.expandWords declares rest)

def runFields (runner : Runner) (isTested : Bool) (usesFunctions : Bool) :
    Nat → List (List Char) → Execution Nat
  | 0, _ => return 0
  | _ + 1, [] => return 0
  | fuel + 1, name :: arguments => do
      let process ← process
      let isSpecial := isSpecialName name && process.dialect = .standard
      let function :=
        if isSpecial || !usesFunctions then none
        else (process.functions.find? fun entry => entry.1 = name).map (·.2)
      match function with
      | some definition => runner.callFunction name definition arguments isTested
      | none =>
          if name = "command".toList then
            match Builtin.chosen process.dialect name arguments with
            | .error refusal => runBuiltin (fun _ _ => refusal) false name arguments
            | .ok (choices, words) =>
                if choices.has 'v' then Builtin.printMeanings words
                else if choices.has 'V' then
                  runBuiltin
                    (fun _ words => Builtin.forEach
                      (fun word => do
                        Builtin.tellMeaning tellMissing word (← Builtin.meaningOf word))
                      words)
                    false name words
                else
                  match ← attempt (runner.runFields isTested false fuel words) with
                  | .error (.fails status) => return status
                  | result => resume result
          else if name = "builtin".toList ∧ process.dialect = .extended then
            match Builtin.chosen process.dialect name arguments with
            | .error refusal => runBuiltin (fun _ _ => refusal) false name arguments
            | .ok (_, []) => return 0
            | .ok (_, word :: others) =>
                match ← runner.builtin? isTested word with
                | some builtin => runBuiltin builtin false word others
                | none =>
                    runBuiltin
                      (fun _ _ => Builtin.refuse (word ++ utf8 ": not a shell builtin") 1)
                      false name arguments
          else
            match ← runner.builtin? isTested name with
            | some builtin => runBuiltin builtin isSpecial name arguments
            | none => runner.runExternal name arguments

/-- The line that messages name while a command runs. -/
def atLine (line : Nat) : Execution Unit :=
  alter fun process =>
    let shifted := (line + process.lineShift).toNat
    { process with
      messageLine := shifted
      line := if process.dialect = .extended then shifted else process.line }

def simple (runner : Runner) (line : Nat) (assignments : List Assignment) (words : List Word)
    (redirections : List Redirection) (isTested : Bool) : Execution Nat := do
  atLine line
  alter fun process => { process with substituted := 0 }
  let fields ← runner.commandFields words
  let outer ← process
  let stream ← streamOf? 2
  let restore : Execution Unit :=
    alter fun process => { process with descriptors := outer.descriptors }
  match fields with
  | [] =>
      let work : Execution Nat := do
        match ← runner.redirect redirections with
        | .ok () => do
            let done ← runner.assignAll assignments
            traceCommand stream done []
            return (← process).substituted
        | .error () => redirectionStatus
      ensuring work restore
  | name :: arguments =>
      let isFunction := outer.functions.any fun entry => entry.1 = name
      let isSpecial := isSpecialName name && outer.dialect = .standard
      let keepsDescriptors := name = "exec".toList ∧ arguments.isEmpty
      let declaresItems := assignments.any fun assignment =>
        match assignment with
        | .items _ _ _ => true
        | _ => false
      let run (done : List (List Char × List Char)) : Execution Nat := do
        traceCommand stream done fields
        runner.runFields isTested true 20 fields
      let work : Execution Nat := do
        match ← runner.redirect redirections with
        | .error () =>
            if isSpecial then throw (.fails (← redirectionStatus)) else redirectionStatus
        | .ok () =>
            if declaresItems then
              for assignment in assignments do
                if arguments.any fun argument => argument.take 2 = ['-', 'A'] then
                  Builtin.mark (assignedName assignment) fun held => { held with isTable := true }
              let kept := outer.functionDepth > 0
              for assignment in assignments do
                if kept then Builtin.keepForEnd (assignedName assignment)
              run (← runner.assignAll assignments)
            else if isSpecial ∧ ¬ isFunction then do
              let done ← runner.assignAll assignments
              if name = "exec".toList then
                for assignment in assignments do
                  Builtin.mark (assignedName assignment) fun held =>
                    { held with isExported := true }
              run done
            else if assignments.isEmpty then run []
            else runner.assigning assignments run
      match ← attempt work with
      | .ok status => do
          if ¬ keepsDescriptors then restore
          return status
      | .error departure => do
          restore
          throw departure

end Runner

end PartitionBench.Host.Script
