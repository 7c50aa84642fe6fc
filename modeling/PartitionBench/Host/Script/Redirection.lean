import PartitionBench.Host.Script.Runner

/-!
Contract: redirections.

Owns: opening files, copying and closing descriptors for a command, texts that stand in a
script as input, and the messages on files that cannot be opened.

Does not own: descriptors (`Host.Session`) and how redirections are written
(`Script.Phrase`).
-/

namespace PartitionBench.Host.Script

open Execution

namespace Runner

abbrev Redirected := Except Unit Unit

def refuseRedirection (message : List Char) : Execution Redirected := do
  report message
  return .error ()

def openMessage (dialect : Dialect) (access : Access) (name : List Char) (fault : OpenFault) :
    List Char :=
  match dialect, access with
  | .extended, _ =>
      if fault = .path .alreadyExists then name ++ utf8 ": cannot overwrite existing file"
      else name ++ utf8 (": " ++ fault.reason)
  | .standard, .read =>
      let reason :=
        if fault = .path .notFound ∨ fault = .path .notDirectory then "No such file"
        else fault.reason
      utf8 "cannot open " ++ name ++ utf8 (": " ++ reason)
  | .standard, _ =>
      let reason :=
        if fault = .path .notFound ∨ fault = .path .notDirectory then "Directory nonexistent"
        else fault.reason
      utf8 "cannot create " ++ name ++ utf8 (": " ++ reason)

def redirectToFile (descriptors : List Nat) (access : Access) (name : List Char) :
    Execution Redirected := do
  let process ← process
  match ← openFile name access (!process.flags.contains 'C') with
  | .ok number => do
      for descriptor in descriptors do
        setDescriptor descriptor (some number)
      return .ok ()
  | .error fault => refuseRedirection (openMessage process.dialect access name fault)

/-- The one name of a redirection, or a report that there is none. -/
def redirectionName (runner : Runner) (word : Word) : Execution (Option (List Char)) := do
  match (← process).dialect with
  | .standard => return some (← expandText runner.substituter word)
  | .extended => do
      match ← expandFields runner.substituter word with
      | [name] => return some name
      | _ => do
          let shown : List Char :=
            match word with
            | [.parameter name .none] => '$' :: name
            | _ => []
          report (shown ++ utf8 ": ambiguous redirect")
          return none

def redirectToCopy (descriptor : Nat) (isOutput : Bool) (source : List Char) :
    Execution Redirected := do
  let process ← process
  let isNumber : Bool :=
    source ≠ [] && source.all Text.isDigit
      && (process.dialect = .extended || source.length = 1)
  if source = ['-'] then
    setDescriptor descriptor none
    return .ok ()
  else if isNumber then
    match ← streamOf? (Text.decimalValue source) with
    | some number => do
        setDescriptor descriptor (some number)
        return .ok ()
    | none => refuseRedirection (source ++ utf8 ": Bad file descriptor")
  else
    match process.dialect with
    | .standard => do
        alter fun process => { process with messageLine := process.line }
        report (utf8 "Syntax error: Bad fd number")
        throw (.fails 2)
    | .extended =>
        if isOutput ∧ descriptor = 1 then redirectToFile [1, 2] .write source
        else refuseRedirection (source ++ utf8 ": ambiguous redirect")

def redirectOne (runner : Runner) (redirection : Redirection) : Execution Redirected := do
  match redirection with
  | .file descriptor access word => do
      match ← runner.redirectionName word with
      | some name => redirectToFile [descriptor] access name
      | none => return .error ()
  | .copy descriptor isOutput word => do
      redirectToCopy descriptor isOutput (← expandText runner.substituter word)
  | .document descriptor number => do
      let documents := (← process).documents
      let word := ((documents.find? fun entry => entry.1 = number).map (·.2)).getD []
      let text ← expandText runner.substituter word
      setDescriptor descriptor (some (← openStream (.channel { ready := text })))
      return .ok ()
  | .text descriptor word => do
      let text ← expandText runner.substituter word
      setDescriptor descriptor (some (← openStream (.channel { ready := text ++ ['\n'] })))
      return .ok ()
  | .outputs appends word => do
      match ← runner.redirectionName word with
      | some name => redirectToFile [1, 2] (if appends then .append else .write) name
      | none => return .error ()

def redirect (runner : Runner) : List Redirection → Execution Redirected
  | [] => return .ok ()
  | first :: rest => do
      match ← runner.redirectOne first with
      | .ok () => runner.redirect rest
      | .error () => return .error ()

def redirectionStatus : Execution Nat := do
  return if ← isExtended then 1 else 2

def redirecting (runner : Runner) (redirections : List Redirection) (work : Execution Nat) :
    Execution Nat := do
  let descriptors := (← process).descriptors
  ensuring
    (do
      match ← runner.redirect redirections with
      | .ok () => work
      | .error () => redirectionStatus)
    (alter fun process => { process with descriptors })

end Runner

end PartitionBench.Host.Script
