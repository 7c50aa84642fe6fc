import PartitionBench.Host.Expression
import PartitionBench.Host.Script.Simple

/-!
Contract: compound commands.

Owns: loops, choices by patterns, calculations as commands, and conditions.

Does not own: pipelines and lists (`Script.Execution`).
-/

namespace PartitionBench.Host.Script

open Execution

namespace Runner

/-- Repeat rounds while they go on. The answer is the status of the last one. -/
def rounds (round : Nat → Execution (Bool × Nat)) : Nat → Nat → Execution Nat
  | 0, _ => throw (.dies 9)
  | bound + 1, status => do
      let (goesOn, later) ← round status
      if goesOn then rounds round bound later else return later

def maxRounds : Nat := 1000000

/-- Do the body of a loop. The answer tells whether the loop goes on. -/
def inLoop (body : Execution Nat) : Execution (Bool × Nat) := do
  let outer := (← process).loopDepth
  alter fun process => { process with loopDepth := outer + 1 }
  let result ← attempt body
  alter fun process => { process with loopDepth := outer }
  match result with
  | .ok status => return (true, status)
  | .error (.breaks levels) =>
    if levels ≤ 1 then return (false, 0) else throw (.breaks (levels - 1))
  | .error (.continues levels) =>
      if levels ≤ 1 then return (true, 0) else throw (.continues (levels - 1))
  | .error departure => throw departure

def loop (runner : Runner) (isUntil : Bool) (test body : List Command) (isTested : Bool) :
    Execution Nat :=
  rounds
    (fun status => do
      let (goesOn, found) ← inLoop do
        let result ← runner.sequence true test
        return if (result = 0) != isUntil then 1 else 0
      if ¬ goesOn then return (false, 0)
      else if found = 0 then return (false, status)
      else inLoop (runner.sequence isTested body))
    maxRounds 0

/-- Run the body of an iteration for each value. `shown` is how the iteration is traced. -/
def iterate (runner : Runner) (line : Nat) (name shown : List Char) (values : List (List Char))
    (body : List Command) (isTested : Bool) : Nat → Execution Nat
  | status => do
      match values with
      | [] => return status
      | value :: rest => do
          atLine line
          traceStart shown
          match ← attempt (assign name value) with
          | .error (.abandons refused) => return refused
          | .error departure => throw departure
          | .ok () => do
              let (goesOn, later) ← inLoop (runner.sequence isTested body)
              if goesOn then runner.iterate line name shown rest body isTested later
              else return later
  termination_by values.length

/-- The values of an iteration: what its words come to, or the arguments. -/
def iterationValues (runner : Runner) (words : Option (List Word)) :
    Execution (List (List Char)) := do
  match words with
  | none => return (← process).arguments
  | some words => do
      let fields ← words.mapM (expandFields runner.substituter)
      return fields.flatten

def calculated (runner : Runner) (expression : Word) : Execution Int := do
  let text ← expandText runner.substituter expression
  traceStart (utf8 "(( " ++ text ++ utf8 " ))")
  calculateText text

def count (runner : Runner) (start test step : Word) (body : List Command) (isTested : Bool) :
    Execution Nat := do
  let _ ← runner.calculated start
  let blank (word : Word) : Bool :=
    ((word.fixed?.map fun entry => entry.1.all fun c => c = ' ')).getD false
  rounds
    (fun status => do
      let value ← if blank test then pure 1 else runner.calculated test
      if value = 0 then return (false, status)
      else do
        let (goesOn, later) ← inLoop (runner.sequence isTested body)
        if goesOn then
          let _ ← runner.calculated step
          return (true, later)
        else return (false, later))
    maxRounds 0

/-- Run the first branch with a matching pattern, and those that it falls through to. -/
def select (runner : Runner) (text : List Char) (isTested : Bool) :
    (falls : Bool) → List Branch → Execution Nat
  | _, [] => return 0
  | falls, .mk patterns body fallsThrough :: rest => do
      let isMatch ← if falls then pure true else patterns.anyM fun pattern => do
        return Pattern.covers (← expandPattern runner.substituter pattern) text
      if isMatch then
        let status ← runner.sequence isTested body
        if fallsThrough ∧ ¬ rest.isEmpty then runner.select text isTested true rest
        else return status
      else runner.select text isTested false rest

/-- The characters of an expression, with a backslash before those that are quoted. -/
def expressionChars (marks : List (Char × Bool)) : List Char :=
  marks.flatMap fun entry =>
    if entry.2 ∧ ".[]*^$\\+?(){}|".toList.contains entry.1 then ['\\', entry.1] else [entry.1]

def matchExpression (runner : Runner) (value : List Char) (word : Word) : Execution Bool := do
  let marks := patternOfMarks (← expandWord runner.substituter .text word)
  match Expression.ofChars { style := .extended, isStrict := true } (expressionChars marks) with
  | .error _ => throw (.abandons 2)
  | .ok expression =>
      match expression.find? {} value with
      | none => return false
      | some found => do
          let last := (found.groups.map (·.1)).foldl max 0
          let items := (List.range (last + 1)).map fun number =>
            (digitsOfNat number, found.group number)
          putVariable "BASH_REMATCH".toList { items := some items }
          return true

def holds (runner : Runner) : Nat → Condition → Execution Bool
  | 0, _ => return false
  | fuel + 1, condition => do
      let text := expandText runner.substituter
      let settled (result : Except Test.Fault Bool) : Execution Bool := do
        match result with
        | .ok value => return value
        | .error fault => do
            report (fault.text .extended)
            return false
      match condition with
      | .holds word => return (← text word) ≠ []
      | .negation inner => return !(← runner.holds fuel inner)
      | .both left right => do
          if ← runner.holds fuel left then runner.holds fuel right else return false
      | .either left right => do
          if ← runner.holds fuel left then return true else runner.holds fuel right
      | .unary test word => do
          let operand ← text word
          settled (Test.holdsUnary (← get) test operand)
      | .binary test left right => do
          let value ← text left
          match String.ofList test with
          | "=" | "==" => return Pattern.covers (← expandPattern runner.substituter right) value
          | "!=" => return !Pattern.covers (← expandPattern runner.substituter right) value
          | "=~" => runner.matchExpression value right
          | "-eq" | "-ne" | "-lt" | "-le" | "-gt" | "-ge" => do
              let first ← calculateText value
              let second ← calculateText (← text right)
              settled (Test.holdsBinary (← get) test (digitsOfInt first) (digitsOfInt second))
          | _ => do
              let other ← text right
              settled (Test.holdsBinary (← get) test value other)

end Runner

end PartitionBench.Host.Script
