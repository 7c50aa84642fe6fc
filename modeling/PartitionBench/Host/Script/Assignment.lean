import PartitionBench.Host.Script.Phrase.Simple
import PartitionBench.Host.Script.Runner

/-!
Contract: assignments.

Owns: giving values to variables and items, lists of items, and assignments that hold
during one command only.

Does not own: variables (`Host.Session`).
-/

namespace PartitionBench.Host.Script

open Execution

namespace Runner

/-- The key that stands in front of an item of a list, and the value. -/
def itemKey? (word : Word) : Option (Word × Word) :=
  match word with
  | .plain ('[' :: text) :: rest =>
      match cutPlace (.plain text :: rest) with
      | some (place, .plain ('=' :: value) :: others) => some (place, .plain value :: others)
      | _ => none
  | _ => none

def keyOf (runner : Runner) (name : List Char) (place : Word) : Execution (List Char) := do
  let text ← expandText runner.substituter place
  let held := (← heldVariable? name).getD {}
  if held.isTable then return text
  else
    let number ← calculateText text
    let count : Int := (((held.items.getD []).getLast?.bind fun entry =>
      natural? entry.1).getD 0 : Nat)
    return placeText (if number < 0 then count + 1 + number else number)

def assignItems (runner : Runner) (name : List Char) : Nat → List Word → Execution Unit
  | _, [] => return ()
  | next, word :: rest => do
      match itemKey? word with
      | some (place, value) => do
          let key ← runner.keyOf name place
          assignItem name key (← expandText runner.substituter value)
          runner.assignItems name ((natural? key).getD next + 1) rest
      | none => do
          let fields ← expandFields runner.substituter word
          for entry in fields.zipIdx do
            assignItem name (digitsOfNat (next + entry.2)) entry.1
          runner.assignItems name (next + fields.length) rest

/-- The text that a variable gets, which may be calculated. -/
def valueFor (name : List Char) (adds : Bool) (text : List Char) : Execution (List Char) := do
  let held := (← heldVariable? name).getD {}
  let old := held.text?.getD []
  if held.isInteger then
    let value ← calculateText text
    let before ← if adds then calculateText old else pure 0
    return digitsOfInt (Calculation.wrap (before + value))
  else return if adds then old ++ text else text

/-- Do an assignment, and give the name and the text for the trace. -/
def assignOne (runner : Runner) (assignment : Assignment) :
    Execution (List Char × List Char) := do
  match assignment with
  | .value name adds word => do
      let text ← expandValue runner.substituter word
      assign name (← valueFor name adds text)
      return (name, text)
  | .element name place adds word => do
      let text ← expandValue runner.substituter word
      let key ← runner.keyOf name place
      let held := (← heldVariable? name).getD {}
      let old := (itemAt? (held.items.getD []) key).getD []
      assignItem name key (if adds then old ++ text else text)
      return (name ++ '[' :: key ++ [']'], text)
  | .items name adds words => do
      let held := (← heldVariable? name).getD {}
      let old := held.items.getD ((held.value.map fun text => (['0'], text)).toList)
      if held.isReadOnly then giveUp (← refusal name)
      else do
        putVariable name { held with value := none, items := some (if adds then old else []) }
        let start := ((old.getLast?.bind fun entry => natural? entry.1).map (· + 1)).getD 0
        runner.assignItems name (if adds then start else 0) words
        return (name, [])

def assignedName : Assignment → List Char
  | .value name _ _ | .element name _ _ _ | .items name _ _ => name

def assignAll (runner : Runner) : List Assignment → Execution (List (List Char × List Char))
  | [] => return []
  | first :: rest => do
      let done ← runner.assignOne first
      return done :: (← runner.assignAll rest)

/-- Do assignments for a command. In the extended dialect those that are refused are left
out. -/
def assignLeniently (runner : Runner) : List Assignment →
    Execution (List (List Char × List Char))
  | [] => return []
  | first :: rest => do
      let held := (← heldVariable? (assignedName first)).getD {}
      if held.isReadOnly ∧ (← isExtended) then do
        reportUnnamed (← refusal (assignedName first))
        runner.assignLeniently rest
      else
        let done ← runner.assignOne first
        return done :: (← runner.assignLeniently rest)

def assigning (runner : Runner) (assignments : List Assignment)
    (work : List (List Char × List Char) → Execution Nat) : Execution Nat := do
  let names := assignments.map assignedName
  let before ← names.mapM fun name => do return (name, ← heldVariable? name)
  ensuring
    (do
      let done ← runner.assignLeniently assignments
      for entry in done do
        Builtin.mark entry.1 fun held => { held with isExported := true }
      work done)
    (do
      for entry in before.reverse do
        match entry.2 with
        | some held => putVariable entry.1 held
        | none => dropVariable entry.1)

end Runner

end PartitionBench.Host.Script
