import PartitionBench.Host.Utility.Files

/-!
Contract: the program that changes who may execute files.

Owns: modes as they are written, and changing them.

Does not own: the files themselves (`Host.Machine`).
-/

namespace PartitionBench.Host.Utility

open Execution

/-- A change of who may execute a file, for its owner, its group and others. -/
abbrev ModeChange := Bool → Bool

def octalMode? (mode : List Char) : Option ModeChange :=
  let isDigit (c : Char) : Bool := '0' ≤ c && c ≤ '7'
  let digits := mode.dropWhile (· = '0')
  if mode ≠ [] ∧ mode.all isDigit ∧ digits.length ≤ 4 then
    some fun _ => (digits.reverse.take 3).any fun digit => (digit.toNat - 0x30) % 2 = 1
  else none

/-- A change of modes as letters write it: whose, how, and what. -/
def clauseMode? (clause : List Char) : Option ModeChange :=
  let whose := clause.takeWhile fun c => "ugoa".toList.contains c
  let rest := clause.drop whose.length
  match rest with
  | sign :: letters =>
      if ¬ "+-=".toList.contains sign then none
      else
        let isKnown : Bool :=
          letters.all (fun c => "rwxXst".toList.contains c) || letters = ['u'] || letters = ['g']
            || letters = ['o']
        if ¬ isKnown then none
        else
          let hasMark : Bool := letters.contains 'x'
          some fun before =>
            let named : Bool :=
              hasMark || (letters.contains 'X' && before)
                || (letters.any (fun c => "ugo".toList.contains c) && before)
            if sign = '+' then before || named
            else if sign = '-' then
              if named && (whose = [] || whose.contains 'a') then false else before
            else if whose = [] ∨ whose.contains 'a' then named
            else named || before
  | [] => none

def modeChange? (mode : List Char) : Option ModeChange :=
  match octalMode? mode with
  | some change => some change
  | none =>
      ((Text.pieces ',' mode).mapM clauseMode?).map fun changes before =>
        changes.foldl (fun value change => change value) before

def changeOne (change : ModeChange) (location : Location) : Execution Unit :=
  alterMachine fun machine =>
    match machine.node? location with
    | some (.file _ isExecutable) =>
        if (hostNode? location).isSome then machine
        else machine.putFile location (machine.bytesAt location) (change isExecutable)
    | _ => machine

/-- Options in front of a mode, and what follows them. A mode may begin as an option does. -/
def modeArguments (arguments : List (List Char)) : List (List Char) × List (List Char) :=
  let isOption (argument : List Char) : Bool :=
    match argument with
    | '-' :: '-' :: _ => true
    | '-' :: c :: letters => (c :: letters).all fun d => "Rvcf".toList.contains d
    | _ => false
  (arguments.filter isOption, arguments.filter fun argument => !isOption argument)

def changeMode : Utility := fun name arguments => do
  let (options, operands) := modeArguments arguments
  let isDeep : Bool := options.any fun option =>
    option = "--recursive".toList || (option.take 2 ≠ ['-', '-'] && option.contains 'R')
  match operands with
  | [] => missingOperand name
  | [mode] => do
      complain name ("missing operand after ".toList ++ shown mode)
      hint name
      return 1
  | mode :: paths =>
      match modeChange? mode with
      | none => do
          complain name ("invalid mode: ".toList ++ shown mode)
          hint name
          return 1
      | some change =>
          forEach
            (fun path => do
              match ← look path with
              | .error kind => refuse name "cannot access" path kind
              | .ok (location, _) => do
                  changeOne change location
                  if isDeep then
                    for entry in (← machine).files.nodes do
                      if Machine.isWithin entry.1 location then changeOne change entry.1
                  return 0)
            paths

end PartitionBench.Host.Utility
