import PartitionBench.Host.Script.Builtin.Output
import PartitionBench.Host.Script.Field
import PartitionBench.Host.Script.Word

/-!
Contract: commands of the shell that change variables.

Owns: marking, declaring and removing variables, variables of functions, and listings of
variables.

Does not own: assignments in front of commands (`Script.Assignment`).
-/

namespace PartitionBench.Host.Script.Builtin

open Execution

/-- An argument as a name and the value that is given to it. -/
def splitAssignment (argument : List Char) : List Char × Option (List Char) :=
  let name := argument.takeWhile (· ≠ '=')
  match argument.drop name.length with
  | _ :: value => (name, some value)
  | [] => (name, none)

def singleQuoted (text : List Char) : List Char :=
  '\'' :: (text.flatMap fun c =>
    if c = '\'' then ['\'', '"', '\'', '"', '\''] else [c]) ++ ['\'']

def doubleQuoted (text : List Char) : List Char :=
  '"' :: (text.flatMap fun c =>
    if c = '"' ∨ c = '\\' ∨ c = '$' ∨ c = backquote then ['\\', c] else [c]) ++ ['"']

/-- Refuse a word that is no name. -/
def refuseName (argument name : List Char) : Execution Nat :=
  refuseOrFail (name ++ utf8 ": bad variable name")
    (utf8 (quotedName (textOf argument)) ++ utf8 ": not a valid identifier") 1

/-- Do something for each argument; the answer is the greatest of the statuses. -/
def forEach (work : List Char → Execution Nat) : List (List Char) → Execution Nat
  | [] => return 0
  | argument :: rest => do
      let first ← work argument
      return max first (← forEach work rest)

def mark (name : List Char) (change : Variable → Variable) : Execution Unit := do
  putVariable name (change ((← heldVariable? name).getD {}))

def listing (standardWord extendedLetters : String) (isListed : Variable → Bool) :
    Execution Nat := do
  let process ← process
  let listed := (process.bindings.filter fun entry => isListed entry.2).mergeSort fun a b =>
    isBefore a.1 b.1
  let lines := listed.map fun entry =>
    match process.dialect with
    | .standard =>
        utf8 standardWord ++ ' ' :: entry.1
          ++ (entry.2.value.map fun value => '=' :: singleQuoted value).getD []
    | .extended =>
        utf8 ("declare " ++ extendedLetters ++ " ") ++ entry.1
          ++ (entry.2.value.map fun value => '=' :: doubleQuoted value).getD []
  print (ofLines lines) 0

def marking (standardWord extendedLetters : String) (isListed : Variable → Bool)
    (change : Variable → Variable) : Builtin := optioned fun choices _ operands => do
  match operands with
  | [] => listing standardWord extendedLetters isListed
  | _ =>
      let takesBack := choices.has 'n'
      forEach
        (fun argument => do
          let (name, value) := splitAssignment argument
          if choices.has 'f' then
            if (← process).functions.any fun entry => entry.1 = argument then return 0
            else refuse (argument ++ utf8 ": not a function") 1
          else if ¬ isName name then refuseName argument name
          else do
            match value with
            | some text => assign name text
            | none => pure ()
            mark name (if takesBack then fun held => { held with isExported := false } else change)
            return 0)
        operands

def exportVariables : Builtin :=
  marking "export" "-x" Variable.isExported fun held => { held with isExported := true }

/-- Make variables read-only. -/
def protectVariables : Builtin :=
  marking "readonly" "-r" Variable.isReadOnly fun held => { held with isReadOnly := true }

def unset : Builtin := optioned fun choices _ operands => do
  let isFunction := choices.has 'f'
  forEach
    (fun name => do
      let held ← heldVariable? name
      let place := (name.dropWhile (· ≠ '[')).drop 1
      let list := name.takeWhile (· ≠ '[')
      if isFunction then
        alter fun process =>
          { process with functions := process.functions.filter fun entry => entry.1 ≠ name }
        return 0
      else if (← isExtended) ∧ place ≠ [] ∧ isName list then do
        mark list fun held =>
          { held with
            items := held.items.map fun items =>
              items.filter fun item => item.1 ≠ place.dropLast }
        return 0
      else if ¬ isName name then
        match (← process).dialect with
        | .standard => do
            report (name ++ utf8 ": bad variable name")
            throw (.fails 2)
        | .extended => return 0
      else if (held.map Variable.isReadOnly).getD false then
        refuseOrFail (name ++ utf8 ": is read only")
          (name ++ utf8 ": cannot unset: readonly variable") 1
      else if held.isNone then
        if ← isExtended then
          alter fun process =>
            { process with functions := process.functions.filter fun entry => entry.1 ≠ name }
          return 0
        else return 0
      else do
        dropVariable name
        return 0)
    operands

def keepForEnd (name : List Char) : Execution Unit := do
  let held ← heldVariable? name
  alter fun process =>
    match process.frames with
    | frame :: rest =>
        if frame.any fun entry => entry.1 = name then process
        else { process with frames := ((name, held) :: frame) :: rest }
    | [] => process

def declarationOf (name : List Char) (held : Variable) : List Char :=
  let letters : List Char :=
    (if held.isTable then ['A'] else if held.items.isSome then ['a'] else [])
      ++ (if held.isInteger then ['i'] else []) ++ (if held.isReadOnly then ['r'] else [])
      ++ (if held.isExported then ['x'] else [])
  let value : List Char :=
    match held.items, held.value with
    | some items, _ =>
        let shown := items.map fun item => '[' :: item.1 ++ ']' :: '=' :: doubleQuoted item.2
        '=' :: '(' :: List.intercalate [' '] shown ++ (if held.isTable then [' ', ')'] else [')'])
    | none, some text => '=' :: doubleQuoted text
    | none, none => []
  utf8 "declare -" ++ (if letters.isEmpty then ['-'] else letters) ++ ' ' :: name ++ value

def printDeclarations : List (List Char) → Execution Nat :=
  forEach fun name => do
    match ← heldVariable? name with
    | some held => print (declarationOf name held ++ ['\n']) 0
    | none => refuse (name ++ utf8 ": not found") 1

/-- Declare variables. Those of a function are kept for its end. -/
def declareEach (isLocal : Bool) (choices : Choices) : List (List Char) → Execution Nat :=
  forEach
    (fun argument => do
      let (name, value) := splitAssignment argument
      let adds := name.getLast? = some '+'
      let target := if adds then name.dropLast else name
      if ¬ isName target then refuseName argument name
      else if ((← heldVariable? target).map Variable.isReadOnly).getD false ∧ value.isSome
          ∧ (← isExtended) then
        refuse (target ++ utf8 ": readonly variable") 1
      else do
        let inFunction := 0 < (← process).functionDepth
        if (isLocal || inFunction) && !choices.has 'g' then
          let before ← heldVariable? target
          keepForEnd target
          let isFresh := isLocal || inFunction
          if isFresh && (← isExtended) && !adds then
            putVariable target { isExported := (before.map Variable.isExported).getD false }
        mark target fun held =>
          { held with
            isTable := held.isTable || choices.has 'A'
            isInteger := held.isInteger || choices.has 'i'
            isExported := held.isExported || choices.has 'x'
            items :=
              if (choices.has 'a' || choices.has 'A') && held.items.isNone then some []
              else held.items }
        match value with
        | some text => do
            let old := (← value? target).getD []
            if choices.has 'i' then
              assign target (digitsOfInt (← calculateText text))
            else assign target (if adds then old ++ text else text)
        | none =>
            if (← heldVariable? target).isNone then putVariable target {}
        mark target fun held => { held with isReadOnly := held.isReadOnly || choices.has 'r' }
        return 0)

def declare : Builtin := optioned fun choices _ operands => do
  if choices.has 'p' then printDeclarations operands else declareEach false choices operands

def localVariables : Builtin := fun name arguments => do
  if (← process).functionDepth = 0 then
    refuseOrFail (utf8 "not in a function") (utf8 "can only be used in a function") 1
  else optioned (fun choices _ operands => declareEach true choices operands) name arguments

def calculateAll : Builtin := fun _ arguments => do
  match arguments with
  | [] => refuse (utf8 "expression expected") 1
  | _ => do
      let values ← arguments.mapM calculateText
      return if values.getLast? = some 0 then 1 else 0

end PartitionBench.Host.Script.Builtin
