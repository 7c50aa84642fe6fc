import PartitionBench.Host.Pattern
import PartitionBench.Host.Script.Calculation
import PartitionBench.Host.Script.Message

/-!
Contract: the parameters of a script.

Owns:
- the values of parameters, one text or a list;
- giving values to variables and to items of lists;
- the values of calculations, in which variables are read and changed.

Does not own: how calculations are written (`Script.Calculation`).
-/

namespace PartitionBench.Host.Script

open Execution

/-! ## Values -/

/-- The blanks that fields are split at if nothing else is said. -/
def usualSeparators : List Char := [' ', '\t', '\n']

def separators : Execution (List Char) :=
  return (← value? "IFS".toList).getD usualSeparators

/-- The value of a parameter: one text, or a list that is joined when it stands in
quotes or not. -/
inductive Value where
  | one (text : Option (List Char))
  | many (items : List (List Char)) (isJoined : Bool)

/-- The number of the process that a shell runs in, as texts name it. -/
def processNumber : Execution (List Char) :=
  return digitsOfNat (← process).number

/-- The letters of the options that are set, in the order of the dialect. -/
def flagText (process : Process) : List Char :=
  let order : String :=
    match process.dialect with
    | .standard => "ubaCEVvxsnmiIfe"
    | .extended => "abefhikmnprtuvxBCEHPT"
  let isArgument : Bool := process.dialect = .extended && process.textName = some ['-', 'c']
  order.toList.filter process.flags.contains ++ (if isArgument then ['c'] else [])

/-- The value of a variable of the extended dialect that is different at each time. The clock
stands still here. -/
def passingValue? (name : List Char) : Execution (Option (List Char)) := do
  match String.ofList name with
  | "SECONDS" => return some ['0']
  | "RANDOM" | "SRANDOM" => return some (utf8 "4711")
  | "EPOCHSECONDS" => return some (utf8 "1704067200")
  | "EPOCHREALTIME" => return some (utf8 "1704067200.000000")
  | "BASHPID" => return some (← processNumber)
  | _ => return none

def parameterValue (name : List Char) : Execution Value := do
  let process ← process
  match name with
  | ['@'] => return .many process.arguments false
  | ['*'] => return .many process.arguments true
  | ['#'] => return .one (some (digitsOfNat process.arguments.length))
  | ['?'] => return .one (some (digitsOfNat process.status))
  | ['$'] => return .one (some (← processNumber))
  | ['!'] => return .one (process.background.map digitsOfNat)
  | ['-'] => return .one (some (flagText process))
  | ['0'] => return .one (some process.path)
  | _ =>
      match natural? name with
      | some 0 => return .one (some process.path)
      | some number => return .one process.arguments[number - 1]?
      | none =>
          if name = "LINENO".toList ∧ process.dialect = .extended then
            return .one (some (digitsOfNat process.line))
          else if name = "PPID".toList then
            return .one (some (digitsOfNat process.parent))
          else
            match ← value? name, process.dialect with
            | some text, _ => return .one (some text)
            | none, .standard => return .one none
            | none, .extended => return .one (← passingValue? name)

def joinedBySeparator (items : List (List Char)) : Execution (List Char) := do
  match ← value? "IFS".toList with
  | none => return List.intercalate [' '] items
  | some [] => return items.flatten
  | some (c :: _) => return List.intercalate [c] items

def Value.joined (value : Value) : Execution (Option (List Char)) := do
  match value with
  | .one text => return text
  | .many items isJoined =>
      if isJoined then return some (← joinedBySeparator items)
      else return some (List.intercalate [' '] items)

/-- Names that are not kept as variables although they have values. -/
def refusal (name : List Char) : Execution (List Char) := do
  match (← process).dialect with
  | .standard => return name ++ utf8 ": is read only"
  | .extended => return name ++ utf8 ": readonly variable"

/-- Give a value to a variable, unless it is read-only. -/
def assign (name value : List Char) : Execution Unit := do
  match ← heldVariable? name with
  | some held =>
      if held.isReadOnly then giveUp (← refusal name) else setValue name value
  | none => setValue name value

/-! ## Calculations -/

/-- The number that the value of a variable is in the standard dialect. -/
def numberOf? (text : List Char) : Option Int :=
  let trimmed := text.dropWhile fun c => isOfKind "space" c
  let (sign, digits) : Int × List Char :=
    match trimmed with
    | '-' :: rest => (-1, rest)
    | '+' :: rest => (1, rest)
    | rest => (1, rest)
  if trimmed = [] then some 0
  else if (digits.head?.map Text.isDigit).getD false then
    let (value, rest) := Calculation.standardNumber digits
    if rest.all fun c => isOfKind "space" c then some (sign * value) else none
  else none

def calculationFault {α : Type} (written : List Char) (fault : Calculation.Fault) :
    Execution α := do
  match (← process).dialect with
  | .standard => fail (fault.standardText written)
  | .extended => giveUp (fault.extendedText written)

def placeText (number : Int) : List Char := digitsOfInt number

def putItem (items : List (List Char × List Char)) (isTable : Bool) (place value : List Char) :
    List (List Char × List Char) :=
  let later := putEntry place value items
  if isTable then later
  else
    later.mergeSort fun a b =>
      decide (((natural? a.1).getD 0) ≤ ((natural? b.1).getD 0))

def assignItem (name place value : List Char) : Execution Unit := do
  let held := (← heldVariable? name).getD {}
  if held.isReadOnly then giveUp (← refusal name)
  else
    let items := held.items.getD ((held.value.map fun text => (['0'], text)).toList)
    putVariable name
      { held with items := some (putItem items held.isTable place value), value := none }

/-- The value of a calculation. `written` is the text that it is part of. -/
def calculate (written : List Char) : Nat → Calculation → Execution Int
  | 0, _ => calculationFault written .tooDeep
  | fuel + 1, calculation => do
      let valueOf (text : Option (List Char)) (name : List Char) : Execution Int := do
        let process ← process
        match text, process.dialect with
        | none, .standard => return 0
        | none, .extended =>
            if process.flags.contains 'u' then fail (name ++ utf8 ": unbound variable")
            else return 0
        | some text, .standard =>
            match numberOf? text with
            | some value => return value
            | none => calculationFault written (.notNumber text)
        | some text, .extended =>
            match Calculation.ofChars .extended text with
            | .ok inner => calculate text fuel inner
            | .error fault => calculationFault text fault
      let placeIn (name : List Char) (place : Calculation) : Execution (List Char) := do
        let held := (← heldVariable? name).getD {}
        match held.isTable, place with
        | true, .named key => return key
        | _, _ => return placeText (← calculate written fuel place)
      let store (target : Calculation) (value : Int) : Execution Unit := do
        match target with
        | .named name => assign name (digitsOfInt value)
        | .element name place => do
            assignItem name (← placeIn name place) (digitsOfInt value)
        | _ => calculationFault written (.badAssignment written)
      let combine (operator : String) (left right : Int) (rest : List Char) : Execution Int := do
        match Calculation.apply operator left right with
        | .ok value => return value
        | .error (.divisionByZero _) => calculationFault written (.divisionByZero rest)
        | .error fault => calculationFault written fault
      match calculation with
      | .number value => return value
      | .named name => do
          let value ← parameterValue name
          valueOf (← value.joined) name
      | .element name place => do
          let held := (← heldVariable? name).getD {}
          let spot ← placeIn name place
          valueOf (itemAt? (held.items.getD []) spot) name
      | .sign operator operand =>
          return Calculation.applySign operator (← calculate written fuel operand)
      | .binary "&&" left right => do
          if (← calculate written fuel left) = 0 then return 0
          else return Calculation.ofTruth ((← calculate written fuel right) ≠ 0)
      | .binary "||" left right => do
          if (← calculate written fuel left) ≠ 0 then return 1
          else return Calculation.ofTruth ((← calculate written fuel right) ≠ 0)
      | .binary operator left right => do
          let first ← calculate written fuel left
          let second ← calculate written fuel right
          combine operator first second (digitsOfInt second)
      | .choice test yes no => do
          if (← calculate written fuel test) ≠ 0 then calculate written fuel yes
          else calculate written fuel no
      | .assign target operator inner => do
          let value ←
            if operator = "" then calculate written fuel inner
            else do
              let old ← calculate written fuel target
              let amount ← calculate written fuel inner
              combine operator old amount (digitsOfInt amount)
          store target value
          return value
      | .step target amount givesOld => do
          let old ← calculate written fuel target
          let later := Calculation.wrap (old + amount)
          store target later
          return if givesOld then old else later
      | .comma first second => do
          let _ ← calculate written fuel first
          calculate written fuel second

def calculateText (written : List Char) : Execution Int := do
  match Calculation.ofChars (← process).dialect written with
  | .ok calculation => calculate written 200 calculation
  | .error fault => calculationFault written fault

end PartitionBench.Host.Script
