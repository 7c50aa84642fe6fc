import PartitionBench.Host.Escape
import PartitionBench.Host.Utility.Text
import PartitionBench.Text.Digits

/-!
Contract: programs that take out or replace parts of lines and single characters.

Owns:
- lists of places in a line, and the fields or characters at them;
- sets of characters as they are written, and what one set makes of another.

Does not own: whole lines (`Utility.Text`) and expressions (`Utility.Edit`).
-/

namespace PartitionBench.Host.Utility

open Execution

/-! ## Parts of lines -/

/-- Places in a line, from one to another. -/
abbrev Ranges := List (Nat × Option Nat)

/-- What is wrong with a list of places. -/
inductive RangeFault where
  | zero
  | decreasing
  | noEnd
  | notNumber (text : List Char)

/-- The message on a fault of a list of places; fields and characters are not called alike. -/
def RangeFault.text (ofFields : Bool) : RangeFault → List Char
  | .zero =>
      if ofFields then "fields are numbered from 1".toList
      else "byte/character positions are numbered from 1".toList
  | .decreasing => "invalid decreasing range".toList
  | .noEnd => "invalid range with no endpoint: -".toList
  | .notNumber text =>
      (if ofFields then "invalid field value " else "invalid byte/character position ").toList
        ++ shown text

def rangeOf (piece : List Char) : Except RangeFault (Nat × Option Nat) :=
  let low := piece.takeWhile (· ≠ '-')
  let high := (piece.drop low.length).drop 1
  let isRange : Bool := piece.contains '-'
  let wrong? : Option (List Char) :=
    [low, high].find? fun part => !part.all Char.isDigit
  match wrong?, natural? low, natural? high with
  | some _, _, _ => .error (.notNumber (piece.dropWhile fun c => c.isDigit || c = '-'))
  | none, some 0, _ => .error .zero
  | none, first, last =>
      match isRange, first, last with
      | false, some number, _ => .ok (number, some number)
      | false, none, _ => .error .zero
      | true, none, none => .error .noEnd
      | true, none, some 0 => .error .decreasing
      | true, none, some finish => .ok (1, some finish)
      | true, some start, none => .ok (start, none)
      | true, some start, some finish =>
          if finish < start then .error .decreasing else .ok (start, some finish)

def rangesOf (value : List Char) : Except RangeFault Ranges :=
  (Text.pieces ',' (value.map fun c => if c = ' ' ∨ c = '\t' then ',' else c)).mapM rangeOf

def inRanges (ranges : Ranges) (place : Nat) : Bool :=
  ranges.any fun range =>
    decide (range.1 ≤ place) && ((range.2.map fun last => decide (place ≤ last)).getD true)

def pick {α : Type} (isChosen : Nat → Bool) (items : List α) : List α :=
  (items.zipIdx.filter fun entry => isChosen (entry.2 + 1)).map (·.1)

def pickRuns (isChosen : Nat → Bool) (separator : List Char) :
    (place : Nat) → (isOpen wasChosen : Bool) → List Char → List Char
  | _, _, _, [] => []
  | place, isOpen, wasChosen, c :: rest =>
      if isChosen place then
        (if isOpen && !wasChosen then separator else [])
          ++ c :: pickRuns isChosen separator (place + 1) true true rest
      else pickRuns isChosen separator (place + 1) isOpen false rest

def refuseCall (name : List Char) (message : List Char) : Execution Nat := do
  complain name message
  hint name
  return 1

def cut : Utility := fun name arguments =>
  withArguments
    { flags := "snzC", valued := "dfcbO"
      long := [("delimiter", 'd'), ("fields", 'f'), ("characters", 'c'), ("bytes", 'b'),
        ("only-delimited", 's'), ("complement", 'C'), ("output-delimiter", 'O')] }
    name arguments 1 fun options operands => do
      let lists := options.filter fun given => "bcf".toList.contains given.1
      match lists with
      | [] => refuseCall name "you must specify a list of bytes, characters, or fields".toList
      | _ :: _ :: _ => refuseCall name "only one list may be specified".toList
      | [(kind, value)] => do
          let ofFields := kind = 'f'
          let delimiter := valueOf? options 'd'
          match rangesOf (value.getD []), delimiter with
          | _, some (_ :: _ :: _) =>
              refuseCall name "the delimiter must be a single character".toList
          | .error fault, _ => refuseCall name (fault.text ofFields)
          | .ok ranges, _ =>
              if ¬ ofFields ∧ delimiter.isSome then
                refuseCall name
                  "an input delimiter may be specified only when operating on fields".toList
              else if ¬ ofFields ∧ has options 's' then
                refuseCall name
                  ("suppressing non-delimited lines makes sense\n\tonly when operating on "
                    ++ "fields").toList
              else do
                let (read, isGood) ← readOperands name usualReport (orInput operands)
                let lines := (linesOf (read.map (·.2)).flatten).1
                let isChosen (place : Nat) : Bool := inRanges ranges place != has options 'C'
                let mark := ((delimiter.getD ['\t']).head?).getD (Char.ofNat 0)
                let separator := (valueOf? options 'O').getD (if ofFields then [mark] else [])
                let cutLine (line : List Char) : Option (List Char) :=
                  if ¬ ofFields then some (pickRuns isChosen separator 1 false false line)
                  else if line.contains mark then
                    some (List.intercalate separator (pick isChosen (Text.pieces mark line)))
                  else if has options 's' then none
                  else some line
                print (ofLines (lines.filterMap cutLine)) (if isGood then 0 else 1)

/-! ## Single characters -/

/-- An element of a set of characters: characters, or one that fills up to a length. -/
inductive SetPart where
  | characters (characters : List Char)
  | filling (c : Char)

inductive SetFault where
  | reversed (text : List Char)
  | unknownKind (name : List Char)

def SetFault.text : SetFault → List Char
  | .reversed text =>
      "range-endpoints of ".toList ++ shown text
        ++ " are in reverse collating sequence order".toList
  | .unknownKind name => "invalid character class ".toList ++ shown name

/-- The character that a text begins with, perhaps behind a backslash, and what follows
it. -/
def setCharacter? (text : List Char) : Option (Char × List Char) :=
  match text with
  | '\\' :: rest =>
      match escapedAt EscapeRules.standardFormat rest with
      | .characters [c] behind => some (c, behind)
      | .characters _ behind =>
          match rest with
          | c :: _ => some (c, behind)
          | [] => some ('\\', [])
      | .finish => none
  | c :: rest => some (c, rest)
  | [] => none

def charactersUpTo (first last : Char) : List Char :=
  (List.range (last.toNat + 1 - first.toNat)).map fun offset => Char.ofNat (first.toNat + offset)

def allCharacters : List Char := (List.range 256).map Char.ofNat

/-- A repetition in brackets, behind the opening bracket: a character, how often it comes,
and what follows. -/
def repeatedCharacter? (text : List Char) : Option (SetPart × List Char) :=
  match setCharacter? text with
  | some (c, '*' :: behind) =>
      let digits := behind.takeWhile Char.isDigit
      match behind.drop digits.length with
      | ']' :: others =>
          let base := if digits.head? = some '0' then 8 else 10
          let count := Text.valueFrom base 0 digits
          if count = 0 then some (.filling c, others)
          else some (.characters (List.replicate count c), others)
      | _ => none
  | _ => none

def setParts : Nat → List Char → Except SetFault (List SetPart)
  | 0, _ => .ok []
  | _ + 1, [] => .ok []
  | fuel + 1, text =>
      let plain : Except SetFault (List SetPart) :=
        match setCharacter? text with
        | none => .ok []
        | some (c, '-' :: behind) =>
            match setCharacter? behind with
            | some (d, others) =>
                if d < c then
                  .error (.reversed (text.take (text.length - others.length)))
                else (setParts fuel others).map (SetPart.characters (charactersUpTo c d) :: ·)
            | none => (setParts fuel ('-' :: behind)).map (SetPart.characters [c] :: ·)
        | some (c, behind) => (setParts fuel behind).map (SetPart.characters [c] :: ·)
      match text with
      | '[' :: ':' :: rest =>
          let name := rest.takeWhile (· ≠ ':')
          match rest.drop name.length with
          | ':' :: ']' :: behind =>
              if kindNames.contains (String.ofList name) then
                let members := allCharacters.filter (isOfKind (String.ofList name))
                (setParts fuel behind).map (SetPart.characters members :: ·)
              else .error (.unknownKind name)
          | _ => plain
      | '[' :: '=' :: c :: '=' :: ']' :: behind =>
          (setParts fuel behind).map (SetPart.characters [c] :: ·)
      | '[' :: rest =>
          match repeatedCharacter? rest with
          | some (part, behind) => (setParts fuel behind).map (part :: ·)
          | none => plain
      | _ => plain

def charactersOf (length : Nat) (parts : List SetPart) : List Char :=
  let fixed := (parts.map fun part =>
    match part with
    | .characters characters => characters.length
    | .filling _ => 0).foldl (· + ·) 0
  parts.flatMap fun part =>
    match part with
    | .characters characters => characters
    | .filling c => List.replicate (length - fixed) c

/-- A text without the repetitions of characters that satisfy a test. -/
def squeezeRuns (test : Char → Bool) : List Char → List Char
  | c :: d :: rest =>
      if c = d ∧ test c then squeezeRuns test (d :: rest) else c :: squeezeRuns test (d :: rest)
  | text => text

/-- The character that another one is replaced by: the one at the same place of the second
set, or its last one unless the first set is cut to its length. -/
def replacementOf (sources targets : List Char) (cutsFirst : Bool) (c : Char) : Char :=
  let known := if cutsFirst then sources.take targets.length else sources
  match known.reverse.idxOf? c with
  | some fromEnd =>
      match targets[known.length - 1 - fromEnd]? with
      | some d => d
      | none => (targets.getLast?).getD c
  | none => c

def setHint (deletes squeezes : Bool) : String :=
  if deletes && squeezes then
    "Two strings must be given when both deleting and squeezing repeats.\n"
  else "Two strings must be given when translating.\n"

/-- Replace or remove single characters of the input. -/
def translate : Utility := fun name arguments =>
  withArguments
    { flags := "dscCt", stopsAtOperand := true
      long := [("delete", 'd'), ("squeeze-repeats", 's'), ("complement", 'c'),
        ("truncate-set1", 't')] } name arguments 1
    fun options operands => do
      let deletes := has options 'd'
      let squeezes := has options 's'
      let least := if deletes != squeezes then 1 else 2
      let most := if deletes && !squeezes then 1 else 2
      if operands.isEmpty then missingOperand name
      else if operands.length < least then do
        complain name ("missing operand after ".toList ++ shown (operands.headD []))
        warn (setHint deletes squeezes).toList
        hint name
        return 1
      else if most < operands.length then do
        complain name ("extra operand ".toList ++ shown (operands.getD most []))
        if operands.length = 2 then
          warn ("Only one string may be given when deleting without squeezing "
            ++ "repeats.\n").toList
        hint name
        return 1
      else
        match operands.mapM fun operand => setParts (operand.length + 1) operand with
        | .error fault => do
            complain name fault.text
            return 1
        | .ok sets => do
            let named := charactersOf 0 (sets.headD [])
            let sources :=
              if has options 'c' || has options 'C' then
                allCharacters.filter fun c => !named.contains c
              else named
            let targets := charactersOf sources.length (sets.getD 1 [])
            if sets.length = 2 ∧ ¬ deletes ∧ targets = [] ∧ ¬ has options 't' then do
              complain name "when not truncating set1, string2 must be non-empty".toList
              return 1
            else do
              let text ← readAll 0
              let changed :=
                if deletes then text.filter fun c => !sources.contains c
                else if sets.length = 2 then
                  text.map (replacementOf sources targets (has options 't'))
                else text
              let repeated := if sets.length = 2 then targets else sources
              print (if squeezes then squeezeRuns repeated.contains changed else changed) 0

end PartitionBench.Host.Utility
