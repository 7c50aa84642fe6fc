import PartitionBench.Host.Utility.Edit

/-!
Contract: the editing of lines.

Owns: the lines that commands are for, and carrying out commands line by line.

Does not own: how commands are written (`Utility.Edit`), and where lines come from and
results go (`Utility.Editor`).
-/

namespace PartitionBench.Host.Utility.Edit

open Execution

/-- Something that is to be written behind a line. -/
inductive Appended where
  | text (text : List Char)
  | file (name : List Char)

structure Editing where
  lines : List (List Char)
  isEnded : Bool
  number : Nat
  pattern : List Char
  hold : List Char := []
  output : List Char := []
  /-- The last line that was written has no end yet. -/
  owesEnd : Bool := false
  appended : List Appended := []
  hasReplaced : Bool := false
  /-- The ranges that have begun, by the places of their commands, with the line on which each
  ends if it is known. -/
  ranges : List (Nat × Option Nat) := []
  lastExpression : Option Expression := none
  /-- The expression used last is asked for before there is one. -/
  lacksExpression : Bool := false
  /-- The files that are written to, with what is written. -/
  files : List (List Char × List Char) := []
  lineEnd : Char := '\n'

def Editing.isLast (editing : Editing) : Bool := editing.lines.isEmpty

def Editing.put (editing : Editing) (text : List Char) : Editing :=
  let start := if editing.owesEnd then editing.output ++ [editing.lineEnd] else editing.output
  { editing with output := start ++ text, owesEnd := false }

def Editing.write (editing : Editing) (text : List Char) (endsLine : Bool) : Editing :=
  if endsLine then editing.put (text ++ [editing.lineEnd])
  else { editing.put text with owesEnd := true }

def Editing.writePattern (editing : Editing) : Editing :=
  editing.write editing.pattern (!editing.isLast || editing.isEnded)

def Editing.writeTo (editing : Editing) (file text : List Char) : Editing :=
  if file = "/dev/stdout".toList then editing.write text true
  else
    let before := (itemAt? editing.files file).getD []
    { editing with files := putEntry file (before ++ text ++ [editing.lineEnd]) editing.files }

/-! ## Lines that are meant -/

def Editing.meant (editing : Editing) (expression : Option Expression) :
    Option Expression × Editing :=
  match expression with
  | some given => (some given, { editing with lastExpression := some given })
  | none =>
      (editing.lastExpression,
        { editing with lacksExpression := editing.lastExpression.isNone })

def Editing.isAt (editing : Editing) (address : Address) : Bool × Editing :=
  match address with
  | .line number => (editing.number = number, editing)
  | .last => (editing.isLast, editing)
  | .steps first step =>
      let isMeant : Bool :=
        if step = 0 then editing.number = first
        else decide (first ≤ editing.number) && (editing.number - first) % step = 0
      (isMeant, editing)
  | .matching expression ignoresCase =>
      let (meant, later) := editing.meant expression
      match meant with
      | some given => ((given.find? { ignoresCase } editing.pattern).isSome, later)
      | none => (false, later)

/-- Begin a range on this line, if it goes on behind it. -/
def Editing.beginRange (editing : Editing) (place : Nat) (last : RangeEnd) : Editing :=
  let upTo (number : Nat) : Editing :=
    if number ≤ editing.number then editing
    else { editing with ranges := (place, some number) :: editing.ranges }
  match last with
  | .address (.line number) => upTo number
  | .address _ => { editing with ranges := (place, none) :: editing.ranges }
  | .count lines => upTo (editing.number + lines)
  | .multiple number =>
      if number = 0 then editing
      else upTo ((editing.number + number - 1) / number * number)

def Editing.continueRange (editing : Editing) (place : Nat) (last : RangeEnd)
    (ending : Option Nat) :
    Bool × Editing :=
  let closed : Editing :=
    { editing with ranges := editing.ranges.filter fun entry => entry.1 ≠ place }
  match ending, last with
  | some number, _ =>
      if editing.number < number then (true, editing)
      else (editing.number = number, closed)
  | none, .address address =>
      let (ends, later) := editing.isAt address
      if ends then
        (true, { later with ranges := later.ranges.filter fun entry => entry.1 ≠ place })
      else (true, later)
  | none, _ => (true, closed)

def Editing.isSelected (editing : Editing) (place : Nat) (command : Command) : Bool × Editing :=
  let (isMeant, later) : Bool × Editing :=
    match command.selector with
    | .all => (true, editing)
    | .one address => editing.isAt address
    | .range first last =>
        match editing.ranges.find? fun entry => entry.1 = place with
        | some (_, ending) => editing.continueRange place last ending
        | none =>
            match first with
            | .line 0 =>
                if editing.number = 1 then
                  ({ editing with ranges := (place, none) :: editing.ranges }).continueRange place
                    last none
                else (false, editing)
            | _ =>
                let (begins, found) := editing.isAt first
                if begins then (true, found.beginRange place last) else (false, found)
  (isMeant != command.isNegated, later)

/-! ## Replacing -/

/-- The text of a replacement. `mark` is the change of letters that goes on, and `single` one of
the next letter. -/
def filled (found : Expression.Found) : (mark single : Option Char) → List Filling → List Char
  | _, _, [] => []
  | mark, single, part :: rest =>
      let put (text : List Char) : List Char :=
        let changed : List Char :=
          match mark with
          | some 'U' => text.map Char.toUpper
          | some 'L' => text.map Char.toLower
          | _ => text
        let first : List Char :=
          match single, changed with
          | some 'u', c :: others => c.toUpper :: others
          | some 'l', c :: others => c.toLower :: others
          | _, _ => changed
        first ++ filled found mark (if text = [] then single else none) rest
      match part with
      | .text text => put text
      | .group number => put (found.group number)
      | .letters 'E' => filled found none none rest
      | .letters c =>
          if c = 'u' ∨ c = 'l' then filled found mark (some c) rest
          else filled found (some c) single rest

/-- Replace matches from a place in a text on. `passed` is the text before, in reverse, and
`number` counts the matches. The answer tells whether anything is replaced. -/
def replaceFrom (substitution : Substitution) (expression : Expression) :
    Nat → (number : Nat) → (follows : Bool) → List Char → List Char → List Char × Bool
  | 0, _, _, _, rest => (rest, false)
  | fuel + 1, number, follows, passed, rest =>
      let mode : Expression.Mode := { ignoresCase := substitution.ignoresCase }
      match Expression.findFrom mode expression passed rest with
      | none => (rest, false)
      | some found =>
          let between := found.before.drop passed.length
          if found.text = [] ∧ between = [] ∧ follows then
            match rest with
            | [] => ([], false)
            | c :: others =>
                let (text, isReplaced) :=
                  replaceFrom substitution expression fuel number false (c :: passed) others
                (c :: text, isReplaced)
          else
            let first := substitution.number.getD 1
            let isMeant : Bool :=
              number = first || (substitution.isGlobal && decide (first ≤ number))
            let written :=
              if isMeant then filled found none none substitution.filling else found.text
            let passedThen := found.text.reverse ++ found.before.reverse
            if isMeant ∧ ¬ substitution.isGlobal then
              (between ++ written ++ found.behind, true)
            else
              match found.text, found.behind with
              | [], [] => (between ++ written, isMeant)
              | [], c :: others =>
                  let (text, isReplaced) :=
                    replaceFrom substitution expression fuel (number + 1) false (c :: passedThen)
                      others
                  (between ++ written ++ c :: text, isMeant || isReplaced)
              | _, _ =>
                  let (text, isReplaced) :=
                    replaceFrom substitution expression fuel (number + 1) true passedThen
                      found.behind
                  (between ++ written ++ text, isMeant || isReplaced)

/-! ## Carrying out -/

inductive Step where
  | goOn (place : Nat)
  /-- The next line, with or without writing this one. -/
  | nextLine (writes : Bool)
  /-- The commands once more, with what is left of the line. -/
  | again
  | finish (status : Nat) (writes : Bool)

/-- A line as it is shown with all its characters to be seen. -/
def listedText (text : List Char) : List Char :=
  let shownChar (c : Char) : List Char :=
    match c with
    | '\\' => ['\\', '\\']
    | '\n' => ['\\', 'n']
    | '\t' => ['\\', 't']
    | '\r' => ['\\', 'r']
    | _ =>
        if c.toNat = 7 then ['\\', 'a']
        else if c.toNat = 8 then ['\\', 'b']
        else if c.toNat = 12 then ['\\', 'f']
        else if c.toNat = 11 then ['\\', 'v']
        else if 32 ≤ c.toNat ∧ c.toNat < 127 then [c]
        else
          let digits := Nat.toDigits 8 c.toNat
          '\\' :: List.replicate (3 - digits.length) '0' ++ digits
  broken 0 (text.map shownChar)
where
  broken : Nat → List (List Char) → List Char
    | _, [] => ['$']
    | width, first :: rest =>
        if 69 < width + first.length then ['\\', '\n'] ++ first ++ broken first.length rest
        else first ++ broken (width + first.length) rest

def placeOf (commands : List Command) (label : List Char) : Nat :=
  if label = [] then commands.length
  else
    (commands.findIdx? fun command =>
      match command.action with
      | .label name => name = label
      | _ => false).getD commands.length

/-- What an editing run is given. -/
structure Program where
  commands : List Command
  isQuiet : Bool
  lineEnd : Char
  /-- The files that are edited, with the numbers of their last lines. -/
  files : List (List Char × Nat)
  texts : Nat

def Program.fileAt (program : Program) (number : Nat) : List Char :=
  ((program.files.find? fun entry => decide (number ≤ entry.2)).map (·.1)).getD ['-']

def perform (program : Program) (place : Nat) (action : Action) (editing : Editing) :
    Step × Editing :=
  let goOn (later : Editing) : Step × Editing := (.goOn (place + 1), later)
  let firstLine := editing.pattern.takeWhile (· ≠ editing.lineEnd)
  match action with
  | .opening _ | .nothing | .label _ => goOn editing
  | .print => goOn editing.writePattern
  | .printFirst => goOn (editing.write firstLine true)
  | .delete => (.nextLine false, editing)
  | .deleteFirst =>
      if editing.pattern.contains editing.lineEnd then
        (.again, { editing with pattern := editing.pattern.drop (firstLine.length + 1) })
      else (.nextLine false, editing)
  | .next =>
      match editing.lines with
      | [] => (.finish 0 true, editing)
      | line :: rest =>
          let written := if program.isQuiet then editing else editing.writePattern
          goOn { written with lines := rest, pattern := line, number := editing.number + 1 }
  | .nextAppended =>
      match editing.lines with
      | [] => (.finish 0 true, editing)
      | line :: rest =>
          goOn { editing with
            lines := rest
            pattern := editing.pattern ++ editing.lineEnd :: line
            number := editing.number + 1 }
  | .quit status => (.finish status true, editing)
  | .quitSilently status => (.finish status false, editing)
  | .lineNumber => goOn (editing.put (digitsOfNat editing.number ++ ['\n']))
  | .append text => goOn { editing with appended := editing.appended ++ [.text text] }
  | .readFrom file => goOn { editing with appended := editing.appended ++ [.file file] }
  | .insert text => goOn (editing.put text)
  | .change text =>
      let isInside : Bool := editing.ranges.any fun entry => entry.1 = place
      if isInside then (.nextLine false, editing)
      else (.nextLine false, editing.put text)
  | .restore => goOn { editing with pattern := editing.hold }
  | .restoreAppended =>
    goOn { editing with pattern := editing.pattern ++ editing.lineEnd :: editing.hold }
  | .keep => goOn { editing with hold := editing.pattern }
  | .keepAppended =>
    goOn { editing with hold := editing.hold ++ editing.lineEnd :: editing.pattern }
  | .exchange => goOn { editing with pattern := editing.hold, hold := editing.pattern }
  | .clear => goOn { editing with pattern := [] }
  | .listed => goOn (editing.put (listedText editing.pattern ++ ['\n']))
  | .fileName => goOn (editing.put (program.fileAt editing.number ++ ['\n']))
  | .writeTo file => goOn (editing.writeTo file editing.pattern)
  | .writeFirstTo file => goOn (editing.writeTo file firstLine)
  | .transliterate sources targets =>
      let change (c : Char) : Char :=
        match sources.idxOf? c with
        | some index => targets.getD index c
        | none => c
      goOn { editing with pattern := editing.pattern.map change }
  | .branch label => (.goOn (placeOf program.commands label), editing)
  | .branchIf label =>
      if editing.hasReplaced then
        (.goOn (placeOf program.commands label), { editing with hasReplaced := false })
      else goOn editing
  | .branchUnless label =>
      if editing.hasReplaced then goOn { editing with hasReplaced := false }
      else (.goOn (placeOf program.commands label), editing)
  | .substitute substitution =>
      let (meant, later) := editing.meant substitution.expression
      match meant with
      | none => (.finish 1 false, later)
      | some expression =>
          let (text, isReplaced) :=
            replaceFrom substitution expression (2 * editing.pattern.length + 3) 1 false []
              editing.pattern
          if isReplaced then
            let changed := { later with pattern := text, hasReplaced := true }
            let printed := if substitution.prints then changed.writePattern else changed
            goOn (match substitution.file with
              | some file => printed.writeTo file text
              | none => printed)
          else goOn later

/-- Carry out commands on a line, from the one at a place on. -/
def carryOut (program : Program) : Nat → Nat → Editing → Step × Editing
  | 0, _, editing => (.finish 4 false, editing)
  | fuel + 1, place, editing =>
      match program.commands[place]? with
      | none => (.nextLine true, editing)
      | some command =>
          let (isSelected, later) := editing.isSelected place command
          if later.lacksExpression then (.finish 1 false, later)
          else if isSelected then
            match perform program place command.action later with
            | (.goOn next, done) => carryOut program fuel next done
            | result => result
          else
            match command.action with
            | .opening ending => carryOut program fuel ending later
            | _ => carryOut program fuel (place + 1) later

def writeAppended (editing : Editing) : Execution Editing := do
  let mut later := { editing with appended := [] }
  for entry in editing.appended do
    match entry with
    | .text text => later := later.put text
    | .file name =>
        match ← inputOf name with
        | .ok bytes =>
            if bytes ≠ [] then
              let isEnded : Bool := bytes.getLast? = some later.lineEnd
              later := later.write (if isEnded then bytes.dropLast else bytes) isEnded
        | .error _ => pure ()
  return later

/-- Edit the lines that are left. The answer is the status, and whether to go on with other
files. -/
def editLines (program : Program) :
    Nat → (isNew : Bool) → Editing → Execution (Option Nat × Editing)
  | 0, _, editing => return (some 4, editing)
  | fuel + 1, isNew, editing => do
      let (start, isThere) : Editing × Bool :=
        if isNew then
          match editing.lines with
          | [] => (editing, false)
          | line :: rest =>
              ({ editing with
                  lines := rest, pattern := line, number := editing.number + 1
                  hasReplaced := false }, true)
        else (editing, true)
      if ¬ isThere then return (none, editing)
      else
        let steps :=
          20 * (program.commands.length + 1) * (start.lines.length + start.pattern.length + 20)
        let (step, done) := carryOut program steps 0 start
        let writes : Bool :=
          match step with
          | .nextLine writes | .finish _ writes => writes && !program.isQuiet
          | _ => false
        let written := if writes then done.writePattern else done
        let later ← writeAppended written
        match step with
        | .finish status _ => return (some status, later)
        | .again => editLines program fuel false later
        | _ => editLines program fuel true later

end PartitionBench.Host.Utility.Edit
