import PartitionBench.Host.Utility.Text
import PartitionBench.Text.Digits

/-!
Contract: programs that put lines in order, or that compare lines in order.

Owns:
- the keys by which lines are sorted, and the kinds of order;
- runs of equal lines, and the lines that two texts have in common.

Does not own: lines without an order (`Utility.Text`).
-/

namespace PartitionBench.Host.Utility

open Execution

/-! ## Keys -/

/-- A place in a line: a field and a character of it, counted from one. The letters say how
it is compared. -/
structure KeyPlace where
  field : Nat
  character : Nat
  letters : List Char

/-- A part of a line by which it is sorted. -/
structure SortKey where
  first : KeyPlace
  last : Option KeyPlace

def SortKey.letters (key : SortKey) : List Char :=
  key.first.letters ++ ((key.last.map KeyPlace.letters).getD [])

inductive KeyFault where
  | noNumber (isStart : Bool) (text : List Char)
  | zeroField
  | stray

def KeyFault.text (value : List Char) : KeyFault → List Char
  | .noNumber isStart text =>
      (if isStart then "invalid number at field start" else "invalid number after ','").toList
        ++ ": invalid count at start of ".toList ++ shown text
  | .zeroField =>
      "field number is zero: invalid field specification ".toList ++ shown value
  | .stray => "stray character in field spec: invalid field specification ".toList ++ shown value

/-- The place that a text begins with, and what follows it. `usual` is the character that is
meant if none is named. -/
def keyPlace (isStart : Bool) (usual : Nat) (text : List Char) :
    Except KeyFault (KeyPlace × List Char) :=
  let digits := text.takeWhile Char.isDigit
  match natural? digits with
  | none => .error (.noNumber isStart text)
  | some 0 => .error .zeroField
  | some field =>
      let behind := text.drop digits.length
      let (character, rest) : Nat × List Char :=
        match behind with
        | '.' :: others =>
            let more := others.takeWhile Char.isDigit
            ((natural? more).getD usual, others.drop more.length)
        | _ => (usual, behind)
      let letters := rest.takeWhile fun c => "bdfgiMhnRrV".toList.contains c
      .ok (⟨field, character, letters⟩, rest.drop letters.length)

def sortKey (value : List Char) : Except KeyFault SortKey := do
  let (first, rest) ← keyPlace true 1 value
  match rest with
  | [] => return ⟨first, none⟩
  | ',' :: others =>
      let (last, left) ← keyPlace false 0 others
      if left = [] then return ⟨first, some last⟩ else throw .stray
  | _ => throw .stray

def isFieldBlank (c : Char) : Bool := c = ' ' || c = '\t' || c = '\n'

/-- The fields of a line: between separators, or each with the blanks in front of it. -/
def sortFields (separator : Option Char) (line : List Char) : List (List Char) :=
  match separator with
  | some c => Text.pieces c line
  | none => blankFields (line.length + 1) line
where
  /-- The fields of a line, each with the blanks in front. -/
  blankFields : Nat → List Char → List (List Char)
    | 0, _ => []
    | _ + 1, [] => []
    | fuel + 1, chars =>
        let blanks := chars.takeWhile isFieldBlank
        let rest := chars.drop blanks.length
        let word := rest.takeWhile fun c => !isFieldBlank c
        (blanks ++ word) :: blankFields fuel (rest.drop word.length)

def fieldStart (separator : Option Char) (line : List Char) (field : Nat) : Nat :=
  let before := (sortFields separator line).take (field - 1)
  min line.length
    (before.flatten.length + (if separator.isSome then before.length else 0))

/-- The place of a character in a field, counted behind blanks where that is asked for. -/
def placeIn (separator : Option Char) (line : List Char) (place : KeyPlace)
    (skipsBlanks : Bool) (offset : Nat) : Nat :=
  let start := fieldStart separator line place.field
  let blanks : Nat :=
    if skipsBlanks then ((line.drop start).takeWhile isFieldBlank).length else 0
  min line.length (start + blanks + offset)

def SortKey.text (key : SortKey) (usual : List Char) (separator : Option Char)
    (line : List Char) : List Char :=
  let inherits : Bool := key.letters.isEmpty
  let asks (place : KeyPlace) : Bool :=
    place.letters.contains 'b' || (inherits && usual.contains 'b')
  let start := placeIn separator line key.first (asks key.first) (key.first.character - 1)
  let finish : Nat :=
    match key.last with
    | none => line.length
    | some last =>
        if last.character = 0 then
          let field := (sortFields separator line).getD (last.field - 1) []
          min line.length (fieldStart separator line last.field + field.length)
        else placeIn separator line last (asks last) last.character
  (line.take finish).drop start

/-! ## Orders -/

/-- The number at the start of a text, as a numerator over a power of ten, and what follows
it. -/
def leadingNumber (text : List Char) : (Int × Nat) × List Char :=
  let trimmed := text.dropWhile isFieldBlank
  let isNegative := trimmed.head? = some '-'
  let digits := if isNegative then trimmed.drop 1 else trimmed
  let whole := digits.takeWhile Char.isDigit
  let behind := digits.drop whole.length
  let places :=
    match behind with
    | '.' :: rest => rest.takeWhile Char.isDigit
    | _ => []
  let rest := if behind.head? = some '.' then behind.drop (places.length + 1) else behind
  let value : Int := Text.decimalValue (whole ++ places)
  ((if isNegative then -value else value, places.length), rest)

def startsNumber (text : List Char) : Bool :=
  let trimmed := text.dropWhile isFieldBlank
  let digits := if trimmed.head? = some '-' then trimmed.drop 1 else trimmed
  let behind := if digits.head? = some '.' then digits.drop 1 else digits
  (behind.head?.map Char.isDigit).getD false

def orderNumbers (left right : Int × Nat) : Ordering :=
  compare (left.1 * (Nat.pow 10 right.2 : Nat)) (right.1 * (Nat.pow 10 left.2 : Nat))

def unitRank (rest : List Char) : Nat :=
  match rest with
  | c :: _ => (("KMGTPEZYRQ".toList.idxOf? (if c = 'k' then 'K' else c)).map (· + 1)).getD 0
  | [] => 0

def orderWithUnits (left right : List Char) : Ordering :=
  let (first, behindFirst) := leadingNumber left
  let (second, behindSecond) := leadingNumber right
  let signed (number : Int × Nat) (rest : List Char) : Int :=
    if number.1 = 0 then 0
    else if number.1 < 0 then -(unitRank rest + 1 : Nat)
    else ((unitRank rest + 1 : Nat) : Int)
  match compare (signed first behindFirst) (signed second behindSecond) with
  | .eq => orderNumbers first second
  | order => order

/-- The number of the month whose name a text begins with. -/
def monthRank (text : List Char) : Nat :=
  let name := String.ofList (((text.dropWhile isFieldBlank).take 3).map Char.toUpper)
  ((["JAN", "FEB", "MAR", "APR", "MAY", "JUN", "JUL", "AUG", "SEP", "OCT", "NOV", "DEC"].idxOf?
    name).map (· + 1)).getD 0

def versionRank (c : Char) : Int :=
  if c = '~' then -1 else if c.isAlpha then (c.toNat : Int) else (c.toNat + 256 : Nat)

/-- The characters in front of a number in order, as versions have them. -/
def orderMarks : List Char → List Char → Ordering
  | [], [] => .eq
  | [], d :: _ => compare 0 (versionRank d)
  | c :: _, [] => compare (versionRank c) 0
  | c :: left, d :: right =>
      match compare (versionRank c) (versionRank d) with
      | .eq => orderMarks left right
      | order => order

/-- Two versions in order: marks and numbers in turn. -/
def orderVersions : Nat → List Char → List Char → Ordering
  | 0, _, _ => .eq
  | fuel + 1, left, right =>
      if left = [] ∧ right = [] then .eq
      else
        let marks (text : List Char) : List Char := text.takeWhile fun c => !c.isDigit
        let first := marks left
        let second := marks right
        match orderMarks first second with
        | .eq =>
            let digits := (left.drop first.length).takeWhile Char.isDigit
            let others := (right.drop second.length).takeWhile Char.isDigit
            match compare (Text.decimalValue digits) (Text.decimalValue others) with
            | .eq =>
                orderVersions fuel (left.drop (first.length + digits.length))
                  (right.drop (second.length + others.length))
            | order => order
        | order => order

def orderBytes (left right : List Char) : Ordering :=
  if left = right then .eq else if isBefore left right then .lt else .gt

/-- The order of two texts under the letters of a key. -/
def orderOf (letters : List Char) (left right : List Char) : Ordering :=
  let prepared (text : List Char) : List Char :=
    let kept :=
      if letters.contains 'd' then text.filter fun c => isFieldBlank c || isOfKind "alnum" c
      else if letters.contains 'i' then text.filter fun c => isOfKind "print" c
      else text
    if letters.contains 'f' then kept.map Char.toUpper else kept
  let order : Ordering :=
    if letters.contains 'g' ∧ startsNumber left != startsNumber right then
      if startsNumber right then .lt else .gt
    else if letters.contains 'n' ∨ letters.contains 'g' then
      orderNumbers (leadingNumber left).1 (leadingNumber right).1
    else if letters.contains 'h' then orderWithUnits left right
    else if letters.contains 'M' then compare (monthRank left) (monthRank right)
    else if letters.contains 'V' then
      orderVersions (left.length + right.length + 2) left right
    else orderBytes (prepared left) (prepared right)
  if letters.contains 'r' then order.swap else order

def orderByKeys (separator : Option Char) (usual : List Char) (left right : List Char) :
    List SortKey → Ordering
  | [] => .eq
  | key :: rest =>
      let letters := if key.letters.isEmpty then usual else key.letters
      match orderOf letters (key.text usual separator left) (key.text usual separator right) with
      | .eq => orderByKeys separator usual left right rest
      | order => order

/-! ## Sorting -/

structure Sorting where
  separator : Option Char
  usual : List Char
  keys : List SortKey
  isUnique : Bool
  isStable : Bool

/-- The order of two lines as far as keys tell. -/
def Sorting.order (sorting : Sorting) (left right : List Char) : Ordering :=
  if sorting.keys.isEmpty then
    let trimmed (line : List Char) : List Char :=
      if sorting.usual.contains 'b' then line.dropWhile isFieldBlank else line
    orderOf sorting.usual (trimmed left) (trimmed right)
  else orderByKeys sorting.separator sorting.usual left right sorting.keys

/-- A line may stand before another one. Lines that keys do not tell apart are in the order of
their bytes, unless they keep their places. -/
def Sorting.before (sorting : Sorting) (left right : List Char) : Bool :=
  match sorting.order left right with
  | .lt => true
  | .gt => false
  | .eq =>
      if sorting.isStable || sorting.isUnique then true
      else if sorting.usual.contains 'r' then isBefore right left
      else isBefore left right

/-- Lines without those that are equal to the one before. -/
def withoutRepeated (same : List Char → List Char → Bool) : List (List Char) → List (List Char)
  | first :: second :: rest =>
      if same first second then withoutRepeated same (first :: rest)
      else first :: withoutRepeated same (second :: rest)
  | lines => lines
termination_by lines => lines.length

/-- The lines of texts in order. Texts that are in order already are only merged. -/
def Sorting.sorted (sorting : Sorting) (onlyMerges : Bool) (texts : List (List (List Char))) :
    List (List Char) :=
  let ordered :=
    if onlyMerges then texts.foldr (fun lines rest => lines.merge rest sorting.before) []
    else texts.flatten.mergeSort sorting.before
  if sorting.isUnique then withoutRepeated (fun a b => sorting.order a b == .eq) ordered
  else ordered

/-- The first line that does not stand in order behind the line before it, with its number. -/
def Sorting.firstDisorder? (sorting : Sorting) (number : Nat) :
    List (List Char) → Option (Nat × List Char)
  | first :: second :: rest =>
      let isInOrder : Bool :=
        if sorting.isUnique then sorting.order first second == .lt
        else sorting.before first second
      if isInOrder then sorting.firstDisorder? (number + 1) (second :: rest)
      else some (number + 1, second)
  | _ => none

def sortReport (operand : List Char) (fault : OpenFault) : List Char :=
  if fault = .path .isDirectory then "read failed: ".toList ++ usualReport operand fault
  else "cannot read: ".toList ++ usualReport operand fault

def putLines (name : List Char) (file : Option (List Char)) (text : List Char) :
    Execution Nat := do
  match file with
  | none => print text 0
  | some path => do
      match ← openFile path .write true with
      | .ok number => do
          alterMachine fun machine => (machine.write? number text).getD machine
          return 0
      | .error fault => do
          complain name ("open failed: ".toList ++ usualReport path fault)
          return 2

def sort : Utility := fun name arguments =>
  withArguments
    { flags := "nrufbghcsVdimMzRC", valued := "ktoST"
      long := [("reverse", 'r'), ("unique", 'u'), ("numeric-sort", 'n'), ("key", 'k'),
        ("field-separator", 't'), ("output", 'o'), ("stable", 's'), ("ignore-case", 'f'),
        ("human-numeric-sort", 'h'), ("general-numeric-sort", 'g'), ("version-sort", 'V'),
        ("month-sort", 'M'), ("ignore-leading-blanks", 'b'), ("check", 'c'), ("merge", 'm'),
        ("dictionary-order", 'd'), ("ignore-nonprinting", 'i'), ("zero-terminated", 'z')] }
    name arguments 2 fun options operands => do
      let values := options.filterMap fun given => if given.1 = 'k' then given.2 else none
      let keys := values.map fun value => (value, sortKey value)
      let wrong? := keys.findSome? fun entry =>
        match entry.2 with
        | .error fault => some (fault.text entry.1)
        | .ok _ => none
      let separator := valueOf? options 't'
      match wrong?, separator with
      | some message, _ => do
          complain name message
          return 2
      | none, some [] => do
          complain name "empty tab".toList
          return 2
      | none, some (c :: d :: others) =>
          if c :: d :: others = ['\\', '0'] then return 2
          else do
            complain name ("multi-character tab ".toList ++ shown (c :: d :: others))
            return 2
      | none, _ => do
          let (read, isGood) ← readOperands name sortReport (orInput operands)
          if ¬ isGood then return 2
          else
            let sorting : Sorting :=
              { separator := separator.bind List.head?
                usual := (options.map (·.1)).filter fun letter =>
                  "nrfbghdiMV".toList.contains letter
                keys := keys.filterMap fun entry =>
                  match entry.2 with
                  | .ok key => some key
                  | .error _ => none
                isUnique := has options 'u'
                isStable := has options 's' }
            let ending : Char := if has options 'z' then Char.ofNat 0 else '\n'
            let linesIn (text : List Char) : List (List Char) :=
              let pieces := Text.pieces ending text
              if pieces.getLast? = some [] then pieces.dropLast else pieces
            let texts := read.map fun entry => linesIn entry.2
            if has options 'c' ∨ has options 'C' then
              match sorting.firstDisorder? 1 texts.flatten with
              | none => return 0
              | some (number, line) => do
                  if has options 'c' then
                    complain name (((orInput operands).headD []) ++ ':' :: digitsOfNat number
                      ++ ": disorder: ".toList ++ line)
                  return 1
            else
              putLines name (valueOf? options 'o')
                ((sorting.sorted (has options 'm') texts).flatMap (· ++ [ending]))

/-! ## Equal lines -/

/-- Runs of equal lines, with their lengths. -/
def runsOf (same : List Char → List Char → Bool) : List (List Char) → List (Nat × List Char)
  | [] => []
  | line :: rest =>
      match runsOf same rest with
      | (count, first) :: others =>
          if same line first then (count + 1, line) :: others
          else (1, line) :: (count, first) :: others
      | [] => [(1, line)]

/-- A line without its first fields, each with the blanks in front of it. -/
def withoutFields : Nat → List Char → List Char
  | 0, line => line
  | count + 1, line =>
      withoutFields count ((line.dropWhile isFieldBlank).dropWhile fun c => !isFieldBlank c)

/-- Print lines without those that repeat the line before. -/
def unique : Utility := fun name arguments =>
  withArguments
    { flags := "cduDiz", valued := "fsw"
      long := [("count", 'c'), ("repeated", 'd'), ("unique", 'u'), ("ignore-case", 'i'),
        ("skip-fields", 'f'), ("skip-chars", 's'), ("check-chars", 'w')] }
    name arguments 1 fun options operands => do
      match operands with
      | _ :: _ :: extra :: _ => do
          complain name ("extra operand ".toList ++ shown extra)
          hint name
          return 1
      | _ => do
          let report (operand : List Char) (fault : OpenFault) : List Char :=
            if fault = .path .isDirectory then openingReport operand fault
            else usualReport operand fault
          let (read, isGood) ← readOperands name report (orInput (operands.take 1))
          if ¬ isGood then return 1
          else
            let count? (letter : Char) : Option Nat := (valueOf? options letter).bind natural?
            let compared (line : List Char) : List Char :=
              let behind :=
                (withoutFields ((count? 'f').getD 0) line).drop ((count? 's').getD 0)
              let kept :=
                match count? 'w' with
                | some width => behind.take width
                | none => behind
              if has options 'i' then kept.map Char.toLower else kept
            let same (left right : List Char) : Bool := compared left = compared right
            let lines := (linesOf (read.map (·.2)).flatten).1
            let kept := (runsOf same lines).filter fun run =>
              (!has options 'd' || 1 < run.1) && (!has options 'u' || run.1 = 1)
            let shownLines :=
              if has options 'D' then
                lines.filter fun line => 1 < (lines.filter (same line)).length
              else kept.map fun run =>
                if has options 'c' then padded 7 (digitsOfNat run.1) ++ ' ' :: run.2 else run.2
            putLines name (operands.drop 1).head? (ofLines shownLines)

/-! ## Lines in common -/

/-- The lines of two texts in order, each with the number of its column: one for a line of the
first text only, two for one of the second, three for one of both. -/
def columnsOf : Nat → List (List Char) → List (List Char) → List (Nat × List Char)
  | 0, _, _ => []
  | _ + 1, [], right => right.map fun line => (2, line)
  | _ + 1, left, [] => left.map fun line => (1, line)
  | fuel + 1, first :: left, second :: right =>
      if first = second then (3, first) :: columnsOf fuel left right
      else if isBefore first second then (1, first) :: columnsOf fuel left (second :: right)
      else (2, second) :: columnsOf fuel (first :: left) right

/-- Print the lines that two files have apart and in common. -/
def common : Utility := fun name arguments =>
  withArguments { flags := "123z" } name arguments 1 fun options operands => do
    match operands with
    | [] => missingOperand name
    | [only] => do
        complain name ("missing operand after ".toList ++ shown only)
        hint name
        return 1
    | first :: second :: others =>
        match others with
        | extra :: _ => do
            complain name ("extra operand ".toList ++ shown extra)
            hint name
            return 1
        | [] => do
            let (read, isGood) ← readOperands name usualReport [first, second]
            match isGood, read with
            | true, [left, right] => do
                let firstLines := (linesOf left.2).1
                let secondLines := (linesOf right.2).1
                let isHidden (column : Nat) : Bool := has options (Char.ofNat (0x30 + column))
                let tabs (column : Nat) : Nat :=
                  ((List.range (column - 1)).filter fun place => !isHidden (place + 1)).length
                let entries :=
                  columnsOf (firstLines.length + secondLines.length + 1) firstLines secondLines
                let lines := (entries.filter fun entry => !isHidden entry.1).map fun entry =>
                  List.replicate (tabs entry.1) '\t' ++ entry.2
                let _ ← say (ofLines lines)
                let isSorted (texts : List (List Char)) : Bool :=
                  (texts.zip texts.tail).all fun pair => isBefore pair.1 pair.2
                if isSorted firstLines ∧ isSorted secondLines then return 0
                else do
                  if ¬ isSorted firstLines then
                    complain name "file 1 is not in sorted order".toList
                  if ¬ isSorted secondLines then
                    complain name "file 2 is not in sorted order".toList
                  complain name "input is not in sorted order".toList
                  return 1
            | _, _ => return 1

end PartitionBench.Host.Utility
