import PartitionBench.Host.Pattern
import PartitionBench.Host.Utility.Basic

/-!
Contract: programs that read texts and write them in another form.

Owns: joining, cutting off, counting, numbering, breaking lines, and lines side by side.

Does not own: sorting (`Utility.Sorting`), parts of lines and single characters
(`Utility.Characters`), and searching and editing by expressions (`Utility.Search`,
`Utility.Edit`).
-/

namespace PartitionBench.Host.Utility

open Execution

def padded (width : Nat) (text : List Char) : List Char :=
  List.replicate (width - text.length) ' ' ++ text

/-- Lines with their numbers in front. Blank lines may be left out. -/
def numbered (skipsBlank : Bool) : Nat → List (List Char) → List (List Char)
  | _, [] => []
  | number, line :: rest =>
      if skipsBlank ∧ line = [] then line :: numbered skipsBlank number rest
      else
        (padded 6 (digitsOfNat number) ++ '\t' :: line) :: numbered skipsBlank (number + 1) rest

/-- Change the lines of a text. The end of the last line stays as it is. -/
def mapLines (change : List (List Char) → List (List Char)) (text : List Char) : List Char :=
  let (lines, isEnded) := linesOf text
  let changed := ofLines (change lines)
  if isEnded then changed else changed.dropLast

/-- Lines without those that repeat a blank line. -/
def squeezed : Bool → List (List Char) → List (List Char)
  | _, [] => []
  | wasBlank, line :: rest =>
      if wasBlank ∧ line = [] then squeezed true rest
      else line :: squeezed (line = []) rest

/-- A character as it is shown where all characters are to be seen. -/
def visible (c : Char) : List Char :=
  let low (code : Nat) : List Char :=
    if code < 32 then ['^', Char.ofNat (code + 64)]
    else if code = 127 then ['^', '?']
    else [Char.ofNat code]
  if c = '\t' then [c]
  else if c.toNat < 128 then low c.toNat
  else ['M', '-'] ++ low (c.toNat - 128)

def concatenate : Utility := fun name arguments =>
  withArguments
    { flags := "nbsETAuvet"
      long := [("number", 'n'), ("number-nonblank", 'b'), ("squeeze-blank", 's'),
        ("show-ends", 'E'), ("show-tabs", 'T'), ("show-all", 'A'), ("show-nonprinting", 'v')] }
    name arguments 1
    fun options operands => do
      let (read, isGood) ← readOperands name usualReport (orInput operands)
      let text := (read.map (·.2)).flatten
      let asked (letters : String) : Bool := letters.toList.any (has options)
      let tabbed (line : List Char) : List Char :=
        if asked "TtA" then line.flatMap fun c => if c = '\t' then ['^', 'I'] else [c] else line
      let ends (line : List Char) : List Char :=
        (if asked "vetA" then (tabbed line).flatMap visible else tabbed line)
          ++ (if asked "EeA" then ['$'] else [])
      let change (lines : List (List Char)) : List (List Char) :=
        let kept := if has options 's' then squeezed false lines else lines
        let counted :=
          if has options 'b' then numbered true 1 kept
          else if has options 'n' then numbered false 1 kept
          else kept
        counted.map ends
      print (if options.isEmpty then text else mapLines change text) (if isGood then 0 else 1)

/-- The report of a program that says of every fault that it could not open the file. -/
def failedReport (operand : List Char) (fault : OpenFault) : List Char :=
  if fault = .path .isDirectory then
    operand ++ ": read error: ".toList ++ fault.reason.toList
  else
    "failed to open ".toList ++ shown operand ++ " for reading: ".toList ++ fault.reason.toList

def reverseLines : Utility := fun name arguments => do
  let (read, isGood) ← readOperands name failedReport (orInput arguments)
  let texts := read.map fun entry =>
    let (lines, isEnded) := linesOf entry.2
    let reversed := lines.reverse
    if isEnded then ofLines reversed
    else
      match reversed with
      | first :: rest => first ++ ofLines rest
      | [] => []
  print texts.flatten (if isGood then 0 else 1)

def reverseCharacters : Utility := fun name arguments => do
  let report (operand : List Char) (fault : OpenFault) : List Char :=
    "cannot open ".toList ++ usualReport operand fault
  let (read, isGood) ← readOperands name report (orInput arguments)
  print (mapLines (·.map List.reverse) (read.map (·.2)).flatten) (if isGood then 0 else 1)

def firstLines (ending : Char) : Nat → List Char → List Char
  | 0, _ => []
  | _ + 1, [] => []
  | count + 1, c :: rest =>
      if c = ending then c :: firstLines ending count rest
      else c :: firstLines ending (count + 1) rest
termination_by _ text => text.length

/-- How many lines a text has; a last line without an end counts. -/
def lineCount (ending : Char) (text : List Char) : Nat :=
  text.count ending + (if text = [] ∨ text.getLast? = some ending then 0 else 1)

def withoutLines (ending : Char) (count : Nat) (text : List Char) : List Char :=
  text.drop (firstLines ending count text).length

/-- The number that the letters behind a number multiply it by. -/
def multiplier? (letters : List Char) : Option Nat :=
  match String.ofList letters with
  | "" => some 1
  | "b" => some 512
  | "kB" | "KB" => some 1000
  | "k" | "K" | "KiB" => some 1024
  | "MB" => some 1000000
  | "m" | "M" | "MiB" => some 1048576
  | "GB" => some 1000000000
  | "G" | "GiB" => some 1073741824
  | _ => none

/-- The number that digits with such letters behind them are. -/
def quantity? (text : List Char) : Option Nat :=
  let digits := text.takeWhile Char.isDigit
  match natural? digits, multiplier? (text.drop digits.length) with
  | some number, some factor => some (number * factor)
  | _, _ => none

/-- A count that is given as a value. -/
structure Extent where
  sign : Option Char
  count : Nat

def extent? (value : List Char) : Option Extent :=
  match value with
  | '-' :: digits => (quantity? digits).map (⟨some '-', ·⟩)
  | '+' :: digits => (quantity? digits).map (⟨some '+', ·⟩)
  | digits => (quantity? digits).map (⟨none, ·⟩)

def withHeading (isFirst : Bool) (file text : List Char) : List Char :=
  let title := if file = ['-'] then "standard input".toList else file
  (if isFirst then [] else ['\n']) ++ "==> ".toList ++ title ++ " <==\n".toList ++ text

/-- Print parts of files. `byLines` and `byBytes` take the part that is asked for. -/
def printParts (byLines : Char → Extent → List Char → List Char)
    (byBytes : Extent → List Char → List Char) : Utility :=
  fun name arguments =>
    withArguments
      { flags := "qvfFz", valued := "nc", number := some 'n'
        long := [("lines", 'n'), ("bytes", 'c'), ("quiet", 'q'), ("silent", 'q'),
          ("verbose", 'v'), ("zero-terminated", 'z')] } name arguments 1
      fun options operands => do
        let isBytes : Bool := lastGiven? options "nc" == some 'c'
        let value := (valueOf? options (if isBytes then 'c' else 'n')).getD ['1', '0']
        match extent? value with
        | none => do
            complain name ((if isBytes then "invalid number of bytes: "
              else "invalid number of lines: ").toList ++ shown value)
            return 1
        | some extent => do
            let files := orInput operands
            let (read, isGood) ← readOperands name openingReport files
            let ending : Char := if has options 'z' then Char.ofNat 0 else '\n'
            let part (text : List Char) : List Char :=
              if isBytes then byBytes extent text else byLines ending extent text
            let isHeaded : Bool :=
              has options 'v' || (!has options 'q' && decide (1 < files.length))
            let texts := read.zipIdx.map fun (entry, index) =>
              if isHeaded then withHeading (index = 0) entry.1 (part entry.2) else part entry.2
            print texts.flatten (if isGood then 0 else 1)

/-- Print the first part of files. -/
def head : Utility :=
  printParts
    (fun ending extent text =>
      if extent.sign = some '-' then
        firstLines ending (lineCount ending text - extent.count) text
      else firstLines ending extent.count text)
    (fun extent text =>
      if extent.sign = some '-' then text.take (text.length - extent.count)
      else text.take extent.count)

/-- Arguments with a count in front of a single operand written as an option. -/
def withOldCount (arguments : List (List Char)) : List (List Char) :=
  match arguments with
  | ('+' :: c :: digits) :: rest =>
      if (c :: digits).all Char.isDigit ∧ rest.length ≤ 1 then
        "-n".toList :: ('+' :: c :: digits) :: rest
      else arguments
  | _ => arguments

def tail : Utility := fun name arguments =>
  printParts
    (fun ending extent text =>
      if extent.sign = some '+' then withoutLines ending (extent.count - 1) text
      else withoutLines ending (lineCount ending text - extent.count) text)
    (fun extent text =>
      if extent.sign = some '+' then text.drop (extent.count - 1)
      else text.drop (text.length - extent.count))
    name (withOldCount arguments)

def wordCount (inWord : Bool) : List Char → Nat
  | [] => 0
  | c :: rest =>
      if isOfKind "space" c then wordCount false rest
      else (if inWord then 0 else 1) + wordCount true rest

/-- The width of the widest line of a text, where a tab leads to the next place of eight. -/
def widestLine : (widest width : Nat) → List Char → Nat
  | widest, width, [] => max widest width
  | widest, width, c :: rest =>
      if c = '\n' ∨ c = '\r' ∨ c = Char.ofNat 12 then widestLine (max widest width) 0 rest
      else if c = '\t' then widestLine widest (width + 8 - width % 8) rest
      else if ' ' ≤ c ∧ c ≤ '~' then widestLine widest (width + 1) rest
      else widestLine widest width rest

def countsOf (options : List Given) (text : List Char) : List Nat :=
  let all := !"lwcmL".toList.any (has options)
  (if all || has options 'l' then [text.count '\n'] else [])
    ++ (if all || has options 'w' then [wordCount false text] else [])
    ++ (if has options 'm' then [text.length] else [])
    ++ (if all || has options 'c' then [text.length] else [])
    ++ (if has options 'L' then [widestLine 0 0 text] else [])

/-- Read what an operand names. What is no file counts as empty after a report. The answer is
the bytes, whether they were read, and whether they are a file. -/
def readCounted (name operand : List Char) : Execution (Option (List Char) × Bool × Bool) := do
  let isFile : Bool ← do
    if operand = ['-'] then
      match (← streamOf? 0).map (← machine).stream? with
      | some (some (.file _ _ _)) => pure true
      | _ => pure false
    else
      match ← look operand with
      | .ok (location, .file _ _) => pure (device? location).isNone
      | _ => pure false
  match ← inputOf operand with
  | .ok bytes => return (some bytes, true, isFile)
  | .error fault => do
      complain name (usualReport operand fault)
      return (if fault = .path .isDirectory then some [] else none, false, isFile)

/-- Print how many lines, words and bytes files have. -/
def count : Utility := fun name arguments =>
  withArguments
    { flags := "lwcmL"
      long := [("lines", 'l'), ("words", 'w'), ("bytes", 'c'), ("chars", 'm'),
        ("max-line-length", 'L')] }
    name arguments 1 fun options operands => do
      let read ← (orInput operands).mapM fun operand => do
        return (operand, ← readCounted name operand)
      let counts := read.filterMap fun entry =>
        entry.2.1.map fun text => (entry.1, countsOf options text)
      let kinds := (countsOf options []).length
      let isGood : Bool := read.all fun entry => entry.2.2.1
      let total := (read.map fun entry => (entry.2.1.getD []).length).foldl (· + ·) 0
      let isPlain : Bool := read.all fun entry => entry.2.2.2 || entry.2.1.isNone
      let width :=
        if operands.length ≤ 1 ∧ kinds = 1 then 1
        else max (digitsOfNat total).length (if isPlain then 1 else 7)
      let line (numbers : List Nat) (file : List Char) : List Char :=
        List.intercalate [' '] (numbers.map fun number => padded width (digitsOfNat number))
          ++ (if file = [] then [] else ' ' :: file) ++ ['\n']
      let lines := counts.map fun entry => line entry.2 (if operands.isEmpty then [] else entry.1)
      let merge (index : Nat) (first second : Nat) : Nat :=
        if has options 'L' ∧ index + 1 = kinds then max first second else first + second
      let sums := (List.range kinds).map fun index =>
        (counts.map fun entry => entry.2.getD index 0).foldl (merge index) 0
      let last := if operands.length ≤ 1 then [] else line sums "total".toList
      print (lines.flatten ++ last) (if isGood then 0 else 1)

/-! ## Lines side by side -/

/-- The separators that a value lists, one character each; none where nothing separates. -/
def separatorList : List Char → List (List Char)
  | [] => []
  | '\\' :: c :: rest =>
      (match c with
        | 'n' => ['\n']
        | 't' => ['\t']
        | '0' => []
        | _ => [c]) :: separatorList rest
  | c :: rest => [c] :: separatorList rest

def joinedInTurn (separators : List (List Char)) (index : Nat) :
    List (List Char) → List Char
  | [] => []
  | [last] => last
  | first :: rest =>
      first ++ separators.getD (index % max separators.length 1) []
        ++ joinedInTurn separators (index + 1) rest

def sideBySide (separators : List (List Char)) : Nat → List (List (List Char)) →
    List (List Char)
  | 0, _ => []
  | fuel + 1, columns =>
      if columns.all List.isEmpty then []
      else
        joinedInTurn separators 0 (columns.map fun column => column.headD [])
          :: sideBySide separators fuel (columns.map List.tail)

/-- Every line of a text whose number leaves a remainder on division. -/
def everyLine (count remainder : Nat) (lines : List (List Char)) : List (List Char) :=
  (lines.zipIdx.filter fun entry => entry.2 % max count 1 = remainder).map (·.1)

/-- Print the lines of files side by side. Operands that name the input share its lines. -/
def paste : Utility := fun name arguments =>
  withArguments
    { flags := "sz", valued := "d", long := [("serial", 's'), ("delimiters", 'd')] }
    name arguments 1 fun options operands => do
      let separators := separatorList ((valueOf? options 'd').getD ['\t'])
      let files := orInput operands
      let (read, isGood) ← readOperands name usualReport files
      let isDirectory (file : List Char) : Execution Bool := do
        match ← look file with
        | .ok (_, .directory) => return true
        | _ => return false
      let lost := files.filter fun file => !(read.map (·.1)).contains file
      if ¬ (← lost.mapM isDirectory).all id then return 1
      else
        let shared := files.count ['-']
        let input : List (List Char) :=
          match read.find? fun entry => entry.1 = ['-'] with
          | some entry => (linesOf entry.2).1
          | none => []
        let columns := files.zipIdx.map fun (file, index) =>
          if file = ['-'] ∧ ¬ has options 's' then
            everyLine shared ((files.take index).count ['-']) input
          else
            match read.find? fun entry => entry.1 = file with
            | some entry => (linesOf entry.2).1
            | none => []
        let lines :=
          if has options 's' then columns.map (joinedInTurn separators 0)
          else sideBySide separators ((columns.map List.length).foldl max 0) columns
        print (ofLines lines) (if isGood then 0 else 1)

/-- A number in the form that a letter or two ask for. -/
def numberForm (form : List Char) (width : Nat) (number : Int) : List Char :=
  let digits := digitsOfInt number
  match form with
  | ['l', 'n'] => digits ++ List.replicate (width - digits.length) ' '
  | ['r', 'z'] =>
      match digits with
      | '-' :: others => '-' :: List.replicate (width - digits.length) '0' ++ others
      | _ => List.replicate (width - digits.length) '0' ++ digits
  | _ => padded width digits

def number : Utility := fun name arguments =>
  withArguments
    { flags := "p", valued := "bwsnvilfhd"
      long := [("body-numbering", 'b'), ("number-width", 'w'), ("number-separator", 's'),
        ("number-format", 'n'), ("starting-line-number", 'v'), ("line-increment", 'i')] }
    name arguments 1 fun options operands => do
      let (read, isGood) ← readOperands name usualReport (orInput operands)
      let kind := (valueOf? options 'b').getD ['t']
      let width := ((valueOf? options 'w').bind natural?).getD 6
      let separator := (valueOf? options 's').getD ['\t']
      let start := ((valueOf? options 'v').bind integer?).getD 1
      let increment := ((valueOf? options 'i').bind integer?).getD 1
      let form := (valueOf? options 'n').getD ['r', 'n']
      let step (state : Int × List (List Char)) (line : List Char) : Int × List (List Char) :=
        if kind = ['n'] ∨ (line = [] ∧ kind ≠ ['a']) then
          (state.1, (List.replicate (width + separator.length) ' ' ++ line) :: state.2)
        else
          (state.1 + increment, (numberForm form width state.1 ++ separator ++ line) :: state.2)
      let lines := (linesOf (read.map (·.2)).flatten).1
      print (ofLines (lines.foldl step (start, [])).2.reverse) (if isGood then 0 else 1)

def columnBehind (column : Nat) (c : Char) : Nat :=
  if c = '\t' then column + 8 - column % 8
  else if c = Char.ofNat 8 then column - 1
  else if c = '\r' then 0
  else column + 1

/-- The part of a line that is kept when it breaks at a blank: up to the last blank. -/
def upToBlank (line : List Char) : List Char :=
  (line.reverse.dropWhile fun c => c ≠ ' ' && c ≠ '\t').reverse

/-- Pieces of a line that are no wider than a width. `done` is the piece that has been begun. -/
def foldedLine (width : Nat) (atBlanks : Bool) :
    Nat → (done : List Char) → List Char → List (List Char)
  | 0, done, rest => [done ++ rest]
  | _ + 1, done, [] => [done]
  | fuel + 1, done, c :: rest =>
      let column := done.foldl columnBehind 0
      if columnBehind column c ≤ width ∨ done = [] then
        foldedLine width atBlanks fuel (done ++ [c]) rest
      else
        let kept := if atBlanks then upToBlank done else []
        if kept = [] then done :: foldedLine width atBlanks fuel [c] rest
        else kept :: foldedLine width atBlanks fuel (done.drop kept.length) (c :: rest)

def fold : Utility := fun name arguments =>
  withArguments
    { flags := "sb", valued := "w", number := some 'w'
      long := [("spaces", 's'), ("bytes", 'b'), ("width", 'w')] } name arguments 1
    fun options operands => do
      let asked := (valueOf? options 'w').getD ['8', '0']
      match natural? asked with
      | none | some 0 => do
          complain name ("invalid number of columns: ".toList ++ shown asked)
          return 1
      | some width => do
          let (read, isGood) ← readOperands name usualReport (orInput operands)
          let change (lines : List (List Char)) : List (List Char) :=
            lines.flatMap fun line =>
              foldedLine width (has options 's') (2 * line.length + 1) [] line
          print (mapLines change (read.map (·.2)).flatten) (if isGood then 0 else 1)

/-- Write the input to the output and to files. -/
def tee : Utility := fun name arguments =>
  withArguments { flags := "ai", long := [("append", 'a'), ("ignore-interrupts", 'i')] }
      name arguments 1 fun options operands => do
    let text ← readAll 0
    let _ ← say text
    let access : Script.Access := if has options 'a' then .append else .write
    let results ← operands.mapM fun operand => do
      match ← openFile operand access true with
      | .ok number => do
          alterMachine fun machine => (machine.write? number text).getD machine
          return true
      | .error fault => do
          complain name (usualReport operand fault)
          return false
    return if results.all id then 0 else 1

end PartitionBench.Host.Utility
