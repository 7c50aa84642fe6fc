import PartitionBench.Host.Expression
import PartitionBench.Host.Utility.Files
import PartitionBench.Host.Utility.Text

/-!
Contract: the program that searches lines by expressions.

Owns: its options, which lines are chosen, and how they are printed.

Does not own: expressions (`Host.Expression`).
-/

namespace PartitionBench.Host.Utility

open Execution

inductive PatternKind where
  | fixed
  | expression (rules : Expression.Rules)

/-- The expression that a pattern is, and the signs in it that are left out. -/
def PatternKind.read (kind : PatternKind) (pattern : List Char) :
    Except Expression.Fault (Expression × List String) :=
  match kind with
  | .fixed => .ok (.sequence (pattern.map .character), [])
  | .expression rules => Expression.reading rules pattern

/-- What a search is for, and what is printed. -/
structure Search where
  expression : Expression
  mode : Expression.Mode
  isNegated : Bool
  /-- The greatest number of lines that are chosen in one file. -/
  most : Option Nat
  showsParts : Bool
  showsNumbers : Bool
  showsNames : Bool
  before : Nat
  behind : Nat

def Search.chooses (search : Search) (line : List Char) : Bool :=
  (search.expression.find? search.mode line).isSome != search.isNegated

/-- The parts of a line that match, one behind the other. `passed` is the text before, in
reverse. -/
def Search.parts (search : Search) : Nat → List Char → List Char → List (List Char)
  | 0, _, _ => []
  | fuel + 1, passed, rest =>
      match Expression.findFrom search.mode search.expression passed rest with
      | none => []
      | some found =>
          if found.text = [] then
            match found.behind with
            | [] => []
            | c :: others => search.parts fuel (c :: found.before.reverse) others
          else
            found.text
              :: search.parts fuel (found.text.reverse ++ found.before.reverse) found.behind

/-- The numbers of the lines that are chosen, counted from zero. -/
def Search.chosen (search : Search) (lines : List (List Char)) : List Nat :=
  let all := (lines.zipIdx.filter fun entry => search.chooses entry.1).map (·.2)
  match search.most with
  | some count => all.take count
  | none => all

/-- What stands in front of a line that is printed. -/
def Search.heading (search : Search) (file : List Char) (number : Nat) (mark : Char) :
    List Char :=
  (if search.showsNames then file ++ [mark] else [])
    ++ (if search.showsNumbers then digitsOfNat (number + 1) ++ [mark] else [])

def Search.output (search : Search) (file : List Char) (lines : List (List Char)) :
    List (List Char) :=
  let chosen := search.chosen lines
  if search.showsParts then
    if search.isNegated then []
    else chosen.flatMap fun number =>
      let line := lines.getD number []
      (search.parts (line.length + 2) [] line).map (search.heading file number ':' ++ ·)
  else
    let isShown (number : Nat) : Bool :=
      chosen.any fun place =>
        decide (place ≤ number + search.before) && decide (number ≤ place + search.behind)
    let shownNumbers := (List.range lines.length).filter isShown
    let separates : Bool := 0 < search.before || 0 < search.behind
    shownNumbers.zipIdx.flatMap fun (number, index) =>
      let mark : Char := if chosen.contains number then ':' else '-'
      let line := search.heading file number mark ++ lines.getD number []
      let isFar : Bool :=
        separates && decide (0 < index) && decide (shownNumbers.getD (index - 1) 0 + 1 < number)
      if isFar then [['-', '-'], line] else [line]

/-- What is said on how the program is called. -/
def searchUsage (name : List Char) : Execution Nat := do
  warn ("Usage: ".toList ++ name ++ " [OPTION]... PATTERNS [FILE]...\nTry '".toList ++ name
    ++ " --help' for more information.\n".toList)
  return 2

def searchOptions : Known :=
  { flags := "qcvinoEFGPwxlLhHszrRyaIbUZT", valued := "emfABCdD", number := some 'C'
    long := [("quiet", 'q'), ("silent", 'q'), ("count", 'c'), ("invert-match", 'v'),
      ("ignore-case", 'i'), ("line-number", 'n'), ("only-matching", 'o'),
      ("extended-regexp", 'E'), ("fixed-strings", 'F'), ("basic-regexp", 'G'),
      ("perl-regexp", 'P'), ("word-regexp", 'w'), ("line-regexp", 'x'),
      ("files-with-matches", 'l'), ("files-without-match", 'L'), ("no-filename", 'h'),
      ("with-filename", 'H'), ("no-messages", 's'), ("recursive", 'r'), ("regexp", 'e'),
      ("max-count", 'm'), ("file", 'f'), ("after-context", 'A'), ("before-context", 'B'),
      ("context", 'C'), ("text", 'a')] }

/-- The files that are searched: those that are named, and where that is asked for all files
in directories that are named. -/
def searchedFiles (isDeep : Bool) (operands : List (List Char)) :
    Execution (List (List Char)) := do
  if ¬ isDeep then return orInput operands
  else
    let machine ← machine
    let starts := if operands.isEmpty then [['.']] else operands
    let found ← starts.mapM fun start => do
      match ← look start with
      | .ok (location, .directory) =>
          let files := (below machine 100 start location).filter fun entry =>
            entry.2 ≠ .directory
          return files.map fun entry =>
            if operands.isEmpty then entry.1.drop 2 else entry.1
      | _ => return [start]
    return found.flatten

/-- What is done with the lines of one file. The answer tells whether any of them is
chosen. -/
def searchFile (options : List Given) (search : Search) (file : List Char) (bytes : List Char) :
    Execution Bool := do
  let lines := (linesOf bytes).1
  let chosen := search.chosen lines
  let named := if file = ['-'] then "(standard input)".toList else file
  let isFound := !chosen.isEmpty
  if has options 'q' then return isFound
  else if has options 'l' then do
    if isFound then
      let _ ← say (named ++ ['\n'])
    return isFound
  else if has options 'L' then do
    if ¬ isFound then
      let _ ← say (named ++ ['\n'])
    return !isFound
  else if has options 'c' then do
    let heading := if search.showsNames then named ++ [':'] else []
    let _ ← say (heading ++ digitsOfNat chosen.length ++ ['\n'])
    return isFound
  else do
    let _ ← say (ofLines (search.output named lines))
    return isFound

/-- Search files one after the other. The answer tells whether anything is found, and whether
all files could be read. -/
def searchFiles (options : List Given) (search : Search) (name : List Char) :
    List (List Char) → Execution (Bool × Bool)
  | [] => return (false, true)
  | file :: rest => do
      match ← inputOf file with
      | .ok bytes => do
          let isFound ← searchFile options search file bytes
          if isFound ∧ has options 'q' then return (true, true)
          else
            let (later, isGood) ← searchFiles options search name rest
            return (isFound || later, isGood)
      | .error fault => do
          let isDeep := has options 'r' || has options 'R'
          let named := if file = ['-'] then "(standard input)".toList else file
          if ¬ has options 's' ∧ ¬ (isDeep ∧ fault = .path .isDirectory) then
            complain name (usualReport named fault)
          let (later, _) ← searchFiles options search name rest
          return (later, false)

def patternsOf (name : List Char) (options : List Given) (operands : List (List Char)) :
    Execution (Option (List (List Char) × List (List Char))) := do
  let written := options.filterMap fun given => if given.1 = 'e' then given.2 else none
  let files := options.filterMap fun given => if given.1 = 'f' then given.2 else none
  let mut fromFiles : List (List Char) := []
  for file in files do
    match ← inputOf file with
    | .ok bytes => fromFiles := fromFiles ++ (linesOf bytes).1
    | .error fault => do
        complain name (usualReport file fault)
        return none
  let given := written.flatMap (Text.pieces '\n') ++ fromFiles
  match operands with
  | _ =>
      if ¬ (written.isEmpty ∧ files.isEmpty) then return some (given, operands)
      else
        match operands with
        | pattern :: rest => return some (Text.pieces '\n' pattern, rest)
        | [] => return none

/-- Search the lines of files. `usual` is how patterns are written if no option says so. -/
def search (usual : PatternKind) : Utility := fun name arguments => do
  match readArguments searchOptions (arguments.length + 1) arguments with
  | .unknown letter => do
      complain name ("invalid option -- ".toList ++ shown [letter])
      searchUsage name
  | .unknownLong option => do
      complain name ("unrecognized option ".toList ++ shown option)
      searchUsage name
  | .missing letter => do
      complain name ("option requires an argument -- ".toList ++ shown [letter])
      searchUsage name
  | .taken options operands => do
      let kind : PatternKind :=
        options.foldl
          (fun kind given =>
            match given.1 with
            | 'E' => .expression { style := .extended }
            | 'P' => .expression { style := .extended, namesDigits := true }
            | 'F' => .fixed
            | 'G' => .expression { style := .basic }
            | _ => kind)
          usual
      let count (letter : Char) : Nat := ((valueOf? options letter).bind natural?).getD 0
      match ← patternsOf name options operands with
      | none =>
          if has options 'f' then return 2 else searchUsage name
      | some (patterns, files) =>
          match patterns.mapM kind.read with
          | .error fault => do
              complain name fault.text.toList
              return 2
          | .ok read => do
              for sign in (read.map (·.2)).flatten do
                complain name ("warning: ".toList ++ sign.toList
                  ++ " at start of expression".toList)
              let expressions := read.map (·.1)
              let isDeep := has options 'r' || has options 'R'
              let searched ← searchedFiles isDeep files
              let search : Search :=
                { expression := match expressions with
                    | [single] => single
                    | several => .choice several
                  mode :=
                    { ignoresCase := has options 'i' || has options 'y'
                      isWhole := has options 'x'
                      isWord := has options 'w' }
                  isNegated := has options 'v'
                  most := (valueOf? options 'm').bind natural?
                  showsParts := has options 'o'
                  showsNumbers := has options 'n'
                  showsNames :=
                    !has options 'h' && (has options 'H' || isDeep || 1 < searched.length)
                  before := max (count 'B') (count 'C')
                  behind := max (count 'A') (count 'C') }
              let (isFound, isGood) ← searchFiles options search name searched
              if isFound ∧ (isGood ∨ has options 'q') then return 0
              else return if isGood then 1 else 2

end PartitionBench.Host.Utility
