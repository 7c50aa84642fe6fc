import PartitionBench.Host.Pattern
import PartitionBench.Host.Utility.Launching

/-!
Contract: the program that finds files.

Owns: its tests and actions as they are written, the files that pass them, and the order
in which directories are visited.

Does not own: how a program is run for a file (`Host.Program`).
-/

namespace PartitionBench.Host.Utility

open Execution

/-- A condition on files, or something to be done with them. -/
inductive FileTest where
  | always
  | hasName (pattern : List Char) (ignoresCase : Bool)
  | hasPath (pattern : List Char)
  | hasType (letter : Char)
  | isEmpty
  | hasSize (order : Ordering) (count : Nat) (unit : Char)
  | mayRun
  | negation (inner : FileTest)
  | both (first second : FileTest)
  | either (first second : FileTest)
  | print (ending : Char)
  | printing (format : List Char)
  | run (words : List (List Char))
  | runOnce (words : List (List Char))
  | delete
  | cutOff
  | finish

/-- What is wrong with a condition on files. -/
inductive FileTestFault where
  | unknown (word : List Char)
  | missing (word : List Char)
  | noKind (word letter : List Char)
  | invalid

/-- Words up to an ending mark, and what follows the mark. -/
def wordsUpTo (isEnd : List Char → Bool) (words : List (List Char)) :
    Option (List (List Char) × List (List Char)) :=
  let inner := words.takeWhile fun word => !isEnd word
  match words.drop inner.length with
  | _ :: rest => some (inner, rest)
  | [] => none

/-- A condition without parentheses and connectives, and the words behind it. -/
def singleTest (word : List Char) (rest : List (List Char)) :
    Except FileTestFault (FileTest × List (List Char)) :=
  let valued (make : List Char → FileTest) : Except FileTestFault (FileTest × List (List Char)) :=
    match rest with
    | value :: others => .ok (make value, others)
    | [] => .error (.missing word)
  match String.ofList word with
  | "-name" => valued fun pattern => .hasName pattern false
  | "-iname" => valued fun pattern => .hasName pattern true
  | "-path" | "-wholename" => valued .hasPath
  | "-type" | "-xtype" =>
      match rest with
      | [] => .error (.missing word)
      | [letter] :: others =>
          if "bcdpflsD".toList.contains letter then .ok (.hasType letter, others)
          else .error (.noKind word [letter])
      | value :: _ => .error (.noKind word value)
  | "-size" => valued fun value =>
      let order : Ordering :=
        match value with
        | '+' :: _ => .gt
        | '-' :: _ => .lt
        | _ => .eq
      let digits := (value.dropWhile fun c => c = '+' || c = '-').takeWhile Char.isDigit
      .hasSize order ((natural? digits).getD 0)
        (match value.getLast? with
          | some c => if c.isDigit then 'b' else c
          | none => 'b')
  | "-mtime" | "-mmin" | "-perm" | "-user" | "-group" | "-newer" | "-maxdepth" | "-mindepth" =>
      valued fun _ => .always
  | "-printf" => valued .printing
  | "-empty" => .ok (.isEmpty, rest)
  | "-executable" => .ok (.mayRun, rest)
  | "-readable" | "-writable" | "-true" | "-depth" | "-follow" | "-xdev" => .ok (.always, rest)
  | "-false" => .ok (.negation .always, rest)
  | "-print" => .ok (.print '\n', rest)
  | "-print0" => .ok (.print (Char.ofNat 0), rest)
  | "-delete" => .ok (.delete, rest)
  | "-prune" => .ok (.cutOff, rest)
  | "-quit" => .ok (.finish, rest)
  | "-exec" =>
      match wordsUpTo (fun entry => entry = [';'] || entry = ['+']) rest with
      | some (inner, others) =>
          if rest.getD inner.length [] = ['+'] then .ok (.runOnce inner, others)
          else .ok (.run inner, others)
      | none => .error (.missing word)
  | _ => .error (.unknown word)

/-- Read a condition. `level` is zero where alternatives may stand, one where conditions may
follow each other, and two where a single one stands. -/
def readTest : Nat → Nat → List (List Char) →
    Except FileTestFault (FileTest × List (List Char))
  | 0, _, words => .ok (.always, words)
  | _ + 1, _, [] => .error .invalid
  | fuel + 1, 0, words => do
      let (first, rest) ← readTest fuel 1 words
      match rest with
      | ['-', 'o'] :: others => do
          let (second, left) ← readTest fuel 0 others
          return (.either first second, left)
      | _ => return (first, rest)
  | fuel + 1, 1, words => do
      let (first, rest) ← readTest fuel 2 words
      match rest with
      | [] => return (first, [])
      | ['-', 'o'] :: _ | [')'] :: _ => return (first, rest)
      | ['-', 'a'] :: others => do
          let (second, left) ← readTest fuel 1 others
          return (.both first second, left)
      | _ => do
          let (second, left) ← readTest fuel 1 rest
          return (.both first second, left)
  | fuel + 1, _, word :: rest => do
      if word = ['!'] ∨ word = "-not".toList then
        let (inner, left) ← readTest fuel 2 rest
        return (.negation inner, left)
      else if word = ['('] then
        let (inner, left) ← readTest fuel 0 rest
        match left with
        | [')'] :: others => return (inner, others)
        | _ => throw .invalid
      else singleTest word rest

def FileTest.acts : FileTest → Bool
  | .print _ | .printing _ | .run _ | .runOnce _ | .delete => true
  | .negation inner => inner.acts
  | .both first second | .either first second => first.acts || second.acts
  | _ => false

def FileTest.finalCommands : FileTest → List (List (List Char))
  | .runOnce words => [words]
  | .negation inner => inner.finalCommands
  | .both first second | .either first second => first.finalCommands ++ second.finalCommands
  | _ => []

/-- A file that is found: its path, the path of the start, and what it is. -/
structure FoundFile where
  path : List Char
  start : List Char
  node : Node

def foundText (file : FoundFile) : List Char → List Char
  | '%' :: letter :: rest =>
      let text : List Char :=
        match letter with
        | 'p' => file.path
        | 'f' => lastComponent file.path
        | 'P' => (file.path.drop file.start.length).dropWhile (· = '/')
        | 'h' =>
            let front := (file.path.reverse.dropWhile (· ≠ '/')).drop 1
            if front = [] then ['.'] else front.reverse
        | 's' =>
            match file.node with
            | .file contents _ => digitsOfNat (bytesIn contents).length
            | .directory => "4096".toList
        | 'y' => if file.node = .directory then ['d'] else ['f']
        | '%' => ['%']
        | c => ['%', c]
      text ++ foundText file rest
  | '\\' :: 'n' :: rest => '\n' :: foundText file rest
  | '\\' :: 't' :: rest => '\t' :: foundText file rest
  | '\\' :: '0' :: rest => Char.ofNat 0 :: foundText file rest
  | '\\' :: '\\' :: rest => '\\' :: foundText file rest
  | c :: rest => c :: foundText file rest
  | [] => []

def fitsPattern (pattern text : List Char) : Bool :=
  Pattern.covers (Pattern.ofMarked (pattern.map fun c => (c, false))) text

/-- What a condition comes to for a file: whether it holds, whether what lies in the file is
left out, and whether the search ends. -/
structure Verdict where
  holds : Bool
  cutsOff : Bool := false
  finishes : Bool := false

/-- A condition without connectives holds for a file. What it says is done. -/
def FileTest.holdsAlone (launch : Launch) (file : FoundFile) : FileTest → Execution Bool
  | .always => return true
  | .hasName pattern ignoresCase =>
      let name := lastComponent file.path
      return if ignoresCase then fitsPattern (pattern.map Char.toLower) (name.map Char.toLower)
        else fitsPattern pattern name
  | .hasPath pattern => return fitsPattern pattern file.path
  | .hasType letter => return (letter = 'd') = (file.node = .directory) ∧ letter ≠ 'l'
  | .isEmpty => do
      match file.node with
      | .file contents _ => return (bytesIn contents).isEmpty
      | .directory =>
          match ← look file.path with
          | .ok (location, _) => return ((← machine).namesIn location).isEmpty
          | .error _ => return false
  | .hasSize order count unit => do
      let bytes : Nat :=
        match file.node with
        | .file contents _ => (bytesIn contents).length
        | .directory => 4096
      let size : Nat := if unit = 'c' then 1 else if unit = 'k' then 1024
        else if unit = 'M' then 1048576 else 512
      return compare ((bytes + size - 1) / size) count = order
  | .mayRun =>
      match file.node with
      | .file _ isExecutable => return isExecutable
      | .directory => return true
  | .print ending => do
      let _ ← say (file.path ++ [ending])
      return true
  | .printing format => do
      let _ ← say (foundText file format)
      return true
  | .run words => do
      let filled := words.map fun word =>
        withMarkFilled ['\x7b', '\x7d'] file.path (word.length + 1) word
      match ← launch filled with
      | .ok ending => return ending.status = 0
      | .error fault => do
          complain "find".toList
            (shown (filled.headD []) ++ [':', ' '] ++ fault.reason.toList)
          return false
  | .delete => do
      match ← look file.path with
      | .ok (location, _) => do
          alterMachine fun machine => machine.remove location
          return true
      | .error _ => return true
  | _ => return true

/-- What a condition comes to for a file. All is done that it says. -/
def FileTest.verdict (launch : Launch) (file : FoundFile) : FileTest → Execution Verdict
  | .negation inner => do
      let found ← inner.verdict launch file
      return { found with holds := !found.holds }
  | .both first second => do
      let left ← first.verdict launch file
      if left.holds ∧ ¬ left.finishes then
        let right ← second.verdict launch file
        return { right with cutsOff := left.cutsOff || right.cutsOff }
      else return left
  | .either first second => do
      let left ← first.verdict launch file
      if left.holds ∨ left.finishes then return left
      else
        let right ← second.verdict launch file
        return { right with cutsOff := left.cutsOff || right.cutsOff }
  | .cutOff => return { holds := true, cutsOff := true }
  | .finish => return { holds := true, finishes := true }
  | single => do return { holds := ← single.holdsAlone launch file }

/-- Visit files one after the other, except those in files that are left out. The answer is
the paths of those that fulfil the condition. -/
def visit (launch : Launch) (test : FileTest) (mayCut : Bool) (start : List Char) :
    Nat → List (List Char × Node) → Execution (List (List Char) × Bool)
  | 0, _ | _ + 1, [] => return ([], false)
  | fuel + 1, (path, node) :: rest => do
      let verdict ← test.verdict launch ⟨path, start, node⟩
      let kept := if verdict.holds then [path] else []
      if verdict.finishes then return (kept, true)
      else
        let inside := path ++ ['/']
        let others :=
          if verdict.cutsOff && mayCut then
            rest.filter fun entry => entry.1.take inside.length ≠ inside
          else rest
        let (found, isFinished) ← visit launch test mayCut start fuel others
        return (kept ++ found, isFinished)

def depthOption? (option : String) : List (List Char) → Option Nat
  | word :: value :: rest =>
      if word = option.toList then natural? value else depthOption? option (value :: rest)
  | _ => none

def find (launch : Launch) : Utility := fun name arguments => do
  let isPath (word : List Char) : Bool :=
    word.head? ≠ some '-' && word ≠ ['!'] && word ≠ ['(']
  let leading := arguments.takeWhile isPath
  let words := arguments.drop leading.length
  let starts := if leading.isEmpty then [['.']] else leading
  let fuel := 3 * words.length + 3
  match if words.isEmpty then Except.ok (FileTest.always, []) else readTest fuel 0 words with
  | .error (.unknown word) => do
      let isOption : Bool := word.head? = some '-'
      if isOption then
        complain name ("unknown predicate ".toList ++ Char.ofNat 0x60 :: word ++ ['\''])
      else do
        complain name
          ("paths must precede expression: ".toList ++ Char.ofNat 0x60 :: word ++ ['\''])
      return 1
  | .error (.missing word) => do
      complain name ("missing argument to ".toList ++ Char.ofNat 0x60 :: word ++ ['\''])
      return 1
  | .error (.noKind word letter) => do
      complain name ("Unknown argument to ".toList ++ word ++ [':', ' '] ++ letter)
      return 1
  | .error .invalid => do
      complain name "invalid expression".toList
      return 1
  | .ok (test, _) => do
      let full := if test.acts then test else .both test (.print '\n')
      let most := depthOption? "-maxdepth" words
      let least := (depthOption? "-mindepth" words).getD 0
      let deepFirst := words.contains "-delete".toList || words.contains "-depth".toList
      let mut status := 0
      let mut kept : List (List Char) := []
      let mut isFinished := false
      for start in starts do
        match ← look start with
        | .error kind => do
            complain name (shown start ++ [':', ' '] ++ (reason kind).toList)
            status := 1
        | .ok (location, _) => do
            let all := below (← machine) 100 start location
            let level (path : List Char) : Nat :=
              ((path.drop start.length).filter (· = '/')).length
                + (if start.getLast? = some '/' ∧ path.length > start.length then 1 else 0)
            let inDepth := all.filter fun entry =>
              decide (least ≤ level entry.1)
                && ((most.map fun bound => decide (level entry.1 ≤ bound)).getD true)
            if ¬ isFinished then
              let (found, isLast) ←
                visit launch full (!deepFirst) start (inDepth.length + 1)
                  (if deepFirst then inDepth.reverse else inDepth)
              kept := kept ++ found
              isFinished := isLast
      for command in full.finalCommands do
        let filled := command.flatMap fun word => if word = ['\x7b', '\x7d'] then kept else [word]
        if ¬ kept.isEmpty then
          match ← launch filled with
          | .ok ending => if ending.status ≠ 0 then status := 1
          | .error fault => do
              complain name (shown (filled.headD []) ++ [':', ' '] ++ fault.reason.toList)
              status := 1
      return status

end PartitionBench.Host.Utility
