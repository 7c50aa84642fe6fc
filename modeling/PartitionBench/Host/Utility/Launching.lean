import PartitionBench.Host.Utility.Surroundings

/-!
Contract: programs that run other programs.

Owns: running with other variables, with arguments from the input, and under limits that
nothing here reaches.

Does not own: how a program is run (`Host.Program`).
-/

namespace PartitionBench.Host.Utility

open Execution

def endAs (ending : Ending) : Execution Nat := do
  match ending with
  | .exited status => return status
  | .killed signal => throw (.dies signal)

/-- Run a command in the place of the program. `refuse` writes the message if there is no
such command. -/
def becoming (launch : Launch) (words : List (List Char))
    (refuse : ExecuteFault → Execution Unit) : Execution Nat := do
  match ← launch words with
  | .ok ending => endAs ending
  | .error fault => do
      refuse fault
      return if fault.isMissing then 127 else 126

/-- What programs say when they cannot run a command. -/
def failedToRun (name command : List Char) (fault : ExecuteFault) : Execution Unit :=
  complain name ("failed to run command ".toList ++ shown command ++ [':', ' ']
    ++ fault.reason.toList)

/-! ## Variables -/

/-- The words of a text in which quotes and backslashes protect blanks. `word` is what has
been read of a word, if one has begun. -/
def quotedWords (word : Option (List Char)) : List Char → List (List Char)
  | [] => word.toList
  | c :: rest =>
      if c = ' ' ∨ c = '\t' ∨ c = '\n' then
        match word with
        | some text => text :: quotedWords none rest
        | none => quotedWords none rest
      else if c = '\'' ∨ c = '"' then
        let inner := rest.takeWhile (· ≠ c)
        quotedWords (some ((word.getD []) ++ inner)) (rest.drop (inner.length + 1))
      else if c = '\\' then
        match rest with
        | d :: behind => quotedWords (some ((word.getD []) ++ [d])) behind
        | [] => quotedWords word []
      else quotedWords (some ((word.getD []) ++ [c])) rest
termination_by text => text.length
decreasing_by all_goals grind

/-- How a program is to be run with other variables. -/
structure Setting where
  isEmpty : Bool := false
  removed : List (List Char) := []
  added : List (List Char × List Char) := []
  directory : Option (List Char) := none

/-- What is wrong with the arguments of a program that sets variables. -/
inductive SettingFault where
  | unknown (letter : Char)
  | unknownLong (option : List Char)
  | missing (letter : Char)

/-- The setting that arguments ask for, and the command. -/
def readSetting (setting : Setting) : Nat → List (List Char) →
    Except SettingFault (Setting × List (List Char))
  | 0, words => .ok (setting, words)
  | _ + 1, [] => .ok (setting, [])
  | fuel + 1, argument :: rest =>
      match argument with
      | ['-'] | ['-', 'i'] => readSetting { setting with isEmpty := true } fuel rest
      | ['-', '-'] => .ok (readAssignments setting rest)
      | ['-', 'v'] | ['-', '0'] => readSetting setting fuel rest
      | ['-', 'u'] =>
          match rest with
          | name :: others =>
              readSetting { setting with removed := name :: setting.removed } fuel others
          | [] => .error (.missing 'u')
      | ['-', 'C'] =>
          match rest with
          | path :: others => readSetting { setting with directory := some path } fuel others
          | [] => .error (.missing 'C')
      | '-' :: 'u' :: name =>
          readSetting { setting with removed := name :: setting.removed } fuel rest
      | ['-', 'S'] | ['-', 'v', 'S'] =>
          match rest with
          | text :: others => readSetting setting fuel (quotedWords none text ++ others)
          | [] => .error (.missing 'S')
      | '-' :: 'S' :: text => readSetting setting fuel (quotedWords none text ++ rest)
      | '-' :: 'v' :: 'S' :: text => readSetting setting fuel (quotedWords none text ++ rest)
      | '-' :: '-' :: name =>
          if name = "ignore-environment".toList then
            readSetting { setting with isEmpty := true } fuel rest
          else .error (.unknownLong argument)
      | '-' :: letter :: _ => .error (.unknown letter)
      | _ => .ok (readAssignments setting (argument :: rest))
where
  readAssignments (setting : Setting) : List (List Char) → Setting × List (List Char)
    | [] => (setting, [])
    | word :: rest =>
        if word.contains '=' then
          let name := word.takeWhile (· ≠ '=')
          readAssignments
            { setting with added := setting.added ++ [(name, word.drop (name.length + 1))] } rest
        else (setting, word :: rest)

/-- Run a command with other variables, or print them. -/
def environment (launch : Launch) : Utility := fun name arguments => do
  match readSetting {} (2 * arguments.flatten.length + arguments.length + 2) arguments with
  | .error (.unknown letter) => do
      complain name ("invalid option -- ".toList ++ shown [letter])
      hint name
      return 125
  | .error (.unknownLong option) => do
      complain name ("unrecognized option ".toList ++ shown option)
      hint name
      return 125
  | .error (.missing letter) => do
      complain name ("option requires an argument -- ".toList ++ shown [letter])
      hint name
      return 125
  | .ok (setting, words) => do
      if setting.isEmpty then alter fun process => { process with bindings := [] }
      for removed in setting.removed do
        dropVariable removed
      for entry in setting.added do
        putVariable entry.1 { value := some entry.2, isExported := true }
      match setting.directory with
      | none => pure ()
      | some path =>
          match ← look path with
          | .ok (location, .directory) => alter fun process => { process with location }
          | _ => pure ()
      match words with
      | [] => printVariables name []
      | command :: _ =>
          becoming launch words fun fault => do
            complain name (shown command ++ [':', ' '] ++ fault.reason.toList)
            if command.contains ' ' ∧ fault.isMissing then
              complain name "use -[v]S to pass options in shebang lines".toList

/-! ## Limits that are not reached -/

/-- Run a command that may take no longer than some time. -/
def withTimeLimit (launch : Launch) : Utility := fun name arguments =>
  withArguments
    { flags := "fpv", valued := "ks", stopsAtOperand := true
      long := [("preserve-status", 'p'), ("foreground", 'f'), ("signal", 's'),
        ("kill-after", 'k'), ("verbose", 'v')] }
    name arguments 125
    fun _ operands => do
      match operands with
      | span :: command :: rest =>
          if isSpan span then becoming launch (command :: rest) (failedToRun name command)
          else do
            complain name ("invalid time interval ".toList ++ shown span)
            hint name
            return 125
      | _ => do
          hint name
          return 125

def unhindered (launch : Launch) : Utility := fun name arguments => do
  let words := if arguments.head? = some ['-', '-'] then arguments.tail else arguments
  match words with
  | [] => do
      complain name "missing operand".toList
      hint name
      return 125
  | command :: _ => becoming launch words (failedToRun name command)

def yielding (launch : Launch) : Utility := fun name arguments =>
  withArguments { valued := "n", number := some 'n', stopsAtOperand := true } name arguments 125
    fun _ operands => do
      match operands with
      | [] => print "0\n".toList 0
      | command :: _ =>
          becoming launch operands fun fault =>
            complain name (shown command ++ [':', ' '] ++ fault.reason.toList)

/-! ## Arguments from the input -/

/-- Run a command for a list of arguments. The answer is a status, and whether to go on. -/
def runBatch (launch : Launch) (name : List Char) (tells : Bool) (words : List (List Char)) :
    Execution (Nat × Bool) := do
  if tells then warn (List.intercalate [' '] words ++ ['\n'])
  match ← launch words with
  | .ok (.exited 0) => return (0, true)
  | .ok (.exited 255) => do
      complain name (words.headD [] ++ ": exited with status 255; aborting".toList)
      return (124, false)
  | .ok (.exited _) => return (123, true)
  | .ok (.killed signal) => do
      complain name (words.headD [] ++ ": terminated by signal ".toList ++ digitsOfNat signal)
      return (125, false)
  | .error fault => do
      complain name (words.headD [] ++ [':', ' '] ++ fault.reason.toList)
      return (if fault.isMissing then 127 else 126, false)

/-- Run commands one after the other. The answer is the last status that is not zero. -/
def runBatches (launch : Launch) (name : List Char) (tells : Bool) (status : Nat) :
    List (List (List Char)) → Execution Nat
  | [] => return status
  | words :: rest => do
      let (later, goesOn) ← runBatch launch name tells words
      let settled := if later = 0 then status else later
      if goesOn then runBatches launch name tells settled rest else return settled

/-- The items in a text, in which quotes and backslashes protect blanks, up to a quote that
has no end on its line. `item` is what has been read of an item, if one has begun. -/
def inputItems (splits : Bool) (item : Option (List Char)) :
    List Char → List (List Char) × Option Char
  | [] => (item.toList, none)
  | c :: rest =>
      let isEnd : Bool := c = '\n' || (splits && (c = ' ' || c = '\t'))
      if isEnd then
        let (items, fault) := inputItems splits none rest
        (item.toList ++ items, fault)
      else if c = '\'' ∨ c = '"' then
        let inner := rest.takeWhile fun d => d ≠ c && d ≠ '\n'
        if (rest.drop inner.length).head? = some c then
          inputItems splits (some ((item.getD []) ++ inner)) (rest.drop (inner.length + 1))
        else ([], some c)
      else if c = '\\' then
        match rest with
        | d :: behind => inputItems splits (some ((item.getD []) ++ [d])) behind
        | [] => (item.toList, none)
      else if item = none ∧ (c = ' ' ∨ c = '\t') then inputItems splits none rest
      else inputItems splits (some ((item.getD []) ++ [c])) rest
termination_by text => text.length
decreasing_by all_goals grind

/-- The report on a quote that has no end. -/
def quoteReport (quote : Char) : List Char :=
  "unmatched ".toList ++ (if quote = '"' then "double" else "single").toList
    ++ (" quote; by default quotes are special to xargs unless you use the -0 option").toList

/-- A text with each place of a mark filled by another text. -/
def withMarkFilled (mark filling : List Char) : Nat → List Char → List Char
  | 0, text => text
  | _ + 1, [] => []
  | fuel + 1, c :: rest =>
      match Text.dropOpening? mark (c :: rest) with
      | some behind => filling ++ withMarkFilled mark filling fuel behind
      | none => c :: withMarkFilled mark filling fuel rest

/-- Items in groups of at most a number. -/
def groupsOf {α : Type} (size : Nat) : Nat → List α → List (List α)
  | 0, items => [items]
  | fuel + 1, items =>
      if items.length ≤ size ∨ size = 0 then [items]
      else items.take size :: groupsOf size fuel (items.drop size)

/-- The character that a value names as what stands between items. -/
def delimiterOf (value : List Char) : Char :=
  match value with
  | '\\' :: 'n' :: _ => '\n'
  | '\\' :: 't' :: _ => '\t'
  | '\\' :: '0' :: _ => Char.ofNat 0
  | c :: _ => c
  | [] => '\n'

def withInputArguments (launch : Launch) : Utility := fun name arguments =>
  withArguments
    { flags := "0rtpxo", valued := "nILdPsEa", stopsAtOperand := true
      long := [("null", '0'), ("no-run-if-empty", 'r'), ("verbose", 't'), ("max-args", 'n'),
        ("delimiter", 'd'), ("arg-file", 'a'), ("max-lines", 'L'), ("replace", 'I'),
        ("max-procs", 'P'), ("exit", 'x')] }
    name arguments 1 fun options operands => do
      let source := (valueOf? options 'a').getD ['-']
      match ← inputOf source with
      | .error fault => do
          complain name ("Cannot open input file ".toList ++ shown source ++ [':', ' ']
            ++ fault.reason.toList)
          return 1
      | .ok input => do
          let command := if operands.isEmpty then ["echo".toList] else operands
          let delimiter : Option Char :=
            if has options '0' then some (Char.ofNat 0)
            else (valueOf? options 'd').map delimiterOf
          let mark := valueOf? options 'I'
          let (items, fault) : List (List Char) × Option Char :=
            match delimiter with
            | some c =>
                let all := Text.pieces c input
                (if all.getLast? = some [] then all.dropLast else all, none)
            | none => inputItems mark.isNone none input
          let batches : List (List (List Char)) :=
            match mark, (valueOf? options 'n').bind natural?, valueOf? options 'L' with
            | some mark, _, _ =>
                items.map fun item =>
                  command.map fun word => withMarkFilled mark item (word.length + 1) word
            | none, some size, _ => (groupsOf size items.length items).map (command ++ ·)
            | none, none, some _ =>
                (((linesOf input).1.filter (· ≠ [])).map fun line =>
                  command ++ (inputItems true none line).1)
            | none, none, none => [command ++ items]
          if items.isEmpty ∧ (has options 'r' ∨ fault.isSome) then
            match fault with
            | some quote => do
                complain name (quoteReport quote)
                return 1
            | none => return 0
          else do
            let status ← runBatches launch name (has options 't') 0 batches
            match fault with
            | some quote => do
                complain name (quoteReport quote)
                return 1
            | none => return status

end PartitionBench.Host.Utility
