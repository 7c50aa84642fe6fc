import PartitionBench.Host.Script.Execution

/-!
Contract: starting a shell.

Owns:
- the options of a shell, and where it takes its script from: an argument, a file or the
  input;
- the variables that a shell starts with;
- what it says of options and scripts that are wrong.

Does not own: running the script (`Script.Execution`).
-/

namespace PartitionBench.Host.Shell

open Execution
open Script (Dialect Runner utf8)

inductive Origin where
  | argument
  | file
  | input
  deriving DecidableEq

structure Startup where
  origin : Origin := .file
  /-- The long names of options, each with whether it is set. -/
  named : List (Bool × List Char) := []

/-- What comes of the options of a shell: the words behind them, or the status with which
the shell ends. -/
abbrev Options := Except Nat (Startup × List (List Char))

def refuse (dialect : Dialect) (name message : List Char) (status : Nat) : Execution Options := do
  let place : String := if dialect = .standard then ": 0: " else ": "
  warn (name ++ utf8 place ++ message ++ ['\n'])
  return .error status

def usage (name : List Char) : List Char :=
  utf8 "Usage:\t" ++ name ++ utf8 " [GNU long option] [option] ...\n\t" ++ name
    ++ utf8 (" [GNU long option] [option] script-file ...\nGNU long options:\n\t--debug\n"
      ++ "\t--debugger\n\t--dump-po-strings\n\t--dump-strings\n\t--help\n\t--init-file\n"
      ++ "\t--login\n\t--noediting\n\t--noprofile\n\t--norc\n\t--posix\n\t--pretty-print\n"
      ++ "\t--rcfile\n\t--restricted\n\t--verbose\n\t--version\nShell options:\n"
      ++ "\t-ilrsD or -c command or -O shopt_option\t\t(invocation only)\n"
      ++ "\t-abefhkmnptuvxBCEHPT or -o option\n")

/-- Long options of the extended shell that change nothing here. -/
def idleLongOptions : List String :=
  ["--norc", "--noprofile", "--posix", "--login", "--noediting", "--restricted", "--debugger"]

/-- Report a letter that is no option. -/
def refuseLetter (dialect : Dialect) (name : List Char) (sign letter : Char) :
    Execution Options := do
  match dialect with
  | .standard => refuse dialect name (utf8 "Illegal option -" ++ [letter]) 2
  | .extended => do
      let endsAtOnce ← hasFlag 'e'
      let _ ← refuse dialect name ([sign, letter] ++ utf8 ": invalid option") 2
      if endsAtOnce then return .error 1
      else do
        warn (usage name)
        return .error 2

/-- Read the letters of an option. `next` goes on with the arguments that are left. -/
def readLetters (dialect : Dialect) (name : List Char) (isOn : Bool)
    (next : Startup → List (List Char) → Execution Options) :
    Startup → List (List Char) → List Char → Execution Options
  | startup, rest, [] => next startup rest
  | startup, rest, letter :: letters => do
      match letter, rest with
      | 'c', _ =>
        readLetters dialect name isOn next { startup with origin := .argument } rest letters
      | 's', _ =>
          let origin : Origin := if startup.origin = .argument then .argument else .input
          readLetters dialect name isOn next { startup with origin } rest letters
      | 'o', long :: others =>
          readLetters dialect name isOn next
            { startup with named := startup.named ++ [(isOn, long)] } others letters
      | 'o', [] => next startup []
      | 'l', _ => readLetters dialect name isOn next startup rest letters
      | _, _ =>
          let isKnown : Bool :=
            (Script.Builtin.optionLetters dialect).toList.contains letter
              || (dialect = .extended && (letter = 'r' || letter = 'i' || letter = 'D'))
          if isKnown then do
            Script.Builtin.setFlag isOn letter
            readLetters dialect name isOn next startup rest letters
          else if letter = 'O' ∧ dialect = .extended then
            readLetters dialect name isOn next startup rest.tail letters
          else refuseLetter dialect name (if isOn then '-' else '+') letter

def readOptions (dialect : Dialect) (name : List Char) :
    Nat → Startup → List (List Char) → Execution Options
  | 0, startup, words => return .ok (startup, words)
  | _ + 1, startup, [] => return .ok (startup, [])
  | fuel + 1, startup, word :: rest =>
      match word with
      | ['-'] | ['-', '-'] => return .ok (startup, rest)
      | '-' :: '-' :: _ =>
          match dialect with
          | .standard => refuseLetter dialect name '-' '-'
          | .extended =>
              let option := String.ofList word
              if idleLongOptions.contains option then readOptions dialect name fuel startup rest
              else if option = "--rcfile" ∨ option = "--init-file" then
                readOptions dialect name fuel startup rest.tail
              else if option = "--verbose" then do
                Script.Builtin.setFlag true 'v'
                readOptions dialect name fuel startup rest
              else do
                let _ ← refuse dialect name (word ++ utf8 ": invalid option") 2
                warn (usage name)
                return .error 2
      | '-' :: letters =>
          readLetters dialect name true (readOptions dialect name fuel) startup rest letters
      | '+' :: letters =>
          readLetters dialect name false (readOptions dialect name fuel) startup rest letters
      | _ => return .ok (startup, word :: rest)

/-- Set the options that are given by their names. The answer is a status if the shell ends
because there is none of a name. -/
def setNamed (dialect : Dialect) (name : List Char) :
    List (Bool × List Char) → Execution (Option Nat)
  | [] => return none
  | (isOn, long) :: rest => do
      if ← Script.Builtin.setNamed isOn long then setNamed dialect name rest
      else
        match dialect with
        | .standard => do
            let _ ← refuse dialect name (utf8 "Illegal option -o " ++ long) 2
            return some 2
        | .extended => do
            warn (name ++ utf8 ": line 0: " ++ name ++ utf8 ": " ++ long
              ++ utf8 ": invalid option name\n")
            return some 2

/-! ## Variables -/

def extendedVariables (name : List Char) : List (List Char × List Char) :=
  [("BASH", utf8 "/usr/bin/" ++ name), ("BASH_VERSION", utf8 "5.2.15(1)-release"),
    ("DIRSTACK", []), ("EUID", ['0']), ("HOSTNAME", utf8 "localhost"),
    ("HOSTTYPE", utf8 "x86_64"), ("MACHTYPE", utf8 "x86_64-pc-linux-gnu"), ("OPTERR", ['1']),
    ("OSTYPE", utf8 "linux-gnu"), ("PS4", ['+', ' ']), ("UID", ['0'])].map
      fun entry => (utf8 entry.1, entry.2)

/-- Variables that the extended shell sets at its start if they are missing. -/
def missingVariables : List (List Char × List Char) :=
  [("PATH", "/usr/local/sbin:/usr/local/bin:/usr/sbin:/usr/bin:/sbin:/bin"), ("TERM", "dumb"),
    ("SHELL", "/bin/bash")].map fun entry => (utf8 entry.1, utf8 entry.2)

def standardVariables : List (List Char × List Char) :=
  [("PS1", "# "), ("PS2", "> "), ("PS4", "+ ")].map fun entry => (utf8 entry.1, utf8 entry.2)

def setVariables (dialect : Dialect) (name : List Char) : Execution Unit := do
  let location := pathOf (← process).location
  setValue (utf8 "IFS") Script.usualSeparators
  setValue (utf8 "OPTIND") ['1']
  putVariable (utf8 "PWD") { value := some location, isExported := true }
  match dialect with
  | .standard => do
      for entry in standardVariables do
        setValue entry.1 entry.2
      if (← value? searchVariable.toList).isNone then
        setValue searchVariable.toList usualSearchPath
  | .extended => do
      for entry in extendedVariables name do
        setValue entry.1 entry.2
      for entry in missingVariables do
        if (← value? entry.1).isNone then setValue entry.1 entry.2
      let level := ((← value? (utf8 "SHLVL")).bind natural?).getD 0
      putVariable (utf8 "SHLVL") { value := some (digitsOfNat (level + 1)), isExported := true }

/-- The process of a shell that has just been started: of what its caller had, it keeps the
place, the descriptors, the exported variables and the signals that are ignored. -/
def fresh (dialect : Dialect) (path : List Char) (number : Nat) (outer : Process) : Process :=
  { dialect, path
    arguments := []
    bindings := outer.bindings.filter fun entry =>
      entry.2.isExported && entry.2.value.isSome
    functions := []
    flags := []
    failsByPipe := false
    status := 0
    substituted := 0
    location := outer.location
    descriptors := outer.descriptors
    traps := outer.traps.filter fun entry => entry.2.isEmpty
    line := 1
    messageLine := 1
    lineShift := 0
    speaker := none
    textName := none
    number
    parent := outer.number
    background := none
    backgroundStatus := 0
    frames := []
    functionDepth := 0
    loopDepth := 0
    sourceDepth := 0
    documents := []
    nextDocument := 0
    shortcuts := []
    remembered := []
    settings := []
    optionPlace := 0
    mask := outer.mask }

/-! ## Scripts -/

def runScript (runner : Runner) (text : List Char) : Execution Ending :=
  runner.conclude (runner.text text 1 false)

/-- Run a text that stands in an argument. A fault that ends the extended shell has a status
of its own there. -/
def runArgument (runner : Runner) (text : List Char) : Execution Ending :=
  runner.conclude do
    let isExtended := (← process).dialect = .extended
    match ← attempt (runner.text text 1 false) with
    | .error (.fails status) => throw (.fails (if isExtended then 127 else status))
    | result => resume result

/-- The path of a script, which the extended shell looks for along the search path if there
is no such file. -/
def scriptPath (dialect : Dialect) (file : List Char) : Execution (List Char) := do
  match dialect, ← look file with
  | .standard, _ | _, .ok _ => return file
  | .extended, .error _ =>
      if file.contains '/' then return file
      else
        match ← findCommand file with
        | .ok path => return path
        | .error _ => return file

def runFile (runner : Runner) (dialect : Dialect) (name file : List Char)
    (arguments : List (List Char)) : Execution Ending := do
  let path ← scriptPath dialect file
  match dialect, ← readFile path with
  | _, .ok text => do
      if dialect = .extended ∧ looksBinary text then
        warn (path ++ utf8 ": " ++ path ++ utf8 ": cannot execute binary file\n")
        return .exited 126
      else do
        alter fun process => { process with path, arguments }
        if dialect = .extended then
          putVariable (utf8 "BASH_SOURCE") { items := some [(['0'], path)] }
        runScript runner text
  | .standard, .error (.path .isDirectory) => return .exited 0
  | .standard, .error fault => do
      warn (name ++ utf8 ": 0: " ++ Script.Runner.openMessage .standard .read path fault ++ ['\n'])
      return .exited 2
  | .extended, .error (.path .isDirectory) => do
      warn (path ++ utf8 ": " ++ path ++ utf8 ": Is a directory\n")
      return .exited 126
  | .extended, .error fault => do
      warn (name ++ utf8 ": " ++ path ++ utf8 (": " ++ fault.reason) ++ ['\n'])
      return .exited (if fault = .path .notFound then 127 else 126)

def runStartup (runner : Runner) (dialect : Dialect) (name : List Char) (startup : Startup)
    (words : List (List Char)) : Execution Ending := do
  match startup.origin, words with
  | .argument, [] => do
      let message : String :=
        if dialect = .standard then ": 0: -c requires an argument\n"
        else ": -c: option requires an argument\n"
      warn (name ++ utf8 message)
      return .exited 2
  | .argument, text :: rest => do
      alter fun process =>
        { process with
          path := rest.headD name
          arguments := rest.tail
          textName := some ['-', 'c'] }
      runArgument runner text
  | .file, file :: arguments => runFile runner dialect name file arguments
  | _, arguments => do
      alter fun process => { process with arguments }
      runScript runner (← readAll 0)

/-- Start a shell under a name with arguments, as a process of its own. -/
def start (runner : Runner) (dialect : Dialect) (name : List Char)
    (arguments : List (List Char)) : Execution Ending := do
  let number := (← machine).nextProcess
  alterMachine fun machine => { machine with nextProcess := number + 1 }
  let result ← apart do
    alter (fresh dialect name number)
    setVariables dialect (bytesOf "sh")
    if dialect = .extended then
      for flag in ['B', 'h'] do
        Script.Builtin.setFlag true flag
    match ← readOptions dialect name (arguments.length + 1) {} arguments with
    | .error status => return .exited status
    | .ok (startup, words) => do
        match ← setNamed dialect name startup.named with
        | some status => return .exited status
        | none => runStartup runner dialect name startup words
  match result with
  | .ok ending => return ending
  | .error (.dies signal) => return .killed signal
  | .error _ => return .exited 2

end PartitionBench.Host.Shell
