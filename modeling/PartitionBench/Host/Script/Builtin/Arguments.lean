import PartitionBench.Host.Script.Builtin.Variables

/-!
Contract: commands of the shell that concern the arguments and options of a script.

Owns: dropping and replacing arguments, reading options from them, and setting options of
the shell.

Does not own: options of single commands (`Builtin.Options`).
-/

namespace PartitionBench.Host.Script.Builtin

open Execution

/-- The number that an argument is, or the fault of one that is none. -/
def numberArgument (argument : List Char) (status : Nat) : Execution (Except Nat Nat) := do
  match natural? argument with
  | some number => return .ok number
  | none =>
      match (← process).dialect with
      | .standard => do
          report (utf8 "Illegal number: " ++ argument)
          throw (.fails 2)
      | .extended => do
          report (argument ++ utf8 ": numeric argument required")
          return .error status

def shift : Builtin := fun _ arguments => do
  let wanted ←
    match arguments with
    | [] => pure (Except.ok 1)
    | argument :: _ => numberArgument argument 1
  match wanted with
  | .error status => return status
  | .ok count =>
      let process ← process
      if process.arguments.length < count then
        match process.dialect with
        | .standard => do
            report (utf8 "can't shift that many")
            throw (.fails 2)
        | .extended => return 1
      else do
        alter fun process => { process with arguments := process.arguments.drop count }
        return 0

def optionNames : List (String × Char) :=
  [("errexit", 'e'), ("noglob", 'f'), ("ignoreeof", 'I'), ("interactive", 'i'), ("monitor", 'm'),
    ("noexec", 'n'), ("stdin", 's'), ("xtrace", 'x'), ("verbose", 'v'), ("vi", 'V'),
    ("emacs", 'E'), ("noclobber", 'C'), ("allexport", 'a'), ("notify", 'b'), ("nounset", 'u')]

/-- Options of the extended dialect that change nothing here. -/
def idleOptions : List String :=
  ["braceexpand", "errtrace", "functrace", "hashall", "histexpand", "history",
    "interactive-comments", "keyword", "nolog", "onecmd", "physical", "posix", "privileged",
    "debug"]

def setFlag (isOn : Bool) (flag : Char) : Execution Unit :=
  alter fun process =>
    let others := process.flags.filter (· ≠ flag)
    { process with flags := if isOn then flag :: others else others }

/-- Set or clear an option by its name. The answer tells whether there is one. -/
def setNamed (isOn : Bool) (name : List Char) : Execution Bool := do
  let text := String.ofList name
  match optionNames.find? fun entry => entry.1 = text with
  | some (_, flag) => do
      setFlag isOn flag
      return true
  | none =>
      if ← isExtended then
        if text = "pipefail" then
          alter fun process => { process with failsByPipe := isOn }
          return true
        else return idleOptions.contains text
      else return text = "nolog" ∨ text = "debug"

def optionLetters : Dialect → String
  | .standard => "efIimnsxvVECabu"
  | .extended => "abefhkmnptuvxBCEHPT"

/-- What is said of an option that there is none of. -/
def refuseOption (standard extended : List Char) : Execution Nat := do
  match (← process).dialect with
  | .standard => do
      report standard
      throw (.fails 2)
  | .extended => do
      report extended
      return 2

/-- Set options by letters. `next` goes on with the arguments that are left. -/
def setLetters (isOn : Bool) (rest : List (List Char))
    (next : List (List Char) → Execution Nat) : List Char → Execution Nat
  | [] => next rest
  | 'o' :: letters => do
      match rest with
      | name :: others => do
          if ← setNamed isOn name then setLettersBehind isOn others next letters
          else
            refuseOption (utf8 "Illegal option -o " ++ name) (name ++ utf8 ": invalid option name")
      | [] => next []
  | letter :: letters => do
      if (optionLetters (← process).dialect).toList.contains letter then
        setFlag isOn letter
        setLetters isOn rest next letters
      else
        let sign : Char := if isOn then '-' else '+'
        let status ← refuseOption (utf8 "Illegal option -" ++ [letter])
          ([sign, letter] ++ utf8 ": invalid option")
        warn (utf8 ("set: usage: set [-abefhkmnptuvxBCEHPT] [-o option-name] [--] [-] [arg ...]\n"))
        return status
where
  setLettersBehind (isOn : Bool) (rest : List (List Char))
      (next : List (List Char) → Execution Nat) : List Char → Execution Nat
    | [] => next rest
    | letter :: letters => do
        setFlag isOn letter
        setLettersBehind isOn rest next letters

def setArguments (arguments : List (List Char)) : Execution Nat := do
  alter fun process => { process with arguments }
  return 0

def setFrom : Nat → List (List Char) → Execution Nat
  | 0, _ => return 0
  | _ + 1, [] => return 0
  | fuel + 1, argument :: rest =>
      match argument with
      | ['-', '-'] => setArguments rest
      | ['-'] => do
          setFlag false 'x'
          setFlag false 'v'
          if rest.isEmpty then return 0 else setArguments rest
      | '-' :: letters => setLetters true rest (setFrom fuel) letters
      | '+' :: letters => setLetters false rest (setFrom fuel) letters
      | _ => setArguments (argument :: rest)

def set : Builtin := fun _ arguments => do
  match arguments with
  | [] => do
      let process ← process
      let valued := process.bindings.filterMap fun entry =>
        entry.2.value.map fun value => (entry.1, value)
      let sorted := valued.mergeSort fun a b => isBefore a.1 b.1
      let lines := sorted.map fun entry =>
        entry.1 ++ '=' ::
          (if process.dialect = .extended ∧ entry.2.all isSafe then entry.2
            else singleQuoted entry.2)
      print (ofLines lines) 0
  | [['-', 'o']] => do
      let process ← process
      let lines := optionNames.map fun entry =>
        utf8 entry.1 ++ List.replicate (16 - entry.1.length) ' '
          ++ utf8 (if process.flags.contains entry.2 then "on" else "off")
      print (ofLines (utf8 "Current option settings" :: lines)) 0
  | _ => setFrom (arguments.length + 1) arguments

def nextOption : Builtin := fun _ arguments => do
  match arguments with
  | known :: name :: given => do
      let process ← process
      let words := if given.isEmpty then process.arguments else given
      let isSilent := known.head? = some ':'
      let index := max 1 (((← value? "OPTIND".toList).bind natural?).getD 1)
      let word := words[index - 1]?
      let place := if process.optionPlace = 0 then 1 else process.optionPlace
      let finish (next : Nat) : Execution Nat := do
        assign name ['?']
        assign "OPTIND".toList (digitsOfNat next)
        alter fun process => { process with optionPlace := 0 }
        return 1
      match word with
      | some ('-' :: c :: letters) =>
          if c = '-' ∧ letters = [] then finish (index + 1)
          else
            match (c :: letters)[place - 1]? with
            | none => finish index
            | some letter => do
                let rest := (c :: letters).drop place
                let takesValue :=
                  match known.dropWhile (· ≠ letter) with
                  | _ :: ':' :: _ => true
                  | _ => false
                let advance (next later : Nat) : Execution Unit := do
                  assign "OPTIND".toList (digitsOfNat next)
                  alter fun process => { process with optionPlace := later }
                let moveOn : Execution Unit :=
                  if rest.isEmpty then advance (index + 1) 0 else advance index (place + 1)
                if letter = ':' ∨ ¬ known.contains letter then do
                  assign name ['?']
                  moveOn
                  if isSilent then assign "OPTARG".toList [letter]
                  else
                    dropVariable "OPTARG".toList
                    match process.dialect with
                    | .standard => warn (utf8 "Illegal option -" ++ [letter, '\n'])
                    | .extended =>
                        warn (process.path ++ utf8 ": illegal option -- " ++ [letter, '\n'])
                  return 0
                else if takesValue then
                  if ¬ rest.isEmpty then do
                    assign name [letter]
                    assign "OPTARG".toList rest
                    advance (index + 1) 0
                    return 0
                  else
                    match words[index]? with
                    | some value => do
                        assign name [letter]
                        assign "OPTARG".toList value
                        advance (index + 2) 0
                        return 0
                    | none => do
                        advance (index + 1) 0
                        if isSilent then
                          assign name [':']
                          assign "OPTARG".toList [letter]
                        else
                          assign name ['?']
                          dropVariable "OPTARG".toList
                          match process.dialect with
                          | .standard => warn (utf8 "No arg for -" ++ letter :: utf8 " option\n")
                          | .extended =>
                              warn (process.path ++ utf8 ": option requires an argument -- "
                                ++ [letter, '\n'])
                        return 0
                else do
                  assign name [letter]
                  moveOn
                  return 0
      | _ => finish index
  | _ =>
      match (← process).dialect with
      | .standard => refuseOrFail (utf8 "Usage: getopts optstring var [arg...]") [] 2
      | .extended => do
          warn (utf8 "getopts: usage: getopts optstring name [arg ...]\n")
          return 2

end PartitionBench.Host.Script.Builtin
