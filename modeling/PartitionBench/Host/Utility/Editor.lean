import PartitionBench.Host.Utility.Editing

/-!
Contract: the program that edits lines.

Owns: its options, reading files, where the results go, and its messages.

Does not own: the editing (`Utility.Editing`).
-/

namespace PartitionBench.Host.Utility

open Execution

namespace Edit

structure Options where
  isQuiet : Bool := false
  rules : Expression.Rules := { style := .basic, isStrict := true }
  isSeparate : Bool := false
  lineEnd : Char := '\n'
  /-- Files are changed in place; what they were is kept under a name with an ending. -/
  inPlace : Option (List Char) := none
  texts : List (List Char) := []

/-- What is wrong with the arguments of the program. -/
inductive OptionFault where
  | unknown (letter : Char)
  | unknownLong (option : List Char)
  | missing (letter : Char)
  | unreadable (file : List Char)

def readOptions : Nat → Options → List (List Char) → List (List Char) →
    Execution (Except OptionFault (Options × List (List Char)))
  | 0, options, operands, _ => return .ok (options, operands)
  | _ + 1, options, operands, [] => return .ok (options, operands)
  | fuel + 1, options, operands, argument :: rest => do
      let fromFile (file : List Char) (others : List (List Char)) :
          Execution (Except OptionFault (Options × List (List Char))) := do
        match ← inputOf file with
        | .ok bytes =>
            readOptions fuel { options with texts := options.texts ++ [bytes] } operands others
        | .error _ => return .error (.unreadable file)
      match argument with
      | ['-', '-'] => return .ok (options, operands ++ rest)
      | '-' :: '-' :: written =>
          let name := String.ofList (written.takeWhile (· ≠ '='))
          let value := (written.dropWhile (· ≠ '=')).tail
          match name with
          | "quiet" | "silent" => readOptions fuel { options with isQuiet := true } operands rest
          | "regexp-extended" =>
            readOptions fuel { options with rules.style := .extended } operands rest
          | "expression" =>
              readOptions fuel { options with texts := options.texts ++ [value] } operands rest
          | "in-place" =>
              readOptions fuel { options with inPlace := some value, isSeparate := true } operands
                rest
          | "separate" => readOptions fuel { options with isSeparate := true } operands rest
          | "null-data" =>
              readOptions fuel { options with lineEnd := Char.ofNat 0 } operands rest
          | "posix" | "debug" | "sandbox" | "unbuffered" | "follow-symlinks" =>
              readOptions fuel options operands rest
          | "file" => fromFile value rest
          | _ => return .error (.unknownLong argument)
      | '-' :: letter :: letters =>
          let again : List (List Char) := if letters = [] then rest else ('-' :: letters) :: rest
          match letter with
          | 'n' => readOptions fuel { options with isQuiet := true } operands again
          | 'E' | 'r' => readOptions fuel { options with rules.style := .extended } operands again
          | 's' => readOptions fuel { options with isSeparate := true } operands again
          | 'z' => readOptions fuel { options with lineEnd := Char.ofNat 0 } operands again
          | 'u' | 'b' => readOptions fuel options operands again
          | 'i' =>
              readOptions fuel { options with inPlace := some letters, isSeparate := true } operands
                rest
          | 'e' =>
              match letters, rest with
              | [], text :: others =>
                  readOptions fuel { options with texts := options.texts ++ [text] } operands others
              | [], [] => return .error (.missing letter)
              | _, _ =>
                  readOptions fuel { options with texts := options.texts ++ [letters] } operands
                    rest
          | 'f' =>
              match letters, rest with
              | [], file :: others => fromFile file others
              | [], [] => return .error (.missing letter)
              | _, _ => fromFile letters rest
          | _ => return .error (.unknown letter)
      | _ => readOptions fuel options (operands ++ [argument]) rest

def usage (name : List Char) : Execution Nat := do
  warn ("Usage: ".toList ++ name
    ++ (" [OPTION]... \x7bscript-only-if-no-other-script\x7d [input-file]...\n\n"
      ++ "  -n, --quiet, --silent\n"
      ++ "                 suppress automatic printing of pattern space\n"
      ++ "      --debug\n                 annotate program execution\n"
      ++ "  -e script, --expression=script\n"
      ++ "                 add the script to the commands to be executed\n"
      ++ "  -f script-file, --file=script-file\n"
      ++ "                 add the contents of script-file to the commands to be executed\n"
      ++ "  --follow-symlinks\n"
      ++ "                 follow symlinks when processing in place\n"
      ++ "  -i[SUFFIX], --in-place[=SUFFIX]\n"
      ++ "                 edit files in place (makes backup if SUFFIX supplied)\n"
      ++ "  -l N, --line-length=N\n"
      ++ "                 specify the desired line-wrap length for the " ++ named "l"
      ++ " command\n"
      ++ "  --posix\n                 disable all GNU extensions.\n"
      ++ "  -E, -r, --regexp-extended\n"
      ++ "                 use extended regular expressions in the script\n"
      ++ "                 (for portability use POSIX -E).\n"
      ++ "  -s, --separate\n"
      ++ "                 consider files as separate rather than as a single\n"
      ++ "                 continuous long stream.\n"
      ++ "      --sandbox\n"
      ++ "                 operate in sandbox mode (disable e/r/w commands).\n"
      ++ "  -u, --unbuffered\n"
      ++ "                 load minimal amounts of data from the input files and flush\n"
      ++ "                 the output buffers more often\n"
      ++ "  -z, --null-data\n"
      ++ "                 separate lines by NUL characters\n"
      ++ "      --help     display this help and exit\n"
      ++ "      --version  output version information and exit\n\n"
      ++ "If no -e, --expression, -f, or --file option is given, then the first\n"
      ++ "non-option argument is taken as the sed script to interpret.  All\n"
      ++ "remaining arguments are names of input files; if no input files are\n"
      ++ "specified, then the standard input is read.\n\n").toList)
  return 1

def writeFiles (files : List (List Char × List Char)) : Execution Unit := do
  for entry in files do
    match ← openFile entry.1 .write true with
    | .ok number =>
        alterMachine fun machine => (machine.write? number entry.2).getD machine
    | .error _ => pure ()

inductive Read where
  /-- Lines, and whether the last of them is ended. -/
  | lines (lines : List (List Char)) (isEnded : Bool)
  | missing
  | directory

def linesIn (lineEnd : Char) (name file : List Char) : Execution Read := do
  match ← inputOf file with
  | .ok bytes =>
      if bytes = [] then return .lines [] true
      else
        let pieces := Text.pieces lineEnd bytes
        let isEnded : Bool := bytes.getLast? = some lineEnd
        return .lines (if isEnded then pieces.dropLast else pieces) isEnded
  | .error fault => do
      if fault = .path .isDirectory then
        complain name ("read error on ".toList ++ file ++ [':', ' '] ++ fault.reason.toList)
        return .directory
      else do
        complain name ("can't read ".toList ++ file ++ [':', ' '] ++ fault.reason.toList)
        return .missing

/-- The report that the expression used last was asked for before there was one. -/
def reportLack (program : Program) (name : List Char) (editing : Editing) : Execution Unit := do
  if editing.lacksExpression then
    complain name ("-e expression #".toList ++ digitsOfNat program.texts
      ++ ", char 0: no previous regular expression".toList)

def starting (lineEnd : Char) (lines : List (List Char)) (isEnded : Bool) : Editing :=
  { lines, isEnded, lineEnd, number := 0, pattern := [] }

/-- Read files up to one that is a directory. The answer is their lines, whether the last of
these is ended, the files with the numbers of their last lines, and a status. -/
def linesOfFiles (program : Program) (name : List Char) :
    Nat → List (List Char) → Execution (List (List Char) × Bool × List (List Char × Nat) × Nat)
  | _, [] => return ([], true, [], 0)
  | count, file :: rest => do
      match ← linesIn program.lineEnd name file with
      | .directory => return ([], true, [], 4)
      | .missing => do
          let (lines, isEnded, files, status) ← linesOfFiles program name count rest
          return (lines, isEnded, files, if status = 0 then 2 else status)
      | .lines first isFirstEnded => do
          let last := count + first.length
          let (lines, isEnded, files, status) ← linesOfFiles program name last rest
          return (first ++ lines, if lines.isEmpty then isFirstEnded else isEnded,
            (file, last) :: files, status)

def editTogether (program : Program) (name : List Char) (files : List (List Char)) :
    Execution Nat := do
  let (lines, isEnded, found, status) ← linesOfFiles program name 0 files
  let (ending, done) ←
    editLines { program with files := found } (4 * lines.length + 1000) true
      (starting program.lineEnd lines isEnded)
  writeFiles done.files
  let _ ← say done.output
  reportLack program name done
  return ending.getD status

/-- Edit files one after the other, in place if that is asked for. -/
def editApart (program : Program) (name : List Char) (inPlace : Option (List Char)) (status : Nat) :
    List (List Char) → Execution Nat
  | [] => return status
  | file :: rest => do
      match inPlace, ← look file with
      | some _, .error kind => do
          complain name ("can't read ".toList ++ file ++ [':', ' '] ++ (reason kind).toList)
          editApart program name inPlace 2 rest
      | some _, .ok (_, .directory) => do
          complain name ("couldn't edit ".toList ++ file ++ ": not a regular file".toList)
          editApart program name inPlace 4 rest
      | _, found => do
          match ← linesIn program.lineEnd name file with
          | .missing => editApart program name inPlace 2 rest
          | .directory => return 4
          | .lines lines isEnded => do
              let (ending, done) ←
                editLines { program with files := [(file, lines.length)] }
                  (4 * lines.length + 1000) true (starting program.lineEnd lines isEnded)
              reportLack program name done
              writeFiles done.files
              match inPlace, found with
              | some suffix, .ok (location, _) => do
                  let machine ← machine
                  if suffix ≠ [] then
                    match ← locate (file ++ suffix) with
                    | .ok (kept, _) =>
                        alterMachine fun machine =>
                          machine.putFile kept (machine.bytesAt location)
                            (machine.isExecutable location)
                    | .error _ => pure ()
                  let left := done.lines.flatMap (· ++ [program.lineEnd])
                  let behind : List Char :=
                    if ending.isSome then (if isEnded then left else left.dropLast) else []
                  alterMachine fun later =>
                    later.putFile location (done.output ++ behind) (machine.isExecutable location)
              | _, _ =>
                  let _ ← say done.output
              match ending with
              | some code => return code
              | none => editApart program name inPlace status rest

/-- The message on commands that are wrong, in the text of which several are joined. -/
def faultMessage (texts : List (List Char)) (fault : Fault) : List Char :=
  if fault.isBare then fault.message.toList
  else
    let (number, place) := within 1 fault.place (texts.map List.length)
    "-e expression #".toList ++ digitsOfNat number ++ ", char ".toList ++ digitsOfNat place
      ++ ": ".toList ++ fault.message.toList
where
  /-- The text that a place lies in, and where it lies there. -/
  within (number place : Nat) : List Nat → Nat × Nat
    | length :: next :: rest =>
        if length < place then within (number + 1) (place - length - 1) (next :: rest)
        else (number, place)
    | _ => (number, place)

end Edit

def edit : Utility := fun name arguments => do
  let bound := arguments.length + arguments.flatten.length + 1
  match ← Edit.readOptions bound {} [] arguments with
  | .error (.unknown letter) => do
      complain name ("invalid option -- ".toList ++ shown [letter])
      Edit.usage name
  | .error (.unknownLong option) => do
      complain name ("unrecognized option ".toList ++ shown option)
      Edit.usage name
  | .error (.missing letter) => do
      complain name ("option requires an argument -- ".toList ++ shown [letter])
      Edit.usage name
  | .error (.unreadable file) => do
      complain name ("couldn't open file ".toList ++ file ++ ": No such file or directory".toList)
      return 1
  | .ok (options, operands) => do
      let (texts, files) : List (List Char) × List (List Char) :=
        if options.texts.isEmpty then (operands.take 1, operands.drop 1)
        else (options.texts, operands)
      if texts.isEmpty then Edit.usage name
      else
        let text := List.intercalate ['\n'] texts
        match Edit.commandsOf options.rules text with
        | .error fault => do
            complain name (Edit.faultMessage texts fault)
            return fault.status
        | .ok commands =>
            let quiets := text.take 3 = ['#', 'n', '\n'] ∨ text = ['#', 'n']
            let program : Edit.Program :=
              ⟨commands, options.isQuiet || quiets, options.lineEnd, [], texts.length⟩
            if options.isSeparate then
              Edit.editApart program name options.inPlace 0 (orInput files)
            else Edit.editTogether program name (orInput files)

end PartitionBench.Host.Utility
