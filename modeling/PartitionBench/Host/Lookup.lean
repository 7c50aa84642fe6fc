import PartitionBench.Host.Session

/-!
Contract: finding what a command names.

Owns:
- the search for a command along the search path;
- what a file that is to be executed is: a program of the host, a script for another
  program, or a text without a format.

Does not own: running any of them (`Host.Program`).
-/

namespace PartitionBench.Host

open Execution

/-- The directories that commands are looked for in if nothing else is said. -/
def usualSearchPath : List Char :=
  "/usr/local/sbin:/usr/local/bin:/usr/sbin:/usr/bin:/sbin:/bin".toList

/-- The variable that lists the directories in which commands are looked for. -/
def searchVariable : String := "PATH"

/-- The name of a command in a directory. An empty directory is the working directory. -/
def nameIn (directory name : List Char) : List Char :=
  if directory = [] then name else directory ++ '/' :: name

/-- The paths that a command may have, in the order in which they are tried. -/
def candidates (searchPath name : List Char) : List (List Char) :=
  (Text.pieces ':' searchPath).map fun directory => nameIn directory name

def searchPath : Execution (List Char) :=
  return (← value? searchVariable.toList).getD usualSearchPath

/-- The first file of a command along the search path, whether it may be executed or not. If
there is none, the answer tells whether something else has that name. -/
def findCommand (name : List Char) : Execution (Except Bool (List Char)) := do
  let session ← get
  let paths := candidates (← searchPath) name
  let found := paths.map fun path => (path, session.machine.look session.process.location path)
  let files := found.filter fun entry =>
    match entry.2 with
    | .ok (_, .file _ _) => true
    | _ => false
  match files with
  | entry :: _ => return .ok entry.1
  | [] =>
      return .error (found.any fun entry =>
        match entry.2 with
        | .ok (_, .directory) => true
        | _ => false)

/-- The first file of a command along the search path that may be executed. -/
def findExecutable? (name : List Char) : Execution (Option (List Char)) := do
  let session ← get
  return (candidates (← searchPath) name).find? fun path =>
    match session.machine.look session.process.location path with
    | .ok (_, .file _ isExecutable) => isExecutable
    | _ => false

/-- Why a file cannot be executed. -/
inductive ExecuteFault where
  | path (kind : FaultKind)
  | permission
  | tooManyLinks
  deriving DecidableEq

def ExecuteFault.reason : ExecuteFault → String
  | .path kind => Host.reason kind
  | .permission => "Permission denied"
  | .tooManyLinks => "Too many levels of symbolic links"

def ExecuteFault.isMissing : ExecuteFault → Bool
  | .path .notFound | .path .notDirectory => true
  | _ => false

/-- What a file that is executed is. -/
inductive Executable where
  | program (name : String) (arguments : List (List Char))
  /-- A text that no program is named for. -/
  | unformatted (path : List Char) (arguments : List (List Char))
  /-- Bytes that are no text. -/
  | binary

/-- A blank between the words of the first line of a script. -/
def isLineBlank (c : Char) : Bool := c = ' ' || c = '\t'

def withoutEndBlanks (text : List Char) : List Char :=
  (text.reverse.dropWhile isLineBlank).reverse

/-- The program that a script names on its first line, and the argument it is given there.
There is no program on a line of blanks. -/
def interpreterOf? (bytes : List Char) : Option (List Char × Option (List Char)) :=
  match bytes with
  | '#' :: '!' :: rest =>
      let line := withoutEndBlanks ((rest.takeWhile (· ≠ '\n')).dropWhile isLineBlank)
      let path := line.takeWhile fun c => !isLineBlank c
      let argument := (line.drop path.length).dropWhile isLineBlank
      if path = [] then none
      else some (path, if argument = [] then none else some argument)
  | _ => none

/-- The bytes begin with a mark that no text has. -/
def looksBinary (bytes : List Char) : Bool :=
  (bytes.takeWhile (· ≠ '\n')).contains (Char.ofNat 0)

/-- What the file at a path is when it is executed with arguments. A script is called by the
program that it names, which may be a script in turn. -/
def executable (session : Session) :
    Nat → List Char → List Char → List (List Char) → Except ExecuteFault Executable
  | 0, _, _, _ => .error .tooManyLinks
  | fuel + 1, path, name, arguments =>
      match session.machine.look session.process.location path with
      | .error kind => .error (.path kind)
      | .ok (_, .directory) => .error .permission
      | .ok (location, .file contents isExecutable) =>
          match programAt? location with
          | some program => .ok (.program program (name :: arguments))
          | none =>
              if ¬ isExecutable then .error .permission
              else
                let bytes := bytesIn contents
                match interpreterOf? bytes with
                | some (interpreter, argument) =>
                    executable session fuel interpreter interpreter
                      (argument.toList ++ path :: arguments)
                | none =>
                    if looksBinary bytes then .ok .binary
                    else .ok (.unformatted path arguments)

def maxInterpreters : Nat := 5

/-- What the file at a path is when it is executed under a name with arguments. -/
def executableAt (path name : List Char) (arguments : List (List Char)) :
    Execution (Except ExecuteFault Executable) := do
  return executable (← get) maxInterpreters path name arguments

end PartitionBench.Host
