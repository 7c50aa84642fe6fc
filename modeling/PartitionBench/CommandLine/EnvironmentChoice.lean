import PartitionBench.CommandLine.EnvironmentFile
import PartitionBench.FileTree
import PartitionBench.Path
import PartitionBench.Text.Encoding

/-!
Contract: which file of assignments is read before a run, and how.

Owns:
- the choices: the path of the file, its encoding, whether it overrides what is set
  already, whether its reading is reported, and a key to encrypted files;
- where choices are made: in the environment, and in arguments, which count more;
- the environment that comes of it, and the lines that report on it.

Does not own: the assignments in the file (`CommandLine.EnvironmentFile`). Encrypted
files are not read.
-/

namespace PartitionBench.CommandLine

/-- How the file of assignments is read. An empty text chooses nothing. -/
structure EnvironmentChoice where
  encoding : String := ""
  path : String := ""
  report : String := ""
  override : String := ""
  key : String := ""
  deriving Repr

namespace EnvironmentChoice

/-- What a choice is named by in an argument, and how it is made. -/
def makers : List (String × (EnvironmentChoice → String → EnvironmentChoice)) :=
  [("encoding", fun choice value => { choice with encoding := value }),
    ("path", fun choice value => { choice with path := value }),
    ("debug", fun choice value => { choice with report := value }),
    ("override", fun choice value => { choice with override := value }),
    ("DOTENV_KEY", fun choice value => { choice with key := value })]

def variableOf (name : String) : String :=
  "DOTENV_CONFIG_" ++ String.ofList (name.toList.map Char.toUpper)

/-- The variable that holds the key when no choice is made. -/
def keyVariable : String := "DOTENV_KEY"

def ofEnvironment (environment : List (String × String)) : EnvironmentChoice :=
  makers.foldl
    (fun choice maker =>
      match Table.find? environment (variableOf maker.1) with
      | some value => maker.2 choice value
      | none => choice)
    {}

/-- A choice with what one argument says. The value fills the rest of the argument
and is one line. -/
def withArgument (choice : EnvironmentChoice) (argument : String) : EnvironmentChoice :=
  makers.foldl
    (fun choice maker =>
      match Text.dropOpening? ("dotenv_config_" ++ maker.1 ++ "=").toList argument.toList with
      | some value =>
          if value = [] ∨ value.any EnvironmentFile.endsLine then choice
          else maker.2 choice (String.ofList value)
      | none => choice)
    choice

def ofRun (environment : List (String × String)) (arguments : List String) :
    EnvironmentChoice :=
  arguments.foldl withArgument (ofEnvironment environment)

/-- The file of assignments when none is chosen. -/
def standardPath : String := ".env"

def homeVariable : String := "HOME"

/-- The home directory when the environment names none. -/
def standardHome : String := "/root"

/-- The path of the file of assignments. A tilde at its start is the home
directory. -/
def filePath (choice : EnvironmentChoice) (environment : List (String × String)) : String :=
  match choice.path.toList with
  | [] => standardPath
  | '~' :: rest =>
      Path.join ((Table.find? environment homeVariable).getD standardHome) (String.ofList rest)
  | _ => choice.path

/-- The assignments that are read, or what reading them failed with. -/
def read (choice : EnvironmentChoice) (environment : List (String × String))
    (files : FileTree) : Except String (List (String × String)) :=
  let name := if choice.encoding = "" then "utf8" else choice.encoding
  match Text.Encoding.named? name with
  | none =>
      .error ("The argument 'encoding' is invalid encoding. Received "
        ++ Text.shownInMessage choice.encoding)
  | some encoding =>
      match files.contents (choice.filePath environment) with
      | .ok contents => .ok (EnvironmentFile.assigned (encoding.read contents.encoded))
      | .error fault => .error fault.text

def reportOpening : String := "[dotenv@16.6.1]"

def detail (text : String) : String :=
  reportOpening ++ "[DEBUG] " ++ text

def workingPath (files : FileTree) : String :=
  "/" ++ String.intercalate "/" files.workingDirectory

/-- The lines that report on reading the file, in order. -/
def reportLines (choice : EnvironmentChoice) (environment : List (String × String))
    (files : FileTree) (reading : Except String (List (String × String))) : List String :=
  let named := choice.filePath environment
  let absolute := if choice.path = "" then Path.join (workingPath files) named else named
  let entries :=
    match reading with
    | .ok entries => entries
    | .error _ => []
  let fate := if choice.override = "" then "was NOT overwritten" else "WAS overwritten"
  (if choice.encoding = "" then [detail "No encoding is specified. UTF-8 is used by default"]
    else [])
    ++ (match reading with
      | .ok _ => []
      | .error message => [detail ("Failed to load " ++ absolute ++ " " ++ message)])
    ++ (entries.filter (fun entry => (Table.find? environment entry.1).isSome)).map
      (fun entry => detail ("\"" ++ entry.1 ++ "\" is already defined and " ++ fate))
    ++ [reportOpening ++ " injecting env (" ++ toString entries.length ++ ") from "
      ++ Path.normalize named]

/-- The line that is written when there is a key but no encrypted file. -/
def missingVault : String :=
  reportOpening
    ++ "[WARN] You set DOTENV_KEY but you are missing a .env.vault file at null. "
    ++ "Did you forget to build it?"

/-- There is a key to encrypted files. -/
def hasKey (choice : EnvironmentChoice) (environment : List (String × String)) : Bool :=
  choice.key ≠ "" || (Table.find? environment keyVariable).getD "" ≠ ""

/-- The environment that a run begins with, and the lines that are written before
it. -/
def apply (choice : EnvironmentChoice) (environment : List (String × String))
    (files : FileTree) : List (String × String) × List String :=
  let reading := choice.read environment files
  let extended :=
    match reading with
    | .ok entries => EnvironmentFile.extend (choice.override ≠ "") environment entries
    | .error _ => environment
  (extended,
    (if choice.hasKey environment then [missingVault] else [])
      ++ if choice.report = "" then [] else choice.reportLines environment files reading)

end EnvironmentChoice

end PartitionBench.CommandLine
