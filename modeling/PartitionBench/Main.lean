import PartitionBench.CommandLine.Reach

/-!
Contract: the program on a host.

Owns: everything that talks to the system. The paths that a run depends on are looked
up first. Then the run is computed, and again with each further line of input while it
ends in an open question; what a longer input adds to the files and outputs is passed
on at once.

Does not own: any decision. What a run does is `CommandLine.run`.
-/

namespace PartitionBench.Main

/-- The number of bytes up to which the contents of files are looked at. -/
def contentLimit : USize := 1048576

/-- The beginning of the contents of a file that can be read. -/
def beginningOf (path : String) : IO (List UInt8) := do
  try
    let handle ← IO.FS.Handle.mk path .read
    return (← handle.read contentLimit).toList
  catch _ =>
    return []

/-- What stands at a path of the host, if anything. -/
def nodeAt? (path : String) : IO (Option Node) := do
  try
    let place ← IO.FS.realPath path
    if ← place.isDir then return some .directory
    else if ← place.pathExists then return some (.file (.bytes (← beginningOf path)) true)
    else return none
  catch _ =>
    return none

/-- A tree with what stands at a path, as long as the way to it is known. -/
def learnNode (files : FileTree) (path : String) : IO FileTree := do
  match files.locate path with
  | .ok (location, none) =>
      match ← nodeAt? path with
      | some node => return files.put location node
      | none => return files
  | _ => return files

/-- A tree with what stands at a path and on the way to it. -/
def learn (files : FileTree) (path : String) : IO FileTree :=
  ((FileTree.pathsAround [] path.toList).reverse ++ [path]).foldlM learnNode files

def learnEntries (files : FileTree) (path : String) : IO FileTree := do
  try
    let entries ← (← IO.FS.realPath path).readDir
    entries.toList.foldlM (fun files entry => learnNode files (path ++ "/" ++ entry.fileName))
      files
  catch _ =>
    return files

/-- The tree of the working directory and the directories around it, without
anything in them. -/
def emptyTree : IO FileTree := do
  let names := (FileTree.names (← IO.currentDir).toString).filter (· ≠ "")
  let directories := (List.range names.length).map fun count =>
    (names.take (count + 1), Node.directory)
  return { nodes := directories, workingDirectory := names }

/-- The environment variables that are set, of those that a run consults. -/
def readEnvironment : IO (List (String × String)) :=
  CommandLine.consultedVariables.filterMapM fun name => do
    return (← IO.getEnv name).map fun value => (name, value)

/-- What a run with arguments finds, before any input. -/
def survey (arguments : List String) : IO CommandLine.Surroundings := do
  let environment ← readEnvironment
  let files ← (CommandLine.firstPaths environment arguments).foldlM learn (← emptyTree)
  let surroundings : CommandLine.Surroundings := { input := "", environment, files }
  match CommandLine.settings? arguments surroundings with
  | some settings =>
      let files ← (CommandLine.laterPaths settings).foldlM learn files
      return { surroundings with files := ← learnEntries files settings.jobDirectory }
  | none => return surroundings

/-- Everyone may read and run a file, and its owner may write it. -/
def scriptRights : IO.FileRight :=
  { user := { read := true, write := true, execution := true }
    group := { read := true, execution := true }
    other := { read := true, execution := true } }

/-- Make the files of the host those of a later tree. -/
def carryOut (before after : FileTree) : IO Unit :=
  after.nodes.forM fun (location, node) => do
    if before.node? location ≠ some node then
      let path := "/" ++ String.intercalate "/" location
      match node with
      | .directory => IO.FS.createDirAll path
      | .file contents _ =>
          IO.FS.writeFile path contents.read
          IO.setAccessRights path scriptRights

def added (shorter longer : String) : String :=
  String.ofList (longer.toList.drop shorter.length)

def passOn (before after : CommandLine.Finished) : IO Unit := do
  carryOut before.files after.files
  let output ← IO.getStdout
  output.putStr (added before.output after.output)
  output.flush
  (← IO.getStderr).putStr (added before.logged after.logged)

/-- Go on with further lines of input while a run ends in an open question. -/
partial def converse (run : String → CommandLine.Finished) (input : String)
    (before : CommandLine.Finished) : IO UInt32 := do
  let finished := run input
  passOn before finished
  let line ←
    if finished.failure = some .promptClosed then (← IO.getStdin).getLine else pure ""
  if line = "" then
    (← IO.getStderr).putStr (added finished.logged finished.errorOutput)
    return UInt32.ofNat finished.exitCode
  else converse run (input ++ line) finished

end PartitionBench.Main

def main (arguments : List String) : IO UInt32 := do
  let surroundings ← PartitionBench.Main.survey arguments
  let scriptName := PartitionBench.Path.name (← IO.appPath).toString
  let nothing : PartitionBench.CommandLine.Finished :=
    { exitCode := 0, output := "", logged := "", failure := none, files := surroundings.files }
  PartitionBench.Main.converse
    (fun input =>
      PartitionBench.CommandLine.run scriptName arguments { surroundings with input })
    "" nothing
