import PartitionBench.Host.Bytes
import PartitionBench.Host.Channel

/-!
Contract: what all processes of a run share.

Owns:
- the files, together with the directories, devices and programs that every host has;
- open streams: files at a place, channels, and devices;
- looking up paths, and opening, making, moving and removing files.

Does not own: descriptors, which belong to a process (`Host.Session`).
-/

namespace PartitionBench.Host

/-- Something that is written to and read from. -/
inductive Stream where
  | file (location : Location) (offset : Nat) (appends : Bool)
  | channel (channel : Channel)
  /-- A device that takes everything and gives nothing. -/
  | nothing
  /-- A device that takes everything and gives null bytes without an end. -/
  | zeros
  /-- A device that takes nothing. -/
  | full
  | directory
  deriving Repr

/-- What all processes of a run share. -/
structure Machine where
  files : FileTree
  streams : List Stream
  nextProcess : Nat

/-- How many bytes are read of a device that gives bytes without an end. -/
def endlessBytes : Nat := 1200000

def reason : FaultKind → String
  | .notFound => "No such file or directory"
  | .notDirectory => "Not a directory"
  | .isDirectory => "Is a directory"
  | .alreadyExists => "File exists"
  | .nameTooLong => "File name too long"
  | .unusable => "Invalid argument"

def programNames : List String :=
  ["[", "arch", "awk", "basename", "bash", "cat", "chmod", "cksum", "cmp", "comm", "cp", "cut",
    "dash", "date", "diff", "dirname", "echo", "egrep", "env", "expand", "expr", "false", "fgrep",
    "find", "fold", "grep", "groups", "head", "hostname", "id", "install", "join", "kill", "ln",
    "ls", "mawk", "md5sum", "mkdir", "mktemp", "mv", "nice", "nl", "nohup", "nproc", "od",
    "paste", "printenv", "printf", "pwd", "rbash", "readlink", "realpath", "rev", "rm", "rmdir",
    "sed", "seq", "sh", "sha256sum", "shuf", "sleep", "sort", "split", "stat", "stty", "sum",
    "sync", "tac", "tail", "tee", "test", "timeout", "touch", "tr", "true", "tty", "uname",
    "unexpand", "uniq", "wc", "which", "whoami", "xargs", "yes"]

def programLocation : Location := ["usr", "bin"]

def hostDirectories : List Location :=
  [["usr"], ["usr", "bin"], ["usr", "local"], ["usr", "local", "bin"], ["usr", "lib"],
    ["usr", "share"], ["tmp"], ["dev"], ["dev", "fd"], ["etc"], ["home"], ["root"], ["var"],
    ["var", "tmp"], ["opt"], ["proc"], ["sys"], ["run"], ["srv"], ["mnt"], ["media"]]

def deviceNames : List String :=
  ["null", "zero", "full", "tty", "stdin", "stdout", "stderr", "random", "urandom"]

def device? (location : Location) : Option String :=
  match location with
  | ["dev", name] => if deviceNames.contains name then some name else none
  | _ => none

def programAt? (location : Location) : Option String :=
  match location with
  | ["usr", "bin", name] => if programNames.contains name then some name else none
  | _ => none

def hostNode? (location : Location) : Option Node :=
  if (programAt? location).isSome then some (.file (.text "") true)
  else if (device? location).isSome then some (.file (.text "") false)
  else if location = [] ∨ hostDirectories.contains location then some .directory
  else none

def rootLinks : List (String × Location) :=
  [("bin", ["usr", "bin"]), ("sbin", ["usr", "bin"]), ("lib", ["usr", "lib"])]

namespace Machine

def node? (machine : Machine) (location : Location) : Option Node :=
  match hostNode? location with
  | some node => some node
  | none => machine.files.node? location

def stepTo (machine : Machine) (location : Location) (name : String) : Location :=
  let next := FileTree.stepTo location name
  match next with
  | [top] =>
      match rootLinks.find? fun link => link.1 = top with
      | some link => if (machine.files.node? next).isSome then next else link.2
      | none => next
  | _ => next

def follow (machine : Machine) : Location → List String → Except FaultKind Location
  | location, [] => .ok location
  | location, name :: rest =>
      match machine.node? location with
      | none => .error .notFound
      | some (.file _ _) => .error .notDirectory
      | some .directory =>
          if FileTree.maxNameBytes < name.utf8ByteSize then .error .nameTooLong
          else machine.follow (machine.stepTo location name) rest

/-- Where a path leads from a directory, and what stands there, if anything does. -/
def locate (machine : Machine) (directory : Location) (path : List Char) :
    Except FaultKind (Location × Option Node) :=
  if path = [] then .error .notFound
  else if FileTree.maxPathBytes < path.length then .error .nameTooLong
  else
    let start := if path.head? = some '/' then [] else directory
    match machine.follow start (FileTree.names (textOf path)) with
    | .ok location => .ok (location, machine.node? location)
    | .error kind => .error kind

def look (machine : Machine) (directory : Location) (path : List Char) :
    Except FaultKind (Location × Node) :=
  match machine.locate directory path with
  | .ok (location, some node) => .ok (location, node)
  | .ok (_, none) => .error .notFound
  | .error kind => .error kind

def namesIn (machine : Machine) (location : Location) : List String :=
  let own := machine.files.nodes.filterMap fun entry =>
    if entry.1.length = location.length + 1 ∧ entry.1.take location.length = location then
      entry.1.getLast?
    else none
  let given :=
    if location = programLocation then programNames
    else if location = ["dev"] then deviceNames
    else
      (hostDirectories ++ rootLinks.map fun link => [link.1]).filterMap fun other =>
        if other.length = location.length + 1 ∧ other.take location.length = location then
          other.getLast?
        else none
  ((own ++ given).eraseDups).mergeSort fun a b => isBefore (bytesOf a) (bytesOf b)

def putFile (machine : Machine) (location : Location) (bytes : List Char)
    (isExecutable : Bool) : Machine :=
  let contents : Contents := .bytes (valuesOf bytes)
  { machine with files := machine.files.put location (.file contents isExecutable) }

def putDirectory (machine : Machine) (location : Location) : Machine :=
  { machine with files := machine.files.put location .directory }

def isWithin (location outer : Location) : Bool :=
  location.take outer.length = outer

def remove (machine : Machine) (location : Location) : Machine :=
  let nodes := machine.files.nodes.filter fun entry => !isWithin entry.1 location
  { machine with files := { machine.files with nodes } }

/-- Move what stands at a location, and all in it, to another one. -/
def move (machine : Machine) (source target : Location) : Machine :=
  let moved := machine.files.nodes.filterMap fun entry =>
    if isWithin entry.1 source then some (target ++ entry.1.drop source.length, entry.2)
    else none
  let cleared := (machine.remove target).remove source
  { cleared with files := { cleared.files with nodes := cleared.files.nodes ++ moved } }

/-- Copy what stands at a location, and all in it, to another one. -/
def copy (machine : Machine) (source target : Location) : Machine :=
  let copied := machine.files.nodes.filterMap fun entry =>
    if isWithin entry.1 source then some (target ++ entry.1.drop source.length, entry.2)
    else none
  { machine with
    files := copied.foldl (fun files entry => files.put entry.1 entry.2) machine.files }

def bytesAt (machine : Machine) (location : Location) : List Char :=
  match machine.node? location with
  | some (.file contents _) => bytesIn contents
  | _ => []

def isExecutable (machine : Machine) (location : Location) : Bool :=
  match machine.node? location with
  | some (.file _ isExecutable) => isExecutable
  | _ => false

def addStream (machine : Machine) (stream : Stream) : Nat × Machine :=
  (machine.streams.length, { machine with streams := machine.streams ++ [stream] })

def stream? (machine : Machine) (number : Nat) : Option Stream :=
  machine.streams[number]?

def setStream (machine : Machine) (number : Nat) (stream : Stream) : Machine :=
  { machine with streams := machine.streams.set number stream }

def overwritten (bytes : List Char) (offset : Nat) (written : List Char) : List Char :=
  bytes.take offset ++ List.replicate (offset - bytes.length) (Char.ofNat 0) ++ written
    ++ bytes.drop (offset + written.length)

/-- Write to the stream with a number. There is no result where it cannot be written
to. -/
def write? (machine : Machine) (number : Nat) (written : List Char) : Option Machine :=
  match machine.stream? number with
  | some (.channel channel) => some (machine.setStream number (.channel (channel.write written)))
  | some .nothing | some .zeros => some machine
  | some .full => if written = [] then some machine else none
  | some (.file location offset appends) =>
      let bytes := machine.bytesAt location
      let start := if appends then bytes.length else offset
      let later := overwritten bytes start written
      let changed :=
        if (machine.files.node? location).isSome then
          machine.putFile location later (machine.isExecutable location)
        else machine
      some (changed.setStream number (.file location (start + written.length) appends))
  | some .directory => none
  | none => none

/-- The stream with a number has taken more than it may. -/
def isOverfull (machine : Machine) (number : Nat) : Bool :=
  match machine.stream? number with
  | some (.channel channel) => channel.isOverfull
  | _ => false

/-- What is left to be read from the stream with a number. -/
def waiting (machine : Machine) (number : Nat) : List Char :=
  match machine.stream? number with
  | some (.channel channel) => channel.waiting
  | some (.file location offset _) => (machine.bytesAt location).drop offset
  | some .zeros => List.replicate endlessBytes (Char.ofNat 0)
  | _ => []

def skip (machine : Machine) (number count : Nat) : Machine :=
  match machine.stream? number with
  | some (.channel channel) => machine.setStream number (.channel (channel.skip count))
  | some (.file location offset appends) =>
      machine.setStream number (.file location (offset + count) appends)
  | _ => machine

end Machine

end PartitionBench.Host
