import PartitionBench.Text.Shown
import PartitionBench.Text.Split
import PartitionBench.Text.Utf8

/-!
Contract: a tree of directories and files, as far as a run depends on it.

Owns:
- files and directories under absolute locations, and a working directory;
- following a path step by step through directories that exist;
- looking up, reading and writing files, and making directories;
- the faults that these operations end in.

Does not own: textual paths (`Path`) and what the files hold.

The tree has no links, so distinct locations are distinct files, and no permissions, owners or
limits of space: an operation fails for none of these. What is proved of files holds of a file
system as far as it is such a tree.
-/

namespace PartitionBench

/-- What goes wrong with a path. -/
inductive FaultKind where
  | notFound
  | notDirectory
  | isDirectory
  | alreadyExists
  | nameTooLong
  /-- The path is none, because it holds a null character. -/
  | unusable
  deriving DecidableEq, Repr

def FaultKind.text : FaultKind → String
  | .notFound => "ENOENT: no such file or directory"
  | .notDirectory => "ENOTDIR: not a directory"
  | .isDirectory => "EISDIR: illegal operation on a directory"
  | .alreadyExists => "EEXIST: file already exists"
  | .nameTooLong => "ENAMETOOLONG: name too long"
  | .unusable => "The argument 'path' must be a string, Uint8Array, or URL without null bytes"

/-- A fault: its kind, what was being done, and with which path. A read has no
path, because the file was opened before it. -/
structure Fault where
  kind : FaultKind
  action : String
  path : Option String
  deriving DecidableEq, Repr

/-- The text of a fault. An unusable path is shown with its null characters. -/
def Fault.text (fault : Fault) : String :=
  if fault.kind = .unusable then
    fault.kind.text ++ ". Received " ++ Text.shownInMessage (fault.path.getD "")
  else
    fault.kind.text ++ ", " ++ fault.action
      ++ match fault.path with
        | some path => " '" ++ path ++ "'"
        | none => ""

/-- The contents of a file: text, or bytes that may be no text. -/
inductive Contents where
  | text (content : String)
  | bytes (content : List UInt8)
  deriving DecidableEq, Repr

def Contents.read : Contents → String
  | .text content => content
  | .bytes content => Text.decodeUtf8 content

def Contents.encoded : Contents → List UInt8
  | .text content => content.toUTF8.toList
  | .bytes content => content

/-- What stands at a location. -/
inductive Node where
  | directory
  | file (contents : Contents) (isExecutable : Bool)
  deriving DecidableEq, Repr

/-- The names on the way from the root to a node. -/
abbrev Location := List String

/-- A tree of directories and files. The root is a directory and is not listed. -/
structure FileTree where
  nodes : List (Location × Node)
  workingDirectory : Location
  deriving DecidableEq, Repr

namespace FileTree

/-- The longest name, in bytes. -/
def maxNameBytes : Nat := 255

/-- The longest path, in bytes. -/
def maxPathBytes : Nat := 4095

def node? (tree : FileTree) (location : Location) : Option Node :=
  if location = [] then some .directory
  else (tree.nodes.find? (fun entry => entry.1 = location)).map (·.2)

/-- A node in a list of nodes, in place of the one at the same location or behind
all others. -/
def putNode (location : Location) (node : Node) :
    List (Location × Node) → List (Location × Node)
  | [] => [(location, node)]
  | entry :: rest =>
      if entry.1 = location then (location, node) :: rest
      else entry :: putNode location node rest

def put (tree : FileTree) (location : Location) (node : Node) : FileTree :=
  { tree with nodes := putNode location node tree.nodes }

def stepTo (location : Location) (name : String) : Location :=
  if name = "" ∨ name = "." then location
  else if name = ".." then location.dropLast
  else location ++ [name]

/-- Follow names from a location. Each of them is looked up in a directory that has
to exist; whether anything stands at the end is left open. -/
def follow (tree : FileTree) : Location → List String → Except FaultKind Location
  | location, [] => .ok location
  | location, name :: rest =>
      match tree.node? location with
      | none => .error .notFound
      | some (.file _ _) => .error .notDirectory
      | some .directory =>
          if maxNameBytes < name.utf8ByteSize then .error .nameTooLong
          else tree.follow (stepTo location name) rest

/-- The names of a path, with an empty name wherever two slashes meet and at the
ends. -/
def names (path : String) : List String :=
  (Text.pieces '/' path.toList).map String.ofList

/-- The text holds a null character, so that it is no path. -/
def hasNull (text : String) : Bool :=
  text.toList.contains (Char.ofNat 0)

/-- Where a path leads, and what stands there, if anything does. -/
def locate (tree : FileTree) (path : String) : Except FaultKind (Location × Option Node) :=
  if path = "" then .error .notFound
  else if hasNull path then .error .unusable
  else if maxPathBytes < path.utf8ByteSize then .error .nameTooLong
  else
    let start := if path.startsWith "/" then [] else tree.workingDirectory
    match tree.follow start (names path) with
    | .ok location => .ok (location, tree.node? location)
    | .error kind => .error kind

def look (tree : FileTree) (path : String) : Except FaultKind Node :=
  match tree.locate path with
  | .ok (_, some node) => .ok node
  | .ok (_, none) => .error .notFound
  | .error kind => .error kind

def isThere (tree : FileTree) (path : String) : Bool :=
  match tree.look path with
  | .ok _ => true
  | .error _ => false

def contents (tree : FileTree) (path : String) : Except Fault Contents :=
  match tree.look path with
  | .ok (.file contents _) => .ok contents
  | .ok .directory => .error ⟨.isDirectory, "read", none⟩
  | .error kind => .error ⟨kind, "open", some path⟩

def read (tree : FileTree) (path : String) : Except Fault String :=
  (tree.contents path).map Contents.read

/-- Write a text to the file at a path, which is made executable if it is new. -/
def write (tree : FileTree) (path text : String) : Except Fault FileTree :=
  match tree.locate path with
  | .ok (location, some (.file _ isExecutable)) =>
      .ok (tree.put location (.file (.text text) isExecutable))
  | .ok (_, some .directory) => .error ⟨.isDirectory, "open", some path⟩
  | .ok (location, none) => .ok (tree.put location (.file (.text text) true))
  | .error kind => .error ⟨kind, "open", some path⟩

/-- A path without the slashes at its end, unless it consists of slashes. -/
def withoutEndSlashes (path : String) : String :=
  let kept := (path.toList.reverse.dropWhile (· = '/')).reverse
  if kept = [] then path else String.ofList kept

/-- Make one directory, in a directory that exists. -/
def makeDirectory (tree : FileTree) (path : String) : Except FaultKind FileTree :=
  match tree.locate (withoutEndSlashes path) with
  | .ok (_, some _) => .error .alreadyExists
  | .ok (location, none) => .ok (tree.put location .directory)
  | .error kind => .error kind

/-- The fault that a failed making of a directory comes to. That the directory is
there already is none; what stands there instead, or on the way to another that is
wanted, is one. -/
def settle (tree : FileTree) (path : String) (isOnTheWay : Bool) (kind : FaultKind) :
    Except FaultKind Unit :=
  if kind = .notDirectory ∨ kind = .notFound then .error kind
  else
    match tree.look path with
    | .ok .directory => .ok ()
    | .ok (.file _ _) =>
        .error (if kind = .alreadyExists ∧ isOnTheWay then .notDirectory else .alreadyExists)
    | .error found =>
        .error (if kind = .alreadyExists ∧ isOnTheWay then .notDirectory else found)

/-- Make the directories at the given paths, each of which lies in the one before
it. The directories made before a fault stay. -/
def makeInOrder (tree : FileTree) : List String → Except Fault Unit × FileTree
  | [] => (.ok (), tree)
  | path :: rest =>
      match tree.makeDirectory path with
      | .ok tree => tree.makeInOrder rest
      | .error kind =>
          match tree.settle path (!rest.isEmpty) kind with
          | .ok () => tree.makeInOrder rest
          | .error kind => (.error ⟨kind, "mkdir", some path⟩, tree)

/-- Try to make a directory, and when the one around it is missing try that first.
`around` are the paths around `path`, the nearest first, and `inside` those that
are wanted inside it. -/
def makeFrom (tree : FileTree) (inside : List String) (path : String) :
    List String → Except Fault Unit × FileTree
  | [] => tree.makeInOrder (path :: inside)
  | next :: around =>
      match tree.makeDirectory path with
      | .error .notFound => tree.makeFrom (path :: inside) next around
      | _ => tree.makeInOrder (path :: inside)

/-- The paths around a path: what remains when it is cut at its last slash, then
at the one before, down to the first. -/
def pathsAround : List Char → List Char → List String
  | _, [] => []
  | before, c :: rest =>
      if c = '/' then pathsAround (c :: before) rest ++ [String.ofList before.reverse]
      else pathsAround (c :: before) rest

/-- Make the directory at a path, and those on the way to it that are missing. -/
def makeDirectories (tree : FileTree) (path : String) : Except Fault Unit × FileTree :=
  tree.makeFrom [] path (pathsAround [] path.toList)

end FileTree

end PartitionBench
