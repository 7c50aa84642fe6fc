import PartitionBench.Text.Split

/-!
Contract: slash-separated paths as texts.

Owns:
- normalisation, which reads a path as a stack of components;
- joining a directory and a name, and the directory and name parts of a path.

Does not own: what the paths lead to (`FileTree`). Normalisation is textual: a
component followed by `..` cancels whether or not it exists.
-/

namespace PartitionBench.Path

/-- One component on the stack of those before it, the nearest on top. An empty
component and `.` change nothing; `..` takes back a component that is not itself
a `..`, and stays on the stack only when the path may climb above its start. -/
def pushComponent (mayClimb : Bool) (stack : List (List Char)) (component : List Char) :
    List (List Char) :=
  if component = [] ∨ component = ['.'] then stack
  else if component = ['.', '.'] then
    match stack with
    | [] => if mayClimb then [component] else []
    | top :: rest => if top = ['.', '.'] then component :: stack else rest
  else component :: stack

/-- The components that remain of a path, in order. -/
def resolved (mayClimb : Bool) (path : List Char) : List (List Char) :=
  ((Text.pieces '/' path).foldl (pushComponent mayClimb) []).reverse

def joined (components : List (List Char)) : List Char :=
  List.intercalate ['/'] components

/-- The normal form of a path: no empty component, no `.`, and no `..` behind
another component. A slash at the end stays, and an empty result is written
`.`. -/
def normalizeChars (path : List Char) : List Char :=
  let isAbsolute := path.head? = some '/'
  let endsInSlash := path.getLast? = some '/'
  let body := joined (resolved (!isAbsolute) path)
  if body = [] then
    if isAbsolute then ['/'] else if endsInSlash then ['.', '/'] else ['.']
  else
    let closed := if endsInSlash then body ++ ['/'] else body
    if isAbsolute then '/' :: closed else closed

def normalize (path : String) : String :=
  String.ofList (normalizeChars path.toList)

/-- The normal form of a name inside a directory; an empty part is left out. -/
def joinChars (directory name : List Char) : List Char :=
  if directory = [] then normalizeChars name
  else if name = [] then normalizeChars directory
  else normalizeChars (directory ++ '/' :: name)

/-- The normal form of a name inside a directory. -/
def join (directory name : String) : String :=
  String.ofList (joinChars directory.toList name.toList)

/-- The directory part of a path: what stands before the last component and the
slash in front of it. A path of one component lies in `.`, or in `/` when it
starts there. -/
def directoryChars (path : List Char) : List Char :=
  let before := (path.reverse.dropWhile (· = '/')).dropWhile (· ≠ '/')
  match before with
  | [] => if path.head? = some '/' then ['/'] else ['.']
  | _ :: rest =>
      if rest = [] then ['/'] else if rest = ['/'] then ['/', '/'] else rest.reverse

def directory (path : String) : String :=
  String.ofList (directoryChars path.toList)

/-- The last component of a path, without the slashes behind it. -/
def nameChars (path : List Char) : List Char :=
  ((path.reverse.dropWhile (· = '/')).takeWhile (· ≠ '/')).reverse

/-- The last component of a path; a path of slashes alone has the empty name. -/
def name (path : String) : String :=
  String.ofList (nameChars path.toList)

end PartitionBench.Path
