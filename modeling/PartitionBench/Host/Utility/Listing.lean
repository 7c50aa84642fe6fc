import PartitionBench.Host.Utility.Files

/-!
Contract: the program that lists directories.

Owns: which names are shown, in which form, and with which headings.

Does not own: the order of names (`Host.Machine`).
-/

namespace PartitionBench.Host.Utility

open Execution

def shownNames (options : List Given) (names : List (List Char)) : List (List Char) :=
  let kept :=
    if has options 'a' then ['.'] :: ['.', '.'] :: names
    else if has options 'A' then names
    else names.filter fun name => name.head? ≠ some '.'
  if has options 'r' then kept.reverse else kept

/-- Names one below the other, or with commas between them. -/
def inForm (options : List Given) (names : List (List Char)) : List Char :=
  if has options 'm' ∧ ¬ names.isEmpty then List.intercalate [',', ' '] names ++ ['\n']
  else ofLines names

/-- A name with the mark of what it names, where such marks are asked for. -/
def withMark (machine : Machine) (options : List Given) (location : Location)
    (name : List Char) : List Char :=
  match machine.node? location with
  | some .directory => if has options 'F' || has options 'p' then name ++ ['/'] else name
  | _ =>
      if has options 'F' && machine.isExecutable location then name ++ ['*'] else name

def contentsListed (machine : Machine) (options : List Given) (location : Location) :
    List Char :=
  let names := shownNames options ((machine.namesIn location).map bytesOf)
  inForm options (names.map fun name => withMark machine options (location ++ [textOf name]) name)

/-- A directory with its path, and all directories in it. -/
def foldersBelow (machine : Machine) (folder : List Char × Location) :
    List (List Char × Location) :=
  (below machine FileTree.maxPathBytes folder.1 folder.2).filterMap fun entry =>
    if entry.2 = .directory then
      let names := (FileTree.names (textOf (entry.1.drop folder.1.length))).filter (· ≠ "")
      some (entry.1, folder.2 ++ names)
    else none

def list : Utility := fun name arguments =>
  withArguments
    { flags := "1aAdrltFhRpCSiLxmgonqQUXvcuksfGHBb"
      long := [("all", 'a'), ("almost-all", 'A'), ("directory", 'd'), ("reverse", 'r'),
        ("recursive", 'R'), ("classify", 'F')] }
    name arguments 2 fun options operands => do
      let found ← (if operands.isEmpty then [['.']] else operands).mapM fun path => do
        return (path, ← look path)
      let missing := found.filterMap fun entry =>
        match entry.2 with
        | .error kind => some (entry.1, kind)
        | .ok _ => none
      for entry in missing do
        complain name ("cannot access ".toList ++ shown entry.1 ++ [':', ' ']
          ++ (reason entry.2).toList)
      let machine ← machine
      let inOrder := found.mergeSort fun a b => isBefore a.1 b.1
      let ordered := if has options 'r' then inOrder.reverse else inOrder
      let isSingle (node : Node) : Bool := node ≠ .directory || has options 'd'
      let single := ordered.filterMap fun entry =>
        match entry.2 with
        | .ok (location, node) =>
            if isSingle node then some (withMark machine options location entry.1) else none
        | .error _ => none
      let folders := ordered.filterMap fun entry =>
        match entry.2 with
        | .ok (location, node) => if isSingle node then none else some (entry.1, location)
        | .error _ => none
      let all :=
        if has options 'R' then folders.flatMap (foldersBelow machine) else folders
      let isHeaded : Bool := has options 'R' || decide (1 < found.length)
      let blocks := all.map fun folder =>
        (if isHeaded then folder.1 ++ [':', '\n'] else [])
          ++ contentsListed machine options folder.2
      let parts := (if single.isEmpty then [] else [inForm options single]) ++ blocks
      print (List.intercalate ['\n'] parts) (if missing.isEmpty then 0 else 2)

end PartitionBench.Host.Utility
