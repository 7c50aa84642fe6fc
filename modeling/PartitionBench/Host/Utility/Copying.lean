import PartitionBench.Host.Utility.Files

/-!
Contract: programs that give files another place or name.

Owns: copying, moving and linking, the places that operands lead to, and the reports on
what was done.

Does not own: the files themselves (`Host.Machine`).
-/

namespace PartitionBench.Host.Utility

open Execution

/-- The sources and the paths to which they go, or a status if the call is wrong. -/
def destinations (name : List Char) (options : List Given) (operands : List (List Char)) :
    Execution (Except Nat (List (List Char × List Char))) := do
  let into (folder : List Char) (source : List Char) : List Char × List Char :=
    let front := withoutEndSlash folder
    (source, (if front = ['/'] then front else front ++ ['/']) ++ lastComponent source)
  let noFolder (path : List Char) : Execution (Option String) := do
    match ← look path with
    | .ok (_, .directory) => return none
    | .ok _ => return some (reason .notDirectory)
    | .error kind => return some (reason kind)
  match valueOf? options 't', operands.reverse with
  | _, [] => do
      complain name "missing file operand".toList
      hint name
      return .error 1
  | some folder, _ =>
      match ← noFolder folder with
      | none => return .ok (operands.map (into folder))
      | some text => do
          complain name ("target directory ".toList ++ shown folder ++ [':', ' '] ++ text.toList)
          return .error 1
  | none, [operand] => do
      complain name ("missing destination file operand after ".toList ++ shown operand)
      hint name
      return .error 1
  | none, target :: first :: others =>
      if has options 'T' then
        match others with
        | [] => return .ok [(first, target)]
        | _ => do
            complain name ("extra operand ".toList ++ shown (operands.getD 2 []))
            hint name
            return .error 1
      else
        match ← noFolder target, others with
        | none, _ => return .ok ((first :: others).reverse.map (into target))
        | some _, [] => return .ok [(first, target)]
        | some text, _ => do
            complain name ("target ".toList ++ shown target ++ [':', ' '] ++ text.toList)
            return .error 1

/-- Do something with each source and the path to which it goes. -/
def forEachDestination (name : List Char) (options : List Given) (operands : List (List Char))
    (work : List Char → List Char → Execution Nat) : Execution Nat := do
  match ← destinations name options operands with
  | .error status => return status
  | .ok pairs =>
      (pairs.map fun pair => work pair.1 pair.2).foldlM
        (fun status next => do return max status (← next)) 0

def withArrow (arrow : String) (source path : List Char) : List Char :=
  shown source ++ arrow.toList ++ shown path

/-- Refuse to put a file where a directory is, or a directory where a file is. -/
def refuseOverwriting (name source path : List Char) (isDirectory : Bool) : Execution Nat := do
  complain name <|
    if isDirectory then
      "cannot overwrite non-directory ".toList ++ shown path ++ " with directory ".toList
        ++ shown source
    else "cannot overwrite directory ".toList ++ shown path ++ " with non-directory".toList
  return 1

def copyReports (machine : Machine) (source path : List Char) (location : Location) :
    List Char :=
  ofLines <| (below machine FileTree.maxPathBytes source location).map fun entry =>
    withArrow " -> " entry.1 (path ++ entry.1.drop source.length)

def copyDirectory (name : List Char) (tells : Bool) (source path : List Char)
    (start target : Location) : Execution Nat := do
  let reports := copyReports (← machine) source path start
  alterMachine fun machine => machine.copy start target
  if tells then
    let _ ← say reports
  if Machine.isWithin target start then do
    complain name ("cannot copy a directory, ".toList ++ shown source ++ ", into itself, ".toList
      ++ shown path)
    return 1
  else return 0

/-- Copy a file to a location. A file that is there keeps who may execute it. -/
def copyFile (tells : Bool) (source path : List Char) (start target : Location) :
    Execution Nat := do
  alterMachine fun machine =>
    let model := if (machine.node? target).isSome then target else start
    machine.putFile target (machine.bytesAt start) (machine.isExecutable model)
  tell tells (withArrow " -> " source path)
  return 0

def copyOne (name : List Char) (options : List Given) (source path : List Char) :
    Execution Nat := do
  let isDeep := has options 'r' || has options 'R' || has options 'a'
  let tells := has options 'v'
  match ← look source with
  | .error kind => refuse name "cannot stat" source kind
  | .ok (start, node) =>
      match node, ← locate (withoutEndSlash path) with
      | .directory, spot =>
          if ¬ isDeep then do
            complain name ("-r not specified; omitting directory ".toList ++ shown source)
            return 1
          else
            match spot with
            | .ok (_, some (.file _ _)) => refuseOverwriting name source path true
            | .ok (target, _) => copyDirectory name tells source path start target
            | .error kind => refuse name "cannot create directory" path kind
      | .file _ _, .ok (target, found) => do
          if target = start then do
            complain name (withArrow " and " source path ++ " are the same file".toList)
            return 1
          else
            match found with
            | some .directory => refuseOverwriting name source path false
            | some (.file _ _) =>
                if has options 'n' then return 0 else copyFile tells source path start target
            | none =>
                if path.getLast? = some '/' then
                  refuse name "cannot create regular file" path .notDirectory
                else copyFile tells source path start target
      | .file _ _, .error kind => refuse name "cannot create regular file" path kind

def copy : Utility := fun name arguments =>
  withArguments
    { flags := "rRafpviunTdLPHlsx", valued := "tS"
      long := [("recursive", 'r'), ("force", 'f'), ("archive", 'a'), ("verbose", 'v'),
        ("no-clobber", 'n'), ("target-directory", 't'), ("no-target-directory", 'T'),
        ("update", 'u'), ("interactive", 'i')] }
    name arguments 1 fun options operands =>
      forEachDestination name options operands (copyOne name options)

def moveOne (name : List Char) (options : List Given) (source path : List Char) :
    Execution Nat := do
  let moved (start target : Location) : Execution Nat := do
    alterMachine fun machine => machine.move start target
    tell (has options 'v') ("renamed ".toList ++ withArrow " -> " source path)
    return 0
  match ← look source with
  | .error kind => refuse name "cannot stat" source kind
  | .ok (start, node) => do
      let isDirectory : Bool := node = .directory
      let blocked (kind : FaultKind) : Execution Nat := do
        complain name ("cannot move ".toList ++ withArrow " to " source path ++ [':', ' ']
          ++ (reason kind).toList)
        return 1
      match ← locate (withoutEndSlash path) with
      | .error kind => blocked kind
      | .ok (target, found) =>
          if target = start then do
            complain name (withArrow " and " source path ++ " are the same file".toList)
            return 1
          else if isDirectory ∧ Machine.isWithin target start then do
            complain name ("cannot move ".toList ++ shown source
              ++ " to a subdirectory of itself, ".toList ++ shown path)
            return 1
          else
            match found with
            | none =>
                if ¬ isDirectory ∧ path.getLast? = some '/' then blocked .notDirectory
                else moved start target
            | some (.file _ _) =>
                if isDirectory then refuseOverwriting name source path true
                else if has options 'n' then return 0
                else moved start target
            | some .directory => do
                if ¬ isDirectory then refuseOverwriting name source path false
                else if ((← machine).namesIn target).isEmpty then moved start target
                else do
                  complain name ("cannot overwrite ".toList ++ shown path
                    ++ ": Directory not empty".toList)
                  return 1

def move : Utility := fun name arguments =>
  withArguments
    { flags := "fivnuT", valued := "tS"
      long := [("force", 'f'), ("verbose", 'v'), ("no-clobber", 'n'),
        ("target-directory", 't'), ("no-target-directory", 'T'), ("interactive", 'i')] }
    name arguments 1 fun options operands =>
      forEachDestination name options operands (moveOne name options)

/-- The path that a link means: links without a slash in front lead from where they are. -/
def linkTarget (source path : List Char) : List Char :=
  if source.head? = some '/' then source
  else ((path.reverse.dropWhile (· ≠ '/')).reverse) ++ source

/-- Give what a path names a second name. What it holds is kept under both names. -/
def linkOne (name : List Char) (options : List Given) (source path : List Char) :
    Execution Nat := do
  let isSymbolic := has options 's'
  let action :=
    if isSymbolic then "failed to create symbolic link" else "failed to create hard link"
  let put (target : Location) : Execution Nat := do
    match ← look (if isSymbolic then linkTarget source path else source) with
    | .ok (start, _) => alterMachine fun machine => (machine.remove target).copy start target
    | .error _ => pure ()
    tell (has options 'v') (withArrow (if isSymbolic then " -> " else " => ") path source)
    return 0
  match ← look source, ← locate path with
  | .error kind, spot =>
      match isSymbolic, spot with
      | false, _ => refuse name "failed to access" source kind
      | true, .error other => refuse name action path other
      | true, .ok (target, found) =>
          if found.isSome ∧ ¬ has options 'f' then refuse name action path .alreadyExists
          else put target
  | .ok (_, node), spot =>
      if node = .directory ∧ ¬ isSymbolic then do
        complain name (source ++ ": hard link not allowed for directory".toList)
        return 1
      else
        match spot with
        | .error kind => refuse name action path kind
        | .ok (target, none) => put target
        | .ok (target, some _) =>
            if has options 'f' then put target else refuse name action path .alreadyExists

/-- Give files second names. A single operand gets its name in the working directory. -/
def link : Utility := fun name arguments =>
  withArguments
    { flags := "sfnrvTbiLP", valued := "tS"
      long := [("symbolic", 's'), ("force", 'f'), ("verbose", 'v'), ("no-dereference", 'n')] }
    name arguments 1 fun options operands =>
      let named :=
        match operands, valueOf? options 't' with
        | [only], none => [only, ['.']]
        | _, _ => operands
      forEachDestination name options named (linkOne name options)

end PartitionBench.Host.Utility
