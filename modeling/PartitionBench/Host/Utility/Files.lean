import PartitionBench.Host.Utility.Basic

/-!
Contract: programs that make and remove files.

Owns: these programs, paths as they print them, and the messages on paths.

Does not own: the files themselves (`Host.Machine`).
-/

namespace PartitionBench.Host.Utility

open Execution

/-- Do something with each operand; the answer is the greatest of the statuses. -/
def forEach (work : List Char → Execution Nat) : List (List Char) → Execution Nat
  | [] => return 0
  | operand :: rest => do
      let first ← work operand
      return max first (← forEach work rest)

def refuse (name : List Char) (action : String) (operand : List Char) (kind : FaultKind) :
    Execution Nat := do
  complain name (action.toList ++ ' ' :: shown operand ++ [':', ' '] ++ (reason kind).toList)
  return 1

def withoutEndSlash (path : List Char) : List Char :=
  let kept := (path.reverse.dropWhile (· = '/')).reverse
  if kept.isEmpty then path else kept

def pathsTo (path : List Char) : List (List Char) :=
  let pieces := Text.pieces '/' path
  ((List.range pieces.length).map fun count =>
    List.intercalate ['/'] (pieces.take (count + 1))).filter (· ≠ [])

/-- Say what has been done, if that is asked for. -/
def tell (isAsked : Bool) (message : List Char) : Execution Unit := do
  if isAsked then
    let _ ← say (message ++ ['\n'])

def makeOne (name : List Char) (mayExist tells : Bool) (path : List Char) : Execution Nat := do
  match ← locate (withoutEndSlash path) with
  | .error kind => refuse name "cannot create directory" path kind
  | .ok (_, some .directory) =>
      if mayExist then return 0 else refuse name "cannot create directory" path .alreadyExists
  | .ok (_, some _) => refuse name "cannot create directory" path .alreadyExists
  | .ok (location, none) => do
      alterMachine fun machine => machine.putDirectory location
      tell tells (name ++ ": created directory ".toList ++ shown path)
      return 0

def makeDirectories : Utility := fun name arguments =>
  withArguments
    { flags := "pvZ", valued := "m"
      long := [("parents", 'p'), ("verbose", 'v'), ("mode", 'm')] }
    name arguments 1 fun options operands => do
      let tells := has options 'v'
      if operands.isEmpty then missingOperand name
      else
        forEach
          (fun path =>
            if has options 'p' then forEach (makeOne name true tells) (pathsTo path)
            else makeOne name false tells path)
          operands

def removeDirectory (name : List Char) (tells : Bool) (path : List Char) : Execution Nat := do
  tell tells (name ++ ": removing directory, ".toList ++ shown path)
  match ← look path with
  | .error kind => refuse name "failed to remove" path kind
  | .ok (_, .file _ _) => refuse name "failed to remove" path .notDirectory
  | .ok (location, .directory) => do
      if ((← machine).namesIn location).isEmpty then
        alterMachine fun machine => machine.remove location
        return 0
      else do
        complain name ("failed to remove ".toList ++ shown path ++ ": Directory not empty".toList)
        return 1

def removeInTurn (name : List Char) (tells : Bool) : List (List Char) → Execution Nat
  | [] => return 0
  | path :: rest => do
      let status ← removeDirectory name tells path
      if status = 0 then removeInTurn name tells rest else return status

def removeDirectories : Utility := fun name arguments =>
  withArguments { flags := "pv", long := [("parents", 'p'), ("verbose", 'v')] } name arguments 1
    fun options operands => do
      if operands.isEmpty then missingOperand name
      else
        forEach
          (fun path =>
            removeInTurn name (has options 'v')
              (if has options 'p' then (pathsTo (withoutEndSlash path)).reverse else [path]))
          operands

def touch : Utility := fun name arguments =>
  withArguments { flags := "acm", valued := "dtr", long := [("no-create", 'c')] } name arguments 1
    fun options operands => do
      if operands.isEmpty then do
        complain name "missing file operand".toList
        hint name
        return 1
      else
        forEach
          (fun path => do
            match ← locate path with
            | .error kind => refuse name "cannot touch" path kind
            | .ok (_, some _) => return 0
            | .ok (location, none) => do
                if has options 'c' then return 0
                else if path.getLast? = some '/' then refuse name "cannot touch" path .notFound
                else
                  alterMachine fun machine => machine.putFile location [] false
                  return 0)
          operands

/-- All that lies at and below a location, with the path from a start. -/
def below (machine : Machine) : Nat → List Char → Location → List (List Char × Node)
  | 0, _, _ => []
  | fuel + 1, path, location =>
      match machine.node? location with
      | none => []
      | some (.file contents isExecutable) => [(path, .file contents isExecutable)]
      | some .directory =>
          (path, .directory) :: (machine.namesIn location).flatMap fun name =>
            below machine fuel
              ((if path.getLast? = some '/' then path else path ++ ['/']) ++ bytesOf name)
              (location ++ [name])

def lastComponent (path : List Char) : List Char :=
  (((path.reverse.dropWhile (· = '/')).takeWhile (· ≠ '/')).reverse)

/-! ## Removing -/

/-- The reports on all that is removed with a directory, what lies in it first. -/
def removalReports (machine : Machine) (path : List Char) (location : Location) : List Char :=
  ofLines <| ((below machine FileTree.maxPathBytes path location).reverse).map fun entry =>
    (if entry.2 = .directory then "removed directory " else "removed ").toList ++ shown entry.1

def removeOne (name : List Char) (options : List Given) (path : List Char) : Execution Nat := do
  let isForced := has options 'f'
  let isDeep := has options 'r' || has options 'R'
  let isDots : Bool :=
    let component := lastComponent path
    component = ['.'] || component = ['.', '.']
  match ← look path with
  | .error kind =>
      if isForced ∧ (kind = .notFound ∨ kind = .notDirectory) then return 0
      else refuse name "cannot remove" path kind
  | .ok (location, .directory) => do
      if isDeep ∧ isDots then do
        complain name ("refusing to remove '.' or '..' directory: skipping ".toList ++ shown path)
        return 1
      else if isDeep ∧ location = [] then do
        complain name "it is dangerous to operate recursively on '/'".toList
        complain name "use --no-preserve-root to override this failsafe".toList
        return 1
      else if isDeep then do
        let reports := removalReports (← machine) path location
        alterMachine fun machine => machine.remove location
        if has options 'v' then print reports 0 else return 0
      else if has options 'd' then
        if ((← machine).namesIn location).isEmpty then do
          alterMachine fun machine => machine.remove location
          tell (has options 'v') ("removed directory ".toList ++ shown path)
          return 0
        else do
          complain name ("cannot remove ".toList ++ shown path ++ ": Directory not empty".toList)
          return 1
      else refuse name "cannot remove" path .isDirectory
  | .ok (location, .file _ _) => do
      if path.getLast? = some '/' then refuse name "cannot remove" path .notDirectory
      else do
        alterMachine fun machine => machine.remove location
        tell (has options 'v') ("removed ".toList ++ shown path)
        return 0

def remove : Utility := fun name arguments =>
  withArguments
    { flags := "rRfdviI"
      long := [("recursive", 'r'), ("force", 'f'), ("verbose", 'v'), ("dir", 'd')] }
    name arguments 1 fun options operands => do
      if operands.isEmpty then
        if has options 'f' then return 0 else missingOperand name
      else forEach (removeOne name options) operands

/-! ## Paths -/

def realPath : Utility := fun name arguments =>
  withArguments { flags := "emsqzfn" } name arguments 1 fun options operands => do
    if operands.isEmpty then missingOperand name
    else
      forEach
        (fun path => do
          match ← locate path with
          | .ok (location, node) => do
              if node = none ∧ has options 'e' then do
                complain name (usualReport path (.path .notFound))
                return 1
              else
                let ending : List Char := if has options 'n' then [] else ['\n']
                print (pathOf location ++ ending) 0
          | .error kind => do
              if name = "readlink".toList then return 1
              else do
                complain name (usualReport path (.path kind))
                return 1)
        operands

/-- Print where links lead. No file is a link. -/
def readLink : Utility := fun name arguments =>
  withArguments { flags := "efmnqsvz" } name arguments 1 fun options operands => do
    if has options 'f' || has options 'e' || has options 'm' then realPath name arguments
    else if operands.isEmpty then missingOperand name
    else return 1

def makeTemporary : Utility := fun name arguments =>
  withArguments { flags := "dqut", valued := "p" } name arguments 1 fun options operands => do
    let machine ← machine
    let digits := digitsOfNat machine.nextProcess
    let filled (count : Nat) : List Char := List.replicate (count - digits.length) '0' ++ digits
    let path : List Char :=
      match operands with
      | template :: _ =>
          let marks := template.reverse.takeWhile (· = 'X')
          template.take (template.length - marks.length) ++ filled marks.length
      | [] => "/tmp/tmp.".toList ++ filled 10
    match ← locate path with
    | .ok (location, none) => do
        alterMachine fun machine =>
          { (if has options 'd' then machine.putDirectory location
              else machine.putFile location [] false) with
            nextProcess := machine.nextProcess + 1 }
        print (path ++ ['\n']) 0
    | _ => refuse name "failed to create file via template" path .notFound

end PartitionBench.Host.Utility
