import PartitionBench.Host.Machine
import PartitionBench.Host.Script.Grammar

/-!
Contract: a process of the host while it runs.

Owns:
- what belongs to one process: variables, functions, arguments, options, descriptors and
  the working directory;
- the ways in which a command may leave its place in a script;
- reading and writing through descriptors, variables, and work that is done apart, by a
  process of its own.

Does not own: commands (`Script.Execution`) and programs (`Host.Program`).
-/

namespace PartitionBench.Host

open Script (Dialect Command Word)

/-- A variable. Lists are kept by their places, as texts. -/
structure Variable where
  value : Option (List Char) := none
  items : Option (List (List Char × List Char)) := none
  isTable : Bool := false
  isExported : Bool := false
  isReadOnly : Bool := false
  isInteger : Bool := false
  deriving Repr

def itemAt? (items : List (List Char × List Char)) (place : List Char) : Option (List Char) :=
  (items.find? fun entry => entry.1 = place).map (·.2)

/-- The value of a variable. That of a list is its item at the place zero. -/
def Variable.text? (held : Variable) : Option (List Char) :=
  match held.items with
  | some items => itemAt? items ['0']
  | none => held.value

/-- A function: where it begins and what it does. -/
structure Definition where
  line : Nat
  body : Command

structure Process where
  dialect : Dialect
  /-- The name under which the script was started. -/
  path : List Char
  arguments : List (List Char)
  bindings : List (List Char × Variable)
  functions : List (List Char × Definition)
  flags : List Char
  failsByPipe : Bool
  status : Nat
  substituted : Nat
  location : Location
  descriptors : List (Nat × Nat)
  /-- What is done on a signal, or at the end. -/
  traps : List (List Char × List Char)
  line : Nat
  /-- The line that messages name, if it is another one. -/
  messageLine : Nat
  /-- How far the lines of a nested text are from where they count. -/
  lineShift : Int
  speaker : Option (List Char)
  /-- What the text that is being run is called, if it is no file. -/
  textName : Option (List Char)
  number : Nat
  parent : Nat
  background : Option Nat
  backgroundStatus : Nat
  /-- The values that variables get back at the end of functions. -/
  frames : List (List (List Char × Option Variable))
  functionDepth : Nat
  loopDepth : Nat
  sourceDepth : Nat
  documents : List (Nat × Word)
  nextDocument : Nat
  shortcuts : List (List Char × List Char)
  /-- The commands that have been found, with their paths and how often they were run. -/
  remembered : List (List Char × List Char × Nat)
  settings : List String
  /-- The place in an argument where the reading of options goes on. -/
  optionPlace : Nat
  mask : Nat

/-- A process together with what it shares with others. -/
structure Session where
  machine : Machine
  process : Process

/-- How a command leaves its place in a script. -/
inductive Departure where
  | leaves (status : Nat)
  /-- The process ends because of a fault that has been reported. -/
  | fails (status : Nat)
  | breaks (levels : Nat)
  | continues (levels : Nat)
  | returns (status : Nat)
  /-- The line that is being run is given up. -/
  | abandons (status : Nat)
  | dies (signal : Nat)
  /-- The whole run is ended, because it has written more than may be. -/
  | stops
  deriving DecidableEq, Repr

inductive Ending where
  | exited (status : Nat)
  | killed (signal : Nat)
  deriving DecidableEq, Repr

def Ending.status : Ending → Nat
  | .exited status => status
  | .killed signal => 128 + signal

abbrev Execution := EStateM Departure Session

namespace Execution

/-- Do something and give what became of it. Nothing follows the end of the whole run. -/
def attempt {α : Type} (work : Execution α) : Execution (Except Departure α) :=
  fun session =>
    match work session with
    | .ok value later => .ok (.ok value) later
    | .error .stops later => .error .stops later
    | .error departure later => .ok (.error departure) later

/-- Give what became of something as if it were done here. -/
def resume {α : Type} (result : Except Departure α) : Execution α :=
  match result with
  | .ok value => return value
  | .error departure => throw departure

/-- Do something, and then something else whatever became of it. -/
def ensuring {α : Type} (work : Execution α) (after : Execution Unit) : Execution α := do
  let result ← attempt work
  after
  resume result

def alter (change : Process → Process) : Execution Unit :=
  modify fun session => { session with process := change session.process }

def alterMachine (change : Machine → Machine) : Execution Unit :=
  modify fun session => { session with machine := change session.machine }

def process : Execution Process :=
  return (← get).process

def machine : Execution Machine :=
  return (← get).machine

/-- Do something with a process of its own, which is gone afterwards. -/
def apart {α : Type} (work : Execution α) : Execution (Except Departure α) := do
  let outer ← process
  let result ← attempt work
  alter fun _ => outer
  return result

/-! ## Descriptors -/

def streamOf? (descriptor : Nat) : Execution (Option Nat) :=
  return ((← process).descriptors.find? fun entry => entry.1 = descriptor).map (·.2)

/-- How many bytes a stage of a pipeline may write before the next one is taken to have
stopped reading. -/
def maxPiped : Nat := 8000000

/-- How many streams a run starts with: an input and two outputs. -/
def initialStreams : Nat := 3

/-- Write to a descriptor. The answer tells whether it can be written to. A write that
overfills an output of the run ends the run; one that overfills a pipe ends the process,
since nobody reads it any more. -/
def write (descriptor : Nat) (bytes : List Char) : Execution Bool := do
  match ← streamOf? descriptor with
  | none => return false
  | some number =>
      match (← machine).write? number bytes with
      | some later => do
          alterMachine fun _ => later
          if later.isOverfull number then
            throw (if number < initialStreams then .stops else .dies 13)
          return true
      | none => return false

def say (bytes : List Char) : Execution Bool := write 1 bytes

def warn (text : List Char) : Execution Unit := do
  let _ ← write 2 text

/-- What is left to be read from a descriptor, without taking it. -/
def waiting (descriptor : Nat) : Execution (List Char) := do
  match ← streamOf? descriptor with
  | none => return []
  | some number => return (← machine).waiting number

def skip (descriptor count : Nat) : Execution Unit := do
  match ← streamOf? descriptor with
  | none => return ()
  | some number => alterMachine fun machine => machine.skip number count

def readAll (descriptor : Nat) : Execution (List Char) := do
  let bytes ← waiting descriptor
  skip descriptor bytes.length
  return bytes

/-- Descriptors with one that leads to a stream, or that is closed. -/
def withDescriptor (descriptors : List (Nat × Nat)) (descriptor : Nat) (stream : Option Nat) :
    List (Nat × Nat) :=
  let others := descriptors.filter fun entry => entry.1 ≠ descriptor
  match stream with
  | some number => (descriptor, number) :: others
  | none => others

def setDescriptor (descriptor : Nat) (stream : Option Nat) : Execution Unit :=
  alter fun process =>
    { process with descriptors := withDescriptor process.descriptors descriptor stream }

def openStream (stream : Stream) : Execution Nat := do
  let (number, later) := (← machine).addStream stream
  alterMachine fun _ => later
  return number

/-- Do something and give what it writes to its output. -/
def capture {α : Type} (work : Execution α) : Execution (α × List Char) := do
  let channel ← openStream (.channel {})
  let outer ← streamOf? 1
  setDescriptor 1 (some channel)
  let value ← ensuring work (setDescriptor 1 outer)
  return (value, (← machine).waiting channel)

/-! ## Paths -/

/-- Where a path leads, and what stands there, if anything does. -/
def locate (path : List Char) : Execution (Except FaultKind (Location × Option Node)) := do
  let session ← get
  return session.machine.locate session.process.location path

def look (path : List Char) : Execution (Except FaultKind (Location × Node)) := do
  let session ← get
  return session.machine.look session.process.location path

def pathOf (location : Location) : List Char :=
  '/' :: bytesOf (String.intercalate "/" location)

def deviceDescriptor? (location : Location) : Option Nat :=
  match location with
  | ["dev", "stdin"] => some 0
  | ["dev", "stdout"] => some 1
  | ["dev", "stderr"] => some 2
  | ["dev", "fd", number] => natural? number.toList
  | _ => none

/-- Why a file cannot be opened. -/
inductive OpenFault where
  | path (kind : FaultKind)
  | noDevice
  | closed
  deriving DecidableEq

def OpenFault.reason : OpenFault → String
  | .path kind => Host.reason kind
  | .noDevice => "No such device or address"
  | .closed => "Bad file descriptor"

/-- Open the file at a path. `clobbers` tells whether a file may be written over. -/
def openFile (path : List Char) (access : Script.Access) (clobbers : Bool) :
    Execution (Except OpenFault Nat) := do
  match ← locate path with
  | .error kind => return .error (.path kind)
  | .ok (location, node) =>
      match deviceDescriptor? location, device? location with
      | some descriptor, _ =>
          match ← streamOf? descriptor with
          | some number => return .ok number
          | none => return .error (.path .notFound)
      | none, some "tty" => return .error .noDevice
      | none, some "full" => return .ok (← openStream .full)
      | none, some "null" => return .ok (← openStream .nothing)
      | none, some _ => return .ok (← openStream .zeros)
      | none, none =>
          let endsInSlash := path.getLast? = some '/'
          match node, access with
          | some .directory, .read => return .ok (← openStream .directory)
          | some .directory, _ => return .error (.path .isDirectory)
          | some (.file _ isExecutable), _ =>
              if endsInSlash then return .error (.path .notDirectory)
              else
                match access with
                | .write | .overwrite =>
                    if ¬ clobbers ∧ access = .write then return .error (.path .alreadyExists)
                    else do
                      alterMachine fun machine => machine.putFile location [] isExecutable
                      return .ok (← openStream (.file location 0 false))
                | .append => return .ok (← openStream (.file location 0 true))
                | .read | .readWrite => return .ok (← openStream (.file location 0 false))
          | none, .read => return .error (.path .notFound)
          | none, _ =>
              if endsInSlash then return .error (.path .isDirectory)
              else do
                alterMachine fun machine => machine.putFile location [] false
                return .ok (← openStream (.file location 0 (access = .append)))

def readFile (path : List Char) : Execution (Except OpenFault (List Char)) := do
  match ← openFile path .read true with
  | .error fault => return .error fault
  | .ok number =>
      let machine ← machine
      match machine.stream? number with
      | some .directory => return .error (.path .isDirectory)
      | _ =>
          let bytes := machine.waiting number
          alterMachine fun machine => machine.skip number bytes.length
          return .ok bytes

/-! ## Variables -/

def heldVariable? (name : List Char) : Execution (Option Variable) :=
  return ((← process).bindings.find? fun entry => entry.1 = name).map (·.2)

def value? (name : List Char) : Execution (Option (List Char)) :=
  return (← heldVariable? name).bind Variable.text?

/-- Entries with one that is replaced, or added at the end. -/
def putEntry {α : Type} (name : List Char) (value : α) :
    List (List Char × α) → List (List Char × α)
  | [] => [(name, value)]
  | entry :: rest =>
      if entry.1 = name then (name, value) :: rest else entry :: putEntry name value rest

def putVariable (name : List Char) (held : Variable) : Execution Unit :=
  alter fun process => { process with bindings := putEntry name held process.bindings }

def dropVariable (name : List Char) : Execution Unit :=
  alter fun process =>
    { process with bindings := process.bindings.filter fun entry => entry.1 ≠ name }

/-- Give a value to a variable, whether it is read-only or not. -/
def setValue (name value : List Char) : Execution Unit := do
  let held := (← heldVariable? name).getD {}
  let exportsAll := (← process).flags.contains 'a'
  let later : Variable :=
    match held.items with
    | some items => { held with items := some (putEntry ['0'] value items) }
    | none => { held with value := some value }
  putVariable name { later with isExported := later.isExported || exportsAll }

/-- The variables that programs are given, with their values. -/
def exported : Execution (List (List Char × List Char)) :=
  return (← process).bindings.filterMap fun entry =>
    if entry.2.isExported then entry.2.value.map fun value => (entry.1, value) else none

/-- Remember where a command was found, and how often it has been run since. -/
def rememberCommand (name path : List Char) (runs : Nat) : Execution Unit :=
  alter fun process =>
    let before : Nat :=
      match process.remembered.find? fun entry => entry.1 = name with
      | some (_, _, count) => count
      | none => 0
    { process with remembered := putEntry name (path, before + runs) process.remembered }

def hasFlag (flag : Char) : Execution Bool :=
  return (← process).flags.contains flag

end Execution

end PartitionBench.Host
