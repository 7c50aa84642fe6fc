import PartitionBench.Host.Utility.Files

/-!
Contract: programs that tell about the process and the host.

Owns: the working directory, the variables, the names of the host and its user, and where
commands are found. No program waits.

Does not own: changing any of these.
-/

namespace PartitionBench.Host.Utility

open Execution

/-- Print a text by a program that takes no operands. -/
def printOnly (known : Known) (text : List Char) (status : Nat) : Utility :=
  fun name arguments =>
    withArguments known name arguments 1 fun _ operands =>
      match operands with
      | [] => print (text ++ ['\n']) status
      | extra :: _ => do
          complain name ("extra operand ".toList ++ shown extra)
          hint name
          return 1

def workingDirectory : Utility := fun name arguments =>
  withArguments { flags := "LP" } name arguments 1 fun _ _ => do
    print (pathOf (← process).location ++ ['\n']) 0

def printVariables : Utility := fun _ arguments => do
  let held ← exported
  match arguments with
  | [] => print (ofLines (held.map fun entry => entry.1 ++ '=' :: entry.2)) 0
  | names =>
      let found := names.filterMap fun name =>
        (held.find? fun entry => entry.1 = name).map (·.2)
      print (ofLines found) (if found.length = names.length then 0 else 1)

def hostName : List Char := "localhost".toList

def printHostName : Utility := fun _ _ => print (hostName ++ ['\n']) 0

def printMachine : Utility := printOnly {} "x86_64".toList 0

def printSystem : Utility := fun name arguments =>
  withArguments { flags := "asnrvmpio", long := [("all", 'a'), ("machine", 'm')] } name arguments 1
    fun options _ => do
      let parts : List (Char × List Char) :=
        [('s', "Linux".toList), ('n', hostName), ('r', "6.1.0".toList), ('v', "#1 SMP".toList),
          ('m', "x86_64".toList), ('o', "GNU/Linux".toList)]
      let asked := parts.filter fun part => has options 'a' || has options part.1
      let shownParts := if asked.isEmpty then parts.take 1 else asked
      print (List.intercalate [' '] (shownParts.map (·.2)) ++ ['\n']) 0

def printUser : Utility := printOnly {} "root".toList 0

def printIdentity : Utility := fun name arguments =>
  withArguments { flags := "ugnGr", long := [("user", 'u'), ("name", 'n'), ("group", 'g')] }
    name arguments 1 fun options _ =>
      if has options 'n' then print "root\n".toList 0
      else if has options 'u' ∨ has options 'g' ∨ has options 'G' then print "0\n".toList 0
      else print "uid=0(root) gid=0(root) groups=0(root)\n".toList 0

def printProcessors : Utility := printOnly { valued := "i", long := [("all", 'a')] } ['1'] 0

def printTerminal : Utility := printOnly { flags := "s" } "not a tty".toList 1

def which : Utility := fun name arguments =>
  withArguments { flags := "as" } name arguments 2 fun options names => do
    let session ← get
    let isCommand (path : List Char) : Bool :=
      match session.machine.look session.process.location path with
      | .ok (_, .file _ isExecutable) => isExecutable
      | _ => false
    let directories ← searchPath
    let pathsOf (command : List Char) : List (List Char) :=
      let all := if command.contains '/' then [command] else candidates directories command
      let found := all.filter isCommand
      if has options 'a' then found else found.take 1
    let found := names.map pathsOf
    print (if has options 's' then [] else ofLines found.flatten)
      (if names ≠ [] ∧ found.all fun paths => !paths.isEmpty then 0 else 1)

def isSpan (text : List Char) : Bool :=
  let isUnit (c : Char) : Bool := c = 's' || c = 'm' || c = 'h' || c = 'd'
  let number : List Char :=
    match text.getLast? with
    | some c => if isUnit c then text.dropLast else text
    | none => text
  let whole := number.takeWhile Char.isDigit
  let rest := number.drop whole.length
  number = "inf".toList || number = "infinity".toList
    || (whole ≠ [] && rest = [])
    || (rest.head? = some '.' && rest.tail.all Char.isDigit && number.length > 1)

/-- Wait, which takes no time. -/
def pause : Utility := fun name arguments =>
  withArguments {} name arguments 1 fun _ operands => do
    if operands.isEmpty then missingOperand name
    else
      let wrong := operands.filter fun operand => !isSpan operand
      for operand in wrong do
        complain name ("invalid time interval ".toList ++ shown operand)
      if wrong.isEmpty then return 0
      else do
        hint name
        return 1

end PartitionBench.Host.Utility
