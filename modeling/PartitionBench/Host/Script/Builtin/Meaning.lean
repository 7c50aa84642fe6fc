import PartitionBench.Host.Script.Builtin.Control

/-!
Contract: what names stand for where a command is expected.

Owns: the meanings of a name in their order, and the commands of the shell that tell them.

Does not own: running what a name stands for (`Script.Simple`).
-/

namespace PartitionBench.Host.Script.Builtin

open Execution

/-- What a name stands for where a command is expected. -/
inductive Meaning where
  | keyword
  | shortcut (value : List Char)
  | function
  | builtin (isSpecial : Bool)
  | file (path : List Char) (isRemembered : Bool)
  | nothing

def extendedKeywords : List String := ["[[", "]]", "function", "select", "coproc", timeKeyword]

def meaningOf (name : List Char) : Execution Meaning := do
  let process ← process
  let isKeyword := keywords.contains (String.ofList name)
    || (process.dialect = .extended && extendedKeywords.contains (String.ofList name))
  if isKeyword then return .keyword
  else
    match process.shortcuts.find? fun entry => entry.1 = name with
    | some (_, value) => return .shortcut value
    | none =>
        if process.functions.any fun entry => entry.1 = name then return .function
        else if isBuiltin process.dialect name then
          return .builtin (specialNames.contains (String.ofList name))
        else if name.contains '/' then
          match ← look name with
          | .ok (_, .file _ true) => return .file name false
          | _ => return .nothing
        else
          match ← findExecutable? name with
          | some path => do
              let isRemembered := process.remembered.any fun entry =>
                entry.1 = name && entry.2.1 = path
              if process.dialect = .standard then rememberCommand name path 0
              return .file path isRemembered
          | none => return .nothing

/-- What else a name stands for where its first meaning is hidden: a command of the shell, and
every program of the name. -/
def otherMeanings (name : List Char) (first : Meaning) : Execution (List Meaning) := do
  let isHere := isBuiltin (← process).dialect name
  let session ← get
  let programs := (candidates (← searchPath) name).filter fun path =>
    match session.machine.look session.process.location path with
    | .ok (_, .file _ isExecutable) => isExecutable
    | _ => false
  let files := programs.map fun path => Meaning.file path false
  match first with
  | .keyword | .shortcut _ | .function =>
      return (if isHere then [.builtin false] else []) ++ files
  | .builtin _ => return files
  | .file _ _ => return files.drop 1
  | .nothing => return []

def tellMeaning (missing : List Char → Execution Nat) (name : List Char) :
    Meaning → Execution Nat := fun meaning => do
  let dialect := (← process).dialect
  match meaning with
  | .keyword => print (name ++ utf8 " is a shell keyword\n") 0
  | .shortcut value =>
      match dialect with
      | .standard => print (name ++ utf8 " is an alias for " ++ value ++ ['\n']) 0
      | .extended =>
          print (name ++ utf8 " is aliased to " ++ utf8 (quotedName (textOf value)) ++ ['\n']) 0
  | .function =>
      match dialect with
      | .standard => print (name ++ utf8 " is a shell function\n") 0
      | .extended => print (name ++ utf8 " is a function\n") 0
  | .builtin isSpecial =>
      if isSpecial ∧ dialect = .standard then
        print (name ++ utf8 " is a special shell builtin\n") 0
      else print (name ++ utf8 " is a shell builtin\n") 0
  | .file path isRemembered =>
      let line : List Char :=
        match isRemembered, dialect with
        | false, _ => utf8 " is " ++ path
        | true, .standard => utf8 " is a tracked alias for " ++ path
        | true, .extended => utf8 " is hashed (" ++ path ++ [')']
      print (name ++ line ++ ['\n']) 0
  | .nothing => missing name

def printKind : Meaning → Execution Nat
  | .keyword => print (utf8 "keyword\n") 0
  | .shortcut _ => print (utf8 "alias\n") 0
  | .function => print (utf8 "function\n") 0
  | .builtin _ => print (utf8 "builtin\n") 0
  | .file _ _ => print (utf8 "file\n") 0
  | .nothing => return 1

/-- Print the path of the program that a name stands for, if it stands for one. -/
def printPath : Meaning → Execution Nat
  | .file path _ => print (path ++ ['\n']) 0
  | .nothing => return 1
  | _ => return 0

def tellMeanings (missing : List Char → Execution Nat) : Builtin :=
  optioned fun choices _ names => do
    let report (name : List Char) (meaning : Meaning) : Execution Nat :=
      if choices.has 't' then printKind meaning
      else if choices.has 'p' || choices.has 'P' then printPath meaning
      else tellMeaning missing name meaning
    forEach
      (fun name => do
        let first ←
          if choices.has 'P' then
            match ← findExecutable? name with
            | some path => pure (Meaning.file path false)
            | none => pure Meaning.nothing
          else meaningOf name
        let status ← report name first
        if choices.has 'a' then
          for other in ← otherMeanings name first do
            let _ ← report name other
        return status)
      names

def printMeanings (names : List (List Char)) : Execution Nat := do
  let dialect := (← process).dialect
  let isFirstOnly := dialect = .standard
  let shown ← (if isFirstOnly then names.take 1 else names).mapM fun name => do
    match ← meaningOf name with
    | .keyword | .function | .builtin _ => print (name ++ ['\n']) 0
    | .shortcut value => print (utf8 "alias " ++ name ++ '=' :: singleQuoted value ++ ['\n']) 0
    | .file path _ => print (path ++ ['\n']) 0
    | .nothing => return 127
  match dialect with
  | .standard => return shown.headD 127
  | .extended => return if shown.contains 0 then 0 else 1

end PartitionBench.Host.Script.Builtin
