import PartitionBench.Host.Script.Phrase.Redirection

/-!
Contract: simple commands and definitions of functions as they are written.

Owns: which words are assignments, lists of items, and the words and redirections of a
command.

Does not own: running them (`Script.Simple`).
-/

namespace PartitionBench.Host.Script

/-- The assignment that a word is, if it is one. -/
def assignmentOf? : Word → Option Assignment
  | .plain text :: rest =>
      let name := text.takeWhile continuesName
      if isName name then
        match text.drop name.length with
        | '=' :: value =>
            some (.value name false (if value = [] then rest else .plain value :: rest))
        | '+' :: '=' :: value =>
            some (.value name true (if value = [] then rest else .plain value :: rest))
        | _ => none
      else none
  | _ => none

/-- The parts of a word cut at the first closing square bracket outside quotes. -/
def cutPlace : Word → Option (Word × Word)
  | [] => none
  | .plain text :: rest =>
      match text.dropWhile (· ≠ ']') with
      | _ :: behind => some ([.plain (text.takeWhile (· ≠ ']'))], .plain behind :: rest)
      | [] => (cutPlace rest).map fun cut => (.plain text :: cut.1, cut.2)
  | part :: rest => (cutPlace rest).map fun cut => (part :: cut.1, cut.2)

/-- The assignment to an element of a list that a word is, if it is one. -/
def elementAssignmentOf? : Word → Option Assignment
  | .plain text :: rest =>
      let name := text.takeWhile continuesName
      match isName name, text.drop name.length with
      | true, '[' :: behind =>
          match cutPlace (.plain behind :: rest) with
          | some (place, .plain ('=' :: value) :: others) =>
              some (.element name place false (.plain value :: others))
          | some (place, .plain ('+' :: '=' :: value) :: others) =>
              some (.element name place true (.plain value :: others))
          | _ => none
      | _, _ => none
  | _ => none

/-- The assignment that a word is in a dialect. The standard dialect knows neither lists
nor adding to a value. -/
def assignmentIn? (dialect : Dialect) (word : Word) : Option Assignment :=
  match dialect, assignmentOf? word with
  | .standard, some (.value name false value) => some (.value name false value)
  | .standard, _ => none
  | .extended, some assignment => some assignment
  | .extended, none => elementAssignmentOf? word

def Phrases.readItems (phrases : Phrases) : Nat → Reader (List Word)
  | 0 => return []
  | fuel + 1 => do
      match ← phrases.take with
      | .newline => phrases.readItems fuel
      | .sign .closing => return []
      | .word word _ => return word :: (← phrases.readItems fuel)
      | token => refuse token none

/-- What has been read of a simple command, the last first. -/
structure Simple where
  assignments : List Assignment := []
  words : List Word := []
  redirections : List Redirection := []

def Simple.command (simple : Simple) (line : Nat) : Command :=
  .simple line simple.assignments.reverse simple.words.reverse simple.redirections.reverse

/-- Names that commands of the standard shell have for good, so that no function may take
them. -/
def reservedNames : List String :=
  [".", ":", "break", "continue", "eval", "exec", "exit", "export", "readonly", "return", "set",
    "shift", "times", "trap", "unset"]

def takesItems? (dialect : Dialect) (word : Word) (rest : List Char) : Option Assignment :=
  match dialect, assignmentOf? word, rest with
  | .extended, some (.value name adds []), '(' :: _ => some (.value name adds [])
  | _, _, _ => none

def mayName (dialect : Dialect) (name : List Char) : Bool :=
  match dialect with
  | .standard => isName name && !reservedNames.contains (String.ofList name)
  | .extended => name ≠ []

def compoundKeywords : List String :=
  ["if", "while", "until", "for", "case", "select", "\x7b", "[["]

def Phrases.requireCompound (phrases : Phrases) : Reader Unit := do
  let token ← phrases.peek
  let isCompound : Bool :=
    match token with
    | .sign .opening => true
    | .word [.plain text] _ => compoundKeywords.contains (String.ofList text)
    | _ => false
  if (← get).dialect = .extended ∧ ¬ isCompound then refuse token none else return ()

def Phrases.readDefinition (phrases : Phrases) (word : Word) (written : List Char) :
    Reader Command := do
  match ← phrases.take with
  | .sign .closing => do
      let name := (word.plain?).getD []
      if mayName (← get).dialect name then
        phrases.skipNewlines (← Reader.bound)
        let line := (← get).line
        phrases.requireCompound
        return .definition line name (← phrases.command)
      else throw (.functionName written)
  | .word _ behind => refuse (.word [] behind) (some (quotedWord ")"))
  | token => refuse token (some (quotedWord ")"))

/-- Commands of the extended dialect whose arguments may give lists to names. -/
def declaringNames : List String :=
  ["declare", "typeset", "local", "export", "readonly"]

/-- The line that messages name for a command, of which the first word and the token behind it
have been read: in the extended dialect it is the one on which that token ends. -/
def lineBehind (source : Source) (token : Token) (later line : Nat) : Nat :=
  match source.dialect, token with
  | .standard, _ => line
  | .extended, .newline => source.line
  | .extended, _ => later

def Phrases.readSimple (phrases : Phrases) (line : Nat) : Nat → Simple → Reader Command
  | 0, simple => return simple.command line
  | fuel + 1, simple => do
      let isFirst := simple.words.isEmpty
      match ← (if isFirst then phrases.takeExpanded 100 else phrases.take) with
      | .word word written => do
          let source ← get
          let declares : Bool :=
            match simple.words.getLast?.bind Word.plain? with
            | some name => declaringNames.contains (String.ofList name)
            | none => false
          let mayHoldItems := isFirst || declares
          match (if mayHoldItems then takesItems? source.dialect word source.rest else none) with
          | some (.value name adds _) => do
              let _ ← Reader.next?
              let items ← phrases.readItems (← Reader.bound)
              phrases.readSimple line fuel
                { simple with assignments := .items name adds items :: simple.assignments }
          | _ =>
              match (if isFirst then assignmentIn? source.dialect word else none) with
              | some assignment =>
                  phrases.readSimple line fuel
                    { simple with assignments := assignment :: simple.assignments }
              | none =>
                  let mayDefine := isFirst && simple.assignments.isEmpty
                    && simple.redirections.isEmpty
                  if mayDefine then
                    match ← phrases.take with
                    | .sign .opening => phrases.readDefinition word written
                    | token => do
                        let line := lineBehind source token (← get).line line
                        Phrases.putBack token
                        phrases.readSimple line fuel { simple with words := [word] }
                  else
                    phrases.readSimple line fuel { simple with words := word :: simple.words }
      | .arrow descriptor arrow _ => do
          let redirection ← phrases.readRedirection descriptor arrow
          phrases.readSimple line fuel
            { simple with redirections := redirection :: simple.redirections }
      | token => do
          Phrases.putBack token
          return simple.command line

end PartitionBench.Host.Script
