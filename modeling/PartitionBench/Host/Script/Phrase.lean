import PartitionBench.Host.Script.Phrase.Compound

/-!
Contract: how the commands of a script are written.

Owns: pipelines and lists, the commands of a substitution, how deep phrases may be nested,
and reading a script line by line.

Does not own: single commands (`Script.Phrase.Compound`).
-/

namespace PartitionBench.Host.Script

def joiningOutputs (line : Nat) (command : Command) : Command :=
  .redirected line command [.copy 2 true [.plain ['1']]]

def Phrases.readStages (phrases : Phrases) : Nat → Command → Reader (List Command)
  | 0, first => return [first]
  | fuel + 1, first => do
      match ← phrases.take with
      | .sign .pipe => do
          phrases.skipNewlines (← Reader.bound)
          let next ← phrases.command
          return first :: (← phrases.readStages fuel next)
      | .sign .pipeBoth => do
          let line := (← get).line
          phrases.skipNewlines (← Reader.bound)
          let next ← phrases.command
          return joiningOutputs line first :: (← phrases.readStages fuel next)
      | token => do
          Phrases.putBack token
          return [first]

def Token.asksTime : Token → Bool
  | .word [.plain text] _ => text = timeKeyword.toList
  | _ => false

/-- A token is an option of the word that asks for the time of a command. -/
def Token.isTerseOption : Token → Bool
  | .word [.plain text] _ => text = ['-', 'p']
  | _ => false

def Token.endsCommand : Token → Bool
  | .finish | .newline | .sign .semicolon => true
  | _ => false

/-- Read a pipeline. Negations before it cancel each other where several are allowed; there may
be none behind them, or behind a question for the time, in the extended dialect. -/
def Phrases.readPipeline (phrases : Phrases) : Nat → Reader Command
  | 0 => phrases.command
  | fuel + 1 => do
      let token ← phrases.start
      let isExtended := (← get).dialect = .extended
      let nothing : Command := .simple (← get).line [] [] []
      if isExtended ∧ token.asksTime then
        let _ ← phrases.take
        let isTerse := (← phrases.start).isTerseOption
        if isTerse then
          let _ ← phrases.take
        if (← phrases.start).endsCommand then return .timed isTerse nothing
        else return .timed isTerse (← phrases.readPipeline fuel)
      else if token.keyword? = some "!" then
        let _ ← phrases.take
        let next ← phrases.start
        if isExtended ∧ next.endsCommand then return .negated nothing
        else if isExtended ∧ (next.keyword? = some "!" ∨ next.asksTime) then
          return .negated (← phrases.readPipeline fuel)
        else
          let stages ← phrases.readStages (← Reader.bound) (← phrases.command)
          match stages with
          | [only] => return .negated only
          | _ => return .negated (.pipeline stages)
      else
        let stages ← phrases.readStages (← Reader.bound) (← phrases.command)
        match stages with
        | [only] => return only
        | _ => return .pipeline stages

/-- Read the pipelines that are joined to one by its success or failure. -/
def Phrases.readJoined (phrases : Phrases) : Nat → Command → Reader Command
  | 0, first => return first
  | fuel + 1, first => do
      match ← phrases.take with
      | .sign .bothSucceed => do
          phrases.skipNewlines (← Reader.bound)
          let next ← phrases.readPipeline (← Reader.bound)
          phrases.readJoined fuel (.onSuccess first next)
      | .sign .eitherSucceeds => do
          phrases.skipNewlines (← Reader.bound)
          let next ← phrases.readPipeline (← Reader.bound)
          phrases.readJoined fuel (.onFailure first next)
      | token => do
          Phrases.putBack token
          return first

def blockEnds : List String :=
  ["do", "done", "elif", "else", "esac", "fi", "then", "\x7d"]

def Token.endsBlock (token : Token) : Bool :=
  match token with
  | .sign .closing | .sign .branchEnd | .sign .branchOn => true
  | _ =>
      match token.keyword? with
      | some text => blockEnds.contains text
      | none => false

/-- Read a list of commands. `mayEnd` tells whether it may end where it stands, and `read`
are the commands before, the last first. -/
def Phrases.readList (phrases : Phrases) (ending : ListEnd) :
    Nat → Bool → List Command → Reader (List Command)
  | 0, _, read => return read.reverse
  | fuel + 1, mayEnd, read => do
      let token ←
        if ending = .line then phrases.start else phrases.startBehindNewlines
      match token with
      | .newline => do
          let _ ← phrases.take
          phrases.readOwed
          return read.reverse
      | .finish => do
          phrases.readOwed
          return read.reverse
      | _ =>
          if mayEnd ∧ token.endsBlock then return read.reverse
          else do
            let first ← phrases.readPipeline (← Reader.bound)
            let command ← phrases.readJoined (← Reader.bound) first
            let next ← phrases.take
            match next with
            | .sign .ampersand =>
                phrases.readList ending fuel (ending ≠ .line) (.background command :: read)
            | .sign .semicolon =>
                phrases.readList ending fuel (ending ≠ .line) (command :: read)
            | .newline => do
                Phrases.putBack next
                phrases.readList ending fuel (ending ≠ .line) (command :: read)
            | .finish => do
                Phrases.putBack next
                phrases.readOwed
                return (command :: read).reverse
            | _ =>
                if ending = .line then refuse next none
                else do
                  Phrases.putBack next
                  return (command :: read).reverse

def Phrases.readInner (phrases : Phrases) (substituted : Substituted) :
    Reader (List Command) := do
  let commands ← phrases.list .branch
  match substituted, ← phrases.take with
  | .bracketed, .sign .closing => return commands
  | .bracketed, .finish => throw .openSubstitution
  | .apart, .finish => return commands
  | .bracketed, token => refuse token (some (quotedWord ")"))
  | .apart, token => refuse token none

/-- The readers of phrases that are nested up to a depth. -/
def phrases : Nat → Phrases
  | 0 =>
      { token := throw .openSubstitution
        list := fun _ => throw .openSubstitution
        command := throw .openSubstitution
        substituted := fun _ => throw .openSubstitution
        parts := fun _ => throw .openSubstitution }
  | depth + 1 =>
      let inner := phrases depth
      { token := scanToken inner.readInner
        list := fun ending => do
          inner.readList ending (← Reader.bound) (ending = .branch) []
        command := inner.readCommand
        substituted := inner.readInner
        parts := fun enclosure => do
          readParts inner.readInner (← Reader.bound) enclosure [] }

def maxDepth : Nat := 400

/-- Read the commands up to the end of a line. There are none at the end of the text. -/
def readLine : Reader (Option (List Command)) := do
  let reader := phrases maxDepth
  match ← reader.start with
  | .finish => return none
  | _ => return some (← reader.list .line)

end PartitionBench.Host.Script
