import PartitionBench.Host.Script.Phrase.Simple

/-!
Contract: compound commands as they are written.

Owns: conditions, choices, loops, blocks, subshells and calculations, and the command that a
token begins.

Does not own: pipelines and lists (`Script.Phrase`).
-/

namespace PartitionBench.Host.Script

/-! ## Conditions -/

def unaryTests : List String :=
  ["-a", "-b", "-c", "-d", "-e", "-f", "-g", "-h", "-k", "-L", "-n", "-O", "-G", "-N", "-p", "-r",
    "-s", "-S", "-t", "-u", "-v", "-w", "-x", "-z", "-o"]

def binaryTests : List String :=
  ["=", "==", "!=", "=~", "-eq", "-ne", "-lt", "-le", "-gt", "-ge", "-nt", "-ot", "-ef"]

def Phrases.readOperand (phrases : Phrases) (isExpression : Bool) : Reader Word := do
  if isExpression then
    skipBlanks (← Reader.bound)
    phrases.parts (.expression 0)
  else
    match ← phrases.take with
    | .word word _ => return word
    | token => throw (.condition token)

def Phrases.readTest (phrases : Phrases) (word : Word) : Reader Condition := do
  let unary : Option (List Char) := (word.plain?).filter fun text =>
    unaryTests.contains (String.ofList text)
  let next ← phrases.take
  match unary, next with
  | some test, .word operand written =>
      if operand.plain? = some [']', ']'] then
        Phrases.putBack (.word operand written)
        return .holds word
      else return .unary test operand
  | _, .word operator written =>
      let test := (operator.plain?).getD []
      if binaryTests.contains (String.ofList test) then
        return .binary test word (← phrases.readOperand (test = ['=', '~']))
      else if test = [']', ']'] then
        Phrases.putBack (.word operator written)
        return .holds word
      else throw (.condition next)
  | _, .arrow none (.access .read) _ => return .binary ['<'] word (← phrases.readOperand false)
  | _, .arrow none (.access .write) _ => return .binary ['>'] word (← phrases.readOperand false)
  | _, token => do
      Phrases.putBack token
      return .holds word

/-- Read a condition. `level` is 0 for alternatives, 1 for conditions that hold together
and 2 for a single one. -/
def Phrases.readCondition (phrases : Phrases) : Nat → Nat → Reader Condition
  | 0, _ => do throw (.condition .finish)
  | fuel + 1, level => do
      phrases.skipNewlines (← Reader.bound)
      if level = 0 then
        let left ← phrases.readCondition fuel 1
        phrases.skipNewlines (← Reader.bound)
        match ← phrases.take with
        | .sign .eitherSucceeds => return .either left (← phrases.readCondition fuel 0)
        | token => do
            Phrases.putBack token
            return left
      else if level = 1 then
        let left ← phrases.readCondition fuel 2
        phrases.skipNewlines (← Reader.bound)
        match ← phrases.take with
        | .sign .bothSucceed => return .both left (← phrases.readCondition fuel 1)
        | token => do
            Phrases.putBack token
            return left
      else
        match ← phrases.take with
        | .sign .opening => do
            let inner ← phrases.readCondition fuel 0
            match ← phrases.take with
            | .sign .closing => return inner
            | token => throw (.condition token)
        | .word word written =>
            if word.plain? = some ['!'] then
              return .negation (← phrases.readCondition fuel 2)
            else if word.plain? = some [']', ']'] then
              throw (.condition (.word word written))
            else phrases.readTest word
        | token => throw (.condition token)

/-! ## Compound commands -/

/-- Read the rest of a choice behind its first word, up to the word that ends it. -/
def Phrases.readChoice (phrases : Phrases) : Nat → Reader Command
  | 0 => do refuse (← phrases.peek) none
  | fuel + 1 => do
      let test ← phrases.list .block
      phrases.expect "then"
      let body ← phrases.list .block
      let token ← phrases.take
      match token.keyword? with
      | some "elif" => return .choice test body (some (← phrases.readChoice fuel))
      | some "else" => do
          let otherwise ← phrases.list .block
          phrases.expect "fi"
          return .choice test body (some (.sequence otherwise))
      | some "fi" => return .choice test body none
      | _ => refuse token (some (quotedWord "fi"))

def Phrases.readLoop (phrases : Phrases) (isUntil : Bool) : Reader Command := do
  let test ← phrases.list .block
  phrases.expect "do"
  let body ← phrases.list .block
  phrases.expect "done"
  return .loop isUntil test body

def cutAtSemicolons : Word → List Word
  | [] => [[]]
  | .quoted text :: rest =>
      match Text.pieces ';' text, cutAtSemicolons rest with
      | [piece], first :: others => (.quoted piece :: first) :: others
      | pieces, first :: others =>
          let starts := pieces.dropLast.map fun piece => [Part.quoted piece]
          let last := (pieces.getLast?.map fun piece => Part.quoted piece :: first).toList
          starts ++ last ++ others
      | _, [] => []
  | part :: rest =>
      match cutAtSemicolons rest with
      | first :: others => (part :: first) :: others
      | [] => [[part]]

def Phrases.readCalculation (phrases : Phrases) : Reader Word := do
  let line := (← get).line
  let expression ← phrases.parts (.calculation 0)
  match ← Reader.next? with
  | some _ => do
      let _ ← Reader.next?
      return expression
  | none => throw (.openCalculation line)

/-- Read the block of an iteration, between its two words or in braces. -/
def Phrases.readBlock (phrases : Phrases) : Reader (List Command) := do
  let token ← phrases.startBehindNewlines
  if token.keyword? = some "\x7b" ∧ (← get).dialect = .extended then
    let _ ← phrases.take
    let body ← phrases.list .block
    phrases.expect "\x7d"
    return body
  else
    phrases.expect "do"
    let body ← phrases.list .block
    phrases.expect "done"
    return body

/-- Read the words of an iteration, each with what is written for it, and the end of the line
that they stand on. -/
def Phrases.readIterationWords (phrases : Phrases) : Nat → Reader (List (Word × List Char))
  | 0 => return []
  | fuel + 1 => do
      match ← phrases.take with
      | .word word written => return (word, written) :: (← phrases.readIterationWords fuel)
      | .newline => do
          phrases.readOwed
          return []
      | .sign .semicolon => return []
      | token => refuse token none

/-- The arguments of a script as a word that stands for them is written. -/
def allArguments : List Char := ['"', '$', '@', '"']

def Phrases.readIteration (phrases : Phrases) (line : Nat) : Reader Command := do
  let token ← phrases.take
  match token with
  | .word word written => do
      let isExtended : Bool := (← get).dialect = .extended
      let name := (word.plain?).getD (if isExtended then written else [])
      if isName name || isExtended then
        let next ← phrases.startBehindNewlines
        if next.keyword? = some "in" then
          let _ ← phrases.take
          let words ← phrases.readIterationWords (← Reader.bound)
          let shown := List.intercalate [' '] (words.map (·.2))
          return .iteration line name shown (some (words.map (·.1))) (← phrases.readBlock)
        else
          match next with
          | .sign .semicolon => do
              let _ ← phrases.take
              return .iteration line name allArguments none (← phrases.readBlock)
          | _ => return .iteration line name allArguments none (← phrases.readBlock)
      else throw (.loopName written)
  | .sign .opening => do
      let source ← get
      if source.dialect = .extended ∧ source.rest.head? = some '(' then
        let _ ← Reader.next?
        let expression ← phrases.readCalculation
        match ← phrases.take with
        | .sign .semicolon => pure ()
        | token => Phrases.putBack token
        let body ← phrases.readBlock
        match cutAtSemicolons expression with
        | [start, test, step] => return .counting line start test step body
        | _ => refuse token none
      else throw (.loopName token.written.toList)
  | _ =>
      if (← get).dialect = .extended then refuse token none
      else throw (.loopName token.written.toList)

def Phrases.readPatterns (phrases : Phrases) : Nat → Reader (List Word)
  | 0 => return []
  | fuel + 1 => do
      match ← phrases.take with
      | .sign .closing => return []
      | .sign .pipe => do
          match ← phrases.take with
          | .word word _ => return word :: (← phrases.readPatterns fuel)
          | token => refuse token none
      | token => refuse token (some (quotedWord ")"))

/-- Read the branches of a selection and the word that ends it. -/
def Phrases.readBranches (phrases : Phrases) : Nat → Reader (List Branch)
  | 0 => return []
  | fuel + 1 => do
      phrases.skipNewlines (← Reader.bound)
      let token ← phrases.take
      if token.keyword? = some "esac" then return []
      else
        let first ← match token with
          | .sign .opening => phrases.take
          | _ => pure token
        match first with
        | .word word _ => do
            let patterns := word :: (← phrases.readPatterns (← Reader.bound))
            let body ← phrases.list .branch
            phrases.skipNewlines (← Reader.bound)
            let ending ← phrases.take
            match ending with
            | .sign .branchEnd =>
                return .mk patterns body false :: (← phrases.readBranches fuel)
            | .sign .branchOn =>
                return .mk patterns body true :: (← phrases.readBranches fuel)
            | _ =>
                if ending.keyword? = some "esac" then return [.mk patterns body false]
                else refuse ending (some (quotedWord ";;"))
        | other =>
            refuse other (match other with
              | .finish => some (quotedWord ")")
              | _ => none)

def Phrases.readSelection (phrases : Phrases) (line : Nat) : Reader Command := do
  match ← phrases.take with
  | .word word written => do
      phrases.skipNewlines (← Reader.bound)
      phrases.expect "in"
      return .selection line written word (← phrases.readBranches (← Reader.bound))
  | token => refuse token (some "word")

def Phrases.readAnnounced (phrases : Phrases) : Reader Command := do
  match ← phrases.take with
  | .word word written => do
      match ← phrases.take with
      | .sign .opening => phrases.readDefinition word written
      | token => do
          Phrases.putBack token
          phrases.skipNewlines (← Reader.bound)
          let line := (← get).line
          return .definition line ((word.plain?).getD written) (← phrases.command)
  | token => refuse token none

def withRedirections (line : Nat) (command : Command) (redirections : List Redirection) :
    Command :=
  match redirections, command with
  | [], _ => command
  | _, .subshell start body _ => .subshell start body redirections
  | _, _ => .redirected line command redirections

def Phrases.readCompound (phrases : Phrases) (line : Nat) (token : Token) (word : String) :
    Reader Command := do
  match word with
  | "if" => phrases.readChoice (← Reader.bound)
  | "while" => phrases.readLoop false
  | "until" => phrases.readLoop true
  | "for" => phrases.readIteration line
  | "case" => phrases.readSelection line
  | "\x7b" => do
      let body ← phrases.list .block
      phrases.expect "\x7d"
      return .group body
  | _ => refuse token none

def Phrases.readCommand (phrases : Phrases) : Reader Command := do
  let token ← phrases.takeExpanded 100
  let source ← get
  let line := source.line
  let isExtended : Bool := source.dialect = .extended
  let finishWith (command : Command) : Reader Command := do
    return withRedirections line command (← phrases.readRedirections (← Reader.bound))
  match token.keyword?, token with
  | some word, _ => do finishWith (← phrases.readCompound line token word)
  | none, .sign .opening =>
      if isExtended ∧ source.rest.head? = some '(' then
        let _ ← Reader.next?
        finishWith (.calculation line (← phrases.readCalculation))
      else do
        let body ← phrases.list .block
        phrases.expectSign .closing
        finishWith (.subshell line body [])
  | none, .word word _ =>
      if isExtended ∧ word.plain? = some ['[', '['] then
        let condition ← phrases.readCondition (← Reader.bound) 0
        match ← phrases.take with
        | .word closing written =>
            if closing.plain? = some [']', ']'] then finishWith (.condition line condition)
            else throw (.condition (.word closing written))
        | found => throw (.condition found)
      else if isExtended ∧ word.plain? = some "function".toList then
        phrases.readAnnounced
      else do
        Phrases.putBack token
        phrases.readSimple line (← Reader.bound) {}
  | none, .arrow _ _ _ => do
      Phrases.putBack token
      phrases.readSimple line (← Reader.bound) {}
  | none, _ => refuse token none

end PartitionBench.Host.Script
