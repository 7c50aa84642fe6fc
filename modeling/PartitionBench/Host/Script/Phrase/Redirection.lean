import PartitionBench.Host.Script.Phrase.Token

/-!
Contract: redirections as they are written.

Owns:
- the texts of here-documents, which follow the line that asks for them;
- tokens where a command may begin, with shortcuts in place of words;
- tokens that have to be there, and redirections in front of and behind commands.

Does not own: opening what redirections name (`Script.Redirection`).
-/

namespace PartitionBench.Host.Script

/-! ## Here-documents -/

/-- Read a line. There is none at the end of the text. -/
def readLine? : Nat → Reader (Option (List Char × Bool))
  | 0 => return none
  | fuel + 1 => do
      match ← Reader.next? with
      | none => return none
      | some '\n' => return some ([], true)
      | some c =>
          match ← readLine? fuel with
          | some (line, isEnded) => return some (c :: line, isEnded)
          | none => return some ([c], false)

/-- Warn that a here-document goes on up to the end of the script. -/
def warnOpenDocument (owed : Owed) : Reader Unit :=
  modify fun source =>
    let text := "warning: here-document at line " ++ toString owed.line
      ++ " delimited by end-of-file (wanted " ++ quotedName (String.ofList owed.mark) ++ ")"
    { source with warnings := source.warnings ++ [(source.line - 1, text)] }

def readDocumentLines (owed : Owed) : Nat → Reader (List Char)
  | 0 => return []
  | fuel + 1 => do
      match ← readLine? (← Reader.bound) with
      | none => do
          warnOpenDocument owed
          return []
      | some (line, isEnded) =>
          let kept := if owed.stripsTabs then line.dropWhile (· = '\t') else line
          if kept = owed.mark then return []
          else
            let ended := if isEnded then kept ++ ['\n'] else kept
            return ended ++ (← readDocumentLines owed fuel)

def readOwedFrom (commands : Substituted → Reader (List Command)) : List Owed → Reader Unit
  | [] => return ()
  | owed :: rest => do
      let line := (← get).line
      let text ← readDocumentLines owed (← Reader.bound)
      let word ←
        if owed.isQuoted then pure [Part.quoted text] else readDocument commands text line
      modify fun source => { source with documents := (owed.number, word) :: source.documents }
      readOwedFrom commands rest

def Phrases.readOwed (phrases : Phrases) : Reader Unit := do
  let owed := (← get).owed
  modify fun source => { source with owed := [] }
  readOwedFrom phrases.substituted owed

/-! ## Tokens where a command may begin -/

/-- The shortcut for a word, unless the text is part of that shortcut already. -/
def Source.shortcut? (source : Source) (word : List Char) : Option (List Char) :=
  let inUse := source.inUse.any fun entry =>
    entry.1 = word && decide (entry.2 < source.rest.length)
  if inUse then none
  else (source.shortcuts.find? fun entry => entry.1 = word).map (·.2)

def Phrases.takeExpanded (phrases : Phrases) : Nat → Reader Token
  | 0 => phrases.take
  | fuel + 1 => do
      let token ← phrases.take
      match token with
      | .word [.plain text] _ =>
          let source ← get
          match source.shortcut? text with
          | some value =>
              if token.keyword?.isSome then return token
              else
                set { source with
                  rest := value ++ source.rest
                  room := source.room + value.length
                  inUse := (text, source.rest.length) :: source.inUse }
                phrases.takeExpanded fuel
          | none => return token
      | _ => return token

def Phrases.skipNewlines (phrases : Phrases) : Nat → Reader Unit
  | 0 => return ()
  | fuel + 1 => do
      match ← phrases.take with
      | .newline => do
          phrases.readOwed
          phrases.skipNewlines fuel
      | token => Phrases.putBack token

/-- Look at the next token where a command may begin. -/
def Phrases.start (phrases : Phrases) : Reader Token := do
  let token ← phrases.takeExpanded 100
  Phrases.putBack token
  return token

/-- Look at the next token where a command may begin, behind line ends. -/
def Phrases.startBehindNewlines (phrases : Phrases) : Reader Token := do
  phrases.skipNewlines (← Reader.bound)
  phrases.start

def refuse {α : Type} (found : Token) (expected : Option String) : Reader α :=
  throw (.unexpected found expected)

def quotedWord (word : String) : String := "\"" ++ word ++ "\""

def Phrases.expect (phrases : Phrases) (word : String) : Reader Unit := do
  let token ← phrases.take
  if token.keyword? = some word then return ()
  else refuse token (some (quotedWord word))

def Phrases.expectSign (phrases : Phrases) (mark : Sign) : Reader Unit := do
  match ← phrases.take with
  | .sign found =>
      if found = mark then return () else refuse (.sign found) (some (quotedWord mark.text))
  | token => refuse token (some (quotedWord mark.text))

/-! ## Redirections -/

/-- The end mark that a word is, and whether any of it is quoted. -/
def endMark (word : Word) (written : List Char) : List Char × Bool :=
  match word.fixed? with
  | some (text, isQuoted) => (text, isQuoted)
  | none =>
      match word with
      | [.quotes inner] =>
          match Word.fixed? inner with
          | some (text, _) => (text, true)
          | none => (written, true)
      | _ => (written, false)

def Phrases.readRedirection (phrases : Phrases) (descriptor : Option Nat) (arrow : Arrow) :
    Reader Redirection := do
  match ← phrases.take with
  | .word word written =>
      match arrow with
      | .access access =>
          let usual := if access = .read ∨ access = .readWrite then 0 else 1
          return .file (descriptor.getD usual) access word
      | .copyOutput => return .copy (descriptor.getD 1) true word
      | .copyInput => return .copy (descriptor.getD 0) false word
      | .document stripsTabs => do
          let mark := endMark word written
          let source ← get
          let owed : Owed := ⟨source.nextDocument, mark.1, mark.2, stripsTabs, source.line⟩
          set { source with
            nextDocument := source.nextDocument + 1, owed := source.owed ++ [owed] }
          return .document (descriptor.getD 0) source.nextDocument
      | .text => return .text (descriptor.getD 0) word
      | .outputs appends => return .outputs appends word
  | token => refuse token none

def Phrases.readRedirections (phrases : Phrases) : Nat → Reader (List Redirection)
  | 0 => return []
  | fuel + 1 => do
      match ← phrases.take with
      | .arrow descriptor arrow _ => do
          let first ← phrases.readRedirection descriptor arrow
          return first :: (← phrases.readRedirections fuel)
      | token => do
          Phrases.putBack token
          return []

end PartitionBench.Host.Script
