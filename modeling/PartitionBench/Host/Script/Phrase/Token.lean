import PartitionBench.Host.Script.Word
import PartitionBench.Text.Split

/-!
Contract: the tokens of a script.

Owns:
- what phrases need for what is nested in them;
- blanks and comments, signs, arrows and words, and looking at the next token.

Does not own: the inside of words (`Script.Word`).
-/

namespace PartitionBench.Host.Script

inductive ListEnd where
  | line
  /-- At a word that ends a block, which holds a command at least. -/
  | block
  /-- At a word that ends a block, which may be empty. -/
  | branch
  deriving DecidableEq

/-- The readers that phrases need for what is nested in them. -/
structure Phrases where
  token : Reader Token
  list : ListEnd → Reader (List Command)
  command : Reader Command
  substituted : Substituted → Reader (List Command)
  parts : Enclosure → Reader Word

def skipComment : Nat → Reader Unit
  | 0 => return ()
  | fuel + 1 => do
      match (← get).rest with
      | [] => return ()
      | c :: _ =>
          if c = '\n' then return ()
          else
            let _ ← Reader.next?
            skipComment fuel

def skipBlanks : Nat → Reader Unit
  | 0 => return ()
  | fuel + 1 => do
      match ← Reader.peek? with
      | some ' ' | some '\t' => do
          let _ ← Reader.next?
          skipBlanks fuel
      | some '#' => do
          skipComment (← Reader.bound)
          skipBlanks fuel
      | _ => return ()

/-- The rest of a sign or an arrow that begins with a greater-than sign. -/
def readOutputArrow (descriptor : Option Nat) : Reader Token := do
  if ← Reader.skip? '>' then return .arrow descriptor (.access .append) ">>"
  else if ← Reader.skip? '&' then return .arrow descriptor .copyOutput ">&"
  else if ← Reader.skip? '|' then return .arrow descriptor (.access .overwrite) ">|"
  else return .arrow descriptor (.access .write) ">"

/-- The rest of an arrow that begins with a less-than sign. -/
def readInputArrow (descriptor : Option Nat) : Reader Token := do
  if ← Reader.skip? '<' then
    if ← Reader.skip? '-' then return .arrow descriptor (.document true) "<<-"
    else if (← get).dialect = .extended ∧ (← Reader.peek?) = some '<' then
      let _ ← Reader.next?
      return .arrow descriptor .text "<<<"
    else return .arrow descriptor (.document false) "<<"
  else if ← Reader.skip? '&' then return .arrow descriptor .copyInput "<&"
  else if ← Reader.skip? '>' then return .arrow descriptor (.access .readWrite) "<>"
  else return .arrow descriptor (.access .read) "<"

/-- The rest of an arrow that begins with a given character. -/
def readArrow (descriptor : Option Nat) (c : Char) : Reader Token :=
  if c = '>' then readOutputArrow descriptor else readInputArrow descriptor

/-- The descriptor that a word in front of an arrow is. The standard dialect knows those
of one digit. -/
def descriptorOf? (dialect : Dialect) (word : Word) : Option Nat :=
  match word.plain? with
  | some text =>
      if text ≠ [] ∧ text.all Text.isDigit ∧ (dialect = .extended ∨ text.length = 1) then
        some (Text.decimalValue text)
      else none
  | none => none

/-- Read a token that is a word, or an arrow with a descriptor in front. -/
def readWordToken (commands : Substituted → Reader (List Command)) : Reader Token := do
  let source ← get
  let word ← readWord commands
  let later ← get
  match later.rest, descriptorOf? source.dialect word with
  | '>' :: _, some descriptor => do
      let _ ← Reader.next?
      readArrow (some descriptor) '>'
  | '<' :: _, some descriptor => do
      let _ ← Reader.next?
      readArrow (some descriptor) '<'
  | _, _ => return .word word (← Reader.readSince source)

def scanToken (commands : Substituted → Reader (List Command)) : Reader Token := do
  skipBlanks (← Reader.bound)
  let source ← get
  let isExtended : Bool := source.dialect = .extended
  match source.rest with
  | [] => return .finish
  | c :: rest =>
      match c with
      | '\n' => do
          let _ ← Reader.next?
          return .newline
      | '&' => do
          let _ ← Reader.next?
          if ← Reader.skip? '&' then return .sign .bothSucceed
          else if isExtended ∧ (← Reader.peek?) = some '>' then
            let _ ← Reader.next?
            if ← Reader.skip? '>' then return .arrow none (.outputs true) "&>>"
            else return .arrow none (.outputs false) "&>"
          else return .sign .ampersand
      | '|' => do
          let _ ← Reader.next?
          if ← Reader.skip? '|' then return .sign .eitherSucceeds
          else if isExtended ∧ (← Reader.peek?) = some '&' then
            let _ ← Reader.next?
            return .sign .pipeBoth
          else return .sign .pipe
      | ';' => do
          let _ ← Reader.next?
          if ← Reader.skip? ';' then
            if isExtended ∧ (← Reader.peek?) = some '&' then
              let _ ← Reader.next?
              return .sign .branchOn
            else return .sign .branchEnd
          else if isExtended ∧ (← Reader.peek?) = some '&' then
            let _ ← Reader.next?
            return .sign .branchOn
          else return .sign .semicolon
      | '(' => do
          let _ ← Reader.next?
          return .sign .opening
      | ')' => do
          let _ ← Reader.next?
          return .sign .closing
      | '<' | '>' => do
          let _ ← Reader.next?
          if isExtended ∧ rest.head? = some '(' then
            let _ ← Reader.next?
            let (line, inner) ← readBracketed commands
            return .word [.channel line inner] (← Reader.readSince source)
          else readArrow none c
      | _ => readWordToken commands

namespace Phrases

def take (phrases : Phrases) : Reader Token := do
  let source ← get
  match source.ahead with
  | some token => do
      set { source with ahead := none }
      return token
  | none => phrases.token

def putBack (token : Token) : Reader Unit :=
  modify fun source => { source with ahead := some token }

def peek (phrases : Phrases) : Reader Token := do
  let token ← phrases.take
  putBack token
  return token

end Phrases

end PartitionBench.Host.Script
