import PartitionBench.Host.Script.Grammar

/-!
Contract: the text of a script while it is read.

Owns:
- what is left of the text, the number of the line, and the here-documents that are still
  owed;
- tokens, and the faults of a text that is no script, with their wording in both dialects;
- reading single characters, with joined lines.

Does not own: which characters make up words and commands.
-/

namespace PartitionBench.Host.Script

inductive Sign where
  | semicolon
  | ampersand
  | bothSucceed
  | eitherSucceeds
  | pipe
  | pipeBoth
  | opening
  | closing
  | branchEnd
  /-- The end of a branch behind which the next branch is run. -/
  | branchOn
  deriving DecidableEq, Repr

def Sign.text : Sign → String
  | .semicolon => ";"
  | .ampersand => "&"
  | .bothSucceed => "&&"
  | .eitherSucceeds => "||"
  | .pipe => "|"
  | .pipeBoth => "|&"
  | .opening => "("
  | .closing => ")"
  | .branchEnd => ";;"
  | .branchOn => ";&"

inductive Arrow where
  | access (access : Access)
  | copyOutput
  | copyInput
  /-- A here-document; leading tabs may be taken off its lines. -/
  | document (stripsTabs : Bool)
  | text
  | outputs (appends : Bool)
  deriving DecidableEq, Repr

inductive Token where
  | finish
  | newline
  | sign (sign : Sign)
  | arrow (descriptor : Option Nat) (arrow : Arrow) (written : String)
  | word (parts : Word) (written : List Char)

/-- What makes a text no script. -/
inductive Fault where
  /-- A token stands where it cannot; `expected` is what has to stand there. -/
  | unexpected (found : Token) (expected : Option String)
  | openQuotes (mark : Char) (line : Nat)
  | openBackquote (line : Nat)
  | openBrace (line : Nat)
  | openCalculation (line : Nat)
  | openSubstitution
  | functionName (name : List Char)
  | loopName (name : List Char)
  | descriptor
  /-- A condition in double brackets that is none. -/
  | condition (found : Token)

/-- A here-document whose text is still to come. -/
structure Owed where
  number : Nat
  mark : List Char
  isQuoted : Bool
  stripsTabs : Bool
  line : Nat

/-- The text of a script while it is read. -/
structure Source where
  dialect : Dialect
  rest : List Char
  offset : Nat
  room : Nat
  line : Nat
  lineText : List Char
  /-- The line before. -/
  endedLine : List Char
  ahead : Option Token
  owed : List Owed
  /-- What the extended dialect warns of, each with the line that is named. -/
  warnings : List (Nat × String)
  documents : List (Nat × Word)
  nextDocument : Nat
  /-- The replacements for first words of commands. -/
  shortcuts : List (List Char × List Char)
  /-- The text that is left where each of the shortcuts in use ends. -/
  inUse : List (List Char × Nat)

abbrev Reader := EStateM Fault Source

namespace Reader

def next? : Reader (Option Char) := do
  let source ← get
  match source.rest with
  | [] => return none
  | c :: rest =>
      let offset := source.offset + 1
      if c = '\n' then
        set { source with
          rest, offset, line := source.line + 1, lineText := rest, endedLine := source.lineText }
      else
        set { source with rest, offset }
      return some c

/-- Skip the line ends behind backslashes that stand here. -/
def joinLines : Nat → Reader Unit
  | 0 => return ()
  | fuel + 1 => do
      match (← get).rest with
      | '\\' :: '\n' :: _ => do
          let _ ← next?
          let _ ← next?
          joinLines fuel
      | _ => return ()

/-- The next character, with lines joined. -/
def peek? : Reader (Option Char) := do
  let source ← get
  match source.rest with
  | '\\' :: _ => do
      joinLines source.room
      return (← get).rest.head?
  | rest => return rest.head?

/-- Read a character if it is the next one, with lines joined. -/
def skip? (c : Char) : Reader Bool := do
  if (← peek?) = some c then
    let _ ← next?
    return true
  else
    return false

def takeWhile (test : Char → Bool) : Nat → Reader (List Char)
  | 0 => return []
  | fuel + 1 => do
      match ← peek? with
      | some c =>
          if test c then
            let _ ← next?
            return c :: (← takeWhile test fuel)
          else return []
      | none => return []

def bound : Reader Nat :=
  return (← get).room + 1

def readSince (earlier : Source) : Reader (List Char) :=
  return earlier.rest.take ((← get).offset - earlier.offset)

end Reader

def Token.name : Token → String
  | .finish => "end of file"
  | .newline => "newline"
  | .sign mark => "\"" ++ mark.text ++ "\""
  | .arrow _ _ _ => "redirection"
  | .word _ _ => "word"

def Token.written : Token → String
  | .finish => "end of file"
  | .newline => "newline"
  | .sign mark => mark.text
  | .arrow _ _ text => text
  | .word _ text => String.ofList text

/-- The words that have a meaning of their own where a command may begin. -/
def keywords : List String :=
  ["!", "case", "do", "done", "elif", "else", "esac", "fi", "for", "if", "in", "then", "until",
    "while", "\x7b", "\x7d"]

/-- The word of the extended dialect that asks for the time of a command. -/
def timeKeyword : String := "time"

/-- The keyword that a token is, if it is one. -/
def Token.keyword? : Token → Option String
  | .word [.plain text] _ =>
      let word := String.ofList text
      if word ∈ keywords then some word else none
  | _ => none

def quotedName (text : String) : String :=
  String.singleton (Char.ofNat 0x60) ++ text ++ "'"

def Fault.standardText : Fault → String
  | .unexpected found expected =>
      (match found.keyword? with
        | some word => "\"" ++ word ++ "\""
        | none => found.name) ++ " unexpected"
        ++ match expected with
          | some text => " (expecting " ++ text ++ ")"
          | none => ""
  | .openQuotes _ _ => "Unterminated quoted string"
  | .openBackquote _ => "EOF in backquote substitution"
  | .openBrace _ => "Missing '\x7d'"
  | .openCalculation _ => "Missing '))'"
  | .openSubstitution => "end of file unexpected (expecting \")\")"
  | .functionName _ => "Bad function name"
  | .loopName _ => "Bad for loop variable"
  | .descriptor => "Bad fd number"
  | .condition found => found.name ++ " unexpected"

/-- What the extended dialect says of text that ends before a mark that closes. -/
def openText (mark : String) : String :=
  "unexpected EOF while looking for matching " ++ quotedName mark

/-- What the extended dialect says of text that ends too early. -/
def endText : String := "syntax error: unexpected end of file"

/-- What the extended dialect says of a token, and of the line that it stands on. -/
def unexpectedTexts (source : Source) (found : Token) : List (Nat × String) :=
  let near := "syntax error near unexpected token " ++ quotedName found.written
  let shown (text : List Char) : String :=
    quotedName (String.ofList (text.takeWhile (· ≠ '\n')))
  match found with
  | .finish => [(source.line, endText)]
  | .newline => [(source.line - 1, near), (source.line - 1, shown source.endedLine)]
  | _ => [(source.line, near), (source.line, shown source.lineText)]

def Fault.extendedTexts (source : Source) : Fault → List (Nat × String)
  | .unexpected found _ => unexpectedTexts source found
  | .openQuotes mark line => [(line, openText (String.singleton mark))]
  | .openBackquote line => [(line, openText (String.singleton (Char.ofNat 0x60)))]
  | .openBrace line => [(line, openText "\x7d")]
  | .openCalculation line => [(line, openText ")")]
  | .openSubstitution => [(source.line, openText ")")]
  | .functionName name =>
    [(source.line, quotedName (String.ofList name) ++ ": not a valid identifier")]
  | .loopName name => [(source.line, quotedName (String.ofList name) ++ ": not a valid identifier")]
  | .descriptor => [(source.line, "ambiguous redirect")]
  | .condition found =>
      (source.line, "syntax error in conditional expression: unexpected token "
        ++ quotedName found.written) :: unexpectedTexts source found

end PartitionBench.Host.Script
