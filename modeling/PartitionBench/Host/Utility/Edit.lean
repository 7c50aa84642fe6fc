import PartitionBench.Host.Escape
import PartitionBench.Host.Expression
import PartitionBench.Host.Utility.Files
import PartitionBench.Host.Utility.Text

/-!
Contract: the commands of the program that edits lines, as they are written.

Owns: addresses, commands, and reading them, with the messages on what is wrong.

Does not own: carrying them out (`Utility.Editing`).
-/

namespace PartitionBench.Host.Utility.Edit

/-- A line that a command is for. -/
inductive Address where
  | line (number : Nat)
  | last
  /-- Lines that match; the expression used last if there is none. -/
  | matching (expression : Option Expression) (ignoresCase : Bool)
  | steps (first step : Nat)

inductive RangeEnd where
  | address (address : Address)
  | count (lines : Nat)
  | multiple (number : Nat)

/-- The lines that a command is for. -/
inductive Selector where
  | all
  | one (address : Address)
  | range (first : Address) (last : RangeEnd)

inductive Filling where
  | text (text : List Char)
  | group (number : Nat)
  /-- A change of letters: to the end, or of the next one. -/
  | letters (mark : Char)

/-- What is replaced, and what becomes of the line then. -/
structure Substitution where
  expression : Option Expression
  filling : List Filling
  ignoresCase : Bool := false
  isGlobal : Bool := false
  /-- The match that is replaced, if it is not the first one. -/
  number : Option Nat := none
  prints : Bool := false
  file : Option (List Char) := none

/-- What is done with a line. -/
inductive Action where
  /-- A block begins; `ending` is the place of its end. -/
  | opening (ending : Nat)
  | nothing
  | substitute (substitution : Substitution)
  | transliterate (sources targets : List Char)
  | print
  | printFirst
  | delete
  | deleteFirst
  | next
  | nextAppended
  | quit (status : Nat)
  | quitSilently (status : Nat)
  | lineNumber
  | append (text : List Char)
  | insert (text : List Char)
  | change (text : List Char)
  | restore
  | restoreAppended
  | keep
  | keepAppended
  | exchange
  | clear
  | listed
  | branch (label : List Char)
  | branchIf (label : List Char)
  | branchUnless (label : List Char)
  | label (name : List Char)
  | readFrom (file : List Char)
  | writeTo (file : List Char)
  | writeFirstTo (file : List Char)
  | fileName

/-- A command: the lines it is for, and what is done with them. -/
structure Command where
  selector : Selector
  isNegated : Bool
  action : Action

/-! ## Reading -/

/-- What is wrong with a text of commands; `place` is how many characters were read. -/
structure Fault where
  message : String
  place : Nat
  /-- The message names no place. -/
  isBare : Bool := false
  status : Nat := 1

/-- Reading of commands: what is left of the text, and the commands so far, the last
first. -/
structure Source where
  total : Nat
  rest : List Char
  read : List Command
  blocks : List Nat
  rules : Expression.Rules

abbrev Reader := EStateM Fault Source

def fail {α : Type} (message : String) : Reader α := do
  let source ← get
  throw { message, place := source.total - source.rest.length }

def named (text : String) : String :=
  String.singleton (Char.ofNat 0x60) ++ text ++ "'"

def next? : Reader (Option Char) := do
  let source ← get
  match source.rest with
  | [] => return none
  | c :: rest => do
      set { source with rest }
      return some c

def skipWhile (test : Char → Bool) : Reader Unit :=
  modify fun source => { source with rest := source.rest.dropWhile test }

def takeWhile (test : Char → Bool) : Reader (List Char) := do
  let taken := (← get).rest.takeWhile test
  skipWhile test
  return taken

def isBlank (c : Char) : Bool := c = ' ' || c = '\t'

def isSpace (c : Char) : Bool := isBlank c || c = '\n' || c = '\r'

/-- What stands in brackets in an expression, behind the bracket that opens them and with the
one that closes them, and what follows. Names in inner brackets may hold a closing bracket;
`sign` is the sign that such a name began with, and `isEnding` tells that the sign has just
come again. -/
def bracketed : (sign : Option Char) → (isEnding : Bool) → List Char → List Char × List Char
  | _, _, [] => ([], [])
  | none, _, '[' :: c :: rest =>
      let inner : Option Char := if ".:=".toList.contains c then some c else none
      if inner.isSome then
        let read := bracketed inner false rest
        ('[' :: c :: read.1, read.2)
      else
        let read := bracketed none false (c :: rest)
        ('[' :: read.1, read.2)
  | none, _, c :: rest =>
      if c = '\n' then ([], c :: rest)
      else if c = ']' then ([c], rest)
      else
        let read := bracketed none false rest
        (c :: read.1, read.2)
  | some sign, isEnding, c :: rest =>
      if c = '\n' then ([], c :: rest)
      else
        let read :=
          if isEnding ∧ c = ']' then bracketed none false rest
          else bracketed (some sign) (c = sign) rest
        (c :: read.1, read.2)

/-- The text up to a mark that is not protected by a backslash, and what follows the mark. There
is no such text on a line without the mark. In an expression a mark in brackets does not
count. -/
def upTo (mark : Char) (isExpression : Bool) : Nat → List Char → Option (List Char × List Char)
  | 0, _ => none
  | _ + 1, [] => none
  | fuel + 1, '\\' :: d :: rest =>
      let kept : List Char :=
        if d = 'n' ∧ isExpression then ['\n']
        else if d = '\n' then [d]
        else if d = mark ∧ (isExpression ∨ d ≠ '&') then [d]
        else ['\\', d]
      (upTo mark isExpression fuel rest).map fun read => (kept ++ read.1, read.2)
  | fuel + 1, c :: rest =>
      if c = mark then some ([], rest)
      else if c = '\n' then none
      else if c = '[' ∧ isExpression then
        let sign := if rest.head? = some '^' then ['^'] else []
        let first := if (rest.drop sign.length).head? = some ']' then [']'] else []
        let inner := bracketed none false (rest.drop (sign.length + first.length))
        (upTo mark isExpression fuel inner.2).map fun read =>
          (c :: sign ++ first ++ inner.1 ++ read.1, read.2)
      else (upTo mark isExpression fuel rest).map fun read => (c :: read.1, read.2)

def takeUpTo (mark : Char) (isExpression : Bool) : Reader (Option (List Char)) := do
  let source ← get
  match upTo mark isExpression (source.rest.length + 1) source.rest with
  | some (text, rest) => do
      set { source with rest }
      return some text
  | none => do
      set { source with rest := source.rest.dropWhile (· ≠ '\n') }
      return none

/-- The text of an expression with the letters behind backslashes replaced that stand for other
characters. -/
def plainEscapes : Nat → List Char → List Char
  | 0, chars => chars
  | _ + 1, [] => []
  | fuel + 1, '\\' :: c :: rest =>
      match c with
      | 't' => '\t' :: plainEscapes fuel rest
      | 'f' => Char.ofNat 12 :: plainEscapes fuel rest
      | 'v' => Char.ofNat 11 :: plainEscapes fuel rest
      | 'a' => Char.ofNat 7 :: plainEscapes fuel rest
      | 'r' => '\r' :: plainEscapes fuel rest
      | 'n' => '\n' :: plainEscapes fuel rest
      | 'x' =>
          let digits := leadingDigits 16 2 rest
          if digits = [] then '\\' :: c :: plainEscapes fuel rest
          else
            let read := Char.ofNat (Text.valueFrom 16 0 digits)
            let written :=
              if "\\.[]*^$/+?()\x7b\x7d|".toList.contains read then ['\\', read] else [read]
            written ++ plainEscapes fuel (rest.drop digits.length)
      | _ => '\\' :: c :: plainEscapes fuel rest
  | fuel + 1, c :: rest => c :: plainEscapes fuel rest

/-- The expression that a text is. An empty text is the expression used last. -/
def expressionOf (text : List Char) : Reader (Option Expression) := do
  if text = [] then return none
  else
    match Expression.ofChars (← get).rules (plainEscapes (text.length + 1) text) with
    | .ok expression => return some expression
    | .error .bareKind =>
        throw
          { message := Expression.Fault.bareKind.text, place := 0, isBare := true, status := 4 }
    | .error fault => fail fault.text

def takeNumber : Reader Nat := do
  return Text.decimalValue (← takeWhile Char.isDigit)

def takeMatching (mark : Char) : Reader Address := do
  match ← takeUpTo mark true with
  | none => fail "unterminated address regex"
  | some text => do
      let flags ← takeWhile fun c => c = 'I' || c = 'M'
      return .matching (← expressionOf text) (flags.contains 'I')

def takeAddress? : Reader (Option Address) := do
  match (← get).rest with
  | '$' :: _ => do
      let _ ← next?
      return some .last
  | '/' :: _ => do
      let _ ← next?
      return some (← takeMatching '/')
  | '\\' :: mark :: _ => do
      let _ ← next?
      let _ ← next?
      return some (← takeMatching mark)
  | c :: _ =>
      if c.isDigit then
        let first ← takeNumber
        skipWhile isBlank
        match (← get).rest with
        | '~' :: _ => do
            let _ ← next?
            return some (.steps first (← takeNumber))
        | _ => return some (.line first)
      else return none
  | [] => return none

def takeRangeEnd? : Reader (Option RangeEnd) := do
  match (← get).rest with
  | '+' :: _ => do
      let _ ← next?
      return some (.count (← takeNumber))
  | '~' :: _ => do
      let _ ← next?
      return some (.multiple (← takeNumber))
  | _ => return (← takeAddress?).map .address

/-- Refuse the text behind the next character that is not blank. -/
def failBehind {α : Type} (message : String) : Reader α := do
  skipWhile isSpace
  let _ ← next?
  fail message

/-- A range may begin before the first line: it ends at a line that matches. -/
def Address.beginsBefore (first : Address) (last : RangeEnd) : Bool :=
  match first, last with
  | .line 0, .address (.matching _ _) => true
  | .line 0, _ => false
  | _, _ => true

def takeSelector : Reader Selector := do
  match ← takeAddress? with
  | none => return .all
  | some first => do
      skipWhile isSpace
      match (← get).rest with
      | ',' :: _ => do
          let _ ← next?
          skipWhile isSpace
          match ← takeRangeEnd? with
          | none => failBehind ("unexpected " ++ named ",")
          | some last =>
              if first.beginsBefore last then return .range first last
              else failBehind "invalid usage of line address 0"
      | _ =>
          match first with
          | .line 0 => failBehind "invalid usage of line address 0"
          | _ => return .one first

def endCommand : Reader Unit := do
  skipWhile isBlank
  match (← get).rest with
  | [] => return ()
  | c :: _ =>
      if c = '\x7d' ∨ c = '#' then return ()
      else do
        let _ ← next?
        if c = '\n' ∨ c = ';' ∨ c = '\r' then return ()
        else fail "extra characters after command"

def takeLabel : Reader (List Char) := do
  skipWhile isBlank
  takeWhile fun c => !isSpace c && c ≠ ';' && c ≠ '\x7d'

/-- The text of a command that adds lines, from its first character on, and what follows
it. -/
def addedText : Nat → List Char → List Char × List Char
  | 0, rest => ([], rest)
  | _ + 1, [] => ([], [])
  | fuel + 1, c :: rest =>
      if c = '\n' then ([], rest)
      else
        match c, rest with
        | '\\', d :: behind =>
            let meant : Char := if d = 't' then '\t' else d
            let read := addedText fuel behind
            (meant :: read.1, read.2)
        | '\\', [] => ([], [])
        | _, _ =>
            let read := addedText fuel rest
            (c :: read.1, read.2)

def takeText : Reader (List Char) := do
  skipWhile isBlank
  let source ← get
  let text : List Char :=
    match source.rest with
    | '\\' :: '\n' :: rest => rest
    | '\\' :: rest =>
        match rest.dropWhile isBlank with
        | '\n' :: behind => behind
        | _ => rest
    | rest => rest
  if source.rest = [] then fail ("expected \\ after " ++ named "a" ++ ", " ++ named "c" ++ " or "
    ++ named "i")
  else if text = [] then do
    set { source with rest := [] }
    return []
  else do
    let (read, rest) := addedText (text.length + 1) text
    set { source with rest }
    return read ++ ['\n']

def takeFile : Reader (List Char) := do
  skipWhile isBlank
  let file ← takeWhile (· ≠ '\n')
  if file = [] then fail "missing filename in r/R/w/W commands" else return file

def fillings : Nat → List Char → List Filling
  | 0, _ => []
  | _ + 1, [] => []
  | fuel + 1, '&' :: rest => .group 0 :: fillings fuel rest
  | fuel + 1, '\\' :: c :: rest =>
      if c.isDigit then .group (c.toNat - 0x30) :: fillings fuel rest
      else if "LUluE".toList.contains c then .letters c :: fillings fuel rest
      else
        match letterMeaning? c with
        | some meaning =>
            if c = 'b' ∨ c = 'e' then withText [c] (fillings fuel rest)
            else withText [meaning] (fillings fuel rest)
        | none => withText [c] (fillings fuel rest)
  | fuel + 1, c :: rest => withText [c] (fillings fuel rest)
where
  withText (text : List Char) : List Filling → List Filling
    | .text other :: rest => .text (text ++ other) :: rest
    | parts => .text text :: parts

def groupCount (style : Expression.Style) : List Char → Nat
  | '\\' :: c :: rest =>
      (if style = .basic ∧ c = '(' then 1 else 0) + groupCount style rest
  | c :: rest => (if style = .extended ∧ c = '(' then 1 else 0) + groupCount style rest
  | [] => 0

def takeFlags : Nat → Substitution → Reader Substitution
  | 0, substitution => return substitution
  | fuel + 1, substitution => do
      match (← get).rest with
      | [] => return substitution
      | c :: _ =>
          if c = '\x7d' ∨ c = '#' then return substitution
          else if c.isDigit then
            let number ← takeNumber
            if substitution.number.isSome then
              fail ("multiple number options to " ++ named "s" ++ " command")
            else if number = 0 then
              fail ("number option to " ++ named "s" ++ " command may not be zero")
            else takeFlags fuel { substitution with number := some number }
          else do
            let _ ← next?
            match c with
            | 'g' =>
                if substitution.isGlobal then
                  fail ("multiple " ++ named "g" ++ " options to " ++ named "s" ++ " command")
                else takeFlags fuel { substitution with isGlobal := true }
            | 'p' =>
                if substitution.prints then
                  fail ("multiple " ++ named "p" ++ " options to " ++ named "s" ++ " command")
                else takeFlags fuel { substitution with prints := true }
            | 'i' | 'I' => takeFlags fuel { substitution with ignoresCase := true }
            | 'm' | 'M' | 'e' => takeFlags fuel substitution
            | 'w' => return { substitution with file := some (← takeFile) }
            | '\n' | ';' | '\r' => return substitution
            | ' ' | '\t' => takeFlags fuel substitution
            | _ => fail ("unknown option to " ++ named "s")

def takeSubstitution : Reader Action := do
  match ← next? with
  | none => fail ("unterminated " ++ named "s" ++ " command")
  | some mark => do
      match ← takeUpTo mark true with
      | none => fail ("unterminated " ++ named "s" ++ " command")
      | some pattern =>
          match ← takeUpTo mark false with
          | none => fail ("unterminated " ++ named "s" ++ " command")
          | some replacement => do
              let filling := fillings (replacement.length + 1) replacement
              let plain : Substitution := { expression := none, filling }
              let source ← get
              let substitution ← takeFlags (source.rest.length + 1) plain
              let expression ← expressionOf pattern
              let most := filling.foldl
                (fun most part =>
                  match part with
                  | .group number => max most number
                  | _ => most) 0
              if pattern ≠ [] ∧ groupCount source.rules.style pattern < most then
                fail ("invalid reference \\" ++ toString most ++ " on " ++ named "s"
                  ++ " command's RHS")
              else return .substitute { substitution with expression }

/-- A text of single characters, some of them behind backslashes. -/
def unprotected : List Char → List Char
  | '\\' :: c :: rest =>
      (if c = 'n' then '\n' else if c = 't' then '\t' else c) :: unprotected rest
  | c :: rest => c :: unprotected rest
  | [] => []

def takeTransliteration : Reader Action := do
  match ← next? with
  | none => fail ("unterminated " ++ named "y" ++ " command")
  | some mark => do
      match ← takeUpTo mark false with
      | none => fail ("unterminated " ++ named "y" ++ " command")
      | some first =>
          match ← takeUpTo mark false with
          | none => fail ("unterminated " ++ named "y" ++ " command")
          | some second => do
              let sources := unprotected first
              let targets := unprotected second
              if sources.length ≠ targets.length then
                fail ("strings for " ++ named "y" ++ " command are different lengths")
              else do
                endCommand
                return .transliterate sources targets

def loneAction? (letter : Char) : Option Action :=
  match letter with
  | 'p' => some .print
  | 'P' => some .printFirst
  | 'd' => some .delete
  | 'D' => some .deleteFirst
  | 'n' => some .next
  | 'N' => some .nextAppended
  | '=' => some .lineNumber
  | 'g' => some .restore
  | 'G' => some .restoreAppended
  | 'h' => some .keep
  | 'H' => some .keepAppended
  | 'x' => some .exchange
  | 'z' => some .clear
  | 'F' => some .fileName
  | _ => none

def takeAction (letter : Char) : Reader Action := do
  match loneAction? letter with
  | some action => do
      endCommand
      return action
  | none =>
      match letter with
      | 's' => takeSubstitution
      | 'y' => takeTransliteration
      | 'a' => return .append (← takeText)
      | 'i' => return .insert (← takeText)
      | 'c' => return .change (← takeText)
      | 'q' => do
          skipWhile isBlank
          let status ← takeNumber
          endCommand
          return .quit status
      | 'Q' => do
          skipWhile isBlank
          let status ← takeNumber
          endCommand
          return .quitSilently status
      | 'l' => do
          skipWhile isBlank
          let _ ← takeNumber
          endCommand
          return .listed
      | 'b' => return .branch (← takeLabel)
      | 't' => return .branchIf (← takeLabel)
      | 'T' => return .branchUnless (← takeLabel)
      | ':' => do
          let name ← takeLabel
          if name = [] then fail "\":\" lacks a label" else return .label name
      | 'r' => return .readFrom (← takeFile)
      | 'w' => return .writeTo (← takeFile)
      | 'W' => return .writeFirstTo (← takeFile)
      | 'v' => do
          let _ ← takeLabel
          return .nothing
      | _ => fail ("unknown command: " ++ named (String.singleton letter))

def addCommand (command : Command) : Reader Unit :=
  modify fun source => { source with read := command :: source.read }

def closeBlock (place ending : Nat) (read : List Command) : List Command :=
  read.reverse.zipIdx.reverse.map fun (command, index) =>
    if index = place then { command with action := .opening ending } else command

def readCommands : Nat → Reader Unit
  | 0 => return ()
  | fuel + 1 => do
      skipWhile fun c => isSpace c || c = ';'
      match (← get).rest with
      | [] =>
          if (← get).blocks ≠ [] then throw { message := "unmatched " ++ named "\x7b", place := 0 }
          else return ()
      | '#' :: _ => do
          skipWhile (· ≠ '\n')
          readCommands fuel
      | _ => do
          let selector ← takeSelector
          skipWhile isSpace
          let isNegated := (← get).rest.head? = some '!'
          if isNegated then
            let _ ← next?
            skipWhile isSpace
            if (← get).rest.head? = some '!' then failBehind ("multiple " ++ named "!" ++ "s")
          match ← next? with
          | none => fail "missing command"
          | some '\x7b' => do
              let source ← get
              set { source with blocks := source.read.length :: source.blocks }
              addCommand ⟨selector, isNegated, .opening 0⟩
              readCommands fuel
          | some '\x7d' => do
              let source ← get
              match source.blocks with
              | [] => fail ("unexpected " ++ named "\x7d")
              | place :: blocks => do
                  match selector with
                  | .all => pure ()
                  | _ => fail "\x7d doesn't want any addresses"
                  set { source with
                    blocks, read := closeBlock place source.read.length source.read }
                  addCommand ⟨.all, false, .nothing⟩
                  endCommand
                  readCommands fuel
          | some letter => do
              let action ← takeAction letter
              addCommand ⟨selector, isNegated, action⟩
              readCommands fuel

def missingLabel? (commands : List Command) : Option (List Char) :=
  let labels := commands.filterMap fun command =>
    match command.action with
    | .label name => some name
    | _ => none
  commands.findSome? fun command =>
    match command.action with
    | .branch name | .branchIf name | .branchUnless name =>
        if name ≠ [] ∧ ¬ labels.contains name then some name else none
    | _ => none

def commandsOf (rules : Expression.Rules) (text : List Char) : Except Fault (List Command) :=
  match (readCommands (text.length + 1)).run ⟨text.length, text, [], [], rules⟩ with
  | .error fault _ => .error fault
  | .ok () source =>
      let commands := source.read.reverse
      match missingLabel? commands with
      | some name =>
          .error
            { message := "can't find label for jump to " ++ named (String.ofList name)
              place := 0, isBare := true, status := 4 }
      | none => .ok commands

end PartitionBench.Host.Utility.Edit
