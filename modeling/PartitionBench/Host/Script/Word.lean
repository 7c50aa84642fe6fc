import PartitionBench.Host.Script.Source
import PartitionBench.Text.Digits

/-!
Contract: how the words of a script are written.

Owns:
- quotes, escapes, and the parts that begin with a dollar sign or a backquote;
- the text in braces, calculations and here-documents, which are read like words.

Does not own: commands (`Script.Phrase`); the reader of the commands in a substitution is
given to the functions of this module.
-/

namespace PartitionBench.Host.Script

/-- The character that encloses a substitution in the older way. -/
def backquote : Char := Char.ofNat 0x60

/-- What encloses the text that is read. -/
inductive Enclosure where
  /-- Nothing: the text is a word. -/
  | bare
  | quotes
  /-- The braces of a parameter, up to the closing brace or another character that ends
  the part. -/
  | braces (inQuotes : Bool) (stops : List Char)
  /-- A calculation, with the number of brackets open in it. -/
  | calculation (depth : Nat)
  | place
  | document
  /-- The expression that a value is matched with in a condition. -/
  | expression (depth : Nat)
  deriving DecidableEq

def Enclosure.isQuoted : Enclosure → Bool
  | .quotes | .document | .calculation _ => true
  | .braces inQuotes _ => inQuotes
  | _ => false

def endsWord (c : Char) : Bool :=
  c = ' ' || c = '\t' || c = '\n' || c = ';' || c = '&' || c = '|' || c = '<' || c = '>'
    || c = '(' || c = ')'

/-- Parts in reverse, with a character outside quotes behind them. The text of a part is in
reverse, too. -/
def addPlain (c : Char) : List Part → List Part
  | .plain text :: rest => .plain (c :: text) :: rest
  | parts => .plain [c] :: parts

def addQuoted (c : Char) : List Part → List Part
  | .quoted text :: rest => .quoted (c :: text) :: rest
  | parts => .quoted [c] :: parts

def wordOf (parts : List Part) : Word :=
  parts.reverse.map fun part =>
    match part with
    | .plain text => .plain text.reverse
    | .quoted text => .quoted text.reverse
    | other => other

/-- Parts in reverse, with a character behind them that is quoted as its enclosure
says. -/
def Enclosure.add (enclosure : Enclosure) (c : Char) (parts : List Part) : List Part :=
  if enclosure.isQuoted then addQuoted c parts else addPlain c parts

/-- The characters up to a quote mark, which is read too. -/
def readVerbatim (mark : Char) (line : Nat) : Nat → Reader (List Char)
  | 0 => throw (.openQuotes mark line)
  | fuel + 1 => do
      match ← Reader.next? with
      | none => throw (.openQuotes mark line)
      | some c =>
          if c = mark then return []
          else return c :: (← readVerbatim mark line fuel)

def digitsOf (base : Nat) : Nat → List Char → List Char × List Char
  | 0, chars => ([], chars)
  | count + 1, c :: rest =>
      match Text.hexValue? c with
      | some value =>
          if value < base then
            let read := digitsOf base count rest
            (c :: read.1, read.2)
          else ([], c :: rest)
      | none => ([], c :: rest)
  | _ + 1, [] => ([], [])

def bytesOfCode (code : Nat) : List Char :=
  ((String.singleton (Char.ofNat code)).toUTF8.toList).map fun byte => Char.ofNat byte.toNat

def letterEscape? : Char → Option Char
  | 'a' => some (Char.ofNat 7)
  | 'b' => some (Char.ofNat 8)
  | 'f' => some (Char.ofNat 12)
  | 'n' => some '\n'
  | 'r' => some '\r'
  | 't' => some '\t'
  | 'v' => some (Char.ofNat 11)
  | '\\' => some '\\'
  | _ => none

/-- The text of quotes behind a dollar sign, with its escapes replaced. -/
def unescaped : Nat → List Char → List Char
  | 0, _ => []
  | _ + 1, [] => []
  | fuel + 1, '\\' :: c :: rest =>
      if c = 'e' ∨ c = 'E' then Char.ofNat 27 :: unescaped fuel rest
      else if c = 'x' then
        let digits := digitsOf 16 2 rest
        if digits.1 = [] then '\\' :: 'x' :: unescaped fuel rest
        else Char.ofNat (Text.valueFrom 16 0 digits.1) :: unescaped fuel digits.2
      else if c = 'u' ∨ c = 'U' then
        let digits := digitsOf 16 (if c = 'u' then 4 else 8) rest
        if digits.1 = [] then '\\' :: c :: unescaped fuel rest
        else bytesOfCode (Text.valueFrom 16 0 digits.1) ++ unescaped fuel digits.2
      else if c = 'c' then
        match rest with
        | [] => ['\\', 'c']
        | d :: behind => Char.ofNat (d.toUpper.toNat % 32) :: unescaped fuel behind
      else if '0' ≤ c ∧ c ≤ '7' then
        let digits := digitsOf 8 3 (c :: rest)
        Char.ofNat (Text.valueFrom 8 0 digits.1 % 256) :: unescaped fuel digits.2
      else if c = '\'' ∨ c = '"' ∨ c = '?' then c :: unescaped fuel rest
      else
        match letterEscape? c with
        | some meant => meant :: unescaped fuel rest
        | none => '\\' :: c :: unescaped fuel rest
  | fuel + 1, c :: rest => c :: unescaped fuel rest

/-- The characters of quotes in which a backslash takes the next character along. -/
def readEscaped (line : Nat) : Nat → Reader (List Char)
  | 0 => throw (.openQuotes '\'' line)
  | fuel + 1 => do
      match ← Reader.next? with
      | none => throw (.openQuotes '\'' line)
      | some '\'' => return []
      | some '\\' =>
          match ← Reader.next? with
          | none => throw (.openQuotes '\'' line)
          | some c => return '\\' :: c :: (← readEscaped line fuel)
      | some c => return c :: (← readEscaped line fuel)

/-- The text of a substitution in backquotes, without the backslashes that protect
characters from the quotes. -/
def readBackquoted (inQuotes : Bool) (line : Nat) : Nat → Reader (List Char)
  | 0 => throw (.openBackquote line)
  | fuel + 1 => do
      match ← Reader.next? with
      | none => throw (.openBackquote line)
      | some c =>
          if c = backquote then return []
          else if c = '\\' then
            match ← Reader.next? with
            | none => throw (.openBackquote line)
            | some d =>
                if d = '\n' then readBackquoted inQuotes line fuel
                else if d = backquote ∨ d = '\\' ∨ d = '$' ∨ (inQuotes ∧ d = '"') then
                  return d :: (← readBackquoted inQuotes line fuel)
                else return '\\' :: d :: (← readBackquoted inQuotes line fuel)
          else return c :: (← readBackquoted inQuotes line fuel)

/-- Read a text of its own, whose first line has a number, and go on behind it. -/
def readApart {α : Type} (text : List Char) (line : Nat) (read : Reader α) : Reader α := do
  let outer ← get
  set { outer with
    rest := text, room := text.length, lineText := text, endedLine := [], line, ahead := none
    owed := [], inUse := [] }
  match read.run (← get) with
  | .ok value inner => do
      set { outer with
        documents := inner.documents
        nextDocument := inner.nextDocument
        warnings := inner.warnings }
      return value
  | .error fault inner => do
      set { outer with
        line := inner.line, lineText := inner.lineText, endedLine := inner.endedLine }
      throw fault

inductive Substituted where
  | bracketed
  /-- At the end of the text, which is one of its own. -/
  | apart
  deriving DecidableEq

structure Nested where
  parts : Enclosure → Reader Word
  commands : Substituted → Reader (List Command)

def closeBrace (line : Nat) : Reader Unit := do
  match (← get).rest with
  | '\x7d' :: _ => do
      let _ ← Reader.next?
  | _ => throw (.openBrace line)

def standIn? (orEmpty : Bool) (c : Char) (other : Word) : Option Change :=
  match c with
  | '-' => some (.standIn orEmpty other)
  | '=' => some (.assign orEmpty other)
  | '?' => some (.complain orEmpty other)
  | '+' => some (.alternative orEmpty other)
  | _ => none

def isStandInSign (c : Char) : Bool :=
  c = '-' || c = '=' || c = '?' || c = '+'

/-- The rest of a parameter in braces behind its name, in the extended dialect. -/
def readExtendedChange (nested : Nested) (inQuotes : Bool) (c : Char) :
    Reader (Option Change) := do
  match c with
  | ':' => do
      let start ← nested.parts (.braces true [':'])
      if ← Reader.skip? ':' then
        let length ← nested.parts (.braces true [])
        return some (.slice start (some length))
      else return some (.slice start none)
  | '/' => do
      let place ←
        if ← Reader.skip? '/' then pure Place.everywhere
        else if ← Reader.skip? '#' then pure Place.start
        else if ← Reader.skip? '%' then pure Place.finish
        else pure Place.first
      let pattern ← nested.parts (.braces false ['/'])
      if ← Reader.skip? '/' then
        let replacement ← nested.parts (.braces inQuotes [])
        return some (.replace place pattern replacement)
      else return some (.replace place pattern [])
  | '^' => return some (.letters true (← Reader.skip? '^'))
  | ',' => return some (.letters false (← Reader.skip? ','))
  | '@' =>
      if ← Reader.skip? 'Q' then return some .requoted
      else if ← Reader.skip? 'U' then return some (.letters true true)
      else if ← Reader.skip? 'L' then return some (.letters false true)
      else return none
  | _ => return none

/-- The change of a parameter in braces. The name has been read; the closing brace is
read here. -/
def readChange (nested : Nested) (inQuotes : Bool) (line : Nat) : Reader Change := do
  let dialect := (← get).dialect
  match ← Reader.peek? with
  | none => throw (.openBrace line)
  | some '\x7d' => do
      closeBrace line
      return .none
  | some c => do
      let start := (← get).rest
      let _ ← Reader.next?
      if c = '\n' ∧ dialect = .standard then
        modify fun source => { source with line := source.line - 1 }
      let found : Option Change ←
        if isStandInSign c then do
          let other ← nested.parts (.braces inQuotes [])
          pure (standIn? false c other)
        else if c = '#' ∨ c = '%' then do
          let longest ← Reader.skip? c
          let pattern ← nested.parts (.braces false [])
          pure (some (if c = '#' then .withoutStart longest pattern
            else .withoutEnd longest pattern))
        else do
          let sign ← Reader.peek?
          match c, sign with
          | ':', some d =>
              if isStandInSign d then do
                let _ ← Reader.next?
                let other ← nested.parts (.braces inQuotes [])
                pure (standIn? true d other)
              else if dialect = .extended then readExtendedChange nested inQuotes c
              else pure none
          | _, _ =>
              if dialect = .extended then readExtendedChange nested inQuotes c else pure none
      match found, (← get).rest with
      | some change, '\x7d' :: _ => do
          closeBrace line
          return change
      | _, _ => do
          let _ ← nested.parts (.braces inQuotes [])
          let read := start.take (start.length - (← get).rest.length)
          closeBrace line
          return .unknown read

/-- A place in a list, behind the name of the list, in brackets. -/
def readPlace (nested : Nested) : Reader (Option Word) := do
  if (← get).dialect = .extended ∧ (← Reader.peek?) = some '[' then
    let _ ← Reader.next?
    let place ← nested.parts .place
    let _ ← Reader.next?
    return some place
  else return none

/-- The name of a parameter: letters and digits, digits alone, or one special
character. -/
def readParameterName (inBraces : Bool) : Reader (List Char) := do
  match ← Reader.peek? with
  | none => return []
  | some c =>
      if startsName c then Reader.takeWhile continuesName (← Reader.bound)
      else if inBraces ∧ Text.isDigit c then Reader.takeWhile Text.isDigit (← Reader.bound)
      else if Text.isDigit c ∨ isSpecialParameter c then
        let _ ← Reader.next?
        return [c]
      else return []

/-- A parameter in braces without what is done to it: its name, and its place if it is one
of a list. -/
structure Target where
  name : List Char
  place : Option Word

def readTarget (nested : Nested) : Reader Target := do
  let name ← readParameterName true
  if isName name then return ⟨name, ← readPlace nested⟩
  else return ⟨name, none⟩

def Target.part (target : Target) (change : Change) : Part :=
  match target.place with
  | some place => .element target.name place change
  | none => .parameter target.name change

/-- Read what is no known change of a parameter, up to the closing brace. `start` is the
text from the parameter on. -/
def readUnknown (nested : Nested) (inQuotes : Bool) (line : Nat) (start : List Char) :
    Reader Part := do
  let _ ← nested.parts (.braces inQuotes [])
  let read := start.take (start.length - (← get).rest.length)
  closeBrace line
  return .parameter [] (.unknown read)

/-- The rest of a parameter in braces behind a number sign: the length of the parameter
that is named, or the number of arguments. -/
def readLength (nested : Nested) (inQuotes : Bool) (line : Nat) : Reader Part := do
  match ← Reader.peek? with
  | none => throw (.openBrace line)
  | some c =>
      let start := (← get).rest
      let target ← readTarget nested
      if target.name = [] then
        return .parameter ['#'] (← readChange nested inQuotes line)
      else if (← Reader.peek?) = some '\x7d' then
        closeBrace line
        return target.part .length
      else if startsName c ∨ Text.isDigit c then
        let _ ← nested.parts (.braces inQuotes [])
        closeBrace line
        return target.part .length
      else
        modify fun source => { source with rest := start }
        return .parameter ['#'] (← readChange nested inQuotes line)

/-- The rest of a parameter in braces behind an exclamation mark, in the extended
dialect. -/
def readIndirect (nested : Nested) (inQuotes : Bool) (line : Nat) (start : List Char) :
    Reader Part := do
  let target ← readTarget nested
  if target.name = [] then return .parameter ['!'] (← readChange nested inQuotes line)
  else if (← Reader.peek?) = some '\x7d' then
    closeBrace line
    return target.part (if target.place.isSome then .places else .indirect)
  else readUnknown nested inQuotes line start

/-- The rest of a parameter whose opening brace has been read. -/
def readBraced (nested : Nested) (inQuotes : Bool) : Reader Part := do
  let source ← get
  match ← Reader.peek? with
  | some '#' => do
      let _ ← Reader.next?
      readLength nested inQuotes source.line
  | some '!' => do
      let _ ← Reader.next?
      if source.dialect = .extended then
        readIndirect nested inQuotes source.line source.rest
      else return .parameter ['!'] (← readChange nested inQuotes source.line)
  | _ => do
      let target ← readTarget nested
      if target.name = [] then readUnknown nested inQuotes source.line source.rest
      else return target.part (← readChange nested inQuotes source.line)

/-- How many lines end before the first command of a text. -/
def linesBefore : (inComment : Bool) → List Char → Nat
  | _, [] => 0
  | inComment, c :: rest =>
      if c = '\n' then linesBefore false rest + 1
      else if inComment then linesBefore true rest
      else if c = '#' then linesBefore true rest
      else if c = ' ' ∨ c = '\t' then linesBefore false rest
      else 0

/-- The commands of a substitution, up to its closing bracket, and the line on which the first
of them begins. -/
def readBracketed (commands : Substituted → Reader (List Command)) :
    Reader (Nat × List Command) := do
  let source ← get
  modify fun source => { source with owed := [] }
  let read ← commands .bracketed
  modify fun later => { later with owed := source.owed }
  return (source.line + linesBefore false source.rest, read)

/-- What follows a dollar sign. The sign stands for itself where nothing is expanded. -/
def readDollar (nested : Nested) (enclosure : Enclosure) (parts : List Part) :
    Reader (List Part) := do
  let source ← get
  match ← Reader.peek? with
  | some '(' => do
      let _ ← Reader.next?
      if ← Reader.skip? '(' then
        let line := (← get).line
        let expression ← nested.parts (.calculation 0)
        match ← Reader.next? with
        | some _ => do
            let _ ← Reader.next?
            return .calculation expression :: parts
        | none => throw (.openCalculation line)
      else
        let (line, commands) ← readBracketed nested.commands
        return .substitution line commands :: parts
  | some '\x7b' => do
      let _ ← Reader.next?
      return (← readBraced nested enclosure.isQuoted) :: parts
  | some '\'' =>
      if source.dialect = .extended ∧ ¬ enclosure.isQuoted then
        let line := source.line
        let _ ← Reader.next?
        let text ← readEscaped line (← Reader.bound)
        return .quoted (unescaped (text.length + 1) text).reverse :: parts
      else return enclosure.add '$' parts
  | some '"' =>
      if source.dialect = .extended ∧ ¬ enclosure.isQuoted then return parts
      else return enclosure.add '$' parts
  | some c =>
      if startsName c ∨ Text.isDigit c ∨ isSpecialParameter c then
        return .parameter (← readParameterName false) .none :: parts
      else return enclosure.add '$' parts
  | none => return enclosure.add '$' parts

def readBackslash (enclosure : Enclosure) (parts : List Part) : Reader (List Part) := do
  match ← Reader.next? with
  | none => return addQuoted '\\' parts
  | some '\n' => return parts
  | some c =>
      if enclosure.isQuoted then
        let isSpecial :=
          c = '\\' || c = '$' || c = backquote
            || (c = '"' && enclosure ≠ .document)
            || (match enclosure with
              | .braces _ _ => c = '\x7d'
              | _ => false)
        if isSpecial then return addQuoted c parts
        else return addQuoted c (addQuoted '\\' parts)
      else return addQuoted c parts

def Enclosure.endsAt (enclosure : Enclosure) (c : Char) (rest : List Char) : Bool :=
  match enclosure with
  | .bare => endsWord c
  | .quotes => c = '"'
  | .braces _ stops => c = '\x7d' || stops.contains c
  | .calculation depth => depth = 0 && c = ')' && rest.head? = some ')'
  | .place => c = ']'
  | .document => false
  | .expression depth => c = ' ' || c = '\t' || c = '\n' || (depth = 0 && c = ')')

def Enclosure.after (enclosure : Enclosure) (c : Char) : Enclosure :=
  match enclosure with
  | .calculation depth =>
      if c = '(' then .calculation (depth + 1)
      else if c = ')' then .calculation (depth - 1)
      else enclosure
  | .expression depth =>
      if c = '(' then .expression (depth + 1)
      else if c = ')' then .expression (depth - 1)
      else enclosure
  | _ => enclosure

/-- The text in an enclosure, up to what ends it. `parts` is what has been read, in
reverse. -/
def readParts (commands : Substituted → Reader (List Command)) :
    Nat → Enclosure → List Part → Reader Word
  | 0, _, parts => return wordOf parts
  | fuel + 1, enclosure, parts => do
      let nested : Nested :=
        ⟨fun inner => readParts commands fuel inner [], commands⟩
      let source ← get
      match source.rest with
      | [] => return wordOf parts
      | c :: rest => do
          if c = '\\' ∧ rest.head? = some '\n' then
            Reader.joinLines 1
            readParts commands fuel enclosure parts
          else if enclosure.endsAt c rest then return wordOf parts
          else do
            let _ ← Reader.next?
            let more : List Part ←
              if c = '\\' then readBackslash enclosure parts
              else if c = '$' then readDollar nested enclosure parts
              else if c = backquote then do
                let text ← readBackquoted enclosure.isQuoted source.line (← Reader.bound)
                pure (.substitution 1 (← readApart text 1 (commands .apart)) :: parts)
              else if c = '\'' ∧ ¬ enclosure.isQuoted then do
                let text ← readVerbatim '\'' source.line (← Reader.bound)
                pure (.quoted text.reverse :: parts)
              else if c = '"' ∧ enclosure ≠ .document then
                match enclosure with
                | .calculation _ =>
                    pure (if source.dialect = .extended then parts else addQuoted c parts)
                | _ => do
                    let inner ← nested.parts .quotes
                    match ← Reader.next? with
                    | none => throw (.openQuotes '"' source.line)
                    | some _ => pure (.quotes inner :: parts)
              else pure (enclosure.add c parts)
            readParts commands fuel (enclosure.after c) more

def readWord (commands : Substituted → Reader (List Command)) : Reader Word := do
  readParts commands (← Reader.bound) .bare []

def readDocument (commands : Substituted → Reader (List Command)) (text : List Char)
    (line : Nat) : Reader Word :=
  readApart text line (readParts commands (text.length + 1) .document [])

end PartitionBench.Host.Script
