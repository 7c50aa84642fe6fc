import PartitionBench.Host.Script.Parameter

/-!
Contract: what the parts of words stand for.

Owns:
- characters marked with where they came from;
- what is done to the values of parameters, and homes;
- the text, the pattern and the marked characters that a word stands for.

Does not own: running the commands of substitutions, which is given to the functions of
this module, and the fields of a word (`Script.Field`).
-/

namespace PartitionBench.Host.Script

open Execution

/-- What expansion needs from the running of commands: what commands write to their
output, and the descriptor of a channel that this can be read from. -/
structure Substituter where
  output : (line : Nat) → List Command → Execution (List Char)
  channel : (line : Nat) → List Command → Execution Nat

/-! ## Marked characters -/

/-- A character of an expanded word, with what may still become of it. -/
inductive Mark where
  | literal (c : Char)
  | quoted (c : Char)
  /-- A character of an expansion outside quotes, at which the word may be split. -/
  | expanded (c : Char)
  | boundary
  /-- There is a field here, even if it is empty. -/
  | presence
  deriving DecidableEq

def marksOf (isQuoted : Bool) (text : List Char) : List Mark :=
  if isQuoted then .presence :: text.map .quoted else text.map .expanded

/-- The text of marked characters. Where the word would be split stands a blank. -/
def textOfMarks (marks : List Mark) : List Char :=
  marks.filterMap fun mark =>
    match mark with
    | .literal c | .quoted c | .expanded c => some c
    | .boundary => some ' '
    | .presence => none

/-- The characters of a pattern, with those that are quoted. -/
def patternOfMarks (marks : List Mark) : List (Char × Bool) :=
  marks.filterMap fun mark =>
    match mark with
    | .literal c | .expanded c => some (c, false)
    | .quoted c => some (c, true)
    | .boundary => some (' ', true)
    | .presence => none

def withBoundaries : List (List Mark) → List Mark
  | [] => []
  | [marks] => marks
  | marks :: rest => marks ++ .boundary :: withBoundaries rest

/-! ## Changes -/

/-- The home of the user with a name, if that is known. -/
def homeOf? (name : List Char) : Execution (Option (List Char)) := do
  if name = [] then
    match ← value? "HOME".toList, (← process).dialect with
    | some home, _ => return some home
    | none, .standard => return none
    | none, .extended => return some "/root".toList
  else if name = "root".toList then return some "/root".toList
  else return none

/-- A text outside quotes at the start of a word, with the home that its beginning stands
for. -/
def withHome (mark : Char → Mark) (text : List Char) : Execution (List Mark) := do
  match text with
  | '~' :: rest =>
      let name := rest.takeWhile (· ≠ '/')
      match ← homeOf? name with
      | some home => return home.map .quoted ++ (rest.drop name.length).map mark
      | none => return text.map mark
  | _ => return text.map mark

def changeLetter (toUpper : Bool) (c : Char) : Char :=
  if toUpper then c.toUpper else c.toLower

def changeLetters (toUpper everywhere : Bool) (text : List Char) : List Char :=
  if everywhere then text.map (changeLetter toUpper)
  else
    match text with
    | c :: rest => changeLetter toUpper c :: rest
    | [] => []

/-- A text in quotes from which it can be read again. -/
def requoted (text : List Char) : List Char :=
  '\'' :: (text.flatMap fun c => if c = '\'' then ['\'', '\\', '\'', '\''] else [c]) ++ ['\'']

/-- A part of a list or a text, from a place on. -/
def sliceOf {α : Type} (start : Int) (length : Option Int) (items : List α) : List α :=
  let size : Int := items.length
  let first := if start < 0 then size + start else start
  if first < 0 ∨ size < first then []
  else
    let rest := items.drop first.toNat
    match length with
    | none => rest
    | some count =>
        if count < 0 then rest.take (rest.length - count.natAbs) else rest.take count.toNat

def replaced (place : Place) (pattern : List Pattern.Element) (replacement text : List Char) :
    List Char :=
  match place with
  | .first => Pattern.replaceIn pattern replacement false (text.length + 1) text
  | .everywhere => Pattern.replaceIn pattern replacement true (text.length + 1) text
  | .start =>
      match Pattern.longestStart? pattern text with
      | some count => replacement ++ text.drop count
      | none => text
  | .finish =>
      let shortened := Pattern.withoutEnd pattern true text
      if shortened.length = text.length ∧ ¬ Pattern.covers pattern [] then text
      else shortened ++ replacement

def Value.marks (value : Value) (isQuoted : Bool) : Execution (List Mark) := do
  match value with
  | .one text => return marksOf isQuoted (text.getD [])
  | .many items isJoined =>
      if isQuoted ∧ isJoined then return marksOf true (← joinedBySeparator items)
      else return withBoundaries (items.map (marksOf isQuoted))

def Value.map (value : Value) (change : List Char → List Char) : Value :=
  match value with
  | .one text => .one (text.map change)
  | .many items isJoined => .many (items.map change) isJoined

def Value.isSet : Value → Bool
  | .one text => text.isSome
  | .many items _ => !items.isEmpty

/-- A value is no empty text. -/
def Value.isFilled : Value → Bool
  | .one text => (text.getD []) ≠ []
  | .many items _ => items.any fun item => item ≠ []

/-- The value of a parameter that is one of a list, or all of it. -/
def elementValue (name : List Char) (place : List Char) : Execution Value := do
  let held := (← heldVariable? name).getD {}
  let items := held.items.getD ((held.value.map fun text => (['0'], text)).toList)
  match place with
  | ['@'] => return .many (items.map (·.2)) false
  | ['*'] => return .many (items.map (·.2)) true
  | _ =>
      if held.isTable then return .one (itemAt? items place)
      else
        let number ← calculateText place
        let count : Int := ((items.getLast?.bind fun entry => natural? entry.1).getD 0 : Nat)
        let spot := if number < 0 then count + 1 + number else number
        return .one (itemAt? items (placeText spot))

def filledPlaces (name : List Char) : Execution (List (List Char)) := do
  let held := (← heldVariable? name).getD {}
  return (held.items.getD ((held.value.map fun text => (['0'], text)).toList)).map (·.1)

/-- Refuse a parameter that is not set, where that is asked for. -/
def refuseUnset (name : List Char) (value : Value) : Execution Unit := do
  let process ← process
  match value with
  | .one none =>
      if process.flags.contains 'u' then
        match process.dialect with
        | .standard => fail (name ++ utf8 ": parameter not set")
        | .extended => do
            let shown := if (natural? name).isSome then '$' :: name else name
            reportUnnamed (shown ++ utf8 ": unbound variable")
            throw (.fails 1)
      else return ()
  | _ => return ()

inductive Purpose where
  | fields
  | text
  | assignment
  deriving DecidableEq

/-- How the words in the braces of a parameter are expanded. -/
structure Inner where
  isQuoted : Bool
  marks : Word → Execution (List Mark)
  /-- A word that is one text, in quotes like the parameter. -/
  text : Word → Execution (List Char)
  quotedText : Word → Execution (List Char)
  pattern : Word → Execution (List Pattern.Element)

/-- What is said of a parameter that has to be set. -/
def complaint (orEmpty : Bool) (message : Word) (text : List Char) : Execution (List Char) := do
  if message.isEmpty then
    if orEmpty then inDialect "parameter not set or null" "parameter null or not set"
    else return utf8 "parameter not set"
  else return text

/-- A part of a value. The arguments of a script are counted from its path on. -/
def Value.slice (name : List Char) (start : Int) (length : Option Int) (value : Value) :
    Execution Value := do
  match value with
  | .one text => return .one (some (sliceOf start length (text.getD [])))
  | .many items isJoined =>
      let all ← if isName name then pure items else pure ((← process).path :: items)
      return .many (sliceOf start length all) isJoined

/-- The marks of a parameter with a name and a value. `store` gives it another one. -/
def Value.changed (value : Value) (inner : Inner) (name : List Char)
    (store : List Char → Execution Unit) (change : Change) : Execution (List Mark) := do
  let isQuoted := inner.isQuoted
  let lacks (orEmpty : Bool) : Bool := if orEmpty then !value.isFilled else !value.isSet
  match change with
  | .none => do
      refuseUnset name value
      value.marks isQuoted
  | .length => do
      refuseUnset name value
      match value with
      | .one text => return marksOf isQuoted (digitsOfNat (text.getD []).length)
      | .many items _ => return marksOf isQuoted (digitsOfNat items.length)
  | .standIn orEmpty other => if lacks orEmpty then inner.marks other else value.marks isQuoted
  | .alternative orEmpty other =>
      if lacks orEmpty then return marksOf isQuoted [] else inner.marks other
  | .assign orEmpty other => do
      if lacks orEmpty then
        let text ← inner.text other
        if isName name then
          store text
          return marksOf isQuoted text
        else
          match (← process).dialect with
          | .standard => fail (name ++ utf8 ": bad variable name")
          | .extended => giveUp ('$' :: name ++ utf8 ": cannot assign in this way")
      else value.marks isQuoted
  | .complain orEmpty message => do
      if lacks orEmpty then
        let text ← inner.text message
        fail (name ++ utf8 ": " ++ (← complaint orEmpty message text))
      else value.marks isQuoted
  | .withoutStart longest parts => do
      refuseUnset name value
      let taken ← inner.pattern parts
      (value.map (Pattern.withoutStart taken longest)).marks isQuoted
  | .withoutEnd longest parts => do
      refuseUnset name value
      let taken ← inner.pattern parts
      (value.map (Pattern.withoutEnd taken longest)).marks isQuoted
  | .slice start length => do
      refuseUnset name value
      let first ← calculateText (← inner.quotedText start)
      let count ← length.mapM fun parts => do calculateText (← inner.quotedText parts)
      (← value.slice name first count).marks isQuoted
  | .replace place parts replacement => do
      refuseUnset name value
      let taken ← inner.pattern parts
      let text ← inner.text replacement
      (value.map (replaced place taken text)).marks isQuoted
  | .letters toUpper everywhere => do
      refuseUnset name value
      (value.map (changeLetters toUpper everywhere)).marks isQuoted
  | .requoted => (value.map requoted).marks isQuoted
  | .indirect => do
      match value with
      | .one (some other) => do
          let meant ← parameterValue other
          meant.marks isQuoted
      | .one none => giveUp (name ++ utf8 ": invalid indirect expansion")
      | .many _ _ => return marksOf isQuoted []
  | .places => do
      (Value.many (← filledPlaces name) false).marks isQuoted
  | .unknown written => do
      match (← process).dialect with
      | .standard => fail (utf8 "Bad substitution")
      | .extended =>
        giveUp (['$', '\x7b'] ++ name ++ written ++ '\x7d' :: utf8 ": bad substitution")

/-- Text outside quotes, with the homes that it stands for. -/
def expandPlain (purpose : Purpose) (isInner isFirst : Bool) (text : List Char) :
    Execution (List Mark) := do
  let mark : Char → Mark := if isInner then .expanded else .literal
  if purpose = .assignment ∧ ¬ isInner then
    match Text.pieces ':' text with
    | first :: others => do
        let opening ← if isFirst then withHome mark first else pure (first.map mark)
        let later ← others.mapM (withHome mark)
        return List.intercalate [.literal ':'] (opening :: later)
    | [] => return []
  else if isFirst then withHome mark text
  else return text.map mark

/-- A word is nothing but a list of which each item is a field. -/
def isBareList : Word → Bool
  | [.parameter ['@'] _] => true
  | [.element _ [.plain ['@']] _] => true
  | _ => false

/-- The parts of a word, expanded. `isQuoted` tells whether they stand in quotes, `isInner`
whether they stand in the braces of a parameter, so that they are split like it, and
`isFirst` whether the first of them begins a word. -/
def expandParts (substituter : Substituter) :
    Nat → Purpose → Bool → Bool → Bool → Word → Execution (List Mark)
  | 0, _, _, _, _, _ => return []
  | _ + 1, _, _, _, _, [] => return []
  | fuel + 1, purpose, isQuoted, isInner, isFirst, part :: rest => do
      let oneText (inQuotes : Bool) (word : Word) : Execution (List Char) := do
        return textOfMarks (← expandParts substituter fuel .text inQuotes true true word)
      let inner : Inner :=
        { isQuoted
          marks := expandParts substituter fuel purpose isQuoted true true
          text := oneText isQuoted
          quotedText := oneText true
          pattern := fun word => do
            let marks ← expandParts substituter fuel .text false true true word
            return Pattern.ofMarked (patternOfMarks marks) }
      let here : List Mark ←
        match part with
        | .plain text => expandPlain purpose isInner isFirst text
        | .quoted text => pure (.presence :: text.map .quoted)
        | .quotes parts => do
            let marks ← expandParts substituter fuel purpose true isInner false parts
            pure (if marks.isEmpty && isBareList parts then [] else .presence :: marks)
        | .parameter name change => do
            let value ← parameterValue name
            value.changed inner name (assign name) change
        | .element name place change => do
            let spot ← oneText true place
            let value ← elementValue name spot
            value.changed inner name (assignItem name spot) change
        | .substitution line commands => do
            let text ← substituter.output line commands
            pure (marksOf isQuoted text)
        | .calculation expression => do
            let number ← calculateText (← oneText true expression)
            pure (marksOf isQuoted (digitsOfInt number))
        | .channel line commands => do
            let descriptor ← substituter.channel line commands
            pure ((utf8 "/dev/fd/" ++ digitsOfNat descriptor).map .quoted)
      return here ++ (← expandParts substituter fuel purpose isQuoted isInner false rest)

def expansionDepth : Nat := 2000

def expandWord (substituter : Substituter) (purpose : Purpose) (word : Word) :
    Execution (List Mark) :=
  expandParts substituter expansionDepth purpose false false true word

/-- The text of a word that is not split. -/
def expandText (substituter : Substituter) (word : Word) : Execution (List Char) :=
  return textOfMarks (← expandWord substituter .text word)

def expandValue (substituter : Substituter) (word : Word) : Execution (List Char) :=
  return textOfMarks (← expandWord substituter .assignment word)

def expandPattern (substituter : Substituter) (word : Word) :
    Execution (List Pattern.Element) :=
  return Pattern.ofMarked (patternOfMarks (← expandWord substituter .text word))

end PartitionBench.Host.Script
