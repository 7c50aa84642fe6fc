import PartitionBench.Host.Script.Expansion

/-!
Contract: the fields that a word becomes.

Owns: the splitting of what is expanded, the files that patterns stand for, and the words
that braces stand for.

Does not own: what the parts of words stand for (`Script.Expansion`).
-/

namespace PartitionBench.Host.Script

open Execution

/-! ## Fields -/

/-- A field: its characters, and which of them are quoted. -/
abbrev Field := List (Char × Bool)

/-- What has been read of a field: its characters in reverse, if there is one, and whether
blanks have ended the one before. -/
structure Splitting where
  current : Option Field
  isBehindBlank : Bool

def split (separators : List Char) (splitting : Splitting) : List Mark → List Field
  | [] => (splitting.current.map List.reverse).toList
  | .boundary :: rest =>
      (splitting.current.map List.reverse).toList ++ split separators ⟨none, false⟩ rest
  | .presence :: rest =>
      split separators { splitting with current := some (splitting.current.getD []) } rest
  | .literal c :: rest =>
      split separators ⟨some ((c, false) :: splitting.current.getD []), false⟩ rest
  | .quoted c :: rest =>
      split separators ⟨some ((c, true) :: splitting.current.getD []), false⟩ rest
  | .expanded c :: rest =>
      if separators.contains c then
        if usualSeparators.contains c then
          match splitting.current with
          | some field => field.reverse :: split separators ⟨none, true⟩ rest
          | none => split separators splitting rest
        else
          match splitting.current, splitting.isBehindBlank with
          | some field, _ => field.reverse :: split separators ⟨none, false⟩ rest
          | none, true => split separators ⟨none, false⟩ rest
          | none, false => [] :: split separators ⟨none, false⟩ rest
      else split separators ⟨some ((c, false) :: splitting.current.getD []), false⟩ rest

/-! ## Files that match -/

def opensPattern (field : Field) : Bool :=
  field.any fun entry => !entry.2 && (entry.1 = '*' || entry.1 = '?' || entry.1 = '[')

def componentsOf : Field → List Field
  | [] => [[]]
  | entry :: rest =>
      if entry.1 = '/' then [] :: componentsOf rest
      else
        match componentsOf rest with
        | first :: others => (entry :: first) :: others
        | [] => [[entry]]

def fieldText (field : Field) : List Char := field.map (·.1)

/-- A component of a pattern can be the name of a file. Names that begin with a dot have to
begin with one in the pattern. -/
def fitsName (settings : List String) (component : Field) (name : List Char) : Bool :=
  let dotted := name.head? = some '.'
  let asksForDot := (component.head?.map (·.1)) = some '.' || settings.contains "dotglob"
  let fits : Bool :=
    if settings.contains "nocaseglob" then
      Pattern.covers
        (Pattern.ofMarked (component.map fun entry => (entry.1.toLower, entry.2)))
        (name.map Char.toLower)
    else Pattern.covers (Pattern.ofMarked component) name
  (!dotted || asksForDot) && fits

/-- The paths that match the components of a pattern, each given with the text before
it. -/
def matching (machine : Machine) (settings : List String) (directory : Location) :
    List (List Char) → List Field → List (List Char)
  | texts, [] => texts
  | texts, component :: rest =>
      let isLast := rest.isEmpty
      let extended := texts.flatMap fun text =>
        let folder : Option Location :=
          match machine.look directory (if text = [] then ['.'] else text) with
          | .ok (location, .directory) => some location
          | _ => none
        match folder with
        | none => []
        | some location =>
            let names :=
              if opensPattern component then
                ((machine.namesIn location).map bytesOf).filter (fitsName settings component)
              else
                let name := fieldText component
                if name = [] then [[]]
                else
                  match machine.look directory (text ++ name) with
                  | .ok _ => [name]
                  | .error _ => []
            names.map fun name => text ++ name ++ if isLast then [] else ['/']
      matching machine settings directory extended rest

/-- The paths that a field stands for, in order: those that match it as a pattern, or the
field itself if there are none. -/
def pathsOf (machine : Machine) (settings : List String) (directory : Location) (field : Field) :
    Execution (List (List Char)) := do
  if opensPattern field then
    let found := matching machine settings directory [[]] (componentsOf field)
    if ¬ found.isEmpty then return found.mergeSort isBefore
    else if settings.contains "failglob" then do
      reportUnnamed (utf8 "no match: " ++ fieldText field)
      throw (.abandons 1)
    else if settings.contains "nullglob" then return []
    else return [fieldText field]
  else return [fieldText field]

/-- The texts that marked characters come to when they are split. -/
def fieldsOf (marks : List Mark) : Execution (List (List Char)) := do
  let session ← get
  let process := session.process
  let fields := split (← separators) ⟨none, false⟩ marks
  if process.flags.contains 'f' then return fields.map fieldText
  else
    let paths ← fields.mapM (pathsOf session.machine process.settings process.location)
    return paths.flatten

/-! ## Braces -/

inductive BraceItem where
  | character (c : Char)
  | part (part : Part)

def braceItems (word : Word) : List BraceItem :=
  word.flatMap fun part =>
    match part with
    | .plain text => text.map .character
    | other => [.part other]

def ofBraceItems (items : List BraceItem) : Word :=
  (items.foldl
    (fun parts item =>
      match item with
      | .character c => addPlainPart c parts
      | .part part => part :: parts)
    []).reverse
where
  /-- Parts in reverse, with a character behind them. -/
  addPlainPart (c : Char) : List Part → List Part
    | .plain text :: rest => .plain (text ++ [c]) :: rest
    | parts => .plain [c] :: parts

/-- The items between braces, cut at the commas outside inner braces, and what follows the
closing brace. `piece` is what has been read of a piece, in reverse. -/
def bracePieces (depth : Nat) (piece : List BraceItem) :
    List BraceItem → Option (List (List BraceItem) × List BraceItem)
  | [] => none
  | .character c :: rest =>
      if c = '\x7d' ∧ depth = 0 then some ([piece.reverse], rest)
      else if c = ',' ∧ depth = 0 then
        (bracePieces 0 [] rest).map fun read => (piece.reverse :: read.1, read.2)
      else
        let later :=
          if c = '\x7b' then depth + 1 else if c = '\x7d' then depth - 1 else depth
        bracePieces later (.character c :: piece) rest
  | item :: rest => bracePieces depth (item :: piece) rest

def numbersBetween (first last : Int) (step : Nat) : List Int :=
  let count := (last - first).natAbs / step + 1
  (List.range (min count 10000)).map fun index =>
    if first ≤ last then first + (index * step : Nat) else first - (index * step : Nat)

def braceRange? (items : List BraceItem) : Option (List (List Char)) := do
  let text ← items.mapM fun item =>
    match item with
    | .character c => some c
    | .part _ => none
  let first := text.takeWhile (· ≠ '.')
  match text.drop first.length with
  | '.' :: '.' :: rest =>
      let last := rest.takeWhile (· ≠ '.')
      let step ← match rest.drop last.length with
        | [] => some 1
        | '.' :: '.' :: digits => (integer? digits).map fun value => max 1 value.natAbs
        | _ => none
      match integer? first, integer? last, first, last with
      | some low, some high, _, _ =>
          let isPadded := (first.head? = some '0' && 1 < first.length)
            || (last.head? = some '0' && 1 < last.length)
          let width := if isPadded then max first.length last.length else 0
          some ((numbersBetween low high step).map fun value =>
            let digits := digitsOfInt value
            List.replicate (width - digits.length) '0' ++ digits)
      | _, _, [low], [high] =>
          if startsName low ∧ startsName high then
            some ((numbersBetween low.toNat high.toNat step).map fun value =>
              [Char.ofNat value.toNat])
          else none
      | _, _, _, _ => none
  | _ => none

def expandBraces : Nat → List BraceItem → List BraceItem → List (List BraceItem)
  | 0, before, items => [before.reverse ++ items]
  | _ + 1, before, [] => [before.reverse]
  | fuel + 1, before, .character '\x7b' :: rest =>
      match bracePieces 0 [] rest with
      | some (pieces, behind) =>
          let alternatives : Option (List (List BraceItem)) :=
            match pieces with
            | [only] =>
                (braceRange? only).map fun texts =>
                  texts.map fun text => text.map BraceItem.character
            | _ => some (pieces.flatMap fun piece => expandBraces fuel [] piece)
          match alternatives with
          | some words =>
              let ends := expandBraces fuel [] behind
              words.flatMap fun word =>
                ends.map fun ending => before.reverse ++ word ++ ending
          | none => expandBraces fuel (.character '\x7b' :: before) rest
      | none => expandBraces fuel (.character '\x7b' :: before) rest
  | fuel + 1, before, item :: rest => expandBraces fuel (item :: before) rest

def bracedWords (dialect : Dialect) (word : Word) : List Word :=
  match dialect with
  | .standard => [word]
  | .extended =>
      let items := braceItems word
      let hasBrace := items.any fun item =>
        match item with
        | .character c => c = '\x7b'
        | .part _ => false
      if hasBrace then (expandBraces (items.length + 1) [] items).map ofBraceItems else [word]

def expandFields (substituter : Substituter) (word : Word) : Execution (List (List Char)) := do
  let words := bracedWords (← process).dialect word
  let texts ← words.mapM fun word => do
    fieldsOf (← expandWord substituter .fields word)
  return texts.flatten

end PartitionBench.Host.Script
