import PartitionBench.Host.Pattern
import PartitionBench.Text.Digits

/-!
Contract: regular expressions that are searched for in texts.

Owns:
- expressions in the basic and in the extended way of writing;
- the leftmost match in a text, which is the longest one there, with the parts that groups
  matched.

Does not own: the programs that search (`Host.Utility`).
-/

namespace PartitionBench.Host

inductive Expression where
  | character (c : Char)
  | any
  | set (set : CharacterSet)
  | lineStart
  | lineEnd
  | wordStart
  | wordEnd
  | wordBoundary (isNegated : Bool)
  | group (number : Nat) (inner : Expression)
  /-- What a group before has matched, once more. -/
  | same (number : Nat)
  | sequence (items : List Expression)
  | choice (items : List Expression)
  | repetition (inner : Expression) (least : Nat) (most : Option Nat)

namespace Expression

inductive Style where
  | basic
  | extended
  deriving DecidableEq

structure Rules where
  style : Style
  /-- A sign of repetition with nothing in front of it is a fault. -/
  isStrict : Bool := false
  /-- A letter behind a backslash may stand for the digits. -/
  namesDigits : Bool := false

/-- What makes a text no expression. -/
inductive Fault where
  | openBracket
  | loneBracket
  | kindName
  /-- The name of a kind of characters stands in single brackets. -/
  | bareKind
  | rangeEnd
  | openGroup
  | closedGroup
  | openBraces
  | braces
  | tooBig
  | backslash
  | reference
  | nothingRepeated
  deriving DecidableEq

def Fault.text : Fault → String
  | .openBracket => "Unmatched [, [^, [:, [., or [="
  | .loneBracket => "Invalid regular expression"
  | .kindName => "Invalid character class name"
  | .bareKind => "character class syntax is [[:space:]], not [:space:]"
  | .rangeEnd => "Invalid range end"
  | .openGroup => "Unmatched ( or \\("
  | .closedGroup => "Unmatched ) or \\)"
  | .openBraces => "Unmatched \\\x7b"
  | .braces => "Invalid content of \\\x7b\\\x7d"
  | .tooBig => "Regular expression too big"
  | .backslash => "Trailing backslash"
  | .reference => "Invalid back reference"
  | .nothingRepeated => "Invalid preceding regular expression"

def isWordCharacter (c : Char) : Bool :=
  isOfKind "alnum" c || c = '_'

def escapedSet? (namesDigits : Bool) (letter : Char) : Option CharacterSet :=
  match letter, namesDigits with
  | 'w', _ => some ⟨false, [.kind "alnum", .range '_' '_']⟩
  | 'W', _ => some ⟨true, [.kind "alnum", .range '_' '_']⟩
  | 's', _ => some ⟨false, [.kind "space"]⟩
  | 'S', _ => some ⟨true, [.kind "space"]⟩
  | 'd', true => some ⟨false, [.kind "digit"]⟩
  | 'D', true => some ⟨true, [.kind "digit"]⟩
  | 'h', true => some ⟨false, [.kind "blank"]⟩
  | 't', true => some ⟨false, [.range '\t' '\t']⟩
  | _, _ => none

/-- The bounds of a repetition in braces, behind the opening brace, and what follows the
closing one. Braces that hold something else stand for themselves where rules are not
strict. -/
def bounds (rules : Rules) (chars : List Char) :
    Except Fault (Option ((Nat × Option Nat) × List Char)) :=
  let digits := chars.takeWhile Text.isDigit
  let least := Text.decimalValue digits
  let rest := chars.drop digits.length
  let (most, behind) : Option Nat × List Char :=
    match rest with
    | ',' :: others =>
        let more := others.takeWhile Text.isDigit
        (if more = [] then none else some (Text.decimalValue more), others.drop more.length)
    | _ => (some least, rest)
  let closed : Option (List Char) :=
    match rules.style, behind with
    | .basic, '\\' :: '\x7d' :: others => some others
    | .extended, '\x7d' :: others => some others
    | _, _ => none
  let isEmpty : Bool := decide (digits = []) && decide (rest.take 1 ≠ [','])
  match closed, isEmpty with
  | some others, false =>
      if most.any (· < least) then .error .braces
      else if 32767 < max least (most.getD 0) then .error .tooBig
      else .ok (some ((least, most), others))
  | _, _ =>
      if rules.style = .extended ∧ ¬ rules.isStrict then .ok none
      else .error (if behind = [] then .openBraces else .braces)

/-- The sign of a repetition that is written here, and what follows it. -/
def repetition? (rules : Rules) (chars : List Char) :
    Except Fault (Option ((Nat × Option Nat) × List Char)) :=
  match rules.style, chars with
  | _, '*' :: rest => .ok (some ((0, none), rest))
  | .extended, '+' :: rest => .ok (some ((1, none), rest))
  | .extended, '?' :: rest => .ok (some ((0, some 1), rest))
  | .basic, '\\' :: '+' :: rest => .ok (some ((1, none), rest))
  | .basic, '\\' :: '?' :: rest => .ok (some ((0, some 1), rest))
  | .extended, '\x7b' :: rest => bounds rules rest
  | .basic, '\\' :: '\x7b' :: rest => bounds rules rest
  | _, _ => .ok none

/-- What is being read: how many groups are open, how many have been opened, and the signs
that were left out since nothing was in front of them, the last first. -/
structure Reading where
  rules : Rules
  opened : Nat := 0
  depth : Nat := 0
  leftOut : List String := []

/-- The alternatives end here: their marks, and what follows. -/
def choiceMark? (style : Style) (chars : List Char) : Option (List Char) :=
  match style, chars with
  | .basic, '\\' :: '|' :: rest => some rest
  | .extended, '|' :: rest => some rest
  | _, _ => none

/-- A group ends here: what follows its mark. -/
def groupEnd? (style : Style) (chars : List Char) : Option (List Char) :=
  match style, chars with
  | .basic, '\\' :: ')' :: rest => some rest
  | .extended, ')' :: rest => some rest
  | _, _ => none

/-- A group begins here: what follows its mark. -/
def groupStart? (style : Style) (chars : List Char) : Option (List Char) :=
  match style, chars with
  | .basic, '\\' :: '(' :: rest => some rest
  | .extended, '(' :: rest => some rest
  | _, _ => none

def withRepetitions (rules : Rules) : Nat → (isRepeated : Bool) → Expression → List Char →
    Except Fault (Expression × List Char)
  | 0, _, item, chars => .ok (item, chars)
  | fuel + 1, isRepeated, item, chars => do
      match ← repetition? rules chars with
      | some ((least, most), rest) =>
          let isTwice : Bool :=
            isRepeated && rules.isStrict && rules.style = .basic
              && (chars.take 1 = ['*'] || chars.take 2 = ['\\', '\x7b'])
          if isTwice then throw .nothingRepeated
          else withRepetitions rules fuel true (.repetition item least most) rest
      | none => return (item, chars)

/-- A set that is written behind an opening bracket, and what follows it. -/
def setBehind (chars : List Char) : Except Fault (CharacterSet × List Char) :=
  match characterSet? ['^'] (chars.map fun d => (d, false)) with
  | some (members, behind) =>
      let isUnknown (item : SetItem) : Bool :=
        match item with
        | .kind name => !kindNames.contains name
        | .range _ _ => false
      let isBackwards (item : SetItem) : Bool :=
        match item with
        | .kind _ => false
        | .range low high => decide (high < low)
      let inside := chars.take (chars.length - behind.length - 1)
      if members.items.any isUnknown then .error .kindName
      else if members.items.any isBackwards then .error .rangeEnd
      else if 1 < inside.length ∧ inside.head? = some ':' ∧ inside.getLast? = some ':' then
        .error .bareKind
      else .ok (members, behind.map (·.1))
  | none => .error (if chars = [] ∨ chars = ['^'] then .loneBracket else .openBracket)

/-- A single item that is no group, and what follows it. `isFirst` tells whether it stands
where an expression begins. -/
def single (reading : Reading) (isFirst : Bool) :
    List Char → Except Fault (Expression × List Char)
  | [] => .ok (.sequence [], [])
  | c :: rest =>
      let style := reading.rules.style
      let isExtended : Bool := style = .extended
      let endsHere : Bool :=
        rest.isEmpty || (choiceMark? style rest).isSome
          || (decide (0 < reading.depth) && (groupEnd? style rest).isSome)
      match c with
      | '.' => .ok (.any, rest)
      | '[' =>
          match setBehind rest with
          | .ok (members, behind) => .ok (.set members, behind)
          | .error fault => .error fault
      | '^' =>
          if isExtended || isFirst then .ok (.lineStart, rest) else .ok (.character c, rest)
      | '$' =>
          if isExtended || endsHere then .ok (.lineEnd, rest) else .ok (.character c, rest)
      | '\\' =>
          match rest with
          | [] => .error .backslash
          | d :: behind =>
              match escapedSet? reading.rules.namesDigits d with
              | some members => .ok (.set members, behind)
              | none =>
                  if '1' ≤ d ∧ d ≤ '9' then
                    if d.toNat - 0x30 ≤ reading.opened then .ok (.same (d.toNat - 0x30), behind)
                    else .error .reference
                  else if d = 'b' then .ok (.wordBoundary false, behind)
                  else if d = 'B' then .ok (.wordBoundary true, behind)
                  else if d = '<' then .ok (.wordStart, behind)
                  else if d = '>' then .ok (.wordEnd, behind)
                  else .ok (.character d, behind)
      | _ => .ok (.character c, rest)

/-- An item that is a place, with nothing that could be repeated. -/
def isPlace : Expression → Bool
  | .lineStart | .lineEnd | .wordStart | .wordEnd | .wordBoundary _ => true
  | .repetition inner _ _ => isPlace inner
  | _ => false

def signName (chars : List Char) : String :=
  match chars with
  | '\x7b' :: _ => "\x7b...\x7d"
  | _ => String.ofList (chars.take 1)

/-- Read alternatives up to the end of a group or of the text. `done` are the alternatives
before and `items` the items of the one that is being read, the last first. -/
def readChoice : Nat → Reading → List Expression → List Expression → List Char →
    Except Fault (Expression × Reading × List Char)
  | 0, reading, _, items, chars => .ok (.sequence items.reverse, reading, chars)
  | fuel + 1, reading, done, items, chars => do
      let style := reading.rules.style
      let finished : Expression :=
        let last := Expression.sequence items.reverse
        match done with
        | [] => last
        | _ => .choice (last :: done).reverse
      match chars with
      | [] => return (finished, reading, [])
      | c :: _ =>
          match choiceMark? style chars with
          | some rest =>
              readChoice fuel reading (.sequence items.reverse :: done) [] rest
          | none =>
              match groupEnd? style chars with
              | some rest =>
                  if 0 < reading.depth then return (finished, reading, chars)
                  else if style = .basic ∨ reading.rules.isStrict then throw .closedGroup
                  else readChoice fuel reading done (.character ')' :: items) rest
              | none =>
                  match groupStart? style chars with
                  | some rest => do
                      let number := reading.opened + 1
                      let (inner, later, behind) ←
                        readChoice fuel
                          { reading with opened := number, depth := reading.depth + 1 } [] [] rest
                      match groupEnd? style behind with
                      | none => throw .openGroup
                      | some others =>
                          let (item, left) ←
                            withRepetitions reading.rules others.length false
                              (.group number inner) others
                          readChoice fuel { later with depth := reading.depth } done
                            (item :: items) left
                  | none => do
                      let isFirst := items.isEmpty
                      let isBare : Bool :=
                        match style, reading.rules.isStrict with
                        | .basic, _ => isFirst
                        | .extended, true => isFirst || (items.head?.map isPlace).getD false
                        | .extended, false => items.all isPlace
                      let sign ← if isBare then repetition? reading.rules chars else pure none
                      match sign, style with
                      | some ((least, most), rest), .extended =>
                          if reading.rules.isStrict then throw .nothingRepeated
                          else
                            let repeated : List Expression :=
                              match items with
                              | [] => []
                              | place :: before => .repetition place least most :: before
                            readChoice fuel
                              { reading with leftOut := signName chars :: reading.leftOut }
                              done repeated rest
                      | some _, .basic =>
                          if c = '*' then
                            readChoice fuel reading done (.character c :: items) (chars.drop 1)
                          else if chars.take 2 = ['\\', '\x7b'] ∧ reading.rules.isStrict then
                            throw .nothingRepeated
                          else
                            readChoice fuel reading done
                              (((chars.drop 1).take 1).map .character ++ items) (chars.drop 2)
                      | none, _ => do
                          let (item, rest) ← single reading isFirst chars
                          let keepsFirst : Bool := style = .basic && c = '^' && isFirst
                          match keepsFirst, rest with
                          | true, '*' :: behind =>
                              readChoice fuel reading done (.character '*' :: item :: items)
                                behind
                          | _, _ => do
                              let repeated ←
                                if style = .extended ∧ isPlace item then pure (item, rest)
                                else withRepetitions reading.rules rest.length false item rest
                              readChoice fuel reading done (repeated.1 :: items) repeated.2

/-- The expression that is written with some characters, and the signs in it that were left
out. -/
def reading (rules : Rules) (chars : List Char) : Except Fault (Expression × List String) :=
  match readChoice (chars.length + 1) { rules } [] [] chars with
  | .ok (expression, read, _) => .ok (expression, read.leftOut.reverse)
  | .error fault => .error fault

def ofChars (rules : Rules) (chars : List Char) : Except Fault Expression :=
  (reading rules chars).map (·.1)

/-! ## Matching -/

/-- Where a match stands: the character before, what is left, and the parts that groups
have matched, by number. -/
structure Standing where
  before : Option Char
  rest : List Char
  groups : List (Nat × List Char)

def Standing.step (standing : Standing) (c : Char) (rest : List Char) : Standing :=
  { standing with before := some c, rest }

def Standing.advance (standing : Standing) (count : Nat) : Standing :=
  if count = 0 then standing
  else
    { standing with
      before := (standing.rest.take count).getLast?
      rest := standing.rest.drop count }

/-- Of two ways to match, the one that goes further; the first if both go as far. -/
def further (first second : Option Standing) : Option Standing :=
  match first, second with
  | some a, some b => if b.rest.length < a.rest.length then some b else some a
  | some a, none => some a
  | none, b => b

structure Mode where
  ignoresCase : Bool := false
  isWhole : Bool := false
  /-- No word goes on where a match begins or ends. -/
  isWord : Bool := false

def Mode.same (mode : Mode) (c d : Char) : Bool :=
  c = d || (mode.ignoresCase && c.toLower = d.toLower)

def Mode.inSet (mode : Mode) (set : CharacterSet) (c : Char) : Bool :=
  if mode.ignoresCase then set.contains c.toLower || set.contains c.toUpper
  else set.contains c

/-- A word character stands before and one behind. -/
def Standing.wordSides (standing : Standing) : Bool × Bool :=
  ((standing.before.map isWordCharacter).getD false,
    (standing.rest.head?.map isWordCharacter).getD false)

/-- Match an expression where a text stands, and then what follows in the same way. -/
def matchAt (mode : Mode) :
    Nat → Expression → Standing → (Standing → Option Standing) → Option Standing
  | 0, _, _, _ => none
  | fuel + 1, expression, standing, next =>
      match expression with
      | .character c =>
          match standing.rest with
          | d :: rest => if mode.same c d then next (standing.step d rest) else none
          | [] => none
      | .any =>
          match standing.rest with
          | d :: rest => next (standing.step d rest)
          | [] => none
      | .set members =>
          match standing.rest with
          | d :: rest => if mode.inSet members d then next (standing.step d rest) else none
          | [] => none
      | .lineStart => if standing.before.isNone then next standing else none
      | .lineEnd => if standing.rest.isEmpty then next standing else none
      | .wordStart =>
          if standing.wordSides = (false, true) then next standing else none
      | .wordEnd => if standing.wordSides = (true, false) then next standing else none
      | .wordBoundary isNegated =>
          let sides := standing.wordSides
          if (sides.1 != sides.2) != isNegated then next standing else none
      | .group number inner =>
          matchAt mode fuel inner standing fun later =>
            let read := standing.rest.take (standing.rest.length - later.rest.length)
            next { later with groups := (number, read) :: later.groups }
      | .same number =>
          let text := ((standing.groups.find? fun entry => entry.1 = number).map (·.2)).getD []
          match Text.dropOpening? text standing.rest with
          | some _ => next (standing.advance text.length)
          | none => none
      | .sequence items =>
          match items with
          | [] => next standing
          | first :: others =>
              matchAt mode fuel first standing fun later =>
                matchAt mode fuel (.sequence others) later next
      | .choice items =>
          match items with
          | [] => none
          | first :: others =>
              further (matchAt mode fuel first standing next)
                (matchAt mode fuel (.choice others) standing next)
      | .repetition inner least most =>
          let once : Option Standing :=
            if most = some 0 then none
            else
              matchAt mode fuel inner standing fun later =>
                if later.rest.length = standing.rest.length ∧ least = 0 then none
                else
                  matchAt mode fuel
                    (.repetition inner (least - 1) (most.map (· - 1))) later next
          if least = 0 then
            match once with
            | some found => some found
            | none => next standing
          else once

/-- A match in a text: what stands before it, the matched text, the parts that groups
matched, and what stands behind. -/
structure Found where
  before : List Char
  text : List Char
  groups : List (Nat × List Char)
  behind : List Char

/-- The part that a group matched. Number zero is the match as a whole. -/
def Found.group (found : Found) (number : Nat) : List Char :=
  if number = 0 then found.text
  else ((found.groups.find? fun entry => entry.1 = number).map (·.2)).getD []

def matchFuel (rest : List Char) : Nat := 20 * rest.length + 2000

def Mode.accepts (mode : Mode) (start finish : Standing) : Bool :=
  let opens := !((start.before.map isWordCharacter).getD false)
  let closes := !((finish.rest.head?.map isWordCharacter).getD false)
  (!mode.isWhole || (start.before.isNone && finish.rest.isEmpty))
    && (!mode.isWord || (opens && closes))

/-- Look for a match from a place in a text on. `passed` is the text before, in reverse. -/
def findFrom (mode : Mode) (expression : Expression) :
    List Char → List Char → Option Found
  | passed, rest =>
      let start : Standing := ⟨passed.head?, rest, []⟩
      let accept (finish : Standing) : Option Standing :=
        if mode.accepts start finish then some finish else none
      match matchAt mode (matchFuel rest) expression start accept with
      | some finish =>
          some ⟨passed.reverse, rest.take (rest.length - finish.rest.length), finish.groups,
            finish.rest⟩
      | none =>
          match rest with
          | [] => none
          | c :: others => findFrom mode expression (c :: passed) others
  termination_by _ rest => rest.length

def find? (expression : Expression) (mode : Mode) (text : List Char) : Option Found :=
  findFrom mode expression [] text

end Expression

end PartitionBench.Host
