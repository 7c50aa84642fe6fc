import PartitionBench.Text.Split

/-!
Contract: patterns that whole texts are matched with.

Owns:
- patterns with stand-ins for one character, for any run of characters and for one of a
  set;
- matching, and taking off a matching start or end.

Does not own: the files whose names are matched (`Host.Machine`).
-/

namespace PartitionBench.Host

def kindNames : List String :=
  ["alpha", "digit", "alnum", "lower", "upper", "space", "blank", "punct", "print", "graph",
    "cntrl", "xdigit"]

def isOfKind (kind : String) (c : Char) : Bool :=
  let isLower := 'a' ≤ c && c ≤ 'z'
  let isUpper := 'A' ≤ c && c ≤ 'Z'
  let isDigit := '0' ≤ c && c ≤ '9'
  let isGraph := '!' ≤ c && c ≤ '~'
  match kind with
  | "alpha" => isLower || isUpper
  | "digit" => isDigit
  | "alnum" => isLower || isUpper || isDigit
  | "lower" => isLower
  | "upper" => isUpper
  | "space" => c = ' ' || (Char.ofNat 9 ≤ c && c ≤ Char.ofNat 13)
  | "blank" => c = ' ' || c = '\t'
  | "punct" => isGraph && !(isLower || isUpper || isDigit)
  | "print" => isGraph || c = ' '
  | "graph" => isGraph
  | "cntrl" => c < ' ' || c = Char.ofNat 127
  | "xdigit" => isDigit || ('a' ≤ c && c ≤ 'f') || ('A' ≤ c && c ≤ 'F')
  | _ => false

/-- A member of a set of characters. -/
inductive SetItem where
  | range (low high : Char)
  | kind (name : String)
  deriving DecidableEq, Repr

def SetItem.contains (item : SetItem) (c : Char) : Bool :=
  match item with
  | .range low high => low ≤ c && c ≤ high
  | .kind name => isOfKind name c

/-- A set of characters, or what is left without them. -/
structure CharacterSet where
  isNegated : Bool
  items : List SetItem
  deriving DecidableEq, Repr

def CharacterSet.contains (set : CharacterSet) (c : Char) : Bool :=
  set.items.any (·.contains c) != set.isNegated

/-- The members of a set up to its closing bracket, and what follows the bracket. `none` if
there is no closing bracket. A bracket that comes first is a member. Characters that are
quoted have no other meaning than themselves. -/
def setItems? : Nat → Bool → List (Char × Bool) → Option (List SetItem × List (Char × Bool))
  | 0, _, _ => none
  | _ + 1, _, [] => none
  | fuel + 1, isFirst, (c, isQuoted) :: rest =>
      if c = ']' ∧ ¬ isFirst ∧ ¬ isQuoted then some ([], rest)
      else
        match c, rest with
        | '[', (':', false) :: behind =>
            let name := (behind.takeWhile fun entry => entry.1 ≠ ':').map (·.1)
            match behind.drop name.length with
            | (':', _) :: (']', _) :: others =>
                (setItems? fuel false others).map fun read =>
                  (.kind (String.ofList name) :: read.1, read.2)
            | _ =>
                (setItems? fuel false rest).map fun read => (.range '[' '[' :: read.1, read.2)
        | _, ('-', false) :: (high, highQuoted) :: others =>
            if high = ']' ∧ ¬ highQuoted then
              (setItems? fuel false rest).map fun read => (.range c c :: read.1, read.2)
            else
              (setItems? fuel false others).map fun read => (.range c high :: read.1, read.2)
        | _, _ => (setItems? fuel false rest).map fun read => (.range c c :: read.1, read.2)

/-- A set that is written behind an opening bracket. It is a complement if a sign for that
comes first. -/
def characterSet? (complementSigns : List Char) (chars : List (Char × Bool)) :
    Option (CharacterSet × List (Char × Bool)) :=
  match chars with
  | (sign, false) :: rest =>
      if complementSigns.contains sign then
        (setItems? (rest.length + 1) true rest).map fun read => (⟨true, read.1⟩, read.2)
      else (setItems? (chars.length + 1) true chars).map fun read => (⟨false, read.1⟩, read.2)
  | _ => (setItems? (chars.length + 1) true chars).map fun read => (⟨false, read.1⟩, read.2)

namespace Pattern

inductive Element where
  | character (c : Char)
  | any
  | run
  | set (set : CharacterSet)
  deriving DecidableEq, Repr

/-- The elements of a pattern, given its characters and whether they are quoted. -/
def elements : Nat → List (Char × Bool) → List Element
  | 0, _ => []
  | _ + 1, [] => []
  | fuel + 1, (c, isQuoted) :: rest =>
      if isQuoted then .character c :: elements fuel rest
      else if c = '*' then .run :: elements fuel rest
      else if c = '?' then .any :: elements fuel rest
      else if c = '[' then
        match characterSet? ['!', '^'] rest with
        | some (set, behind) => .set set :: elements fuel behind
        | none => .character c :: elements fuel rest
      else if c = '\\' then
        match rest with
        | (escaped, _) :: behind => .character escaped :: elements fuel behind
        | [] => [.character c]
      else .character c :: elements fuel rest

def ofMarked (chars : List (Char × Bool)) : List Element :=
  elements (chars.length + 1) chars

/-- A test holds for a text or for what follows some characters of it. -/
def someSuffix (test : List Char → Bool) : List Char → Bool
  | [] => test []
  | c :: rest => test (c :: rest) || someSuffix test rest

def covers : List Element → List Char → Bool
  | [], text => text.isEmpty
  | .run :: pattern, text => someSuffix (covers pattern) text
  | .character c :: pattern, d :: text => c = d && covers pattern text
  | .any :: pattern, _ :: text => covers pattern text
  | .set set :: pattern, d :: text => set.contains d && covers pattern text
  | _ :: _, [] => false

/-- A measure of what follows some characters of a text, with these characters counted. Of two
such measures one is chosen. -/
def measureSuffix? (choose : Nat → Nat → Nat) (measure : List Char → Option Nat) :
    List Char → Option Nat
  | [] => measure []
  | c :: rest =>
      let later := (measureSuffix? choose measure rest).map (· + 1)
      match measure (c :: rest), later with
      | some here, some behind => some (choose here behind)
      | some here, none => some here
      | none, _ => later

/-- The length of a start of a text that matches a pattern. Of two such lengths one is
chosen. -/
def startLength? (choose : Nat → Nat → Nat) : List Element → List Char → Option Nat
  | [], _ => some 0
  | .run :: pattern, text => measureSuffix? choose (startLength? choose pattern) text
  | .character c :: pattern, d :: text =>
      if c = d then (startLength? choose pattern text).map (· + 1) else none
  | .any :: pattern, _ :: text => (startLength? choose pattern text).map (· + 1)
  | .set set :: pattern, d :: text =>
      if set.contains d then (startLength? choose pattern text).map (· + 1) else none
  | _ :: _, [] => none

def longestStart? (pattern : List Element) (text : List Char) : Option Nat :=
  startLength? max pattern text

/-- A text without a start that matches a pattern, if there is one. -/
def withoutStart (pattern : List Element) (longest : Bool) (text : List Char) : List Char :=
  match startLength? (if longest then max else min) pattern text with
  | some count => text.drop count
  | none => text

/-- What stands in front of an end of a text that passes a test: the longest end, or the
shortest. -/
def beforeEnd? (test : List Char → Bool) (longest : Bool) : List Char → Option (List Char)
  | [] => if test [] then some [] else none
  | c :: rest =>
      if longest ∧ test (c :: rest) then some []
      else
        match beforeEnd? test longest rest with
        | some kept => some (c :: kept)
        | none => if ¬ longest ∧ test (c :: rest) then some [] else none

/-- A text without an end that matches a pattern, if there is one. -/
def withoutEnd (pattern : List Element) (longest : Bool) (text : List Char) : List Char :=
  (beforeEnd? (covers pattern) longest text).getD text

/-- A text with the parts that match a pattern replaced, the first of them or all. -/
def replaceIn (pattern : List Element) (replacement : List Char) (everywhere : Bool) :
    Nat → List Char → List Char
  | 0, text => text
  | _ + 1, [] => []
  | fuel + 1, c :: rest =>
      match longestStart? pattern (c :: rest) with
      | some 0 | none => c :: replaceIn pattern replacement everywhere fuel rest
      | some count =>
          let behind := (c :: rest).drop count
          replacement
            ++ if everywhere then replaceIn pattern replacement everywhere fuel behind
              else behind

end Pattern

end PartitionBench.Host
