import PartitionBench.Host.Bytes
import PartitionBench.Text.Digits

/-!
Contract: texts in which a backslash begins a stand-in for another character.

Owns: the sets of stand-ins that commands know, and what a text with them comes to.

Does not own: which command knows which set.
-/

namespace PartitionBench.Host

/-- The stand-ins that a command knows beside those of one letter. -/
structure EscapeRules where
  /-- A zero may stand before the three digits of a character. -/
  zeroIsExtra : Bool
  /-- The digits of a character need a zero before them. -/
  needsZero : Bool
  knowsHexadecimal : Bool
  knowsEnd : Bool
  knowsQuotes : Bool
  deriving DecidableEq

namespace EscapeRules

def standardText : EscapeRules := ⟨true, false, false, true, false⟩

def standardFormat : EscapeRules := ⟨false, false, false, false, false⟩

def extendedText : EscapeRules := ⟨true, true, true, true, false⟩

def extendedFormat : EscapeRules := ⟨false, false, true, false, true⟩

def extendedArgument : EscapeRules := ⟨true, false, true, true, true⟩

end EscapeRules

def letterMeaning? (c : Char) : Option Char :=
  match c with
  | 'a' => some (Char.ofNat 7)
  | 'b' => some (Char.ofNat 8)
  | 'e' => some (Char.ofNat 27)
  | 'f' => some (Char.ofNat 12)
  | 'n' => some '\n'
  | 'r' => some '\r'
  | 't' => some '\t'
  | 'v' => some (Char.ofNat 11)
  | '\\' => some '\\'
  | _ => none

/-- The digits of a base at the start of a text, up to a number of them. -/
def leadingDigits (base most : Nat) (chars : List Char) : List Char :=
  (chars.take most).takeWhile fun c =>
    match Text.hexValue? c with
    | some value => value < base
    | none => false

/-- What stands behind a backslash comes to some characters, with the rest of the text, or
ends the text. -/
inductive Escaped where
  | characters (text rest : List Char)
  | finish

def escapedAt (rules : EscapeRules) (chars : List Char) : Escaped :=
  let octal (digits behind : List Char) : Escaped :=
    .characters [Char.ofNat (Text.valueFrom 8 0 digits % 256)] (behind.drop digits.length)
  match chars with
  | [] => .characters ['\\'] []
  | c :: rest =>
      match letterMeaning? c with
      | some meaning => .characters [meaning] rest
      | none =>
          if c = '0' ∧ rules.zeroIsExtra then octal (leadingDigits 8 3 rest) rest
          else if '0' ≤ c ∧ c ≤ '7' ∧ ¬ rules.needsZero then
            octal (leadingDigits 8 3 chars) chars
          else if c = 'c' ∧ rules.knowsEnd then .finish
          else if c = 'E' ∧ rules.knowsHexadecimal then .characters [Char.ofNat 27] rest
          else if (c = '"' ∨ c = '\'' ∨ c = '?') ∧ rules.knowsQuotes then .characters [c] rest
          else if c = 'x' ∧ rules.knowsHexadecimal then
            let digits := leadingDigits 16 2 rest
            if digits = [] then .characters ['\\', c] rest
            else .characters [Char.ofNat (Text.valueFrom 16 0 digits)] (rest.drop digits.length)
          else if (c = 'u' ∨ c = 'U') ∧ rules.knowsHexadecimal then
            let digits := leadingDigits 16 (if c = 'u' then 4 else 8) rest
            if digits = [] then .characters ['\\', c] rest
            else
              .characters (bytesOf (String.singleton (Char.ofNat (Text.valueFrom 16 0 digits))))
                (rest.drop digits.length)
          else .characters ['\\', c] rest

/-- A text with its stand-ins replaced, and whether it is ended by one. -/
def unescape (rules : EscapeRules) : Nat → List Char → List Char × Bool
  | 0, chars => (chars, false)
  | _ + 1, [] => ([], false)
  | fuel + 1, '\\' :: rest =>
      match escapedAt rules rest with
      | .finish => ([], true)
      | .characters text behind =>
          let later := unescape rules fuel behind
          (text ++ later.1, later.2)
  | fuel + 1, c :: rest =>
      let later := unescape rules fuel rest
      (c :: later.1, later.2)

/-- A text with its stand-ins replaced, and whether it is ended by one. -/
def unescaped (rules : EscapeRules) (text : List Char) : List Char × Bool :=
  unescape rules (text.length + 1) text

/-- Texts with a blank between each two, with stand-ins replaced and a line end behind,
unless one of them ends the text. -/
def unescapedLine (rules : EscapeRules) (endsLine : Bool) (texts : List (List Char)) :
    List Char :=
  let (text, isEnded) := unescaped rules (List.intercalate [' '] texts)
  if isEnded || !endsLine then text else text ++ ['\n']

end PartitionBench.Host
