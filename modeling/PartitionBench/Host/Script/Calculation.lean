import PartitionBench.Host.Bytes
import PartitionBench.Host.Script.Grammar
import PartitionBench.Host.WordSize
import PartitionBench.Text.Digits

/-!
Contract: calculations with whole numbers.

Owns:
- how calculations are written in both dialects, and what is wrong with those that are
  none;
- arithmetic on numbers of 64 bits, which wraps.

Does not own: the variables that calculations use (`Script.Expansion`).
-/

namespace PartitionBench.Host.Script

inductive Calculation where
  | number (value : Int)
  | named (name : List Char)
  | element (name : List Char) (place : Calculation)
  | sign (operator : String) (operand : Calculation)
  | binary (operator : String) (left right : Calculation)
  | choice (test yes no : Calculation)
  /-- Give a value to a variable, calculated with its old value if there is an
  operator. -/
  | assign (target : Calculation) (operator : String) (value : Calculation)
  /-- Change a variable by one, and give its value before or after. -/
  | step (target : Calculation) (amount : Int) (givesOld : Bool)
  | comma (first second : Calculation)

namespace Calculation

inductive Fault where
  | expectsPrimary (rest : List Char)
  | expectsEnd (rest : List Char)
  | expectsClosing (rest : List Char)
  | expectsColon (rest : List Char)
  | badAssignment (rest : List Char)
  | badDigit (token : List Char)
  | badCharacter (rest : List Char)
  | divisionByZero (rest : List Char)
  | negativeExponent (rest : List Char)
  /-- The value of a variable is no number. -/
  | notNumber (value : List Char)
  | unset (name : List Char)
  | tooDeep

def Fault.standardText (written : List Char) (fault : Fault) : List Char :=
  let framed (text : String) : List Char :=
    ("arithmetic expression: " ++ text ++ ": \"").toList ++ written ++ ['"']
  match fault with
  | .expectsPrimary _ => framed "expecting primary"
  | .expectsEnd _ | .badAssignment _ | .badDigit _ | .badCharacter _ => framed "expecting EOF"
  | .expectsClosing _ => framed "expecting ')'"
  | .expectsColon _ => framed "expecting ':'"
  | .divisionByZero _ => framed "division by zero"
  | .negativeExponent _ => framed "expecting primary"
  | .notNumber value => "Illegal number: ".toList ++ value
  | .unset name => name ++ ": parameter not set".toList
  | .tooDeep => framed "expecting primary"

def Fault.extendedText (written : List Char) (fault : Fault) : List Char :=
  let framed (text : String) (token : List Char) : List Char :=
    written ++ (": " ++ text ++ " (error token is \"").toList ++ token ++ ['"', ')']
  match fault with
  | .expectsPrimary rest => framed "syntax error: operand expected" rest
  | .expectsEnd rest => framed "syntax error in expression" rest
  | .expectsClosing rest => framed "missing `)'" rest
  | .expectsColon rest => framed "`:' expected for conditional expression" rest
  | .badAssignment rest => framed "attempted assignment to non-variable" rest
  | .badDigit token => framed "value too great for base" token
  | .badCharacter rest => framed "syntax error: invalid arithmetic operator" rest
  | .divisionByZero rest => framed "division by 0" rest
  | .negativeExponent rest => framed "exponent less than 0" rest
  | .notNumber value => framed "syntax error: operand expected" value
  | .unset name => name ++ ": unbound variable".toList
  | .tooDeep => framed "expression recursion level exceeded" written

/-! ## Tokens -/

inductive Token where
  | number (value : Int)
  | named (name : List Char)
  | operator (text : String)
  | other

/-- A token, and the text from it on. -/
abbrev Placed := Token × List Char

/-- The operators, each before those that it begins with. -/
def operators (dialect : Dialect) : List String :=
  (match dialect with
    | .standard => []
    | .extended => ["**", "++", "--", ",", "[", "]"])
    ++ ["<<=", ">>=", "<<", ">>", "<=", ">=", "==", "!=", "&&", "||", "*=", "/=", "%=", "+=", "-=",
      "&=", "^=", "|=", "=", "<", ">", "+", "-", "*", "/", "%", "!", "~", "&", "^", "|", "?", ":",
      "(", ")"]

/-- A number as one of 64 bits. -/
def wrap (value : Int) : Int := Int.bmod value wordCount

/-- The value of a digit in a base up to 64. Bases up to 36 do not tell letters apart. -/
def digitValue? (base : Nat) (c : Char) : Option Nat :=
  if Text.isDigit c then some (c.toNat - 0x30)
  else if 'a' ≤ c ∧ c ≤ 'z' then some (c.toNat - 0x61 + 10)
  else if 'A' ≤ c ∧ c ≤ 'Z' then
    some (if base ≤ 36 then c.toNat - 0x41 + 10 else c.toNat - 0x41 + 36)
  else if c = '@' then some 62
  else if c = '_' then some 63
  else none

/-- The number that digits of a base make, if all of them are digits of the base. -/
def numeral? (base : Nat) (digits : List Char) : Option Nat :=
  digits.foldl
    (fun value digit =>
      match value, digitValue? base digit with
      | some value, some next => if next < base then some (value * base + next) else none
      | _, _ => none)
    (some 0)

/-- The number at the start of a text in the standard dialect: the base follows from its
start, and it ends before what is no digit of the base. -/
def standardNumber (chars : List Char) : Int × List Char :=
  let read (base : Nat) (digits : List Char) : Int × List Char :=
    let taken := digits.takeWhile fun c =>
      match Text.hexValue? c with
      | some value => value < base
      | none => false
    (min (Text.valueFrom base 0 taken : Int) greatestWord, digits.drop taken.length)
  match chars with
  | '0' :: x :: d :: rest =>
      if (x = 'x' ∨ x = 'X') ∧ (Text.hexValue? d).isSome then read 16 (d :: rest)
      else read 8 chars
  | '0' :: _ => read 8 chars
  | _ => read 10 chars

/-- The number that a word is in the extended dialect, if it is one. -/
def extendedNumber? (word : List Char) : Option Int :=
  let base := word.takeWhile Text.isDigit
  match word, word.drop base.length with
  | _, '#' :: digits =>
      let value := Text.decimalValue base
      if 2 ≤ value ∧ value ≤ 64 ∧ digits ≠ [] then
        (numeral? value digits).map fun number => wrap number
      else none
  | '0' :: 'x' :: digits, _ | '0' :: 'X' :: digits, _ =>
      (numeral? 16 digits).map fun number => wrap number
  | '0' :: digits, _ => (numeral? 8 digits).map fun number => wrap number
  | digits, _ => (numeral? 10 digits).map fun number => wrap number

def isNumberCharacter (c : Char) : Bool :=
  continuesName c || c = '#' || c = '@'

def tokens (dialect : Dialect) : Nat → List Char → Except Fault (List Placed)
  | 0, _ => .ok []
  | _ + 1, [] => .ok []
  | fuel + 1, c :: rest =>
      let chars := c :: rest
      if c = ' ' ∨ c = '\t' ∨ c = '\n' then tokens dialect fuel rest
      else if Text.isDigit c then
        match dialect with
        | .standard => do
            let (value, behind) := standardNumber chars
            return (.number value, chars) :: (← tokens dialect fuel behind)
        | .extended => do
            let word := chars.takeWhile isNumberCharacter
            match extendedNumber? word with
            | some value =>
                return (.number value, chars) :: (← tokens dialect fuel (chars.drop word.length))
            | none => throw (.badDigit word)
      else if startsName c then do
        let name := chars.takeWhile continuesName
        return (.named name, chars) :: (← tokens dialect fuel (chars.drop name.length))
      else
        match (operators dialect).find? fun operator => operator.toList.isPrefixOf chars with
        | some operator => do
            return (.operator operator, chars)
              :: (← tokens dialect fuel (chars.drop operator.length))
        | none => do
            return [(.other, chars)]

/-! ## Reading -/

def strength? (operator : String) : Option Nat :=
  match operator with
  | "**" => some 12
  | "*" | "/" | "%" => some 11
  | "+" | "-" => some 10
  | "<<" | ">>" => some 9
  | "<" | "<=" | ">" | ">=" => some 8
  | "==" | "!=" => some 7
  | "&" => some 6
  | "^" => some 5
  | "|" => some 4
  | "&&" => some 3
  | "||" => some 2
  | _ => none

/-- The operators that give a value, with the operator that is applied before. -/
def assignmentOperator? (operator : String) : Option String :=
  match operator with
  | "=" => some ""
  | "*=" => some "*"
  | "/=" => some "/"
  | "%=" => some "%"
  | "+=" => some "+"
  | "-=" => some "-"
  | "<<=" => some "<<"
  | ">>=" => some ">>"
  | "&=" => some "&"
  | "^=" => some "^"
  | "|=" => some "|"
  | _ => none

/-- The text from the next token on, or from the last one if there is none. -/
def restText (last : List Char) : List Placed → List Char
  | [] => last
  | (_, text) :: _ => text

inductive Level where
  | comma
  | assignment
  | choice
  /-- Operators that bind at least as strongly as this. -/
  | binary (least : Nat)
  | unary
  | primary
  /-- What follows an operand that has been read, if it is an operator that binds at least
  as strongly as this. -/
  | behind (least : Nat) (left : Calculation)

/-- Read a part of a calculation, and give what follows it. `last` is the text of the token
before. -/
def read (dialect : Dialect) :
    Nat → Level → List Char → List Placed → Except Fault (Calculation × List Char × List Placed)
  | 0, _, last, _ => .error (.expectsPrimary last)
  | fuel + 1, level, last, placed => do
      match level with
      | .comma => do
          let (first, last, rest) ← read dialect fuel .assignment last placed
          match rest with
          | (.operator ",", text) :: others => do
              let (second, last, left) ← read dialect fuel .comma text others
              return (.comma first second, last, left)
          | _ => return (first, last, rest)
      | .assignment =>
          match placed with
          | (.named name, _) :: (.operator operator, text) :: rest =>
              match assignmentOperator? operator with
              | some inner => do
                  let (value, last, left) ← read dialect fuel .assignment text rest
                  return (.assign (.named name) inner value, last, left)
              | none => do
                  let (target, last, left) ← read dialect fuel .choice last placed
                  match target, left with
                  | .element _ _, (.operator giving, text) :: others =>
                      match assignmentOperator? giving with
                      | some inner => do
                          let (value, last, left) ← read dialect fuel .assignment text others
                          return (.assign target inner value, last, left)
                      | none => return (target, last, left)
                  | _, _ => return (target, last, left)
          | _ => read dialect fuel .choice last placed
      | .choice => do
          let (test, last, rest) ← read dialect fuel (.binary 2) last placed
          match rest with
          | (.operator "?", text) :: others => do
              let (yes, last, left) ← read dialect fuel .assignment text others
              match left with
              | (.operator ":", text) :: others => do
                  let (no, last, left) ← read dialect fuel .choice text others
                  return (.choice test yes no, last, left)
              | _ => throw (.expectsColon (restText last left))
          | _ => return (test, last, rest)
      | .binary least => do
          let (left, last, rest) ← read dialect fuel .unary last placed
          read dialect fuel (.behind least left) last rest
      | .behind least left =>
          match placed with
          | (.operator operator, text) :: rest =>
              match strength? operator with
              | some strength =>
                  if strength < least then return (left, last, placed)
                  else do
                    let inner := if operator = "**" then strength else strength + 1
                    let (right, last, others) ← read dialect fuel (.binary inner) text rest
                    read dialect fuel (.behind least (.binary operator left right)) last others
              | none => return (left, last, placed)
          | _ => return (left, last, placed)
      | .unary =>
          match placed with
          | (.operator "++", _) :: (.named name, text) :: rest =>
              return (.step (.named name) 1 false, text, rest)
          | (.operator "--", _) :: (.named name, text) :: rest =>
              return (.step (.named name) (-1) false, text, rest)
          | (.operator operator, text) :: rest =>
              if operator = "+" ∨ operator = "-" ∨ operator = "!" ∨ operator = "~" then do
                let (operand, last, others) ← read dialect fuel .unary text rest
                return (.sign operator operand, last, others)
              else read dialect fuel .primary last placed
          | _ => read dialect fuel .primary last placed
      | .primary =>
          match placed with
          | (.number value, text) :: rest => return (.number value, text, rest)
          | (.named name, text) :: rest =>
              match dialect, rest with
              | .extended, (.operator "[", opening) :: others => do
                  let (place, last, left) ← read dialect fuel .comma opening others
                  match left with
                  | (.operator "]", closing) :: behind =>
                      return (.element name place, closing, behind)
                  | _ => throw (.expectsPrimary (restText last left))
              | .extended, (.operator "++", text) :: others =>
                  return (.step (.named name) 1 true, text, others)
              | .extended, (.operator "--", text) :: others =>
                  return (.step (.named name) (-1) true, text, others)
              | _, _ => return (.named name, text, rest)
          | (.operator "(", text) :: rest => do
              let inner : Level := if dialect = .extended then .comma else .assignment
              let (value, last, left) ← read dialect fuel inner text rest
              match left with
              | (.operator ")", closing) :: others => return (value, closing, others)
              | _ => throw (.expectsClosing (restText last left))
          | _ => throw (.expectsPrimary (restText last placed))

/-- The calculation that a text is. In the extended dialect a blank text is zero. -/
def ofChars (dialect : Dialect) (chars : List Char) : Except Fault Calculation := do
  let placed ← tokens dialect (chars.length + 1) chars
  if placed.isEmpty ∧ dialect = .extended then return .number 0
  else
    let top : Level := if dialect = .extended then .comma else .assignment
    let (calculation, _, rest) ← read dialect (8 * chars.length + 20) top chars placed
    match rest with
    | [] => return calculation
    | (.other, text) :: _ => throw (.badCharacter text)
    | (.operator operator, text) :: _ =>
        if (assignmentOperator? operator).isSome then throw (.badAssignment text)
        else throw (.expectsEnd text)
    | (_, text) :: _ => throw (.expectsEnd text)

/-! ## Arithmetic -/

def ofTruth (value : Bool) : Int := if value then 1 else 0

/-- The number of 64 bits without a sign. -/
def unsigned (value : Int) : Nat := (value % wordCount).toNat

def applySign (operator : String) (value : Int) : Int :=
  match operator with
  | "-" => wrap (-value)
  | "!" => ofTruth (value = 0)
  | "~" => wrap (-value - 1)
  | _ => value

/-- What a binary operator makes of two numbers. The operators that may not need their
second operand are not among them. -/
def apply (operator : String) (left right : Int) : Except Fault Int :=
  match operator with
  | "*" => .ok (wrap (left * right))
  | "/" => if right = 0 then .error (.divisionByZero []) else .ok (wrap (Int.tdiv left right))
  | "%" => if right = 0 then .error (.divisionByZero []) else .ok (wrap (Int.tmod left right))
  | "+" => .ok (wrap (left + right))
  | "-" => .ok (wrap (left - right))
  | "<<" => .ok (wrap (left * Nat.pow 2 (unsigned right % 64)))
  | ">>" => .ok (left / Nat.pow 2 (unsigned right % 64))
  | "<" => .ok (ofTruth (left < right))
  | "<=" => .ok (ofTruth (left ≤ right))
  | ">" => .ok (ofTruth (right < left))
  | ">=" => .ok (ofTruth (right ≤ left))
  | "==" => .ok (ofTruth (left = right))
  | "!=" => .ok (ofTruth (left ≠ right))
  | "&" => .ok (wrap (unsigned left &&& unsigned right))
  | "^" => .ok (wrap (unsigned left ^^^ unsigned right))
  | "|" => .ok (wrap (unsigned left ||| unsigned right))
  | "**" =>
      if right < 0 then .error (.negativeExponent [])
      else
        .ok ((List.range (min right.toNat 100000)).foldl (fun power _ => wrap (power * left)) 1)
  | _ => .ok right

end Calculation

end PartitionBench.Host.Script
