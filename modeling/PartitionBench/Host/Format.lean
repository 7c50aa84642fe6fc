import PartitionBench.Host.Escape
import PartitionBench.Host.WordSize
import PartitionBench.Numeric.Decimal

/-!
Contract: texts made of arguments by a format.

Owns:
- the directives of a format, for texts, characters, whole numbers and fractions;
- what is wrong with formats and arguments.

Does not own: the commands that format (`Host.Printing`).
-/

namespace PartitionBench.Host

open Numeric (Binary64)

/-- What is wrong with a format or an argument. -/
inductive FormatFault where
  | notNumeric (argument : List Char)
  | notComplete (argument : List Char)
  | outOfRange (argument : List Char)
  | badDirective (directive : List Char)
  | noDirective (directive : List Char)
  deriving DecidableEq

def FormatFault.isFinal : FormatFault → Bool
  | .badDirective _ | .noDirective _ => true
  | _ => false

structure Formatted where
  text : List Char := []
  faults : List FormatFault := []
  arguments : List (List Char) := []
  /-- Nothing follows, because a directive or an argument says so. -/
  isEnded : Bool := false

/-- How a directive lays out what it prints. -/
structure Layout where
  alignsLeft : Bool := false
  signed : Bool := false
  spaced : Bool := false
  zeroFilled : Bool := false
  alternate : Bool := false
  width : Nat := 0
  precision : Option Nat := none

/-- The flags at the start of a directive, and what follows them. -/
def flagsOf : Layout → List Char → Layout × List Char
  | layout, '-' :: rest => flagsOf { layout with alignsLeft := true } rest
  | layout, '+' :: rest => flagsOf { layout with signed := true } rest
  | layout, ' ' :: rest => flagsOf { layout with spaced := true } rest
  | layout, '0' :: rest => flagsOf { layout with zeroFilled := true } rest
  | layout, '#' :: rest => flagsOf { layout with alternate := true } rest
  | layout, rest => (layout, rest)

def Layout.fit (layout : Layout) (text : List Char) : List Char :=
  let fill := List.replicate (layout.width - text.length) ' '
  if layout.alignsLeft then text ++ fill else fill ++ text

/-- A number with its sign and opening laid out in its width. -/
def Layout.fitNumber (layout : Layout) (mayFill : Bool) (opening digits : List Char) :
    List Char :=
  if layout.zeroFilled && mayFill && !layout.alignsLeft then
    opening ++ List.replicate (layout.width - opening.length - digits.length) '0' ++ digits
  else layout.fit (opening ++ digits)

def Layout.sign (layout : Layout) (isNegative : Bool) : List Char :=
  if isNegative then ['-'] else if layout.signed then ['+'] else if layout.spaced then [' '] else []

def digitsIn (base : Nat) (isUpper : Bool) (number : Nat) : List Char :=
  let digits := Nat.toDigits base number
  if isUpper then digits.map Char.toUpper else digits

/-- Digits with at least as many places as the precision asks for. -/
def Layout.withPrecision (layout : Layout) (digits : List Char) : List Char :=
  match layout.precision with
  | none => digits
  | some count => List.replicate (count - digits.length) '0' ++ digits

def Layout.integer (layout : Layout) (directive : Char) (value : Int) : List Char :=
  let mayFill := layout.precision.isNone
  if directive = 'd' ∨ directive = 'i' then
    layout.fitNumber mayFill (layout.sign (value < 0))
      (layout.withPrecision (digitsOfNat value.natAbs))
  else
    let natural := (value % wordCount).toNat
    match directive with
    | 'o' =>
        let digits := digitsIn 8 false natural
        layout.fitNumber mayFill [] (layout.withPrecision
          (if layout.alternate ∧ natural ≠ 0 then '0' :: digits else digits))
    | 'x' =>
        layout.fitNumber mayFill (if layout.alternate ∧ natural ≠ 0 then ['0', 'x'] else [])
          (layout.withPrecision (digitsIn 16 false natural))
    | 'X' =>
        layout.fitNumber mayFill (if layout.alternate ∧ natural ≠ 0 then ['0', 'X'] else [])
          (layout.withPrecision (digitsIn 16 true natural))
    | _ => layout.fitNumber mayFill [] (layout.withPrecision (digitsOfNat natural))

/-! ## Fractions -/

/-- A stored number without its sign, as a quotient. -/
def quotientOf : Binary64 → Nat × Nat
  | .finite significand exponent =>
      if 0 ≤ exponent then (significand.natAbs * Nat.pow 2 exponent.toNat, 1)
      else (significand.natAbs, Nat.pow 2 exponent.natAbs)
  | _ => (0, 1)

def fixedPoint (places : Nat) (keepsPoint : Bool) (quotient : Nat × Nat) : List Char :=
  let scaled := Numeric.nearestQuotient (quotient.1 * Nat.pow 10 places) quotient.2
  let digits := digitsOfNat scaled
  let padded := List.replicate (places + 1 - digits.length) '0' ++ digits
  let whole := padded.take (padded.length - places)
  if places = 0 then if keepsPoint then whole ++ ['.'] else whole
  else whole ++ '.' :: padded.drop (padded.length - places)

def overPower (quotient : Nat × Nat) (exponent : Int) : Nat × Nat :=
  if 0 ≤ exponent then (quotient.1, quotient.2 * Nat.pow 10 exponent.toNat)
  else (quotient.1 * Nat.pow 10 exponent.natAbs, quotient.2)

/-- The exponent that a quotient has when it is written with one digit before the point and
some behind. -/
def decimalExponent (places : Nat) (quotient : Nat × Nat) : Int :=
  if quotient.1 = 0 then 0
  else
    let guess : Int := ((digitsOfNat (quotient.1 / quotient.2)).length : Int) - 1
    let start : Int :=
      if quotient.2 ≤ quotient.1 then guess
      else -((digitsOfNat (quotient.2 / quotient.1)).length : Int)
    let candidates := [start - 1, start, start + 1, start + 2]
    (candidates.find? fun exponent =>
      let (numerator, denominator) := overPower quotient exponent
      decide (Numeric.nearestQuotient (numerator * Nat.pow 10 places) denominator
        < Nat.pow 10 (places + 1))).getD start

/-- A quotient with one digit before the point and an exponent. -/
def scientific (places : Nat) (keepsPoint isUpper : Bool) (quotient : Nat × Nat) : List Char :=
  let exponent := decimalExponent places quotient
  let digits := digitsOfNat exponent.natAbs
  fixedPoint places keepsPoint (overPower quotient exponent)
    ++ [if isUpper then 'E' else 'e', if exponent < 0 then '-' else '+']
    ++ List.replicate (2 - digits.length) '0' ++ digits

/-- Digits without the zeros behind the point that carry nothing. -/
def withoutEndZeros (digits : List Char) : List Char :=
  if digits.contains '.' then
    let kept := (digits.reverse.dropWhile (· = '0')).reverse
    if kept.getLast? = some '.' then kept.dropLast else kept
  else digits

/-- A quotient in the shorter of the two ways, with some significant digits. -/
def general (significant : Nat) (keepsZeros isUpper : Bool) (quotient : Nat × Nat) :
    List Char :=
  let count := max significant 1
  let exponent := decimalExponent (count - 1) quotient
  if exponent < -4 ∨ (count : Int) ≤ exponent then
    let text := scientific (count - 1) false isUpper quotient
    if keepsZeros then text
    else
      let mantissa := text.takeWhile fun c => c ≠ 'e' && c ≠ 'E'
      withoutEndZeros mantissa ++ text.drop mantissa.length
  else
    let text := fixedPoint ((count : Int) - 1 - exponent).toNat false quotient
    if keepsZeros then text else withoutEndZeros text

def Layout.fraction (layout : Layout) (directive : Char) (isNegative : Bool)
    (value : Binary64) : List Char :=
  let quotient := quotientOf value
  let places := layout.precision.getD 6
  let isUpper := directive.isUpper
  let digits :=
    match directive.toLower with
    | 'f' => fixedPoint places layout.alternate quotient
    | 'e' => scientific places layout.alternate isUpper quotient
    | _ => general places layout.alternate isUpper quotient
  layout.fitNumber true (layout.sign isNegative) digits

/-! ## Arguments -/

/-- A number that was read, and what is wrong with the argument. -/
abbrev Read (α : Type) := α × Option FormatFault

def baseOf (chars : List Char) : Nat × List Char :=
  match chars with
  | '0' :: x :: d :: rest =>
      if (x = 'x' ∨ x = 'X') ∧ (Text.hexValue? d).isSome then (16, d :: rest) else (8, chars)
  | '0' :: _ => (8, chars)
  | _ => (10, chars)

/-- An argument as a whole number. One that begins with a quote is the code of its next
character. -/
def readInteger (argument : List Char) : Read Int :=
  match argument with
  | '\'' :: rest | '"' :: rest => (((rest.head?.map Char.toNat).getD 0 : Nat), none)
  | _ =>
      let trimmed := argument.dropWhile fun c => c = ' ' || c = '\t' || c = '\n'
      let isNegative := trimmed.head? = some '-'
      let unsigned :=
        if isNegative ∨ trimmed.head? = some '+' then trimmed.drop 1 else trimmed
      let (base, digits) := baseOf unsigned
      let taken := leadingDigits base digits.length digits
      let magnitude : Int := Text.valueFrom base 0 taken
      let value := if isNegative then -magnitude else magnitude
      if argument = [] then (0, none)
      else if taken = [] then (0, some (.notNumeric argument))
      else if greatestWord < value then (greatestWord, some (.outOfRange argument))
      else if value < leastWord then (leastWord, some (.outOfRange argument))
      else if taken.length < digits.length then (value, some (.notComplete argument))
      else (value, none)

def readFraction (argument : List Char) : Read (Bool × Binary64) :=
  let trimmed := argument.dropWhile fun c => c = ' ' || c = '\t' || c = '\n'
  let isNegative := trimmed.head? = some '-'
  let unsigned := if isNegative ∨ trimmed.head? = some '+' then trimmed.drop 1 else trimmed
  let whole := unsigned.takeWhile Text.isDigit
  let afterWhole := unsigned.drop whole.length
  let places :=
    match afterWhole with
    | '.' :: rest => rest.takeWhile Text.isDigit
    | _ => []
  let afterPlaces := if afterWhole.head? = some '.' then afterWhole.drop (places.length + 1)
    else afterWhole
  let (exponent, rest) : Int × List Char :=
    match afterPlaces with
    | e :: sign :: digit :: more =>
        if (e = 'e' ∨ e = 'E') ∧ (sign = '-' ∨ sign = '+') ∧ Text.isDigit digit then
          let digits := (digit :: more).takeWhile Text.isDigit
          let value : Int := Text.decimalValue digits
          (if sign = '-' then -value else value, (digit :: more).drop digits.length)
        else if (e = 'e' ∨ e = 'E') ∧ Text.isDigit sign then
          let digits := (sign :: digit :: more).takeWhile Text.isDigit
          (Text.decimalValue digits, (sign :: digit :: more).drop digits.length)
        else (0, afterPlaces)
    | [e, digit] =>
        if (e = 'e' ∨ e = 'E') ∧ Text.isDigit digit then ((digit.toNat - 0x30 : Nat), [])
        else (0, afterPlaces)
    | _ => (0, afterPlaces)
  let value := Binary64.ofDecimal isNegative (Text.decimalValue (whole ++ places))
    (exponent - places.length)
  if argument = [] then ((false, Binary64.zero), none)
  else if whole = [] ∧ places = [] then
    ((false, Binary64.zero), some (.notNumeric argument))
  else if rest ≠ [] then ((isNegative, value), some (.notComplete argument))
  else ((isNegative, value), none)

/-! ## Formats -/

structure FormatRules where
  format : EscapeRules
  argument : EscapeRules
  knowsQuotes : Bool

/-- A character that needs no quotes. -/
def isSafe (c : Char) : Bool :=
  ('a' ≤ c && c ≤ 'z') || ('A' ≤ c && c ≤ 'Z') || ('0' ≤ c && c ≤ '9') || c = '_' || c = '-'
    || c = '.' || c = '/' || c = ':' || c = '@' || c = '%' || c = '+' || c = '=' || c = ','

/-- A text with a backslash before each character that is not safe. -/
def backslashed (text : List Char) : List Char :=
  if text = [] then ['\'', '\'']
  else text.flatMap fun c => if isSafe c then [c] else ['\\', c]

/-- A number that stands in a directive or is taken from the arguments. -/
def countOf (chars : List Char) (arguments : List (List Char)) :
    Option Int × List Char × List (List Char) :=
  match chars with
  | '*' :: rest => (some (readInteger (arguments.headD [])).1, rest, arguments.tail)
  | _ =>
      let digits := chars.takeWhile Text.isDigit
      (if digits = [] then none else some (Text.decimalValue digits), chars.drop digits.length,
        arguments)

/-- What is made of a directive whose sign has been read, and what follows it in the
format. -/
def directive (rules : FormatRules) (chars : List Char) (arguments : List (List Char)) :
    Formatted × List Char :=
  let (flagged, afterFlags) := flagsOf {} chars
  let (width, afterWidth, arguments) := countOf afterFlags arguments
  let sized : Layout :=
    match width with
    | some value =>
        { flagged with
          width := value.natAbs, alignsLeft := flagged.alignsLeft || decide (value < 0) }
    | none => flagged
  let (layout, rest, arguments) : Layout × List Char × List (List Char) :=
    match afterWidth with
    | '.' :: behind =>
        let (precision, rest, arguments) := countOf behind arguments
        ({ sized with precision := some (precision.getD 0).toNat }, rest, arguments)
    | _ => (sized, afterWidth, arguments)
  let argument := arguments.headD []
  let others := arguments.tail
  let written (count : Nat) : List Char :=
    '%' :: chars.take (chars.length - rest.length + count)
  match rest with
  | [] => ({ faults := [.noDirective (written 0)], isEnded := true }, [])
  | c :: behind =>
      match c with
      | 's' =>
          let text := match layout.precision with
            | some count => argument.take count
            | none => argument
          ({ text := layout.fit text, arguments := others }, behind)
      | 'b' =>
          let (text, isEnded) := unescaped rules.argument argument
          let cut := match layout.precision with
            | some count => text.take count
            | none => text
          ({ text := layout.fit cut, arguments := others, isEnded }, behind)
      | 'c' => ({ text := layout.fit (argument.take 1), arguments := others }, behind)
      | 'd' | 'i' | 'o' | 'u' | 'x' | 'X' =>
          let (value, fault) := readInteger argument
          ({ text := layout.integer c value, faults := fault.toList, arguments := others }, behind)
      | 'f' | 'F' | 'e' | 'E' | 'g' | 'G' =>
          let ((isNegative, value), fault) := readFraction argument
          ({ text := layout.fraction c isNegative value, faults := fault.toList,
             arguments := others }, behind)
      | 'q' =>
          if rules.knowsQuotes then
            ({ text := layout.fit (backslashed argument), arguments := others }, behind)
          else ({ faults := [.badDirective (written 1)], isEnded := true }, [])
      | _ => ({ faults := [.badDirective (written 1)], isEnded := true }, [])

def formatOnce (rules : FormatRules) : Nat → List Char → List (List Char) → Formatted
  | 0, _, arguments => { arguments }
  | _ + 1, [], arguments => { arguments }
  | fuel + 1, '%' :: '%' :: rest, arguments =>
      let later := formatOnce rules fuel rest arguments
      { later with text := '%' :: later.text }
  | fuel + 1, '%' :: rest, arguments =>
      let (first, behind) := directive rules rest arguments
      if first.isEnded then first
      else
        let later := formatOnce rules fuel behind first.arguments
        { later with text := first.text ++ later.text, faults := first.faults ++ later.faults }
  | fuel + 1, '\\' :: rest, arguments =>
      match escapedAt rules.format rest with
      | .finish => { arguments, isEnded := true }
      | .characters text behind =>
          let later := formatOnce rules fuel behind arguments
          { later with text := text ++ later.text }
  | fuel + 1, c :: rest, arguments =>
      let later := formatOnce rules fuel rest arguments
      { later with text := c :: later.text }

/-- What is made of a format that is gone through until no argument is left. -/
def formatAll (rules : FormatRules) (format : List Char) :
    Nat → List (List Char) → Formatted
  | 0, arguments => { arguments }
  | fuel + 1, arguments =>
      let first := formatOnce rules (format.length + 1) format arguments
      if first.isEnded ∨ first.arguments.isEmpty
          ∨ first.arguments.length = arguments.length then first
      else
        let later := formatAll rules format fuel first.arguments
        { later with text := first.text ++ later.text, faults := first.faults ++ later.faults }

def formatted (rules : FormatRules) (format : List Char) (arguments : List (List Char)) :
    Formatted :=
  formatAll rules format (arguments.length + 1) arguments

end PartitionBench.Host
