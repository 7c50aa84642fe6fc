import PartitionBench.Host.Expression
import PartitionBench.Host.Format
import PartitionBench.Host.Test
import PartitionBench.Host.Utility.Files

/-!
Contract: programs that make texts out of their arguments.

Owns: printing, counting up, calculating, testing, and the parts of paths.

Does not own: programs that read files or run others.
-/

namespace PartitionBench.Host.Utility

open Execution

def succeed : Utility := fun _ _ => return 0

def failQuietly : Utility := fun _ _ => return 1

/-! ## Printing -/

def printingOptions (endsLine replaces : Bool) :
    List (List Char) → Bool × Bool × List (List Char)
  | [] => (endsLine, replaces, [])
  | argument :: rest =>
      match argument with
      | '-' :: c :: letters =>
          if (c :: letters).all fun d => d = 'n' || d = 'e' || d = 'E' then
            printingOptions (endsLine && !(c :: letters).contains 'n')
              ((c :: letters).foldl
                (fun value letter =>
                  if letter = 'e' then true else if letter = 'E' then false else value) replaces)
              rest
          else (endsLine, replaces, argument :: rest)
      | _ => (endsLine, replaces, argument :: rest)

def echo : Utility := fun _ arguments =>
  let (endsLine, replaces, texts) := printingOptions true false arguments
  if replaces then print (unescapedLine EscapeRules.extendedText endsLine texts) 0
  else
    let line := List.intercalate [' '] texts
    print (if endsLine then line ++ ['\n'] else line) 0

def formatMessage : FormatFault → List Char
  | .notNumeric argument => shown argument ++ ": expected a numeric value".toList
  | .notComplete argument => shown argument ++ ": value not completely converted".toList
  | .outOfRange argument => shown argument ++ ": Numerical result out of range".toList
  | .badDirective text => text ++ ": invalid conversion specification".toList
  | .noDirective text => text ++ ": invalid conversion specification".toList

def printFormat : Utility := fun name arguments => do
  let operands := if arguments.head? = some ['-', '-'] then arguments.tail else arguments
  match operands with
  | [] => missingOperand name
  | format :: values => do
      let rules : FormatRules := ⟨EscapeRules.extendedFormat, EscapeRules.extendedArgument, true⟩
      let made := formatted rules format values
      let status ← print made.text (if made.faults.isEmpty then 0 else 1)
      for fault in made.faults do
        complain name (formatMessage fault)
      return status

/-- Print a line again and again, until nobody reads it any more. -/
def repeatLine : Utility := fun _ arguments => do
  let line := if arguments.isEmpty then ['y'] else List.intercalate [' '] arguments
  let count := endlessBytes / (line.length + 1) + 1
  let status ← print (ofLines (List.replicate count line)) 0
  if status = 0 then throw (.dies 13) else return status

/-! ## Counting up -/

/-- A number with decimal places: its digits as an integer and how many places it has. -/
structure Decimal where
  value : Int
  places : Nat

def decimal? (text : List Char) : Option Decimal :=
  let (sign, unsigned) : Int × List Char :=
    match text with
    | '-' :: rest => (-1, rest)
    | '+' :: rest => (1, rest)
    | rest => (1, rest)
  let whole := unsigned.takeWhile Char.isDigit
  match unsigned.drop whole.length with
  | [] => if whole = [] then none else some ⟨sign * Text.decimalValue whole, 0⟩
  | '.' :: behind =>
      if behind.all Char.isDigit ∧ whole ++ behind ≠ [] then
        some ⟨sign * Text.decimalValue (whole ++ behind), behind.length⟩
      else none
  | _ => none

/-- A number in units of its last place, where a number of places is asked for. -/
def Decimal.scaled (decimal : Decimal) (places : Nat) : Int :=
  decimal.value * Nat.pow 10 (places - decimal.places)

def unitsText (places : Nat) (units : Int) : List Char :=
  let digits := digitsOfNat units.natAbs
  let filled := List.replicate (places + 1 - digits.length) '0' ++ digits
  let whole := filled.take (filled.length - places)
  (if units < 0 then ['-'] else []) ++ whole
    ++ (if places = 0 then [] else '.' :: filled.drop (filled.length - places))

def zeroPadded (width : Nat) (text : List Char) : List Char :=
  match text with
  | '-' :: digits => '-' :: List.replicate (width - text.length) '0' ++ digits
  | digits => List.replicate (width - digits.length) '0' ++ digits

def progression (first step last : Int) : List Int :=
  if step = 0 then []
  else
    let count := if 0 < step then (last - first) / step else (first - last) / (-step)
    if count < 0 then [] else
      (List.range (count.toNat + 1)).map fun (index : Nat) => first + step * (index : Int)

def countUp : Utility := fun name arguments => do
  let isNumber (argument : List Char) : Bool := (decimal? argument).isSome
  let optional := arguments.takeWhile fun argument => !isNumber argument
  let numbers := arguments.drop optional.length
  -- the value of an option may be a number
  let (optional, numbers) : List (List Char) × List (List Char) :=
    match optional.getLast? with
    | some ['-', 's'] | some ['-', 'f'] => (optional ++ numbers.take 1, numbers.drop 1)
    | _ => (optional, numbers)
  withArguments
    { flags := "w", valued := "sf"
      long := [("equal-width", 'w'), ("separator", 's'), ("format", 'f')] }
    name optional 1 fun options extra => do
      match extra ++ numbers with
      | [] => missingOperand name
      | operands =>
          match operands.find? fun operand => !isNumber operand with
          | some operand => do
              complain name ("invalid floating point argument: ".toList ++ shown operand)
              hint name
              return 1
          | none =>
              let values := operands.filterMap decimal?
              let one : Decimal := ⟨1, 0⟩
              let (first, step, last) : Decimal × Decimal × Decimal :=
                match values with
                | [last] => (one, one, last)
                | [first, last] => (first, one, last)
                | first :: step :: last :: _ => (first, step, last)
                | [] => (one, one, one)
              let places := max first.places step.places
              let all := max places last.places
              let units := progression (first.scaled all) (step.scaled all) (last.scaled all)
              if 3 < operands.length then do
                complain name ("extra operand ".toList ++ shown (operands.getD 3 []))
                hint name
                return 1
              else if step.value = 0 then do
                complain name ("invalid Zero increment value: ".toList
                  ++ shown (operands.getD 1 []))
                hint name
                return 1
              else
                let plain := units.map fun unit =>
                  unitsText places (unit / (Nat.pow 10 (all - places) : Int))
                let width := (plain.map List.length).foldl max 0
                let texts :=
                  match valueOf? options 'f' with
                  | some format =>
                      plain.map fun text =>
                        (formatted ⟨EscapeRules.standardFormat, EscapeRules.standardFormat, false⟩
                          format [text]).text
                  | none =>
                      if has options 'w' then plain.map (zeroPadded width) else plain
                let separator := (valueOf? options 's').getD ['\n']
                if texts.isEmpty then return 0
                else print (List.intercalate separator texts ++ ['\n']) 0

/-! ## Parts of paths -/

/-- A name without an ending, unless it consists of the ending. -/
def withoutEnding (ending name : List Char) : List Char :=
  if ending ≠ [] ∧ ending.length < name.length ∧ name.drop (name.length - ending.length) = ending
  then name.take (name.length - ending.length)
  else name

/-- The last name of a path; a path of slashes is a slash. -/
def lastName (path : List Char) : List Char :=
  if path ≠ [] ∧ path.all (· = '/') then ['/'] else lastComponent path

def printLastName : Utility := fun name arguments =>
  withArguments
    { flags := "az", valued := "s", stopsAtOperand := true
      long := [("multiple", 'a'), ("suffix", 's')] } name arguments 1 fun options operands => do
      let ending := (valueOf? options 's').getD []
      match operands with
      | [] => missingOperand name
      | path :: others =>
          if has options 'a' ∨ has options 's' then
            print (ofLines (operands.map fun operand => withoutEnding ending (lastName operand))) 0
          else
            match others with
            | [] => print (lastName path ++ ['\n']) 0
            | [suffix] => print (withoutEnding suffix (lastName path) ++ ['\n']) 0
            | _ :: extra :: _ => do
                complain name ("extra operand ".toList ++ shown extra)
                hint name
                return 1

def directoryName (path : List Char) : List Char :=
  let trimmed := path.reverse.dropWhile (· = '/')
  if trimmed = [] then if path = [] then ['.'] else ['/']
  else
    let front := trimmed.dropWhile (· ≠ '/')
    if front = [] then ['.']
    else
      let kept := front.dropWhile (· = '/')
      if kept = [] then ['/'] else kept.reverse

def printDirectoryName : Utility := fun name arguments =>
  withArguments { flags := "z", stopsAtOperand := true } name arguments 1 fun _ operands => do
    if operands.isEmpty then missingOperand name
    else print (ofLines (operands.map directoryName)) 0

/-! ## Calculating -/

/-- What is wrong with an expression of arguments. -/
inductive ExprFault where
  | missingOperand
  | missingBehind (argument : List Char)
  | unexpected (argument : List Char)
  | unclosed (argument : List Char)
  | notInteger
  | divisionByZero
  | expression (fault : Expression.Fault)

def ExprFault.text : ExprFault → List Char
  | .missingOperand => "missing operand".toList
  | .missingBehind argument => "syntax error: missing argument after ".toList ++ shown argument
  | .unexpected [')'] => "syntax error: unexpected ')'".toList
  | .unexpected argument => "syntax error: unexpected argument ".toList ++ shown argument
  | .unclosed argument => "syntax error: expecting ')' after ".toList ++ shown argument
  | .notInteger => "non-integer argument".toList
  | .divisionByZero => "division by zero".toList
  | .expression fault => fault.text.toList

/-- Reading an expression of arguments: what is left of them, with the last one that was
taken. -/
abbrev ExprReader := StateT (List Char × List (List Char)) (Except ExprFault)

namespace ExprReader

/-- Take the next argument if it is one of some texts. -/
def take? (texts : List String) : ExprReader (Option String) := do
  let (_, rest) ← get
  match rest with
  | [] => return none
  | first :: others =>
      match texts.find? fun text => text.toList = first with
      | some text => do
          set (first, others)
          return some text
      | none => return none

def next : ExprReader (List Char) := do
  let (last, rest) ← get
  match rest with
  | [] => throw (.missingBehind last)
  | first :: others => do
      set (first, others)
      return first

def integer (value : List Char) : ExprReader Int :=
  match value, Host.integer? value with
  | '+' :: _, _ | _, none => throw .notInteger
  | _, some number => return number

def isNothing (value : List Char) : Bool :=
  match value with
  | '-' :: c :: digits => (c :: digits).all (· = '0')
  | digits => digits.all (· = '0')

def truth (value : Bool) : List Char := if value then ['1'] else ['0']

/-- What a match of an expression at the start of a text comes to. -/
def matched (text pattern : List Char) : ExprReader (List Char) := do
  match Expression.ofChars { style := .basic } pattern with
  | .error fault => throw (.expression fault)
  | .ok expression =>
      let hasGroup : Bool := (pattern.zip pattern.tail).contains ('\\', '(')
      match Expression.matchAt {} (Expression.matchFuel text) expression ⟨none, text, []⟩ some with
      | some finish =>
          if hasGroup then
            return ((finish.groups.find? fun entry => entry.1 = 1).map (·.2)).getD []
          else return digitsOfNat (text.length - finish.rest.length)
      | none => return if hasGroup then [] else ['0']

/-- Operators from those that bind least, with what they come to. -/
def levels : List (List String) :=
  [["|"], ["&"], ["<", "<=", "=", "==", "!=", ">=", ">"], ["+", "-"], ["*", "/", "%"], [":"]]

def applied (operator : String) (left right : List Char) : ExprReader (List Char) := do
  let compared (order : Ordering → Bool) : List Char :=
    truth <| order <|
      match Host.integer? left, Host.integer? right with
      | some first, some second =>
          if first = second then .eq else if first < second then .lt else .gt
      | _, _ => if left = right then .eq else if isBefore left right then .lt else .gt
  match operator with
  | "|" => return if isNothing left then if isNothing right then ['0'] else right else left
  | "&" => return if isNothing left ∨ isNothing right then ['0'] else left
  | "<" => return compared (· == .lt)
  | "<=" => return compared (· != .gt)
  | "=" | "==" => return compared (· == .eq)
  | "!=" => return compared (· != .eq)
  | ">=" => return compared (· != .lt)
  | ">" => return compared (· == .gt)
  | ":" => matched left right
  | _ => do
      let first ← integer left
      let second ← integer right
      match operator with
      | "+" => return digitsOfInt (first + second)
      | "-" => return digitsOfInt (first - second)
      | "*" => return digitsOfInt (first * second)
      | "/" => if second = 0 then throw .divisionByZero else return digitsOfInt (first.tdiv second)
      | _ => if second = 0 then throw .divisionByZero else return digitsOfInt (first.tmod second)

def expression : Nat → List (List String) → ExprReader (List Char)
  | 0, _ => return []
  | fuel + 1, operators :: deeper => do
      let rec others : Nat → List Char → ExprReader (List Char)
        | 0, left => return left
        | steps + 1, left => do
            match ← take? operators with
            | none => return left
            | some operator => do
                let right ← expression fuel deeper
                others steps (← applied operator left right)
      let count := (← get).2.length
      let first ← expression fuel deeper
      others count first
  | fuel + 1, [] => do
      let operand : ExprReader (List Char) := expression fuel []
      match ← take? ["+", "length", "match", "index", "substr", "(", ")"] with
      | none => next
      | some "+" => next
      | some "length" => return digitsOfNat (← operand).length
      | some "match" => do
          let text ← operand
          matched text (← operand)
      | some "index" => do
          let text ← operand
          let set ← operand
          match text.findIdx? set.contains with
          | some place => return digitsOfNat (place + 1)
          | none => return ['0']
      | some "substr" => do
          let text ← operand
          let start ← operand
          let length ← operand
          match Host.integer? start, Host.integer? length with
          | some first, some count =>
              if first ≤ 0 ∨ count ≤ 0 then return []
              else return (text.drop (first.toNat - 1)).take count.toNat
          | _, _ => return []
      | some "(" => do
          let value ← expression fuel levels
          match ← take? [")"] with
          | some _ => return value
          | none => throw (.unclosed (← get).1)
      | some other => throw (.unexpected other.toList)

end ExprReader

def calculate : Utility := fun name arguments => do
  let operands := if arguments.head? = some ['-', '-'] then arguments.tail else arguments
  let failed (fault : ExprFault) : Execution Nat := do
    complain name fault.text
    match fault with
    | .missingOperand => hint name
    | _ => pure ()
    return 2
  match operands with
  | [] => failed .missingOperand
  | _ =>
      let reader := ExprReader.expression (20 * operands.length + 20) ExprReader.levels
      match reader.run ([], operands) with
      | .error fault => failed fault
      | .ok (_, _, extra :: _) => failed (.unexpected extra)
      | .ok (value, _, []) =>
          print (value ++ ['\n']) (if ExprReader.isNothing value then 1 else 0)

/-! ## Testing -/

def testMessage : Test.Fault → List Char
  | .notNumber text => "invalid integer ".toList ++ shown text
  | .noArgument operator => "missing argument after ".toList ++ shown operator
  | .unexpected word => "extra argument ".toList ++ shown word
  | .unclosed => "')' expected".toList
  | .needsUnary word => shown word ++ ": unary operator expected".toList
  | .needsBinary word => shown word ++ ": binary operator expected".toList
  | .tooMany => "too many arguments".toList

def test : Utility := fun name arguments => do
  let isBracket := lastComponent name = ['[']
  if isBracket ∧ arguments.getLast? ≠ some [']'] then do
    complain name "missing ']'".toList
    return 2
  else
    match Test.holds (← get) .extended (if isBracket then arguments.dropLast else arguments) with
    | .ok holds => return if holds then 0 else 1
    | .error fault => do
        complain name (testMessage fault)
        return 2

end PartitionBench.Host.Utility
