import PartitionBench.Host.Session
import PartitionBench.Host.WordSize

/-!
Contract: tests of files, texts and numbers.

Owns:
- tests of one and of two operands;
- the expressions that the test commands of both dialects take, which differ in what they
  make of the number of words, and in their messages.

Does not own: conditions in double brackets (`Script.Execution`).
-/

namespace PartitionBench.Host.Test

open Script (Dialect)

/-- What is wrong with an expression. -/
inductive Fault where
  | notNumber (text : List Char)
  | noArgument (operator : List Char)
  | unexpected (word : List Char)
  | unclosed
  | needsUnary (word : List Char)
  | needsBinary (word : List Char)
  | tooMany
  deriving DecidableEq

def Fault.text : Fault → Dialect → List Char
  | .notNumber text, .standard => "Illegal number: ".toList ++ text
  | .notNumber text, .extended => text ++ ": integer expression expected".toList
  | .noArgument operator, .standard => operator ++ ": argument expected".toList
  | .noArgument _, .extended => "argument expected".toList
  | .unexpected [], _ => "unexpected operator".toList
  | .unexpected word, _ => word ++ ": unexpected operator".toList
  | .unclosed, .standard => "closing paren expected".toList
  | .unclosed, .extended => "`)' expected".toList
  | .needsUnary word, _ => word ++ ": unary operator expected".toList
  | .needsBinary word, _ => word ++ ": binary operator expected".toList
  | .tooMany, _ => "too many arguments".toList

def unaryOperators : List String :=
  ["-r", "-w", "-x", "-e", "-f", "-d", "-c", "-b", "-p", "-u", "-g", "-k", "-s", "-t", "-z", "-n",
    "-h", "-L", "-O", "-G", "-S"]

/-- Tests of one operand that only the extended dialect knows. -/
def extendedUnaryOperators : List String := ["-v", "-N", "-a", "-o", "-R"]

def binaryOperators : List String :=
  ["=", "!=", "<", ">", "-eq", "-ne", "-ge", "-gt", "-le", "-lt", "-nt", "-ot", "-ef"]

def isUnary (dialect : Dialect) (word : List Char) : Bool :=
  let text := String.ofList word
  unaryOperators.contains text
    || (dialect = .extended && extendedUnaryOperators.contains text)

def isBinary (dialect : Dialect) (word : List Char) : Bool :=
  let text := String.ofList word
  binaryOperators.contains text || (dialect = .extended && text = "==")

def integerOperand (text : List Char) : Except Fault Int :=
  let isSpace (c : Char) : Bool := c = ' ' || (Char.ofNat 9 ≤ c && c ≤ Char.ofNat 13)
  let trimmed := ((text.dropWhile isSpace).reverse.dropWhile isSpace).reverse
  match integer? trimmed with
  | some value =>
      if value < leastWord ∨ greatestWord < value then .error (.notNumber text) else .ok value
  | none => .error (.notNumber text)

def holdsOfFile (session : Session) (operator : String) (path : List Char) : Bool :=
  match session.machine.look session.process.location path with
  | .error _ => false
  | .ok (location, node) =>
      let isDevice := (device? location).isSome
      match operator, node with
      | "-e", _ | "-a", _ | "-r", _ | "-w", _ | "-O", _ | "-G", _ => true
      | "-d", .directory => true
      | "-x", .directory => true
      | "-s", .directory => true
      | "-x", .file _ isExecutable => isExecutable
      | "-f", .file _ _ => !isDevice
      | "-c", .file _ _ => isDevice
      | "-s", .file contents _ => (programAt? location).isSome || !(bytesIn contents).isEmpty
      | _, _ => false

def holdsUnary (session : Session) (operator operand : List Char) : Except Fault Bool :=
  match String.ofList operator with
  | "-z" => .ok operand.isEmpty
  | "-n" => .ok !operand.isEmpty
  | "-t" => do
      let _ ← integerOperand operand
      return false
  | "-v" =>
      .ok ((session.process.bindings.find? fun entry => entry.1 = operand).any fun entry =>
        entry.2.value.isSome || entry.2.items.isSome)
  | "-o" => .ok false
  | name => .ok (holdsOfFile session name operand)

def holdsBinary (session : Session) (operator left right : List Char) : Except Fault Bool :=
  let compare (test : Int → Int → Bool) : Except Fault Bool := do
    let first ← integerOperand left
    let second ← integerOperand right
    return test first second
  match String.ofList operator with
  | "=" | "==" => .ok (left = right)
  | "!=" => .ok (left ≠ right)
  | "<" => .ok (left ≠ right && isBefore left right)
  | ">" => .ok (left ≠ right && isBefore right left)
  | "-eq" => compare fun a b => a = b
  | "-ne" => compare fun a b => a ≠ b
  | "-gt" => compare fun a b => decide (b < a)
  | "-ge" => compare fun a b => decide (b ≤ a)
  | "-lt" => compare fun a b => decide (a < b)
  | "-le" => compare fun a b => decide (a ≤ b)
  | "-ef" =>
      .ok (match session.machine.look session.process.location left,
            session.machine.look session.process.location right with
        | .ok (first, _), .ok (second, _) => first = second
        | _, _ => false)
  | "-nt" =>
      .ok (holdsOfFile session "-e" left && !holdsOfFile session "-e" right)
  | "-ot" =>
      .ok (!holdsOfFile session "-e" left && holdsOfFile session "-e" right)
  | _ => .ok false

/-! ## The standard dialect -/

/-- What a word is taken for where an expression may begin. -/
inductive Standing where
  | finish
  | operand
  | unary
  | binary
  | negation
  | both
  | either
  | opening
  | closing
  deriving DecidableEq

/-- What the word at a place is taken for. A test of one operand stands for itself where no
operand can follow. -/
def standing (words : List (List Char)) (place : Nat) : Standing :=
  match words[place]? with
  | none => .finish
  | some word =>
      match String.ofList word with
      | "!" => .negation
      | "-a" => .both
      | "-o" => .either
      | "(" => if place + 1 < words.length then .opening else .operand
      | ")" => .closing
      | _ =>
          if isUnary .standard word then
            let isOperand :=
              match words[place + 1]?, words[place + 2]? with
              | none, _ => true
              | some _, none => false
              | some next, some _ => isBinary .standard next
            if isOperand then .operand else .unary
          else if isBinary .standard word then .binary
          else .operand

inductive Level where
  | either
  | both
  | negation
  | primary

/-- The value of an expression, and the place of its last word. `kind` is what the word at
the place is taken for. -/
def value (session : Session) (words : List (List Char)) :
    Nat → Level → Standing → Nat → Except Fault (Bool × Nat)
  | 0, _, _, place => .ok (false, place)
  | fuel + 1, level, kind, place => do
      match level with
      | .either => do
          let (first, last) ← value session words fuel .both kind place
          if standing words (last + 1) = .either then
            let (second, later) ←
              value session words fuel .either (standing words (last + 2)) (last + 2)
            return (first || second, later)
          else return (first, last)
      | .both => do
          let (first, last) ← value session words fuel .negation kind place
          if standing words (last + 1) = .both then
            let (second, later) ←
              value session words fuel .both (standing words (last + 2)) (last + 2)
            return (first && second, later)
          else return (first, last)
      | .negation =>
          if kind = .negation then
            let next := standing words (place + 1)
            let (inner, last) ←
              value session words fuel .negation next
                (if next = .finish then place else place + 1)
            return (!inner, last)
          else value session words fuel .primary kind place
      | .primary =>
          match kind with
          | .finish => return (false, place)
          | .opening => do
              let next := standing words (place + 1)
              if next = .closing then return (false, place + 1)
              else do
                let (inner, last) ← value session words fuel .either next (place + 1)
                if standing words (last + 1) = .closing then return (inner, last + 1)
                else throw .unclosed
          | _ =>
              let word := words.getD place []
              if kind = .unary then
                match words[place + 1]? with
                | none => throw (.noArgument word)
                | some operand => do
                    return (← holdsUnary session word operand, place + 1)
              else if (words[place + 1]?.map (isBinary .standard)).getD false then
                let operator := words.getD (place + 1) []
                match words[place + 2]? with
                | none => throw (.noArgument operator)
                | some right => do
                    return (← holdsBinary session operator word right, place + 2)
              else return (!word.isEmpty, place)

def standardValue (session : Session) (words : List (List Char)) : Except Fault Bool := do
  let fuel := 10 * words.length + 20
  let evaluate (words : List (List Char)) (kind : Standing) : Except Fault Bool := do
    let (result, last) ← value session words fuel .either kind 0
    if last + 1 < words.length then throw (.unexpected (words.getD last []))
    else return result
  let general : Except Fault Bool :=
    let isWrapped := words.head? = some ['('] && words.getLast? = some [')']
    if (words.length = 3 ∨ words.length = 4) ∧ isWrapped then
      let inner := (words.drop 1).dropLast
      evaluate inner (standing inner 0)
    else if (words.length = 3 ∨ words.length = 4) ∧ words.head? = some ['!'] then
      evaluate words .negation
    else evaluate words (standing words 0)
  match words with
  | [] => return false
  | [_, operator, _] => if isBinary .standard operator then evaluate words .operand else general
  | _ => general

/-! ## The extended dialect -/

/-- The value of an expression of many words, and the words behind it. -/
def longValue (session : Session) :
    Nat → Level → List (List Char) → Except Fault (Bool × List (List Char))
  | 0, _, words => .ok (false, words)
  | fuel + 1, level, words => do
      match level with
      | .either => do
          let (first, rest) ← longValue session fuel .both words
          match rest with
          | ['-', 'o'] :: others => do
              let (second, left) ← longValue session fuel .either others
              return (first || second, left)
          | _ => return (first, rest)
      | .both => do
          let (first, rest) ← longValue session fuel .negation words
          match rest with
          | ['-', 'a'] :: others => do
              let (second, left) ← longValue session fuel .both others
              return (first && second, left)
          | _ => return (first, rest)
      | .negation =>
          match words with
          | ['!'] :: rest => do
              let (inner, left) ← longValue session fuel .negation rest
              return (!inner, left)
          | _ => longValue session fuel .primary words
      | .primary =>
          match words with
          | [] => throw (.noArgument [])
          | ['('] :: rest => do
              let (inner, left) ← longValue session fuel .either rest
              match left with
              | [')'] :: others => return (inner, others)
              | _ => throw .unclosed
          | left :: operator :: right :: rest =>
              if isBinary .extended operator then
                return (← holdsBinary session operator left right, rest)
              else if isUnary .extended left then
                return (← holdsUnary session left operator, right :: rest)
              else return (!left.isEmpty, operator :: right :: rest)
          | [operator, operand] =>
              if isUnary .extended operator then
                return (← holdsUnary session operator operand, [])
              else return (!operator.isEmpty, [operand])
          | [word] => return (!word.isEmpty, [])

def extendedValue (session : Session) : List (List Char) → Except Fault Bool
  | [] => .ok false
  | [word] => .ok !word.isEmpty
  | [operator, operand] =>
      if operator = ['!'] then .ok operand.isEmpty
      else if isUnary .extended operator then holdsUnary session operator operand
      else .error (.needsUnary operator)
  | [left, operator, right] =>
      if isBinary .extended operator then holdsBinary session operator left right
      else if operator = ['-', 'a'] then .ok (!left.isEmpty && !right.isEmpty)
      else if operator = ['-', 'o'] then .ok (!left.isEmpty || !right.isEmpty)
      else if left = ['!'] then
        (extendedValue session [operator, right]).map not
      else if left = ['('] ∧ right = [')'] then .ok !operator.isEmpty
      else .error (.needsBinary operator)
  | ['!'] :: rest =>
      if rest.length = 3 then (extendedValue session rest).map not
      else do
        let (result, left) ← longValue session (10 * rest.length + 20) .either (['!'] :: rest)
        if left.isEmpty then return result else throw .tooMany
  | words => do
      let (result, left) ← longValue session (10 * words.length + 20) .either words
      if left.isEmpty then return result else throw .tooMany
  termination_by words => words.length

def holds (session : Session) (dialect : Dialect) (words : List (List Char)) :
    Except Fault Bool :=
  match dialect with
  | .standard => standardValue session words
  | .extended => extendedValue session words

end PartitionBench.Host.Test
