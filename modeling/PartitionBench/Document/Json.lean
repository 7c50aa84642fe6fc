import PartitionBench.Document.Value
import PartitionBench.Numeric.Decimal
import PartitionBench.Text.Digits
import PartitionBench.Text.Split
import PartitionBench.Text.Units

/-!
Contract: reading document values from JSON text.

Owns: the JSON grammar, without extensions: strings with their escapes, numerals,
lists and records. A record lists its fields in table order, and of two fields
with one name the later counts.

Does not own: what the values are used for.
-/

namespace PartitionBench.Document.Json

open PartitionBench.Numeric

def isSpace (c : Char) : Bool :=
  c = ' ' || c = '\t' || c = '\n' || c = '\r'

def skipSpace (chars : List Char) : List Char :=
  chars.dropWhile isSpace

def unit? (a b c d : Char) : Option Nat :=
  if [a, b, c, d].all (fun digit => (Text.hexValue? digit).isSome) then
    some (Text.valueFrom 16 0 [a, b, c, d])
  else none

def escape? (c : Char) : Option Char :=
  match c with
  | '"' => some '"'
  | '\\' => some '\\'
  | '/' => some '/'
  | 'b' => some '\x08'
  | 'f' => some '\x0c'
  | 'n' => some '\n'
  | 'r' => some '\r'
  | 't' => some '\t'
  | _ => none

/-- The trailing unit that an escape gives at the start of `chars`, and what
follows it. -/
def trailingUnit? : List Char → Option (Nat × List Char)
  | '\\' :: 'u' :: a :: b :: c :: d :: rest =>
      match unit? a b c d with
      | some unit => if Text.isTrailingUnit unit then some (unit, rest) else none
      | none => none
  | _ => none

/-- The rest of a string whose characters so far are `read` in reverse, and what
follows the closing quote. Each step of `fuel` reads one character. Half of a
surrogate pair stands for no character and is read as the replacement. -/
def readString (read : List Char) : Nat → List Char → Option (List Char × List Char)
  | 0, _ => none
  | _ + 1, [] => none
  | fuel + 1, '\\' :: 'u' :: a :: b :: c :: d :: rest =>
      match unit? a b c d with
      | none => none
      | some unit =>
          if Text.isLeadingUnit unit then
            match trailingUnit? rest with
            | some (trailing, rest) =>
                readString (Char.ofNat (Text.pairValue unit trailing) :: read) fuel rest
            | none => readString (Char.ofNat 0xFFFD :: read) fuel rest
          else if Text.isTrailingUnit unit then
            readString (Char.ofNat 0xFFFD :: read) fuel rest
          else readString (Char.ofNat unit :: read) fuel rest
  | fuel + 1, '\\' :: c :: rest =>
      match escape? c with
      | some c => readString (c :: read) fuel rest
      | none => none
  | fuel + 1, c :: rest =>
      if c = '"' then some (read.reverse, rest)
      else if c.toNat < 0x20 then none
      else readString (c :: read) fuel rest

def digits (chars : List Char) : List Char × List Char :=
  (chars.takeWhile Text.isDigit, chars.dropWhile Text.isDigit)

/-- The exponent of a numeral and what follows it; a numeral need not have one. -/
def exponent? : List Char → Option (Int × List Char)
  | c :: rest =>
      if c = 'e' ∨ c = 'E' then
        let negative := rest.head? = some '-'
        let unsigned := if negative ∨ rest.head? = some '+' then rest.drop 1 else rest
        let found := digits unsigned
        let value : Int := Text.decimalValue found.1
        if found.1 = [] then none else some (if negative then -value else value, found.2)
      else some (0, c :: rest)
  | [] => some (0, [])

/-- The fraction digits of a numeral and what follows them; a numeral need not
have any, but a point is followed by at least one. -/
def fraction? : List Char → Option (List Char × List Char)
  | '.' :: rest =>
      let found := digits rest
      if found.1 = [] then none else some found
  | chars => some ([], chars)

/-- The number at the start of a text and what follows it. The digits before the
point do not begin with a zero unless there is only one. -/
def number? (chars : List Char) : Option (Binary64 × List Char) :=
  let negative := chars.head? = some '-'
  let whole := digits (if negative then chars.drop 1 else chars)
  if whole.1 = [] ∨ (whole.1.head? = some '0' ∧ whole.1.length ≠ 1) then none
  else
    match fraction? whole.2 with
    | none => none
    | some (fraction, rest) =>
        match exponent? rest with
        | none => none
        | some (exponent, rest) =>
            some (Binary64.ofDecimal negative (Text.decimalValue (whole.1 ++ fraction))
              (exponent - fraction.length), rest)

def wordValue? (chars : List Char) : Option (Value × List Char) :=
  match Text.dropOpening? "null".toList chars with
  | some rest => some (.null, rest)
  | none =>
      match Text.dropOpening? "true".toList chars with
      | some rest => some (.truth true, rest)
      | none =>
          match Text.dropOpening? "false".toList chars with
          | some rest => some (.truth false, rest)
          | none => none

mutual

/-- The value at the start of a text and what follows it. Each step of `fuel`
reads at least one character. -/
def readValue : Nat → List Char → Option (Value × List Char)
  | 0, _ => none
  | fuel + 1, chars =>
      match skipSpace chars with
      | '\x7b' :: rest =>
          match skipSpace rest with
          | '\x7d' :: rest => some (.record [], rest)
          | rest => readFields [] fuel rest
      | '[' :: rest =>
          match skipSpace rest with
          | ']' :: rest => some (.list [], rest)
          | rest => readItems [] fuel rest
      | '"' :: rest =>
          (readString [] (rest.length + 1) rest).map fun (text, rest) =>
            (.text (String.ofList text), rest)
      | chars =>
          match number? chars with
          | some (value, rest) => some (.number value, rest)
          | none => wordValue? chars

/-- The remaining items of a list, at least one, whose items so far are `read` in
reverse. -/
def readItems (read : List Value) : Nat → List Char → Option (Value × List Char)
  | 0, _ => none
  | fuel + 1, chars =>
      match readValue fuel chars with
      | none => none
      | some (value, rest) =>
          match skipSpace rest with
          | ',' :: rest => readItems (value :: read) fuel rest
          | ']' :: rest => some (.list (value :: read).reverse, rest)
          | _ => none

/-- The remaining fields of a record, at least one, whose fields so far are `read`
in reverse. -/
def readFields (read : List (String × Value)) : Nat → List Char → Option (Value × List Char)
  | 0, _ => none
  | fuel + 1, chars =>
      match skipSpace chars with
      | '"' :: rest =>
          match readString [] (rest.length + 1) rest with
          | none => none
          | some (name, rest) =>
              match skipSpace rest with
              | ':' :: rest =>
                  match readValue fuel rest with
                  | none => none
                  | some (value, rest) =>
                      let read := (String.ofList name, value) :: read
                      match skipSpace rest with
                      | ',' :: rest => readFields read fuel rest
                      | '\x7d' :: rest => some (.record (Table.ofEntries read.reverse), rest)
                      | _ => none
              | _ => none
      | _ => none

end

/-- The value of a JSON text, if it is one. -/
def read? (text : String) : Option Value :=
  let chars := text.toList
  match readValue (2 * chars.length + 2) chars with
  | some (value, rest) => if skipSpace rest = [] then some value else none
  | none => none

end PartitionBench.Document.Json
