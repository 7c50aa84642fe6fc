import PartitionBench.FileTree

/-!
Contract: texts as programs of the host see them.

Owns: the bytes of a text, each written as the character with its value, and the text that
bytes are read as.

Does not own: the encoding itself (`Text.Utf8`).
-/

namespace PartitionBench.Host

def bytesOf (text : String) : List Char :=
  text.toUTF8.toList.map fun byte => Char.ofNat byte.toNat

def valuesOf (bytes : List Char) : List UInt8 :=
  bytes.map fun byte => UInt8.ofNat byte.toNat

def textOf (bytes : List Char) : String :=
  Text.decodeUtf8 (valuesOf bytes)

def bytesIn (contents : Contents) : List Char :=
  contents.encoded.map fun byte => Char.ofNat byte.toNat

def digitsOfNat (number : Nat) : List Char :=
  (toString number).toList

/-- A number in decimal digits, with a sign if it is negative. -/
def digitsOfInt (number : Int) : List Char :=
  (toString number).toList

/-- The integer that a text is, if it consists of digits and perhaps a sign. -/
def integer? (text : List Char) : Option Int :=
  let unsigned (digits : List Char) : Option Nat :=
    if digits ≠ [] ∧ digits.all Char.isDigit then
      some (digits.foldl (fun value digit => value * 10 + (digit.toNat - 0x30)) 0)
    else none
  match text with
  | '-' :: digits => (unsigned digits).map fun value => -(value : Int)
  | '+' :: digits => (unsigned digits).map fun value => (value : Int)
  | digits => (unsigned digits).map fun value => (value : Int)

/-- The natural number that a text is, if it consists of digits. -/
def natural? (text : List Char) : Option Nat :=
  if text ≠ [] ∧ text.all Char.isDigit then (integer? text).map Int.toNat else none

/-- The lines of a text, each without its end, and whether the last one is ended. -/
def linesOf (text : List Char) : List (List Char) × Bool :=
  let pieces := Text.pieces '\n' text
  if pieces.getLast? = some [] then (pieces.dropLast, true) else (pieces, false)

def ofLines (lines : List (List Char)) : List Char :=
  lines.flatMap (· ++ ['\n'])

def isBefore : List Char → List Char → Bool
  | [], _ => true
  | _ :: _, [] => false
  | c :: left, d :: right => c < d || (c = d && isBefore left right)

end PartitionBench.Host
