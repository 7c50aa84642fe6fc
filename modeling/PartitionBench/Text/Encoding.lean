import PartitionBench.Text.Utf8

/-!
Contract: bytes as text under an encoding that is named.

Owns: the encodings and their names, reading bytes as text under each of them, and
the text of bytes in base 16 and 64.

Does not own: reading bytes as UTF-8 (`Text.Utf8`).
-/

namespace PartitionBench.Text

/-- A way to read bytes as text. -/
inductive Encoding where
  | utf8
  /-- Two bytes a unit, the lower first. -/
  | utf16
  /-- One byte a character. -/
  | latin1
  /-- One byte a character, of which seven bits count. -/
  | ascii
  | base16
  | base64
  /-- Base 64 with the digits that a web address may hold, and no padding. -/
  | base64Web
  deriving DecidableEq, Repr

/-- The encoding with a name. Names are read in either case. -/
def Encoding.named? (name : String) : Option Encoding :=
  match String.ofList (name.toList.map Char.toLower) with
  | "utf8" | "utf-8" => some .utf8
  | "ucs2" | "ucs-2" | "utf16le" | "utf-16le" => some .utf16
  | "latin1" | "binary" => some .latin1
  | "ascii" => some .ascii
  | "hex" => some .base16
  | "base64" => some .base64
  | "base64url" => some .base64Web
  | _ => none

/-- The characters of sixteen-bit units, with a replacement for each half of a pair
that stands alone. -/
def ofUnits : List Nat → List Char
  | leading :: trailing :: rest =>
      if 0xD800 ≤ leading ∧ leading ≤ 0xDBFF ∧ 0xDC00 ≤ trailing ∧ trailing ≤ 0xDFFF then
        Char.ofNat (0x10000 + (leading - 0xD800) * 0x400 + (trailing - 0xDC00)) :: ofUnits rest
      else if 0xD800 ≤ leading ∧ leading ≤ 0xDFFF then replacement :: ofUnits (trailing :: rest)
      else Char.ofNat leading :: ofUnits (trailing :: rest)
  | [unit] => [if 0xD800 ≤ unit ∧ unit ≤ 0xDFFF then replacement else Char.ofNat unit]
  | [] => []

/-- The units that pairs of bytes make; an odd byte at the end is dropped. -/
def unitsOfBytes : List UInt8 → List Nat
  | low :: high :: rest => (low.toNat + 0x100 * high.toNat) :: unitsOfBytes rest
  | _ => []

def smallHexDigit (value : Nat) : Char :=
  if value < 10 then Char.ofNat (0x30 + value) else Char.ofNat (0x61 + value - 10)

/-- The digits of base 64 with two choices for the last two. -/
def base64Digit (last : Char × Char) (value : Nat) : Char :=
  if value < 26 then Char.ofNat (0x41 + value)
  else if value < 52 then Char.ofNat (0x61 + value - 26)
  else if value < 62 then Char.ofNat (0x30 + value - 52)
  else if value = 62 then last.1 else last.2

/-- The text of bytes in base 64. -/
def base64Of (last : Char × Char) (padding : List Char) : List UInt8 → List Char
  | first :: second :: third :: rest =>
      let word := (first.toNat * 0x100 + second.toNat) * 0x100 + third.toNat
      base64Digit last (word / 0x40000) :: base64Digit last (word / 0x1000 % 0x40)
        :: base64Digit last (word / 0x40 % 0x40) :: base64Digit last (word % 0x40)
        :: base64Of last padding rest
  | [first, second] =>
      let word := (first.toNat * 0x100 + second.toNat) * 4
      [base64Digit last (word / 0x1000), base64Digit last (word / 0x40 % 0x40),
        base64Digit last (word % 0x40)] ++ padding
  | [first] =>
      let word := first.toNat * 0x10
      [base64Digit last (word / 0x40), base64Digit last (word % 0x40)] ++ padding ++ padding
  | [] => []

/-- The value of a digit of base 64, under either choice of the last two digits. -/
def base64Value? (c : Char) : Option Nat :=
  if 'A' ≤ c ∧ c ≤ 'Z' then some (c.toNat - 0x41)
  else if 'a' ≤ c ∧ c ≤ 'z' then some (c.toNat - 0x61 + 26)
  else if '0' ≤ c ∧ c ≤ '9' then some (c.toNat - 0x30 + 52)
  else if c = '+' ∨ c = '-' then some 62
  else if c = '/' ∨ c = '_' then some 63
  else none

/-- The bytes that digits of base 64 denote. A digit that is left over is dropped. -/
def bytesOfDigits : List Nat → List UInt8
  | first :: second :: third :: fourth :: rest =>
      let word := ((first * 64 + second) * 64 + third) * 64 + fourth
      UInt8.ofNat (word / 0x10000) :: UInt8.ofNat (word / 0x100) :: UInt8.ofNat word
        :: bytesOfDigits rest
  | [first, second, third] =>
      let word := (first * 64 + second) * 64 + third
      [UInt8.ofNat (word / 0x400), UInt8.ofNat (word / 4)]
  | [first, second] => [UInt8.ofNat ((first * 64 + second) / 0x10)]
  | _ => []

/-- The bytes that sixteen-bit units denote in base 64. Of each unit the lower byte counts.
An equals sign ends the text, and what is no digit is left out. -/
def bytesOfBase64 (units : List Nat) : List UInt8 :=
  let chars := units.map fun unit => Char.ofNat (unit % 0x100)
  bytesOfDigits ((chars.takeWhile (· ≠ '=')).filterMap base64Value?)

def Encoding.read (encoding : Encoding) (bytes : List UInt8) : String :=
  match encoding with
  | .utf8 => decodeUtf8 bytes
  | .utf16 => String.ofList (ofUnits (unitsOfBytes bytes))
  | .latin1 => String.ofList (bytes.map fun byte => Char.ofNat byte.toNat)
  | .ascii => String.ofList (bytes.map fun byte => Char.ofNat (byte.toNat % 0x80))
  | .base16 =>
      String.ofList (bytes.flatMap fun byte =>
        [smallHexDigit (byte.toNat / 16), smallHexDigit (byte.toNat % 16)])
  | .base64 => String.ofList (base64Of ('+', '/') ['='] bytes)
  | .base64Web => String.ofList (base64Of ('-', '_') [] bytes)

end PartitionBench.Text
