/-!
Contract: characters as sixteen-bit units.

Owns: the units that characters take, the number of them, and the character that
two surrogate units make together. Job names are cleaned unit by unit, so a
character beyond U+FFFF leaves two marks.

Does not own: texts; a text is always a `String`, and units serve to measure and to
compare.
-/

namespace PartitionBench.Text

/-- The number of sixteen-bit units of a character. -/
def units (c : Char) : Nat :=
  if c.toNat < 0x10000 then 1 else 2

def unitsOf (c : Char) : List Nat :=
  if c.toNat < 0x10000 then [c.toNat]
  else
    let beyond := c.toNat - 0x10000
    [0xD800 + beyond / 0x400, 0xDC00 + beyond % 0x400]

def unitsOfAll (chars : List Char) : List Nat :=
  chars.flatMap unitsOf

def unitCount : List Char → Nat
  | [] => 0
  | c :: rest => units c + unitCount rest

/-- The unit is the first half of a pair. -/
def isLeadingUnit (unit : Nat) : Bool :=
  0xD800 ≤ unit && unit ≤ 0xDBFF

/-- The unit is the second half of a pair. -/
def isTrailingUnit (unit : Nat) : Bool :=
  0xDC00 ≤ unit && unit ≤ 0xDFFF

def pairValue (leading trailing : Nat) : Nat :=
  0x10000 + (leading - 0xD800) * 0x400 + (trailing - 0xDC00)

end PartitionBench.Text
