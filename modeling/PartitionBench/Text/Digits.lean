/-!
Contract: numerals as runs of digits.

Owns: the digit classes and the value of a run of digits in a base up to
sixteen.

Does not own: signs, fractions, exponents or the range of what may be stored.
-/

namespace PartitionBench.Text

/-- An ASCII decimal digit; the digits of other scripts are not among them. -/
def isDigit (c : Char) : Bool :=
  '0' ≤ c && c ≤ '9'

def hexValue? (c : Char) : Option Nat :=
  if '0' ≤ c ∧ c ≤ '9' then some (c.toNat - 0x30)
  else if 'a' ≤ c ∧ c ≤ 'f' then some (c.toNat - 0x61 + 10)
  else if 'A' ≤ c ∧ c ≤ 'F' then some (c.toNat - 0x41 + 10)
  else none

/-- The number that a run of digits denotes in the given base, reading on from
the number `read` of the digits before it. -/
def valueFrom (base read : Nat) : List Char → Nat
  | [] => read
  | c :: rest => valueFrom base (read * base + (hexValue? c).getD 0) rest

def decimalValue (digits : List Char) : Nat :=
  valueFrom 10 0 digits

end PartitionBench.Text
