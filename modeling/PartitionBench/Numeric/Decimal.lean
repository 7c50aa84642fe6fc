import PartitionBench.Numeric.Binary64

/-!
Contract: stored numbers from decimal notation.

Owns: the number nearest to a decimal significand with a power of ten.

Does not own: the grammars of numerals, which belong to the formats.
-/

namespace PartitionBench.Numeric

/-- How many decimal digits a natural number has; zero has one. -/
def decimalWidth (value : Nat) : Nat :=
  (Nat.toDigits 10 value).length

/-- The stored number nearest to `± digits · 10 ^ scale`. Values far outside the
range of stored numbers are settled by their magnitude alone, so that a large
`scale` costs nothing. -/
def Binary64.ofDecimal (negative : Bool) (digits : Nat) (scale : Int) : Binary64 :=
  if digits = 0 then zero
  else if 400 < scale + decimalWidth digits then .infinite negative
  else if scale + decimalWidth digits < -400 then zero
  else if 0 ≤ scale then ofQuotient negative (digits * Nat.pow 10 scale.toNat) 1
  else ofQuotient negative digits (Nat.pow 10 (-scale).toNat)

end PartitionBench.Numeric
