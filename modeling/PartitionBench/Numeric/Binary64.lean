/-!
Contract: numbers as binary floating point with 53 significant bits stores them.

Owns:
- the stored numbers: a significand times a power of two, the two infinities and
  the undefined number;
- rounding of an exact quotient to the nearest stored number, a tie going to the
  even significand;
- the integer that a stored number is, its ceiling and its comparison with
  integers.

Does not own: decimal text (`Numeric.Shortest`, `Numeric.Decimal`). A zero has no
sign here, because no output shows one.
-/

namespace PartitionBench.Numeric

/-- A stored number. The finite ones are `significand · 2 ^ exponent`. -/
inductive Binary64 where
  | finite (significand exponent : Int)
  | infinite (negative : Bool)
  | undefined
  deriving DecidableEq, Repr

/-- The exponent of the finest grid of stored numbers. -/
def minExponent : Int := -1074

/-- The exponent of the coarsest grid of stored numbers. -/
def maxExponent : Int := 971

/-- The quotient rounded to the nearest natural number, a tie going to the even
one. -/
def nearestQuotient (numerator denominator : Nat) : Nat :=
  let quotient := numerator / denominator
  let twice := 2 * (numerator % denominator)
  if twice < denominator then quotient
  else if denominator < twice then quotient + 1
  else quotient + quotient % 2

/-- The quotient of two positive numbers, as numerator and denominator, after
division by `2 ^ exponent`. -/
def scaled (numerator denominator : Nat) (exponent : Int) : Nat × Nat :=
  if 0 ≤ exponent then (numerator, denominator * Nat.pow 2 exponent.toNat)
  else (numerator * Nat.pow 2 (-exponent).toNat, denominator)

/-- The exponent of the highest power of two that is not above the quotient of
two positive numbers. -/
def quotientLog2 (numerator denominator : Nat) : Int :=
  let guess : Int := (numerator.log2 : Int) - (denominator.log2 : Int)
  let parts := scaled numerator denominator guess
  if parts.2 ≤ parts.1 then guess else guess - 1

/-- The exponent of the grid on which a quotient of two positive numbers has 53
significant bits, or the finest grid when it is too small for that. -/
def gridExponent (numerator denominator : Nat) : Int :=
  max (quotientLog2 numerator denominator - 52) minExponent

namespace Binary64

def zero : Binary64 := .finite 0 0

/-- The stored number nearest to `± numerator / denominator`. A rounding that
reaches `2 ^ 53` steps moves to the next grid, and one beyond the coarsest grid
is infinite. -/
def ofQuotient (negative : Bool) (numerator denominator : Nat) : Binary64 :=
  if numerator = 0 then zero
  else
    let exponent := gridExponent numerator denominator
    let parts := scaled numerator denominator exponent
    let rounded := nearestQuotient parts.1 parts.2
    let significand := if rounded = Nat.pow 2 53 then Nat.pow 2 52 else rounded
    let exponent := if rounded = Nat.pow 2 53 then exponent + 1 else exponent
    if significand = 0 then zero
    else if maxExponent < exponent then .infinite negative
    else .finite (if negative then -(significand : Int) else significand) exponent

def ofInt (value : Int) : Binary64 :=
  ofQuotient (value < 0) value.natAbs 1

/-- The stored number nearest to the quotient of two integers. -/
def divide (numerator denominator : Int) : Binary64 :=
  if denominator = 0 then
    if numerator = 0 then undefined else .infinite (numerator < 0)
  else
    ofQuotient (decide (numerator < 0) != decide (denominator < 0)) numerator.natAbs
      denominator.natAbs

/-- The integer that a stored number is, if it is one. -/
def integer? : Binary64 → Option Int
  | .finite significand exponent =>
      if 0 ≤ exponent then some (significand * Nat.pow 2 exponent.toNat)
      else
        let scale : Int := Nat.pow 2 (-exponent).toNat
        if significand % scale = 0 then some (significand / scale) else none
  | .infinite _ => none
  | .undefined => none

/-- The integer that a stored number is; zero stands for the numbers that are
none. -/
def toInt (value : Binary64) : Int :=
  value.integer?.getD 0

/-- The least integer that is not below a stored number; zero stands for the
numbers that have none. -/
def ceiling : Binary64 → Int
  | .finite significand exponent =>
      if 0 ≤ exponent then significand * Nat.pow 2 exponent.toNat
      else -((-significand) / (Nat.pow 2 (-exponent).toNat : Int))
  | .infinite _ => 0
  | .undefined => 0

def isPositive : Binary64 → Bool
  | .finite significand _ => 0 < significand
  | .infinite negative => !negative
  | .undefined => false

/-- The stored number is at least the given integer. -/
def isAtLeast (bound : Int) : Binary64 → Bool
  | .finite significand exponent =>
      if 0 ≤ exponent then bound ≤ significand * Nat.pow 2 exponent.toNat
      else bound * Nat.pow 2 (-exponent).toNat ≤ significand
  | .infinite negative => !negative
  | .undefined => false

end Binary64

/-- The largest integer below which every integer is stored exactly. -/
def maxSafe : Int := 9007199254740991

/-- The integer is stored exactly, and so are both its neighbours. -/
def isSafe (value : Int) : Bool :=
  -maxSafe ≤ value && value ≤ maxSafe

end PartitionBench.Numeric
