import PartitionBench.Numeric.Decimal

/-!
Contract: the shortest decimal text of a stored number.

Owns:
- the interval of the reals that round to a stored number;
- the fewest decimal digits that read back, and of those the nearest;
- the layout: plain digits up to 21 places, a point from six places behind it,
  and a signed exponent outside these bounds.

Does not own: texts of integers that are known to be small; they are plain
decimal digits and agree with this layout.
-/

namespace PartitionBench.Numeric

/-- A positive number given by its digits and the place of its point: it is
`0.digits · 10 ^ point`. -/
structure DecimalForm where
  digits : List Char
  point : Int

/-- A positive quotient lies in the interval of the reals that round to the
number `significand · 2 ^ exponent`. The ends belong to it when the significand
is even, and the lower end is nearer when the number opens a coarser grid. -/
def readsBack (significand : Nat) (exponent : Int) (numerator denominator : Nat) : Bool :=
  let parts := scaled numerator denominator (exponent - 2)
  let narrow := significand = Nat.pow 2 52 && minExponent < exponent
  let low := if narrow then 4 * significand - 1 else 4 * significand - 2
  let high := 4 * significand + 2
  if significand % 2 = 0 then low * parts.2 ≤ parts.1 && parts.1 ≤ high * parts.2
  else low * parts.2 < parts.1 && parts.1 < high * parts.2

/-- The number of decimal places before the point of a positive quotient: the
least `p` with `numerator / denominator < 10 ^ p`, searched downwards from
`p`. -/
def pointFrom (numerator denominator : Nat) : Nat → Int → Int
  | 0, p => p
  | steps + 1, p =>
      let below :=
        if 0 ≤ p - 1 then numerator < denominator * Nat.pow 10 (p - 1).toNat
        else numerator * Nat.pow 10 (1 - p).toNat < denominator
      if below then pointFrom numerator denominator steps (p - 1) else p

/-- The number of decimal places before the point of a positive quotient. -/
def decimalPoint (numerator denominator : Nat) : Int :=
  let guess : Int := (decimalWidth numerator : Int) - (decimalWidth denominator : Int) + 1
  pointFrom numerator denominator 3 guess

/-- Of the two neighbours of `numerator / denominator` among the numbers with
`count` digits, the nearer one that reads back, if either does. Of two that are
equally near the even one counts as the nearer. -/
def digitsOfLength (significand : Nat) (exponent : Int) (numerator denominator : Nat)
    (point : Int) (count : Nat) : Option Nat :=
  let places : Int := count - point
  let grid : Nat × Nat :=
    if 0 ≤ places then (numerator * Nat.pow 10 places.toNat, denominator)
    else (numerator, denominator * Nat.pow 10 (-places).toNat)
  let below := grid.1 / grid.2
  let back (digits : Nat) : Bool :=
    if 0 ≤ places then readsBack significand exponent digits (Nat.pow 10 places.toNat)
    else readsBack significand exponent (digits * Nat.pow 10 (-places).toNat) 1
  let twice := 2 * (grid.1 % grid.2)
  let upperNearer := grid.2 < twice || (grid.2 = twice && below % 2 = 1)
  let first := if upperNearer then below + 1 else below
  let second := if upperNearer then below else below + 1
  if back first then some first else if back second then some second else none

/-- The first length at which some number of that many digits reads back. -/
def shortestFrom (significand : Nat) (exponent : Int) (numerator denominator : Nat)
    (point : Int) : Nat → Nat → Nat × Nat
  | 0, count => (0, count)
  | steps + 1, count =>
      match digitsOfLength significand exponent numerator denominator point count with
      | some digits => (digits, count)
      | none =>
          shortestFrom significand exponent numerator denominator point steps (count + 1)

/-- The shortest decimal form of a positive stored number. Trailing zeros carry
no information and are dropped. -/
def shortestForm (significand : Nat) (exponent : Int) : DecimalForm :=
  let numerator := if 0 ≤ exponent then significand * Nat.pow 2 exponent.toNat else significand
  let denominator := if 0 ≤ exponent then 1 else Nat.pow 2 (-exponent).toNat
  let point := decimalPoint numerator denominator
  let found := shortestFrom significand exponent numerator denominator point 18 1
  let digits := Nat.toDigits 10 found.1
  { digits := (digits.reverse.dropWhile (· = '0')).reverse
    point := point + ((digits.length : Int) - found.2) }

def exponentText (value : Int) : List Char :=
  if value < 0 then '-' :: Nat.toDigits 10 value.natAbs
  else '+' :: Nat.toDigits 10 value.natAbs

def DecimalForm.layout (form : DecimalForm) : List Char :=
  let count := form.digits.length
  if (count : Int) ≤ form.point ∧ form.point ≤ 21 then
    form.digits ++ List.replicate (form.point.toNat - count) '0'
  else if 0 < form.point ∧ form.point ≤ 21 then
    form.digits.take form.point.toNat ++ '.' :: form.digits.drop form.point.toNat
  else if -6 < form.point ∧ form.point ≤ 0 then
    '0' :: '.' :: (List.replicate (-form.point).toNat '0' ++ form.digits)
  else
    match form.digits with
    | [] => []
    | [digit] => digit :: 'e' :: exponentText (form.point - 1)
    | digit :: more => digit :: '.' :: (more ++ 'e' :: exponentText (form.point - 1))

/-- The shortest text of a stored number with a significand of at most 53 bits. -/
def Binary64.shortestText : Binary64 → String
  | .undefined => "NaN"
  | .infinite negative => if negative then "-Infinity" else "Infinity"
  | .finite significand exponent =>
      if significand = 0 then "0"
      else
        let body := (shortestForm significand.natAbs exponent).layout
        String.ofList (if significand < 0 then '-' :: body else body)

/-- The text of an integer. Integers that are stored exactly are written in plain
digits; a larger one is written as the stored number nearest to it. -/
def integerText (value : Int) : String :=
  if isSafe value then toString value else (Binary64.ofInt value).shortestText

def Binary64.text (value : Binary64) : String :=
  match value.integer? with
  | some value => integerText value
  | none => value.shortestText

end PartitionBench.Numeric
