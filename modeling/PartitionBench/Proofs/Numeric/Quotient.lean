import Mathlib.Data.Rat.Floor
import PartitionBench.Proofs.Numeric.Division
import PartitionBench.Proofs.Numeric.Nearest

/-!
Contract: quotients of integers of at most 53 bits.

Owns:
- the grid on which such a quotient is rounded, and the steps that it is rounded to;
- that division gives the nearest number with 53 significant bits;
- that the rounded quotient and the exact one have the same ceiling.

Does not own: quotients that are too small or too large for 53 bits.
-/

namespace PartitionBench.Numeric

/-! ## Rational numbers -/

/-- The rational number that a stored number is; zero stands for the numbers that are none. -/
def Binary64.toRat : Binary64 → ℚ
  | .finite significand exponent => significand * 2 ^ exponent
  | .infinite _ => 0
  | .undefined => 0

/-- The ceiling of a stored number is the ceiling of the rational number that it is. -/
theorem ceiling_eq (number : Binary64) : number.ceiling = ⌈number.toRat⌉ := by
  cases number with
  | infinite | undefined => rfl
  | finite significand exponent =>
      rw [Binary64.ceiling, Binary64.toRat]
      split
      next isNatural =>
        obtain ⟨steps, rfl⟩ := Int.eq_ofNat_of_zero_le isNatural
        have whole : (significand : ℚ) * 2 ^ (steps : ℤ) = (significand * 2 ^ steps : ℤ) := by
          push_cast
          rfl
        rw [Int.toNat_natCast, whole, Int.ceil_intCast]
        rfl
      next isNegative =>
        obtain ⟨places, isPlaces⟩ := Int.eq_ofNat_of_zero_le (by omega : 0 ≤ -exponent)
        obtain rfl : exponent = -(places : Int) := by omega
        have parts : (significand : ℚ) * 2 ^ (-(places : Int)) =
            significand / (2 ^ places : Nat) := by
          rw [zpow_neg, zpow_natCast, div_eq_mul_inv]
          push_cast
          rfl
        rw [parts, Rat.ceil_intCast_div_natCast, neg_neg, Int.toNat_natCast]
        rfl

theorem RoundsTo.near {numerator denominator whole : Nat} (positive : 0 < denominator)
    (rounds : RoundsTo numerator denominator whole) :
    |(numerator : ℚ) / denominator - (whole : ℤ)| ≤ 1 / 2 ∧
      (|(numerator : ℚ) / denominator - (whole : ℤ)| = 1 / 2 → Even (whole : ℤ)) := by
  have isPositive : (0 : ℚ) < denominator := by exact_mod_cast positive
  have lower : (2 * (whole * denominator) : ℚ) ≤ 2 * numerator + denominator := by
    exact_mod_cast rounds.lower
  have upper : (2 * numerator : ℚ) ≤ 2 * (whole * denominator) + denominator := by
    exact_mod_cast rounds.upper
  have difference : (numerator : ℚ) / denominator - (whole : ℤ) =
      (numerator - whole * denominator) / denominator := by
    push_cast
    field_simp
  rw [difference, abs_div, abs_of_pos isPositive, div_le_iff₀ isPositive, div_eq_iff isPositive.ne']
  refine ⟨abs_le.mpr ⟨by linarith, by linarith⟩, fun tied => ?_⟩
  rw [Int.even_coe_nat, Nat.even_iff]
  by_contra notEven
  obtain ⟨strictLower, strictUpper⟩ := rounds.even (by omega)
  have lowerApart : (2 * (whole * denominator) : ℚ) < 2 * numerator + denominator := by
    exact_mod_cast strictLower
  have upperApart : (2 * numerator : ℚ) < 2 * (whole * denominator) + denominator := by
    exact_mod_cast strictUpper
  exact absurd tied (abs_lt.mpr ⟨by linarith, by linarith⟩).ne

/-! ## The grid of a quotient of small numbers -/

/-- A quotient has its 53 bits on the grid with so many binary places. -/
structure OnGrid (numerator denominator places : Nat) : Prop where
  grid : gridExponent numerator denominator = -(places : Int)
  reaches : denominator * 2 ^ 52 ≤ numerator * 2 ^ places
  below : numerator * 2 ^ places < denominator * 2 ^ 53

/-- The quotient of two numbers of at most 53 bits has its 53 bits on a grid that is no coarser
than the integers. -/
theorem onGrid_of_small {numerator denominator : Nat} (numeratorPositive : 0 < numerator)
    (numeratorSmall : numerator < 2 ^ 53) (denominatorPositive : 0 < denominator)
    (denominatorSmall : denominator < 2 ^ 53) : ∃ places, OnGrid numerator denominator places := by
  have numeratorShort : numerator.log2 < 53 :=
    (Nat.log2_lt (Nat.pos_iff_ne_zero.mp numeratorPositive)).mpr numeratorSmall
  have denominatorShort : denominator.log2 < 53 :=
    (Nat.log2_lt (Nat.pos_iff_ne_zero.mp denominatorPositive)).mpr denominatorSmall
  have fromAbove := quotientLog2_le numerator denominator
  have fromBelow := le_quotientLog2 numerator denominator
  have reaches := @quotient_reaches numerator denominator numeratorPositive
  have below := @quotient_lt_next numerator denominator denominatorPositive
  have grid : gridExponent numerator denominator = quotientLog2 numerator denominator - 52 := by
    rw [gridExponent, minExponent]
    omega
  obtain ⟨places, isPlaces⟩ : ∃ places : Nat, 52 - quotientLog2 numerator denominator = places :=
    Int.eq_ofNat_of_zero_le (by omega)
  have ofLog : quotientLog2 numerator denominator + places = (52 : Nat) := by omega
  have ofNext : quotientLog2 numerator denominator + 1 + places = (53 : Nat) := by omega
  rw [← Nat.not_lt, ← Nat.mul_one (scaled numerator denominator _).2, scaled_lt_iff ofLog,
    Nat.mul_one, Nat.not_lt] at reaches
  rw [scaled_lt_iff ofNext, Nat.mul_one] at below
  exact ⟨places, by omega, reaches, below⟩

section OnGrid

variable {numerator denominator places : Nat} (onGrid : OnGrid numerator denominator places)
  (positive : 0 < denominator)

include onGrid positive

/-- On its grid the quotient is rounded to a whole number. -/
theorem OnGrid.isNearest_rounded :
    IsNearest (((numerator * 2 ^ places : Nat) : ℚ) / denominator)
      (nearestQuotient (numerator * 2 ^ places) denominator : ℤ) := by
  have isPositive : (0 : ℚ) < denominator := by exact_mod_cast positive
  have rounds := nearestQuotient_rounds (numerator * 2 ^ places) positive
  obtain ⟨near, tie⟩ := rounds.near positive
  refine isNearest_of_near ?_ ?_ near tie
  · rw [le_div_iff₀ isPositive, mul_comm (2 ^ 52 : ℚ)]
    exact_mod_cast onGrid.reaches
  · rw [div_lt_iff₀ isPositive, mul_comm (2 ^ 53 : ℚ)]
    exact_mod_cast onGrid.below

/-- The rounded quotient as a rational number. A rounding that reaches `2 ^ 53` steps is stored on
the next grid, where it is the same number. -/
theorem OnGrid.toRat (negative : Bool) :
    (Binary64.ofQuotient negative numerator denominator).toRat =
      (signed negative (nearestQuotient (numerator * 2 ^ places) denominator) : ℚ) *
        2 ^ (-(places : ℤ)) := by
  have notZero : numerator ≠ 0 := by
    rintro rfl
    have reaches := onGrid.reaches
    omega
  have someSteps : 0 < nearestQuotient (numerator * 2 ^ places) denominator := by
    refine nearestQuotient_pos positive (le_trans ?_ onGrid.reaches)
    exact Nat.le_mul_of_pos_right _ (by decide)
  have maximal : maxExponent = 971 := rfl
  unfold Binary64.ofQuotient
  dsimp only
  rw [if_neg notZero, onGrid.grid, scaled_places]
  dsimp only
  generalize nearestQuotient (numerator * 2 ^ places) denominator = rounded at *
  by_cases carried : rounded = Nat.pow 2 53
  · have inRange : ¬ maxExponent < -(places : ℤ) + 1 := by omega
    rw [if_pos carried, if_pos carried, if_neg (by decide), if_neg inRange, carried,
      Binary64.toRat, zpow_add₀ two_ne_zero, mul_comm _ ((2 : ℚ) ^ (1 : ℤ)), ← mul_assoc]
    cases negative <;> norm_num [signed]
  · have inRange : ¬ maxExponent < -(places : ℤ) := by omega
    rw [if_neg carried, if_neg carried, if_neg (by omega), if_neg inRange, Binary64.toRat]
    rfl

end OnGrid

/-! ## Division -/

/-- The magnitude of a rounded quotient: a whole number of steps, which is the nearest one. -/
theorem ofQuotient_on_grid {numerator denominator : Nat} (numeratorPositive : 0 < numerator)
    (numeratorSmall : numerator < 2 ^ 53) (denominatorPositive : 0 < denominator)
    (denominatorSmall : denominator < 2 ^ 53) :
    ∃ places rounded : Nat, denominator < 2 ^ (places + 1) ∧
      IsNearest ((numerator : ℚ) / denominator * 2 ^ places) (rounded : ℤ) ∧
      |(numerator : ℚ) / denominator * 2 ^ places - (rounded : ℤ)| ≤ 1 / 2 ∧
      ∀ negative, (Binary64.ofQuotient negative numerator denominator).toRat =
        (signed negative rounded : ℚ) * 2 ^ (-(places : ℤ)) := by
  obtain ⟨places, onGrid⟩ := onGrid_of_small numeratorPositive numeratorSmall denominatorPositive
    denominatorSmall
  have moved : ((numerator * 2 ^ places : Nat) : ℚ) / denominator =
      (numerator : ℚ) / denominator * 2 ^ places := by
    push_cast
    ring
  have isNearest := onGrid.isNearest_rounded denominatorPositive
  have near := ((nearestQuotient_rounds (numerator * 2 ^ places) denominatorPositive).near
    denominatorPositive).1
  rw [moved] at isNearest near
  refine ⟨places, _, ?_, isNearest, near, onGrid.toRat denominatorPositive⟩
  have steps : numerator * 2 ^ places < 2 ^ 53 * 2 ^ places :=
    Nat.mul_lt_mul_of_pos_right numeratorSmall (Nat.two_pow_pos places)
  have reaches := onGrid.reaches
  rw [Nat.pow_succ]
  omega

/-- Rounding leads a quotient neither onto an integer nor across one, because it moves it by half a
step, which is less than a part of the denominator. -/
theorem ceil_of_near {numerator denominator rounded : Int} {places : Nat}
    (positive : 0 < denominator) (fine : denominator < 2 ^ (places + 1))
    (near : |(numerator : ℚ) / denominator * 2 ^ places - rounded| ≤ 1 / 2) :
    ⌈(rounded : ℚ) * 2 ^ (-(places : ℤ))⌉ = ⌈(numerator : ℚ) / denominator⌉ := by
  obtain ⟨fromAbove, fromBelow⟩ := abs_le.mp near
  have denominatorPositive : (0 : ℚ) < denominator := by exact_mod_cast positive
  have steps : (0 : ℚ) < 2 ^ places := by positivity
  have part : 1 / 2 < (2 : ℚ) ^ places / denominator := by
    have finer : (denominator : ℚ) < 2 ^ (places + 1) := by exact_mod_cast fine
    rw [lt_div_iff₀ denominatorPositive]
    rw [pow_succ] at finer
    linarith
  have notAbove := Int.le_ceil ((numerator : ℚ) / denominator)
  have isLeast := Int.ceil_lt_add_one ((numerator : ℚ) / denominator)
  generalize ⌈(numerator : ℚ) / denominator⌉ = ceiling at *
  rw [zpow_neg, zpow_natCast, ← div_eq_mul_inv, Int.ceil_eq_iff, lt_div_iff₀ steps,
    div_le_iff₀ steps]
  constructor
  · have next : (ceiling - 1) * denominator + 1 ≤ numerator := by
      have before : ((ceiling : ℚ) - 1) * denominator < numerator := by
        rw [← lt_div_iff₀ denominatorPositive]
        linarith
      exact_mod_cast before
    have above : (ceiling : ℚ) - 1 + 1 / denominator ≤ (numerator : ℚ) / denominator := by
      rw [le_div_iff₀ denominatorPositive, add_mul, div_mul_cancel₀ _ denominatorPositive.ne']
      exact_mod_cast next
    calc
      ((ceiling : ℚ) - 1) * 2 ^ places
          < ((ceiling : ℚ) - 1) * 2 ^ places + 2 ^ places / denominator - 1 / 2 := by linarith
      _ = ((ceiling : ℚ) - 1 + 1 / denominator) * 2 ^ places - 1 / 2 := by ring
      _ ≤ (numerator : ℚ) / denominator * 2 ^ places - 1 / 2 := by
        have moved := mul_le_mul_of_nonneg_right above steps.le
        linarith
      _ ≤ rounded := by linarith
  · have notBelow : (rounded : ℚ) < (ceiling * 2 ^ places + 1 : ℤ) := by
      have moved := mul_le_mul_of_nonneg_right notAbove steps.le
      push_cast
      linarith
    exact_mod_cast Int.lt_add_one_iff.mp (by exact_mod_cast notBelow)

theorem divide_zero {denominator : Int} (positive : 0 < denominator) :
    (Binary64.divide 0 denominator).toRat = 0 := by
  rw [divide_of_pos positive]
  simp [Binary64.ofQuotient, Binary64.zero, Binary64.toRat]

section Divide

variable {numerator denominator : Int} (small : numerator.natAbs < 2 ^ 53)
  (positive : 0 < denominator) (bounded : denominator < 2 ^ 53)

include small positive bounded

/-- A rounded quotient is a whole number of steps, and a step is less than two parts of the
denominator. -/
theorem divide_on_grid (notZero : numerator ≠ 0) :
    ∃ (places : Nat) (rounded : ℤ), denominator < 2 ^ (places + 1) ∧
      IsNearest ((numerator : ℚ) / denominator * 2 ^ places) rounded ∧
      |(numerator : ℚ) / denominator * 2 ^ places - rounded| ≤ 1 / 2 ∧
      (Binary64.divide numerator denominator).toRat = rounded * 2 ^ (-(places : ℤ)) := by
  obtain ⟨divisor, rfl⟩ := Int.eq_ofNat_of_zero_le positive.le
  have divisorSmall : divisor < 2 ^ 53 := by exact_mod_cast bounded
  obtain ⟨places, rounded, fine, isNearest, near, isRounded⟩ := ofQuotient_on_grid
    (Int.natAbs_pos.mpr notZero) small (Int.natCast_pos.mp positive) divisorSmall
  have magnitude := isRounded (decide (numerator < 0))
  rw [divide_of_pos positive, Int.natAbs_natCast]
  obtain ⟨value, rfl | rfl⟩ := Int.eq_nat_or_neg numerator
  · have notNegative : decide ((value : Int) < 0) = false := decide_eq_false (by omega)
    rw [Int.natAbs_natCast] at isNearest near magnitude
    rw [notNegative] at magnitude
    refine ⟨places, rounded, by exact_mod_cast fine, isNearest, near, ?_⟩
    rw [notNegative]
    exact magnitude
  · have isNegative : decide (-(value : Int) < 0) = true := decide_eq_true (by omega)
    rw [Int.natAbs_neg, Int.natAbs_natCast] at isNearest near magnitude
    rw [isNegative] at magnitude
    have mirrored : ((-(value : Int) : Int) : ℚ) / (divisor : Int) * 2 ^ places =
        -((value : ℚ) / divisor * 2 ^ places) := by
      push_cast
      ring
    refine ⟨places, -rounded, by exact_mod_cast fine, ?_, ?_, ?_⟩
    · rw [mirrored, Int.cast_neg]
      exact isNearest.neg
    · rw [mirrored, Int.cast_neg, ← abs_neg]
      convert near using 2
      ring
    · rw [isNegative, Int.natAbs_neg, Int.natAbs_natCast, magnitude]
      rfl

/-- Division rounds to the nearest number of 53 significant bits. -/
theorem divide_isNearest :
    IsNearest ((numerator : ℚ) / denominator) (Binary64.divide numerator denominator).toRat := by
  rcases eq_or_ne numerator 0 with rfl | notZero
  · rw [divide_zero positive, Int.cast_zero, zero_div]
    exact isNearest_zero
  · obtain ⟨places, rounded, _, isNearest, _, isRounded⟩ :=
      divide_on_grid small positive bounded notZero
    have scaled := isNearest.scaled (-(places : ℤ))
    rwa [← isRounded, mul_assoc, ← zpow_natCast, ← zpow_add₀ two_ne_zero, add_neg_cancel, zpow_zero,
      mul_one] at scaled

/-- Rounding leads a quotient neither onto an integer nor across one: its ceiling stays. -/
theorem ceil_divide :
    ⌈(Binary64.divide numerator denominator).toRat⌉ = ⌈(numerator : ℚ) / denominator⌉ := by
  rcases eq_or_ne numerator 0 with rfl | notZero
  · rw [divide_zero positive, Int.cast_zero, zero_div]
  · obtain ⟨places, rounded, fine, _, near, isRounded⟩ :=
      divide_on_grid small positive bounded notZero
    rw [isRounded]
    exact ceil_of_near positive fine near

end Divide

end PartitionBench.Numeric
