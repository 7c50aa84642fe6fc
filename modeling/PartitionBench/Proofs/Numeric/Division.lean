import PartitionBench.Proofs.Numeric.Stored

/-!
Contract: the sign of a rounded quotient.

Owns:
- that a quotient of a small number by a stored one neither vanishes nor grows beyond all bounds
  when it is rounded;
- that it has the sign of its numerator after it is rounded up to an integer.

Does not own: how far rounding leads away from the exact quotient.
-/

namespace PartitionBench.Numeric

/-- A finite number above zero is one whose ceiling is above zero. -/
theorem ceiling_pos_iff {significand exponent : Int} :
    0 < (Binary64.finite significand exponent).ceiling ↔ 0 < significand := by
  have positive : ∀ steps : Nat, (0 : Int) < (Nat.pow 2 steps : Nat) :=
    fun steps => Int.natCast_pos.mpr (Nat.pow_pos (by decide))
  rw [Binary64.ceiling]
  split
  · exact mul_pos_iff_of_pos_right (positive _)
  · rw [Int.neg_pos, Int.ediv_lt_iff_lt_mul (positive _), Int.zero_mul]
    omega

/-- A quotient reaches each power of two whose exponent is below the difference of the
logarithms. -/
theorem scaled_reaches {numerator denominator : Nat} {exponent : Int} (positive : 0 < numerator)
    (below : exponent + 1 + denominator.log2 ≤ numerator.log2) :
    (scaled numerator denominator exponent).2 ≤ (scaled numerator denominator exponent).1 := by
  have reached : 2 ^ numerator.log2 ≤ numerator :=
    Nat.log2_self_le (Nat.pos_iff_ne_zero.mp positive)
  have notPassed : denominator ≤ 2 ^ (denominator.log2 + 1) := Nat.lt_log2_self.le
  obtain ⟨moved, isMoved⟩ : ∃ moved : Nat, exponent + exponent.natAbs = moved :=
    Int.eq_ofNat_of_zero_le (by omega)
  by_contra isBelow
  rw [Nat.not_le, ← Nat.mul_one (scaled numerator denominator exponent).2,
    scaled_lt_iff isMoved, Nat.mul_one] at isBelow
  refine absurd isBelow (Nat.not_lt.mpr ?_)
  calc
    denominator * 2 ^ moved ≤ 2 ^ (denominator.log2 + 1) * 2 ^ moved :=
      Nat.mul_le_mul_right _ notPassed
    _ = 2 ^ (denominator.log2 + 1 + moved) := (Nat.pow_add _ _ _).symm
    _ ≤ 2 ^ (numerator.log2 + exponent.natAbs) := Nat.pow_le_pow_right Nat.two_pos (by omega)
    _ = 2 ^ numerator.log2 * 2 ^ exponent.natAbs := Nat.pow_add _ _ _
    _ ≤ numerator * 2 ^ exponent.natAbs := Nat.mul_le_mul_right _ reached

/-- The quotient reaches the power of two that its logarithm names. -/
theorem quotient_reaches {numerator denominator : Nat} (positive : 0 < numerator) :
    (scaled numerator denominator (quotientLog2 numerator denominator)).2 ≤
      (scaled numerator denominator (quotientLog2 numerator denominator)).1 := by
  unfold quotientLog2
  dsimp only
  split
  next reached => exact reached
  next => exact scaled_reaches positive (by omega)

theorem quotientLog2_le (numerator denominator : Nat) :
    quotientLog2 numerator denominator ≤ (numerator.log2 : Int) - denominator.log2 := by
  unfold quotientLog2
  dsimp only
  split <;> omega

theorem le_quotientLog2 (numerator denominator : Nat) :
    (numerator.log2 : Int) - denominator.log2 - 1 ≤ quotientLog2 numerator denominator := by
  unfold quotientLog2
  dsimp only
  split <;> omega

theorem nearestQuotient_pos {numerator denominator : Nat} (positive : 0 < denominator)
    (reaches : denominator ≤ numerator) : 0 < nearestQuotient numerator denominator := by
  rw [← Nat.one_mul denominator] at reaches
  exact le_nearestQuotient positive reaches

theorem IsStored.log2_lt {value : Int} (isStored : IsStored value) (notZero : value ≠ 0) :
    value.natAbs.log2 < 1024 := by
  obtain ⟨significand, exponent, small, inRange, isProduct⟩ := isStored
  have bounded : value.natAbs < 2 ^ (53 + exponent) := by
    rw [isProduct, Nat.pow_add]
    exact Nat.mul_lt_mul_of_pos_right small (Nat.two_pow_pos exponent)
  have below := (Nat.log2_lt (Int.natAbs_ne_zero.mpr notZero)).mpr bounded
  omega

/-- The quotient of a number of at most 53 bits by a stored number is rounded to a finite number
that is not zero. -/
theorem ofQuotient_finite (negative : Bool) {numerator denominator : Nat}
    (numeratorPositive : 0 < numerator) (small : numerator < 2 ^ 53)
    (denominatorPositive : 0 < denominator) (bounded : denominator.log2 < 1024) :
    ∃ significand exponent, 0 < significand ∧
      Binary64.ofQuotient negative numerator denominator =
        .finite (signed negative significand) exponent := by
  have short : numerator.log2 < 53 :=
    (Nat.log2_lt (Nat.pos_iff_ne_zero.mp numeratorPositive)).mpr small
  have fromAbove := quotientLog2_le numerator denominator
  have grid : gridExponent numerator denominator =
      max (quotientLog2 numerator denominator - 52) minExponent := rfl
  have minimal : minExponent = -1074 := rfl
  have maximal : maxExponent = 971 := rfl
  have partsPositive : 0 < (scaled numerator denominator
      (gridExponent numerator denominator)).2 := by
    unfold scaled
    split
    · exact Nat.mul_pos denominatorPositive (Nat.pow_pos (by decide))
    · exact denominatorPositive
  have notRoundedAway := nearestQuotient_pos partsPositive
    (scaled_reaches numeratorPositive (by omega))
  unfold Binary64.ofQuotient
  rw [if_neg (Nat.pos_iff_ne_zero.mp numeratorPositive)]
  dsimp only
  generalize nearestQuotient _ _ = rounded at *
  have someSteps : (if rounded = Nat.pow 2 53 then Nat.pow 2 52 else rounded) ≠ 0 := by
    split
    · decide
    · exact Nat.pos_iff_ne_zero.mp notRoundedAway
  have inRange : ¬ maxExponent <
      (if rounded = Nat.pow 2 53 then gridExponent numerator denominator + 1
        else gridExponent numerator denominator) := by
    split <;> omega
  rw [if_neg someSteps, if_neg inRange]
  exact ⟨_, _, Nat.pos_iff_ne_zero.mpr someSteps, rfl⟩

theorem divide_of_pos {numerator denominator : Int} (positive : 0 < denominator) :
    Binary64.divide numerator denominator =
      Binary64.ofQuotient (numerator < 0) numerator.natAbs denominator.natAbs := by
  have notZero : denominator ≠ 0 := by omega
  have notNegative : decide (denominator < 0) = false := decide_eq_false (by omega)
  rw [Binary64.divide, if_neg notZero, notNegative, Bool.bne_false]

/-- A quotient by a stored number above zero is rounded up to an integer above zero when its
numerator is above zero, and only then. -/
theorem ceiling_divide_pos_iff {numerator denominator : Int} (small : numerator.natAbs < 2 ^ 53)
    (positive : 0 < denominator) (isStored : IsStored denominator) :
    0 < (Binary64.divide numerator denominator).ceiling ↔ 0 < numerator := by
  have notZero : denominator ≠ 0 := by omega
  rw [divide_of_pos positive]
  by_cases vanishes : numerator = 0
  · subst vanishes
    exact (by decide : 0 < Binary64.zero.ceiling ↔ (0 : Int) < 0)
  · obtain ⟨significand, exponent, isPositive, isFinite⟩ := ofQuotient_finite
      (decide (numerator < 0)) (Int.natAbs_pos.mpr vanishes) small (Int.natAbs_pos.mpr notZero)
      (isStored.log2_lt notZero)
    rw [isFinite, ceiling_pos_iff, signed]
    by_cases isNegative : numerator < 0
    · rw [if_pos (decide_eq_true isNegative)]
      omega
    · rw [if_neg (by simpa using isNegative)]
      omega

end PartitionBench.Numeric
