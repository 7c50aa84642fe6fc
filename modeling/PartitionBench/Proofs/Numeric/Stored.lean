import PartitionBench.Proofs.Numeric.Rounding

/-!
Contract: the integers that are stored numbers.

Owns:
- which integers are stored as they are;
- the significand and the exponent of a large one;
- that rounding gives numbers whose integers and ceilings are stored.

Does not own: the texts of integers (`Proofs.Numeric.Reading`).
-/

namespace PartitionBench.Numeric

/-- The integer is stored as it is: its magnitude is a number of at most 53 bits times a power of
two in range. -/
def IsStored (value : Int) : Prop :=
  ∃ significand exponent : Nat, significand < 2 ^ 53 ∧ exponent ≤ 971 ∧
    value.natAbs = significand * 2 ^ exponent

theorem isStored_of_small {value : Int} (small : value.natAbs < 2 ^ 53) : IsStored value := by
  refine ⟨value.natAbs, 0, small, by decide, ?_⟩
  rw [Nat.pow_zero, Nat.mul_one]

theorem IsStored.neg {value : Int} (isStored : IsStored value) : IsStored (-value) := by
  rw [IsStored, Int.natAbs_neg]
  exact isStored

theorem isSafe_iff {value : Int} : isSafe value = true ↔ value.natAbs < 2 ^ 53 := by
  rw [isSafe, maxSafe, Bool.and_eq_true, decide_eq_true_eq, decide_eq_true_eq]
  omega

/-! ## Large integers -/

theorem IsStored.large {value : Int} (isStored : IsStored value) (isLong : 2 ^ 53 ≤ value.natAbs) :
    ∃ significand exponent, IsLarge significand exponent ∧
      value.natAbs = significand * 2 ^ exponent := by
  obtain ⟨significand, exponent, small, inRange, isProduct⟩ := isStored
  rw [isProduct] at isLong ⊢
  have notZero : significand ≠ 0 := by
    rintro rfl
    omega
  -- The significand is moved up until it has 53 bits.
  have short : significand.log2 < 53 := (Nat.log2_lt notZero).mpr small
  obtain ⟨shift, isShift⟩ : ∃ shift, significand.log2 + shift = 52 :=
    Nat.le.dest (Nat.lt_succ_iff.mp short)
  have reached : 2 ^ significand.log2 ≤ significand := Nat.log2_self_le notZero
  have notPassed : significand < 2 ^ (significand.log2 + 1) := Nat.lt_log2_self
  have coarser : shift + 1 ≤ exponent := by
    have bounded : 2 ^ 53 < 2 ^ (significand.log2 + 1 + exponent) := by
      rw [Nat.pow_add]
      exact Nat.lt_of_le_of_lt isLong
        (Nat.mul_lt_mul_of_pos_right notPassed (Nat.two_pow_pos exponent))
    have compared := (Nat.pow_lt_pow_iff_right (by decide)).mp bounded
    omega
  obtain ⟨rest, rfl⟩ : ∃ rest, exponent = shift + rest := Nat.exists_eq_add_of_le (by omega)
  refine ⟨significand * 2 ^ shift, rest, ⟨?_, ?_, by omega, by omega⟩, ?_⟩
  · calc
      2 ^ 52 = 2 ^ significand.log2 * 2 ^ shift := by rw [← Nat.pow_add, isShift]
      _ ≤ significand * 2 ^ shift := Nat.mul_le_mul_right _ reached
  · calc
      significand * 2 ^ shift < 2 ^ (significand.log2 + 1) * 2 ^ shift :=
        Nat.mul_lt_mul_of_pos_right notPassed (Nat.two_pow_pos shift)
      _ = 2 ^ 53 := by rw [← Nat.pow_add, Nat.add_right_comm, isShift]
  · rw [Nat.pow_add, Nat.mul_assoc]

theorem ofInt_large {value : Int} {significand exponent : Nat}
    (isLarge : IsLarge significand exponent) (isProduct : value.natAbs = significand * 2 ^ exponent) :
    Binary64.ofInt value = .finite (signed (value < 0) significand) exponent := by
  rw [Binary64.ofInt, isProduct]
  exact ofQuotient_of_readsBack isLarge _ isLarge.readsBack

theorem signed_natAbs (value : Int) : signed (value < 0) value.natAbs = value := by
  unfold signed
  split
  next isNegative =>
    have below : value < 0 := of_decide_eq_true isNegative
    omega
  next notNegative =>
    have notBelow : ¬ value < 0 := fun below => notNegative (decide_eq_true below)
    omega

theorem natAbs_signed (negative : Bool) (magnitude : Nat) :
    (signed negative magnitude).natAbs = magnitude := by
  cases negative <;> simp [signed]

theorem integer_large (negative : Bool) (significand exponent : Nat) :
    (Binary64.finite (signed negative significand) exponent).integer? =
      some (signed negative (significand * 2 ^ exponent)) := by
  have isNatural : 0 ≤ (exponent : Int) := Int.natCast_nonneg exponent
  rw [Binary64.integer?, if_pos isNatural, Int.toNat_natCast]
  cases negative <;> simp [signed]

/-- A natural number of more than 53 bits is not rounded to one of fewer. -/
theorem integer_ofQuotient_long (negative : Bool) {number : Nat} (isLong : 2 ^ 53 ≤ number)
    {value : Int} (isInteger : (Binary64.ofQuotient negative number 1).integer? = some value) :
    2 ^ 53 ≤ value.natAbs := by
  have notZero : number ≠ 0 := by omega
  have reached : 2 ^ number.log2 ≤ number := Nat.log2_self_le notZero
  have long : 53 ≤ number.log2 := (Nat.le_log2 notZero).mpr isLong
  obtain ⟨finer, isFiner⟩ : ∃ finer, 53 + finer = number.log2 := Nat.le.dest long
  have hasLog : number.log2 = 52 + (finer + 1) := by omega
  obtain ⟨_, grid, parts⟩ := grid_of_long hasLog
  rw [hasLog, Nat.pow_add] at reached
  have atLeast := le_nearestQuotient (Nat.two_pow_pos (finer + 1)) reached
  simp only [Binary64.ofQuotient, if_neg notZero, grid, parts] at isInteger
  generalize nearestQuotient number (2 ^ (finer + 1)) = rounded at *
  obtain ⟨significand, isSignificand, enough⟩ : ∃ significand,
      (if rounded = Nat.pow 2 53 then Nat.pow 2 52 else rounded) = significand ∧
        2 ^ 52 ≤ significand := by
    refine ⟨_, rfl, ?_⟩
    split
    · exact Nat.le_refl _
    · exact atLeast
  obtain ⟨more, isMore⟩ : ∃ more : Nat,
      (if rounded = Nat.pow 2 53 then ((finer + 1 : Nat) : Int) + 1 else (finer + 1 : Nat)) =
        (more + 1 : Nat) := by
    split
    · exact ⟨finer + 1, rfl⟩
    · exact ⟨finer, rfl⟩
  rw [isSignificand, isMore, if_neg (by omega)] at isInteger
  split at isInteger
  · cases isInteger
  · have isProduct := (integer_large negative significand (more + 1)).symm.trans isInteger
    rw [← Option.some.inj isProduct, natAbs_signed]
    calc
      2 ^ 53 = 2 ^ 52 * 2 ^ 1 := rfl
      _ ≤ significand * 2 ^ (more + 1) :=
        Nat.mul_le_mul enough (Nat.pow_le_pow_right Nat.two_pos (by omega))

/-! ## The grid of a quotient -/

/-- The comparison of a scaled quotient with a number may be made with both sides moved up. -/
theorem scaled_lt_iff {numerator denominator factor places moved : Nat} {exponent : Int}
    (isMoved : exponent + places = moved) :
    (scaled numerator denominator exponent).1 < (scaled numerator denominator exponent).2 * factor ↔
      numerator * 2 ^ places < denominator * 2 ^ moved * factor := by
  unfold scaled
  split
  next isNatural =>
    obtain ⟨steps, rfl⟩ := Int.eq_ofNat_of_zero_le isNatural
    obtain rfl : moved = steps + places := by omega
    have moves : denominator * 2 ^ (steps + places) * factor =
        denominator * 2 ^ steps * factor * 2 ^ places := by
      rw [Nat.pow_add]
      ring
    rw [moves, Nat.mul_lt_mul_right (Nat.two_pow_pos places), Int.toNat_natCast]
    rfl
  next isNegative =>
    obtain ⟨steps, isSteps⟩ := Int.eq_ofNat_of_zero_le (by omega : 0 ≤ -exponent)
    obtain rfl : places = steps + moved := by omega
    have moves : numerator * 2 ^ (steps + moved) = numerator * 2 ^ steps * 2 ^ moved := by
      rw [Nat.pow_add, Nat.mul_assoc]
    have moved : denominator * 2 ^ moved * factor = denominator * factor * 2 ^ moved := by
      rw [Nat.mul_right_comm]
    rw [moves, moved, Nat.mul_lt_mul_right (Nat.two_pow_pos _), isSteps, Int.toNat_natCast]
    rfl

section Quotient

variable {numerator denominator : Nat} (positive : 0 < denominator)

include positive

/-- The quotient is below the next power of two. -/
theorem quotient_lt_next :
    (scaled numerator denominator (quotientLog2 numerator denominator + 1)).1 <
      (scaled numerator denominator (quotientLog2 numerator denominator + 1)).2 * 1 := by
  have reached : 2 ^ denominator.log2 ≤ denominator :=
    Nat.log2_self_le (Nat.pos_iff_ne_zero.mp positive)
  have notPassed : numerator < 2 ^ (numerator.log2 + 1) := Nat.lt_log2_self
  unfold quotientLog2
  dsimp only
  split
  · have isMoved : (numerator.log2 : Int) - denominator.log2 + 1 + denominator.log2 =
        (numerator.log2 + 1 : Nat) := by omega
    rw [scaled_lt_iff isMoved, Nat.mul_one]
    calc
      numerator * 2 ^ denominator.log2 < 2 ^ (numerator.log2 + 1) * 2 ^ denominator.log2 :=
        Nat.mul_lt_mul_of_pos_right notPassed (Nat.two_pow_pos _)
      _ ≤ 2 ^ (numerator.log2 + 1) * denominator := Nat.mul_le_mul_left _ reached
      _ = denominator * 2 ^ (numerator.log2 + 1) := Nat.mul_comm _ _
  next isBelow =>
    rw [Int.sub_add_cancel, Nat.mul_one]
    exact Nat.lt_of_not_le isBelow

/-- On its grid a quotient is below `2 ^ 53` steps. -/
theorem scaled_lt_of_grid :
    (scaled numerator denominator (gridExponent numerator denominator)).1 <
      (scaled numerator denominator (gridExponent numerator denominator)).2 * 2 ^ 53 := by
  have isBelow := @quotient_lt_next numerator denominator positive
  have notFiner : quotientLog2 numerator denominator - 52 ≤ gridExponent numerator denominator :=
    Int.le_max_left _ _
  generalize quotientLog2 numerator denominator = log at *
  generalize gridExponent numerator denominator = grid at *
  have ofLog : ∃ moved : Nat, log + 1 + (log.natAbs + grid.natAbs : Nat) = moved :=
    Int.eq_ofNat_of_zero_le (by omega)
  have ofGrid : ∃ moved : Nat, grid + (log.natAbs + grid.natAbs : Nat) = moved :=
    Int.eq_ofNat_of_zero_le (by omega)
  obtain ⟨fromLog, isFromLog⟩ := ofLog
  obtain ⟨fromGrid, isFromGrid⟩ := ofGrid
  rw [scaled_lt_iff isFromLog, Nat.mul_one] at isBelow
  rw [scaled_lt_iff isFromGrid, Nat.mul_assoc, ← Nat.pow_add]
  refine Nat.lt_of_lt_of_le isBelow (Nat.mul_le_mul_left _ ?_)
  exact Nat.pow_le_pow_right Nat.two_pos (by omega)

end Quotient

theorem nearestQuotient_le {numerator denominator bound : Nat}
    (isBelow : numerator < denominator * bound) : nearestQuotient numerator denominator ≤ bound := by
  have quotientBelow : numerator / denominator < bound := Nat.div_lt_of_lt_mul isBelow
  unfold nearestQuotient
  dsimp only
  split
  · omega
  · split <;> omega

/-! ## What is stored -/

/-- A number with a significand of at most 53 bits and an exponent in range, or none that is
finite. -/
inductive IsProper : Binary64 → Prop
  | finite {negative : Bool} {significand : Nat} {exponent : Int}
      (small : significand < 2 ^ 53) (inRange : exponent ≤ maxExponent) :
      IsProper (.finite (signed negative significand) exponent)
  | infinite (negative : Bool) : IsProper (.infinite negative)
  | undefined : IsProper .undefined

theorem zero_isProper : IsProper Binary64.zero :=
  @IsProper.finite false 0 0 (by decide) (by decide)

/-- Rounding gives proper numbers. -/
theorem ofQuotient_isProper (negative : Bool) (numerator : Nat) {denominator : Nat}
    (positive : 0 < denominator) :
    IsProper (Binary64.ofQuotient negative numerator denominator) := by
  have rounded := nearestQuotient_le (@scaled_lt_of_grid numerator denominator positive)
  unfold Binary64.ofQuotient
  dsimp only
  generalize gridExponent numerator denominator = grid at *
  generalize nearestQuotient (scaled numerator denominator grid).1
    (scaled numerator denominator grid).2 = magnitude at *
  split
  · exact zero_isProper
  have small : (if magnitude = Nat.pow 2 53 then Nat.pow 2 52 else magnitude) < 2 ^ 53 := by
    split
    · decide
    next notCarried => exact Nat.lt_of_le_of_ne rounded notCarried
  generalize (if magnitude = Nat.pow 2 53 then Nat.pow 2 52 else magnitude) = significand at *
  generalize (if magnitude = Nat.pow 2 53 then grid + 1 else grid) = exponent at *
  split
  · exact zero_isProper
  split
  · exact IsProper.infinite negative
  next inRange => exact @IsProper.finite negative _ _ small (Int.not_lt.mp inRange)

theorem divide_isProper (numerator denominator : Int) :
    IsProper (Binary64.divide numerator denominator) := by
  unfold Binary64.divide
  split
  · split
    · exact IsProper.undefined
    · exact IsProper.infinite _
  next notZero => exact ofQuotient_isProper _ _ (Int.natAbs_pos.mpr notZero)

section Proper

variable {negative : Bool} {significand : Nat} (small : significand < 2 ^ 53)

include small

theorem isStored_of_natural {exponent : Int} (isNatural : 0 ≤ exponent)
    (inRange : exponent ≤ maxExponent) :
    IsStored (signed negative significand * Nat.pow 2 exponent.toNat) := by
  obtain ⟨steps, rfl⟩ := Int.eq_ofNat_of_zero_le isNatural
  refine ⟨significand, steps, small, Int.ofNat_le.mp inRange, ?_⟩
  rw [Int.natAbs_mul, natAbs_signed, Int.toNat_natCast]
  rfl

theorem isStored_of_quotient (divisor : Int) :
    IsStored (signed negative significand / divisor) := by
  refine isStored_of_small ?_
  have notLarger := Int.natAbs_ediv_le_natAbs (signed negative significand) divisor
  rw [natAbs_signed] at notLarger
  exact Nat.lt_of_le_of_lt notLarger small

end Proper

/-- The integer that a proper number is, is stored as it is. -/
theorem IsProper.integer {number : Binary64} (isProper : IsProper number) {value : Int}
    (isInteger : number.integer? = some value) : IsStored value := by
  cases isProper with
  | infinite | undefined => cases isInteger
  | @finite negative significand exponent small inRange =>
      rw [Binary64.integer?] at isInteger
      split at isInteger
      next isNatural =>
        obtain rfl := Option.some.inj isInteger
        exact isStored_of_natural small isNatural inRange
      next =>
        dsimp only at isInteger
        split at isInteger
        · obtain rfl := Option.some.inj isInteger
          exact isStored_of_quotient small _
        · cases isInteger

/-- The ceiling of a proper number is stored as it is. -/
theorem IsProper.ceiling {number : Binary64} (isProper : IsProper number) :
    IsStored number.ceiling := by
  have nothing : IsStored 0 := isStored_of_small (by decide)
  cases isProper with
  | infinite | undefined => exact nothing
  | @finite negative significand exponent small inRange =>
      rw [Binary64.ceiling]
      split
      next isNatural => exact isStored_of_natural small isNatural inRange
      next =>
        have opposite : -signed negative significand = signed (!negative) significand := by
          cases negative <;> simp [signed]
        rw [opposite]
        exact (isStored_of_quotient small _).neg

end PartitionBench.Numeric
