import Mathlib.Algebra.Order.Archimedean.Basic
import Mathlib.Algebra.Order.Field.Power
import Mathlib.Tactic.Linarith
import Mathlib.Tactic.NormNum
import Mathlib.Tactic.Positivity
import Mathlib.Tactic.Ring

/-!
Contract: rounding to the nearest number with 53 significant bits.

Owns:
- the rounding as a relation between rational numbers: nothing with so few bits is nearer, and of
  two that are equally near the even one is taken;
- that at most one number is related to an exact one like that;
- that a number with 53 bits before its point is rounded to the nearest whole number.

Does not own: the algorithm that rounds (`Numeric.Binary64`) and the ends of its range.
-/

namespace PartitionBench.Numeric

/-! ## Rounding to 53 significant bits -/

/-- A number with at most 53 significant bits. -/
def IsShort (number : ℚ) : Prop :=
  ∃ significand exponent : ℤ, |significand| < 2 ^ 53 ∧ number = significand * 2 ^ exponent

/-- A number of which the last of its 53 significant bits is zero. -/
def HasEvenBits (number : ℚ) : Prop :=
  ∃ significand exponent : ℤ, 2 ^ 52 ≤ |significand| ∧ |significand| < 2 ^ 53 ∧
    Even significand ∧ number = significand * 2 ^ exponent

/-- An exact number is rounded to the nearest one with 53 significant bits, a tie going to the
even one. -/
structure IsNearest (exact rounded : ℚ) : Prop where
  short : IsShort rounded
  nearest : ∀ other, IsShort other → |exact - rounded| ≤ |exact - other|
  even : ∀ other, IsShort other → other ≠ rounded → |exact - other| = |exact - rounded| →
    HasEvenBits rounded

theorem IsShort.scaled {number : ℚ} (isShort : IsShort number) (steps : ℤ) :
    IsShort (number * 2 ^ steps) := by
  obtain ⟨significand, exponent, small, rfl⟩ := isShort
  refine ⟨significand, exponent + steps, small, ?_⟩
  rw [zpow_add₀ two_ne_zero, mul_assoc]

theorem HasEvenBits.scaled {number : ℚ} (hasEvenBits : HasEvenBits number) (steps : ℤ) :
    HasEvenBits (number * 2 ^ steps) := by
  obtain ⟨significand, exponent, normal, small, isEven, rfl⟩ := hasEvenBits
  refine ⟨significand, exponent + steps, normal, small, isEven, ?_⟩
  rw [zpow_add₀ two_ne_zero, mul_assoc]

theorem IsShort.neg {number : ℚ} (isShort : IsShort number) : IsShort (-number) := by
  obtain ⟨significand, exponent, small, rfl⟩ := isShort
  exact ⟨-significand, exponent, by rwa [abs_neg], by push_cast; ring⟩

theorem HasEvenBits.neg {number : ℚ} (hasEvenBits : HasEvenBits number) :
    HasEvenBits (-number) := by
  obtain ⟨significand, exponent, normal, small, isEven, rfl⟩ := hasEvenBits
  exact ⟨-significand, exponent, by rwa [abs_neg], by rwa [abs_neg], isEven.neg,
    by push_cast; ring⟩

theorem isNearest_zero : IsNearest 0 0 where
  short := ⟨0, 0, by norm_num, by norm_num⟩
  nearest := fun other _ => by simp
  even := by
    intro other _ differs tied
    simp only [zero_sub, abs_neg, sub_zero, abs_zero, abs_eq_zero] at tied
    exact absurd tied differs

theorem IsNearest.neg {exact rounded : ℚ} (isNearest : IsNearest exact rounded) :
    IsNearest (-exact) (-rounded) := by
  have mirrored : ∀ other : ℚ, |-exact - other| = |exact - -other| := by
    intro other
    rw [← abs_neg]
    congr 1
    ring
  constructor
  case short => exact isNearest.short.neg
  case nearest =>
    intro other isShort
    rw [mirrored, mirrored, neg_neg]
    exact isNearest.nearest _ isShort.neg
  case even =>
    intro other isShort differs tied
    rw [mirrored, mirrored, neg_neg] at tied
    refine (isNearest.even _ isShort.neg ?_ tied).neg
    rintro rfl
    exact differs (neg_neg other).symm

/-- Rounding commutes with a change of the unit by a power of two. -/
theorem IsNearest.scaled {exact rounded : ℚ} (isNearest : IsNearest exact rounded) (steps : ℤ) :
    IsNearest (exact * 2 ^ steps) (rounded * 2 ^ steps) := by
  have positive : (0 : ℚ) < 2 ^ steps := zpow_pos two_pos steps
  have unit : (2 : ℚ) ^ (-steps) * 2 ^ steps = 1 := by
    rw [← zpow_add₀ two_ne_zero, neg_add_cancel, zpow_zero]
  have back : ∀ other : ℚ, other * 2 ^ (-steps) * 2 ^ steps = other := by
    intro other
    rw [mul_assoc, unit, mul_one]
  have apart : ∀ other : ℚ, |exact * 2 ^ steps - other| =
      |exact - other * 2 ^ (-steps)| * 2 ^ steps := by
    intro other
    rw [← abs_of_pos positive, ← abs_mul, sub_mul, abs_of_pos positive, back]
  have apartRounded : |exact * 2 ^ steps - rounded * 2 ^ steps| =
      |exact - rounded| * 2 ^ steps := by
    rw [← sub_mul, abs_mul, abs_of_pos positive]
  constructor
  case short => exact isNearest.short.scaled steps
  case nearest =>
    intro other isShort
    rw [apartRounded, apart other]
    exact mul_le_mul_of_nonneg_right (isNearest.nearest _ (isShort.scaled _)) positive.le
  case even =>
    intro other isShort differs tied
    rw [apartRounded, apart other] at tied
    refine (isNearest.even _ (isShort.scaled _) ?_
      (mul_right_cancel₀ positive.ne' tied)).scaled steps
    rintro rfl
    exact differs (back other).symm

/-- Above a number with even bits lies one with odd bits before the next on a grid that is no
finer. -/
theorem exists_short_above {significand exponent other coarser : ℤ} (small : |significand| < 2 ^ 53)
    (isEven : Even significand) (otherEven : Even other) (isCoarser : exponent ≤ coarser)
    (isBelow : (significand : ℚ) * 2 ^ exponent < other * 2 ^ coarser) :
    ∃ between : ℚ, IsShort between ∧ (significand : ℚ) * 2 ^ exponent < between ∧
      between < other * 2 ^ coarser := by
  obtain ⟨steps, rfl⟩ := Int.exists_add_of_le isCoarser
  have unit : (0 : ℚ) < 2 ^ exponent := zpow_pos two_pos exponent
  have moved : (other : ℚ) * 2 ^ (exponent + (steps : ℤ)) =
      ((other * 2 ^ steps : ℤ) : ℚ) * 2 ^ exponent := by
    rw [zpow_add₀ two_ne_zero, zpow_natCast]
    push_cast
    ring
  rw [moved] at isBelow ⊢
  have before : significand < other * 2 ^ steps := by
    exact_mod_cast lt_of_mul_lt_mul_right isBelow unit.le
  obtain ⟨half, isHalf⟩ := isEven
  obtain ⟨otherHalf, isOtherHalf⟩ := otherEven.mul_right (2 ^ steps)
  have bounds := abs_lt.mp small
  refine ⟨((significand + 1 : ℤ) : ℚ) * 2 ^ exponent, ⟨significand + 1, exponent, ?_, rfl⟩, ?_, ?_⟩
  · exact abs_lt.mpr ⟨by omega, by omega⟩
  · exact mul_lt_mul_of_pos_right (by exact_mod_cast lt_add_one significand) unit
  · have behind : significand + 1 < other * 2 ^ steps := by omega
    exact mul_lt_mul_of_pos_right (by exact_mod_cast behind) unit

/-- Two different numbers with even bits are no neighbours. -/
theorem exists_short_between {lower upper : ℚ} (lowerEven : HasEvenBits lower)
    (upperEven : HasEvenBits upper) (isBelow : lower < upper) :
    ∃ between, IsShort between ∧ lower < between ∧ between < upper := by
  obtain ⟨first, exponent, _, firstSmall, firstEven, rfl⟩ := lowerEven
  obtain ⟨second, other, _, secondSmall, secondEven, rfl⟩ := upperEven
  rcases le_total exponent other with isCoarser | isFiner
  · exact exists_short_above firstSmall firstEven secondEven isCoarser isBelow
  · have mirrored : ((-second : ℤ) : ℚ) * 2 ^ other < ((-first : ℤ) : ℚ) * 2 ^ exponent := by
      push_cast
      linarith
    obtain ⟨between, isShort, above, below⟩ := exists_short_above (by rwa [abs_neg])
      secondEven.neg firstEven.neg isFiner mirrored
    push_cast at above below
    exact ⟨-between, isShort.neg, by linarith, by linarith⟩

/-- An exact number is rounded to one number only. -/
theorem IsNearest.unique {exact first second : ℚ} (isFirst : IsNearest exact first)
    (isSecond : IsNearest exact second) : first = second := by
  by_contra differs
  have tied : |exact - first| = |exact - second| :=
    (isFirst.nearest _ isSecond.short).antisymm (isSecond.nearest _ isFirst.short)
  have firstEven := isFirst.even second isSecond.short (Ne.symm differs) tied.symm
  have secondEven := isSecond.even first isFirst.short differs tied
  have middle : exact - first = -(exact - second) :=
    (abs_eq_abs.mp tied).resolve_left fun equal => differs (by linarith)
  -- Whatever lies between the two is nearer to their middle than either.
  rcases lt_or_gt_of_ne differs with isBelow | isAbove
  · obtain ⟨between, isShort, above, below⟩ := exists_short_between firstEven secondEven isBelow
    have notNearer := isFirst.nearest between isShort
    rw [abs_of_pos (by linarith : 0 < exact - first)] at notNearer
    exact absurd (abs_lt.mpr ⟨by linarith, by linarith⟩) notNearer.not_gt
  · obtain ⟨between, isShort, above, below⟩ := exists_short_between secondEven firstEven isAbove
    have notNearer := isSecond.nearest between isShort
    rw [abs_of_pos (by linarith : 0 < exact - second)] at notNearer
    exact absurd (abs_lt.mpr ⟨by linarith, by linarith⟩) notNearer.not_gt

/-- A number with 53 significant bits is whole or below the whole numbers that have all of them. -/
theorem IsShort.whole_or_small {number : ℚ} (isShort : IsShort number) :
    (∃ whole : ℤ, number = whole) ∨ |number| < 2 ^ 52 := by
  obtain ⟨significand, exponent, small, rfl⟩ := isShort
  rcases le_or_gt 0 exponent with isNatural | isNegative
  · obtain ⟨steps, rfl⟩ := Int.eq_ofNat_of_zero_le isNatural
    exact .inl ⟨significand * 2 ^ steps, by push_cast; rfl⟩
  · right
    have bounded : |(significand : ℚ)| < 2 ^ 53 := by exact_mod_cast small
    have halved : (2 : ℚ) ^ exponent ≤ 2 ^ (-1 : ℤ) :=
      zpow_le_zpow_right₀ one_le_two (by omega)
    have positive : (0 : ℚ) < 2 ^ exponent := zpow_pos two_pos exponent
    calc
      |(significand : ℚ) * 2 ^ exponent| = |(significand : ℚ)| * 2 ^ exponent := by
        rw [abs_mul, abs_of_pos positive]
      _ < 2 ^ 53 * 2 ^ exponent := mul_lt_mul_of_pos_right bounded positive
      _ ≤ 2 ^ 53 * 2 ^ (-1 : ℤ) := mul_le_mul_of_nonneg_left halved (by positivity)
      _ = 2 ^ 52 := by norm_num

/-! ## Rounding to whole numbers of 53 bits -/

section Normal

variable {exact : ℚ} {whole : ℤ} (atLeast : 2 ^ 52 ≤ exact) (below : exact < 2 ^ 53)
  (near : |exact - whole| ≤ 1 / 2)

include atLeast below near

theorem normal_of_near : (2 ^ 52 : ℤ) ≤ whole ∧ whole ≤ 2 ^ 53 := by
  obtain ⟨fromAbove, fromBelow⟩ := abs_le.mp near
  have lower : (2 ^ 52 : ℚ) < (whole + 1 : ℤ) := by
    push_cast
    linarith
  have upper : (whole : ℚ) < (2 ^ 53 + 1 : ℤ) := by
    push_cast
    linarith
  have lowerWhole : (2 ^ 52 : ℤ) < whole + 1 := by exact_mod_cast lower
  have upperWhole : whole < 2 ^ 53 + 1 := by exact_mod_cast upper
  omega

theorem isShort_of_near : IsShort whole := by
  obtain ⟨lower, upper⟩ := normal_of_near atLeast below near
  rcases upper.lt_or_eq with small | rfl
  · exact ⟨whole, 0, by rwa [abs_of_pos (by omega)], by rw [zpow_zero, mul_one]⟩
  · exact ⟨2 ^ 52, 1, by norm_num, by norm_num⟩

theorem hasEvenBits_of_near (isEven : Even whole) : HasEvenBits whole := by
  obtain ⟨lower, upper⟩ := normal_of_near atLeast below near
  rcases upper.lt_or_eq with small | rfl
  · refine ⟨whole, 0, ?_, ?_, isEven, by rw [zpow_zero, mul_one]⟩
    · rwa [abs_of_pos (by omega)]
    · rwa [abs_of_pos (by omega)]
  · exact ⟨2 ^ 52, 1, by norm_num, by norm_num, by decide, by norm_num⟩

omit atLeast below in
/-- No other whole number is nearer than half of one, and one at that distance is equally near. -/
theorem half_le_of_other {other : ℤ} (differs : other ≠ whole) : 1 / 2 ≤ |exact - other| := by
  have apart : (1 : ℚ) ≤ |(whole : ℚ) - other| := by
    exact_mod_cast Int.one_le_abs (sub_ne_zero.mpr differs.symm)
  have between : |(whole : ℚ) - other| ≤ |exact - whole| + |exact - other| := by
    rw [abs_sub_comm exact whole]
    exact abs_sub_le _ _ _
  linarith

/-- A number that has its 53 bits before the point is rounded like that to a whole number. -/
theorem isNearest_of_near (tie : |exact - whole| = 1 / 2 → Even whole) :
    IsNearest exact whole := by
  have ofWhole : ∀ other : ℤ, |exact - whole| ≤ |exact - other| := by
    intro other
    rcases eq_or_ne other whole with rfl | differs
    · exact le_rfl
    · exact near.trans (half_le_of_other near differs)
  -- What is not whole lies below the least number of 53 bits, which is nearer.
  have ofSmall : ∀ other : ℚ, |other| < 2 ^ 52 → |exact - whole| < |exact - other| := by
    intro other small
    have isBelow : other < 2 ^ 52 := (abs_lt.mp small).2
    calc
      |exact - whole| ≤ |exact - (2 ^ 52 : ℤ)| := ofWhole _
      _ = exact - 2 ^ 52 := by push_cast; exact abs_of_nonneg (by linarith)
      _ < exact - other := by linarith
      _ ≤ |exact - other| := le_abs_self _
  constructor
  case short => exact isShort_of_near atLeast below near
  case nearest =>
    intro other isShort
    rcases isShort.whole_or_small with ⟨value, rfl⟩ | small
    · exact ofWhole value
    · exact (ofSmall other small).le
  case even =>
    intro other isShort differs tied
    rcases isShort.whole_or_small with ⟨value, rfl⟩ | small
    · have atLeastHalf := half_le_of_other near (by exact_mod_cast differs : value ≠ whole)
      refine hasEvenBits_of_near atLeast below near (tie (near.antisymm ?_))
      rwa [← tied]
    · exact absurd tied (ofSmall other small).ne'

end Normal

end PartitionBench.Numeric
