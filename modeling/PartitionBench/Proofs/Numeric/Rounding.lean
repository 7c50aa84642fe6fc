import Mathlib.Algebra.Order.Ring.Nat
import Mathlib.Tactic.Linarith
import Mathlib.Tactic.Ring
import PartitionBench.Numeric.Shortest

/-!
Contract: the rounding of natural numbers to stored ones.

Owns:
- the natural number that a quotient rounds to;
- the numbers below `2 ^ 53`, which are stored as they are;
- the interval of a large stored number, as an inequality of natural numbers, and that everything
  in it rounds to that number.

Does not own: decimal digits (`Proofs.Numeric.Shortest`).
-/

namespace PartitionBench.Numeric

/-! ## Quotients -/

/-- A quotient lies within half of one of a natural number, and at a distance of exactly half only
when that number is even. -/
structure RoundsTo (numerator denominator whole : Nat) : Prop where
  lower : 2 * (whole * denominator) ≤ 2 * numerator + denominator
  upper : 2 * numerator ≤ 2 * (whole * denominator) + denominator
  even : whole % 2 = 1 → 2 * (whole * denominator) < 2 * numerator + denominator ∧
    2 * numerator < 2 * (whole * denominator) + denominator

theorem nearestQuotient_rounds (numerator : Nat) {denominator : Nat} (positive : 0 < denominator) :
    RoundsTo numerator denominator (nearestQuotient numerator denominator) := by
  have parts : denominator * (numerator / denominator) + numerator % denominator = numerator :=
    Nat.div_add_mod numerator denominator
  have small : numerator % denominator < denominator := Nat.mod_lt numerator positive
  rw [nearestQuotient]
  generalize numerator / denominator = quotient at *
  generalize numerator % denominator = remainder at *
  have before : quotient * denominator = denominator * quotient := Nat.mul_comm _ _
  have behind : (quotient + 1) * denominator = denominator * quotient + denominator := by
    rw [Nat.add_mul, Nat.one_mul, before]
  split
  · constructor <;> omega
  · split
    · constructor <;> omega
    · -- Of two equally near numbers the even one is taken.
      rcases Nat.mod_two_eq_zero_or_one quotient with isEven | isOdd
      · rw [isEven, Nat.add_zero]
        constructor <;> omega
      · rw [isOdd]
        constructor <;> omega

theorem RoundsTo.le {numerator denominator whole other : Nat} (positive : 0 < denominator)
    (rounds : RoundsTo numerator denominator whole)
    (otherRounds : RoundsTo numerator denominator other) : whole ≤ other := by
  by_contra isAbove
  have next : other + 1 ≤ whole := Nat.lt_of_not_le isAbove
  have apart := Nat.mul_le_mul_right denominator next
  have step : (other + 1) * denominator = other * denominator + denominator := Nat.succ_mul _ _
  have lower := rounds.lower
  have upper := otherRounds.upper
  -- Both are at a distance of half of one, and one of the two neighbours is odd.
  have isNext : whole = other + 1 := by
    refine Nat.eq_of_mul_eq_mul_right positive ?_
    omega
  rcases Nat.mod_two_eq_zero_or_one other with isEven | isOdd
  · have strict := rounds.even (by omega)
    omega
  · have strict := otherRounds.even isOdd
    omega

/-- A quotient rounds to one number only. -/
theorem nearestQuotient_eq {numerator denominator whole : Nat} (positive : 0 < denominator)
    (rounds : RoundsTo numerator denominator whole) :
    nearestQuotient numerator denominator = whole :=
  Nat.le_antisymm ((nearestQuotient_rounds numerator positive).le positive rounds)
    (rounds.le positive (nearestQuotient_rounds numerator positive))

theorem le_nearestQuotient {numerator denominator bound : Nat} (positive : 0 < denominator)
    (reached : bound * denominator ≤ numerator) :
    bound ≤ nearestQuotient numerator denominator := by
  have reachedWhole : bound ≤ numerator / denominator :=
    (Nat.le_div_iff_mul_le positive).mpr reached
  unfold nearestQuotient
  dsimp only
  split
  · omega
  · split <;> omega

/-! ## The grid of a natural number -/

theorem quotientLog2_nat {number : Nat} (positive : 0 < number) :
    quotientLog2 number 1 = (number.log2 : Int) := by
  have noneOfOne : (1 : Nat).log2 = 0 := by decide
  have reached : 2 ^ number.log2 ≤ number := Nat.log2_self_le (Nat.pos_iff_ne_zero.mp positive)
  have parts : scaled number 1 (number.log2 : Int) = (number, 2 ^ number.log2) := by
    simp [scaled]
  simp only [quotientLog2, noneOfOne, Nat.cast_zero, sub_zero, parts, if_pos reached]

theorem scaled_places (numerator denominator places : Nat) :
    scaled numerator denominator (-(places : Int)) = (numerator * 2 ^ places, denominator) := by
  rcases Nat.eq_zero_or_pos places with rfl | some
  · simp [scaled]
  · have isNegative : ¬ 0 ≤ -(places : Int) := by omega
    simp only [scaled, if_neg isNegative, neg_neg, Int.toNat_natCast]
    rfl

theorem gridExponent_nat {number : Nat} (positive : 0 < number) :
    gridExponent number 1 = (number.log2 : Int) - 52 := by
  rw [gridExponent, quotientLog2_nat positive, minExponent]
  omega

/-- A magnitude with a sign. -/
def signed (negative : Bool) (magnitude : Nat) : Int :=
  if negative then -(magnitude : Int) else magnitude

section OfQuotient

variable (negative : Bool) {number exponent : Nat}

theorem grid_of_long (isLong : number.log2 = 52 + exponent) :
    0 < number ∧ gridExponent number 1 = (exponent : Int) ∧
      scaled number 1 (exponent : Int) = (number, 2 ^ exponent) := by
  have positive : 0 < number := by
    by_contra isZero
    obtain rfl : number = 0 := by omega
    rw [Nat.log2_zero] at isLong
    omega
  refine ⟨positive, ?_, ?_⟩
  · rw [gridExponent_nat positive, isLong]
    omega
  · simp [scaled]

/-- A natural number of at least 53 bits rounds on a grid of whole steps. -/
theorem ofQuotient_of_grid {rounded : Nat} (isLong : number.log2 = 52 + exponent)
    (rounds : RoundsTo number (2 ^ exponent) rounded) (small : rounded < 2 ^ 53)
    (notZero : rounded ≠ 0) (inRange : exponent ≤ 971) :
    Binary64.ofQuotient negative number 1 = .finite (signed negative rounded) exponent := by
  obtain ⟨positive, grid, parts⟩ := grid_of_long isLong
  have nearest : nearestQuotient number (2 ^ exponent) = rounded :=
    nearestQuotient_eq (Nat.two_pow_pos exponent) rounds
  have notCarried : ¬ rounded = Nat.pow 2 53 := Nat.ne_of_lt small
  have notInfinite : ¬ maxExponent < (exponent : Int) := by
    rw [maxExponent]
    omega
  simp only [Binary64.ofQuotient, if_neg (Nat.pos_iff_ne_zero.mp positive), grid, parts, nearest,
    if_neg notCarried, if_neg notZero, if_neg notInfinite]
  rfl

/-- A rounding that reaches `2 ^ 53` steps gives a number on the next grid. -/
theorem ofQuotient_of_carry (isLong : number.log2 = 52 + exponent)
    (rounds : RoundsTo number (2 ^ exponent) (2 ^ 53)) (inRange : exponent + 1 ≤ 971) :
    Binary64.ofQuotient negative number 1 =
      .finite (signed negative (2 ^ 52)) (exponent + 1 : Nat) := by
  obtain ⟨positive, grid, parts⟩ := grid_of_long isLong
  have nearest : nearestQuotient number (2 ^ exponent) = Nat.pow 2 53 :=
    nearestQuotient_eq (Nat.two_pow_pos exponent) rounds
  have notZero : ¬ Nat.pow 2 52 = 0 := by decide
  have notInfinite : ¬ maxExponent < (exponent : Int) + 1 := by
    rw [maxExponent]
    omega
  simp only [Binary64.ofQuotient, if_neg (Nat.pos_iff_ne_zero.mp positive), grid, parts, nearest,
    if_true, if_neg notZero, if_neg notInfinite]
  rfl

/-- A natural number of at most 53 bits fills the significand on a grid finer than the integers. -/
theorem ofQuotient_of_short {places : Nat} (positive : 0 < number)
    (isShort : number.log2 + places = 52) :
    Binary64.ofQuotient negative number 1 =
      .finite (signed negative (number * 2 ^ places)) (-(places : Int)) := by
  have notZero : number ≠ 0 := Nat.pos_iff_ne_zero.mp positive
  have grid : gridExponent number 1 = -(places : Int) := by
    rw [gridExponent_nat positive]
    omega
  have parts := scaled_places number 1 places
  have rounds : RoundsTo (number * 2 ^ places) 1 (number * 2 ^ places) := by
    constructor <;> omega
  have bounded : number * 2 ^ places < 2 ^ 53 := by
    have isBelow : number < 2 ^ (number.log2 + 1) := Nat.lt_log2_self
    calc
      number * 2 ^ places < 2 ^ (number.log2 + 1) * 2 ^ places :=
        Nat.mul_lt_mul_of_pos_right isBelow (Nat.two_pow_pos places)
      _ = 2 ^ 53 := by rw [← Nat.pow_add, Nat.add_right_comm, isShort]
  have notCarried : ¬ number * 2 ^ places = Nat.pow 2 53 := Nat.ne_of_lt bounded
  have someDigits : ¬ number * 2 ^ places = 0 :=
    Nat.mul_ne_zero notZero (Nat.pos_iff_ne_zero.mp (Nat.two_pow_pos places))
  have notInfinite : ¬ maxExponent < -(places : Int) := by
    rw [maxExponent]
    omega
  simp only [Binary64.ofQuotient, if_neg notZero, grid, parts,
    nearestQuotient_eq Nat.one_pos rounds, if_neg notCarried, if_neg someDigits,
    if_neg notInfinite]
  rfl

theorem integer_of_multiple (value : Int) (places : Nat) :
    (Binary64.finite (value * (2 ^ places : Nat)) (-(places : Int))).integer? = some value := by
  rw [Binary64.integer?]
  rcases Nat.eq_zero_or_pos places with rfl | some
  · simp
  · have isNegative : ¬ 0 ≤ -(places : Int) := by omega
    have notNothing : ((2 ^ places : Nat) : Int) ≠ 0 := by
      exact_mod_cast Nat.pos_iff_ne_zero.mp (Nat.two_pow_pos places)
    have scale : (Nat.pow 2 (-(-(places : Int))).toNat : Int) = (2 ^ places : Nat) := by
      rw [neg_neg, Int.toNat_natCast]
      rfl
    simp only [if_neg isNegative, scale, Int.mul_emod_left, if_true,
      Int.mul_ediv_cancel _ notNothing]

/-- A natural number below `2 ^ 53` is stored as it is. -/
theorem integer_ofQuotient_small (small : number < 2 ^ 53) :
    (Binary64.ofQuotient negative number 1).integer? = some (signed negative number) := by
  rcases Nat.eq_zero_or_pos number with rfl | positive
  · cases negative <;> rfl
  · have short : number.log2 < 53 := (Nat.log2_lt (Nat.pos_iff_ne_zero.mp positive)).mpr small
    obtain ⟨places, isPlaces⟩ : ∃ places, number.log2 + places = 52 :=
      Nat.le.dest (Nat.lt_succ_iff.mp short)
    have isMultiple : signed negative (number * 2 ^ places) =
        signed negative number * (2 ^ places : Nat) := by
      cases negative <;> simp [signed]
    rw [ofQuotient_of_short negative positive isPlaces, isMultiple, integer_of_multiple]

end OfQuotient

/-! ## The interval of a large stored number -/

/-- A significand that has 53 bits, and an exponent of a grid of whole steps that is coarser than
the integers. -/
structure IsLarge (significand exponent : Nat) : Prop where
  atLeast : 2 ^ 52 ≤ significand
  below : significand < 2 ^ 53
  coarse : 1 ≤ exponent
  inRange : exponent ≤ 971

/-- The lower end of the interval, in quarters of a step. -/
def lowerQuarters (significand : Nat) : Nat :=
  if significand = 2 ^ 52 then 4 * significand - 1 else 4 * significand - 2

theorem two_pow_lt_ten_pow {count places : Nat} (some : places ≠ 0) (isFew : count ≤ 3 * places) :
    2 ^ count < 10 ^ places := by
  calc
    2 ^ count ≤ 2 ^ (3 * places) := Nat.pow_le_pow_right Nat.two_pos isFew
    _ = (2 ^ 3) ^ places := Nat.pow_mul 2 3 places
    _ < 10 ^ places := Nat.pow_lt_pow_left (by decide) some

section Large

variable {significand exponent : Nat} (isLarge : IsLarge significand exponent)

include isLarge

theorem scaled_quarters (number : Nat) :
    ∃ times : Nat, 0 < times ∧
      (scaled number 1 ((exponent : Int) - 2)).1 * times = 4 * number ∧
      (scaled number 1 ((exponent : Int) - 2)).2 * times = 2 ^ exponent := by
  obtain ⟨more, rfl⟩ : ∃ more, exponent = 1 + more := Nat.exists_eq_add_of_le isLarge.coarse
  cases more with
  | zero =>
      refine ⟨2, Nat.two_pos, ?_, rfl⟩
      simp only [scaled]
      norm_num
      omega
  | succ more =>
      have places : ((1 + (more + 1) : Nat) : Int) - 2 = (more : Int) := by omega
      have isNatural : 0 ≤ (more : Int) := Int.natCast_nonneg more
      refine ⟨4, (by decide), ?_, ?_⟩
      · simp only [places, scaled, if_pos isNatural]
        exact Nat.mul_comm number 4
      · simp only [places, scaled, if_pos isNatural, Int.toNat_natCast, Nat.one_mul]
        rw [← Nat.add_assoc, Nat.add_comm 1, Nat.pow_succ, Nat.pow_succ, Nat.mul_assoc]
        rfl

/-- What reads back as a large stored number lies in its interval, and inside it when the
significand is odd. -/
theorem readsBack_iff {number : Nat} :
    readsBack significand exponent number 1 = true ↔
      lowerQuarters significand * 2 ^ exponent ≤ 4 * number ∧
        4 * number ≤ (4 * significand + 2) * 2 ^ exponent ∧
        (significand % 2 = 1 → lowerQuarters significand * 2 ^ exponent < 4 * number ∧
          4 * number < (4 * significand + 2) * 2 ^ exponent) := by
  obtain ⟨times, positive, ofNumber, ofStep⟩ := scaled_quarters isLarge number
  have coarse : minExponent < (exponent : Int) := by
    rw [minExponent]
    omega
  have low : (if (decide (significand = Nat.pow 2 52) && decide (minExponent < (exponent : Int)))
      = true then 4 * significand - 1 else 4 * significand - 2) = lowerQuarters significand := by
    simp only [coarse, decide_true, Bool.and_true, decide_eq_true_eq]
    rfl
  simp only [readsBack, low]
  generalize scaled number 1 ((exponent : Int) - 2) = parts at *
  rw [← ofNumber, ← ofStep, ← Nat.mul_assoc, ← Nat.mul_assoc]
  simp only [Nat.mul_le_mul_right_iff positive, Nat.mul_lt_mul_right positive]
  by_cases isEven : significand % 2 = 0
  · have notOdd : ¬ significand % 2 = 1 := by omega
    simp only [if_pos isEven, Bool.and_eq_true, decide_eq_true_eq, notOdd, false_imp_iff,
      and_true]
  · have isOdd : significand % 2 = 1 := by omega
    rw [if_neg isEven, Bool.and_eq_true, decide_eq_true_eq, decide_eq_true_eq]
    constructor
    · rintro ⟨lower, upper⟩
      exact ⟨Nat.le_of_lt lower, Nat.le_of_lt upper, fun _ => ⟨lower, upper⟩⟩
    · rintro ⟨_, _, strict⟩
      exact strict isOdd

/-- What lies between two numbers that read back as a large stored one does so too. -/
theorem readsBack_between {lower number upper : Nat}
    (ofLower : readsBack significand exponent lower 1 = true)
    (ofUpper : readsBack significand exponent upper 1 = true) (above : lower ≤ number)
    (below : number ≤ upper) : readsBack significand exponent number 1 = true := by
  obtain ⟨fromBelow, _, strictBelow⟩ := (readsBack_iff isLarge).mp ofLower
  obtain ⟨_, fromAbove, strictAbove⟩ := (readsBack_iff isLarge).mp ofUpper
  refine (readsBack_iff isLarge).mpr ⟨by omega, by omega, fun isOdd => ?_⟩
  have insideBelow := (strictBelow isOdd).1
  have insideAbove := (strictAbove isOdd).2
  omega

theorem pos_of_readsBack {number : Nat}
    (isRead : readsBack significand exponent number 1 = true) : 0 < number := by
  have lower := ((readsBack_iff isLarge).mp isRead).1
  have some : 0 < lowerQuarters significand * 2 ^ exponent := by
    refine Nat.mul_pos ?_ (Nat.two_pow_pos exponent)
    have atLeast := isLarge.atLeast
    unfold lowerQuarters
    split <;> omega
  omega

theorem lt_of_readsBack {number : Nat}
    (isRead : readsBack significand exponent number 1 = true) : number < 10 ^ 400 := by
  have upper := ((readsBack_iff isLarge).mp isRead).2.1
  have below := isLarge.below
  have inRange := isLarge.inRange
  calc
    number ≤ 4 * number := Nat.le_mul_of_pos_left number (by decide)
    _ ≤ (4 * significand + 2) * 2 ^ exponent := upper
    _ ≤ 2 ^ 56 * 2 ^ exponent := Nat.mul_le_mul_right _ (by omega)
    _ = 2 ^ (56 + exponent) := (Nat.pow_add 2 56 exponent).symm
    _ < 10 ^ 400 := two_pow_lt_ten_pow (by decide) (by omega)

/-- A number that is nearer to a large stored one than a quarter of a step reads back as it, and
one that is nearer than half a step does unless the stored number opens a grid. -/
theorem readsBack_of_near {number : Nat}
    (fromBelow : 4 * (significand * 2 ^ exponent) < 4 * number +
      (4 * significand - lowerQuarters significand) * 2 ^ exponent)
    (fromAbove : 4 * number < 4 * (significand * 2 ^ exponent) +
      (4 * significand - lowerQuarters significand) * 2 ^ exponent) :
    readsBack significand exponent number 1 = true := by
  have atLeast := isLarge.atLeast
  have notAll : lowerQuarters significand ≤ 4 * significand := by
    unfold lowerQuarters
    split <;> omega
  have notWide : 4 * significand ≤ lowerQuarters significand + 2 := by
    unfold lowerQuarters
    split <;> omega
  have high : (4 * significand + 2) * 2 ^ exponent =
      4 * (significand * 2 ^ exponent) + 2 * 2 ^ exponent := by ring
  have low : lowerQuarters significand * 2 ^ exponent +
      (4 * significand - lowerQuarters significand) * 2 ^ exponent =
        4 * (significand * 2 ^ exponent) := by
    rw [← Nat.add_mul, Nat.add_sub_cancel' notAll, Nat.mul_assoc]
  have wide : (4 * significand - lowerQuarters significand) * 2 ^ exponent ≤
      2 * 2 ^ exponent := by
    refine Nat.mul_le_mul_right _ ?_
    omega
  rw [readsBack_iff isLarge]
  omega

theorem IsLarge.positive : 0 < significand * 2 ^ exponent := by
  have atLeast := isLarge.atLeast
  exact Nat.mul_pos (by omega) (Nat.two_pow_pos exponent)

theorem IsLarge.readsBack :
    readsBack significand exponent (significand * 2 ^ exponent) 1 = true := by
  have atLeast := isLarge.atLeast
  have wide : 0 < (4 * significand - lowerQuarters significand) * 2 ^ exponent := by
    refine Nat.mul_pos ?_ (Nat.two_pow_pos exponent)
    unfold lowerQuarters
    split <;> omega
  exact readsBack_of_near isLarge (by omega) (by omega)

section Reading

variable (negative : Bool) {number : Nat}
  (isRead : readsBack significand exponent number 1 = true)

include isRead

theorem ofQuotient_of_readsBack_long (isLong : 2 ^ 52 * 2 ^ exponent ≤ number) :
    Binary64.ofQuotient negative number 1 = .finite (signed negative significand) exponent := by
  obtain ⟨lower, upper, strict⟩ := (readsBack_iff isLarge).mp isRead
  obtain ⟨atLeast, below, coarse, inRange⟩ := isLarge
  have positive : 0 < 2 ^ exponent := Nat.two_pow_pos exponent
  have high : (4 * significand + 2) * 2 ^ exponent =
      4 * (significand * 2 ^ exponent) + 2 * 2 ^ exponent := by ring
  have notAbove : significand * 2 ^ exponent + 2 ^ exponent ≤ 2 ^ 53 * 2 ^ exponent := by
    rw [← Nat.succ_mul]
    exact Nat.mul_le_mul_right _ below
  have half : 4 * (significand * 2 ^ exponent) ≤
      lowerQuarters significand * 2 ^ exponent + 2 * 2 ^ exponent := by
    rw [← Nat.mul_assoc, ← Nat.add_mul]
    refine Nat.mul_le_mul_right _ ?_
    unfold lowerQuarters
    split <;> omega
  have notZero : number ≠ 0 := by omega
  have hasLog : number.log2 = 52 + exponent := by
    rw [Nat.log2_eq_iff notZero, Nat.pow_succ, Nat.pow_add]
    omega
  refine ofQuotient_of_grid negative hasLog ⟨?_, ?_, ?_⟩ below (by omega) inRange
  · omega
  · omega
  · intro isOdd
    have inside := strict isOdd
    omega

/-- Only the number that opens a grid has numbers of a finer grid in its interval. -/
theorem first_of_readsBack (isShort : number < 2 ^ 52 * 2 ^ exponent) : significand = 2 ^ 52 := by
  obtain ⟨lower, _⟩ := (readsBack_iff isLarge).mp isRead
  have atLeast := isLarge.atLeast
  by_contra notFirst
  have quarters : lowerQuarters significand = 4 * significand - 2 := if_neg notFirst
  have above : (2 ^ 52 + 1) * 2 ^ exponent ≤ significand * 2 ^ exponent := by
    refine Nat.mul_le_mul_right _ ?_
    omega
  rw [quarters, Nat.sub_mul, Nat.mul_assoc] at lower
  omega

theorem ofQuotient_of_readsBack_short (isShort : number < 2 ^ 52 * 2 ^ exponent) :
    Binary64.ofQuotient negative number 1 = .finite (signed negative significand) exponent := by
  have isFirst := first_of_readsBack isLarge isRead isShort
  obtain ⟨lower, _⟩ := (readsBack_iff isLarge).mp isRead
  obtain ⟨atLeast, below, coarse, inRange⟩ := isLarge
  obtain ⟨finer, rfl⟩ : ∃ finer, exponent = finer + 1 := Nat.exists_eq_add_of_le' coarse
  have doubled : 2 ^ (finer + 1) = 2 * 2 ^ finer := by
    rw [Nat.pow_succ, Nat.mul_comm]
  have positive : 0 < 2 ^ finer := Nat.two_pow_pos finer
  rw [isFirst, lowerQuarters, if_pos rfl, doubled] at lower
  rw [doubled] at isShort
  have notZero : number ≠ 0 := by omega
  have hasLog : number.log2 = 52 + finer := by
    rw [Nat.log2_eq_iff notZero, Nat.pow_succ, Nat.pow_add]
    omega
  rw [isFirst]
  refine ofQuotient_of_carry negative hasLog ⟨?_, ?_, ?_⟩ inRange
  · omega
  · omega
  · intro isOdd
    cases isOdd

/-- What reads back as a large stored number rounds to it. -/
theorem ofQuotient_of_readsBack :
    Binary64.ofQuotient negative number 1 = .finite (signed negative significand) exponent := by
  rcases Nat.lt_or_ge number (2 ^ 52 * 2 ^ exponent) with isShort | isLong
  · exact ofQuotient_of_readsBack_short isLarge negative isRead isShort
  · exact ofQuotient_of_readsBack_long isLarge negative isRead isLong

end Reading

end Large

end PartitionBench.Numeric
