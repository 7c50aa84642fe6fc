import PartitionBench.Proofs.Numeric.Digits
import PartitionBench.Proofs.Numeric.Rounding

/-!
Contract: the shortest decimal form of a large stored number reads back as it.

Owns:
- that the search for digits ends with digits that read back, at seventeen places at the latest;
- the number that the form found denotes.

Does not own: the layout of the form (`Proofs.Numeric.Reading`) and that no shorter digits read
back.
-/

namespace PartitionBench.Numeric

/-! ## The place of the point -/

theorem decimalPoint_nat {number : Nat} (positive : 0 < number) :
    decimalPoint number 1 = decimalWidth number := by
  obtain ⟨places, isWidth⟩ : ∃ places, decimalWidth number = places + 1 :=
    Nat.exists_eq_add_of_le' (decimalWidth_pos number)
  have reached : 10 ^ places ≤ number := power_le_of_decimalWidth positive isWidth
  have notBelow : ¬ number < 1 * Nat.pow 10 places := by
    rw [Nat.one_mul]
    exact Nat.not_lt.mpr reached
  have guess : (decimalWidth number : Int) - (decimalWidth 1 : Int) + 1 = (places + 1 : Nat) := by
    rw [isWidth]
    exact Int.sub_add_cancel _ _
  have before : ((places + 1 : Nat) : Int) - 1 = places := by omega
  have isNatural : 0 ≤ (places : Int) := Int.natCast_nonneg places
  rw [decimalPoint, guess, pointFrom]
  simp only [before, if_pos isNatural, Int.toNat_natCast, if_neg notBelow]
  rw [isWidth]

/-! ## Digits of a given length -/

/-- The choice of the nearer neighbour is the rounding of a quotient. -/
theorem nearer_eq_nearestQuotient (number unit : Nat) :
    (if (decide (unit < 2 * (number % unit)) ||
        (decide (unit = 2 * (number % unit)) && decide (number / unit % 2 = 1))) = true
      then number / unit + 1 else number / unit) = nearestQuotient number unit := by
  simp only [nearestQuotient, Bool.or_eq_true, Bool.and_eq_true, decide_eq_true_eq]
  split
  next isUpper =>
    rw [if_neg (by omega)]
    split <;> omega
  next isLower =>
    split
    · rfl
    · rw [if_neg (by omega)]
      omega

section Digits

variable {significand exponent number zeros count : Nat}

/-- Of the two neighbours among the multiples of a power of ten the nearer one is tried first. -/
theorem digitsOfLength_eq :
    ∃ farther, digitsOfLength significand exponent number 1 (count + zeros : Nat) count =
      if readsBack significand exponent (nearestQuotient number (10 ^ zeros) * 10 ^ zeros) 1 = true
        then some (nearestQuotient number (10 ^ zeros))
      else if readsBack significand exponent (farther * 10 ^ zeros) 1 = true then some farther
      else none := by
  have places : (count : Int) - (count + zeros : Nat) = -(zeros : Int) := by omega
  have ofPower : Nat.pow 10 zeros = 10 ^ zeros := rfl
  unfold digitsOfLength
  rw [places]
  rcases Nat.eq_zero_or_pos zeros with rfl | some
  · simp only [Nat.cast_zero, neg_zero, Int.le_refl, if_true, Int.toNat_zero, ofPower, Nat.mul_one,
      Nat.pow_zero, nearer_eq_nearestQuotient]
    exact ⟨_, rfl⟩
  · have isNegative : ¬ 0 ≤ -(zeros : Int) := by omega
    simp only [if_neg isNegative, neg_neg, Int.toNat_natCast, Nat.one_mul, ofPower,
      nearer_eq_nearestQuotient]
    exact ⟨_, rfl⟩

theorem digitsOfLength_isSome
    (isRead : readsBack significand exponent
      (nearestQuotient number (10 ^ zeros) * 10 ^ zeros) 1 = true) :
    (digitsOfLength significand exponent number 1 (count + zeros : Nat) count).isSome = true := by
  obtain ⟨farther, isSearch⟩ := @digitsOfLength_eq significand exponent number zeros count
  rw [isSearch, if_pos isRead]
  rfl

/-- Digits that are found read back with as many zeros as they are too short. -/
theorem digitsOfLength_readsBack {digits : Nat}
    (isFound : digitsOfLength significand exponent number 1 (count + zeros : Nat) count =
      some digits) : readsBack significand exponent (digits * 10 ^ zeros) 1 = true := by
  obtain ⟨farther, isSearch⟩ := @digitsOfLength_eq significand exponent number zeros count
  rw [isSearch] at isFound
  split at isFound
  next isRead =>
    obtain rfl := Option.some.inj isFound
    exact isRead
  next =>
    split at isFound
    next isRead =>
      obtain rfl := Option.some.inj isFound
      exact isRead
    next => cases isFound

end Digits

section Large

variable {significand exponent : Nat} (isLarge : IsLarge significand exponent)

include isLarge

/-- All digits of a number read back as it. -/
theorem digitsOfLength_whole (count : Nat) :
    (digitsOfLength significand exponent (significand * 2 ^ exponent) 1
      (count + 0 : Nat) count).isSome = true := by
  have isWhole : nearestQuotient (significand * 2 ^ exponent) 1 = significand * 2 ^ exponent :=
    nearestQuotient_eq Nat.one_pos ⟨by omega, by omega, by omega⟩
  apply digitsOfLength_isSome
  rw [Nat.pow_zero, isWhole, Nat.mul_one]
  exact isLarge.readsBack

/-- Seventeen digits read back: their unit is less than a step. -/
theorem digitsOfLength_seventeen {zeros : Nat}
    (isWidth : decimalWidth (significand * 2 ^ exponent) = 17 + zeros) :
    (digitsOfLength significand exponent (significand * 2 ^ exponent) 1
      (17 + zeros : Nat) (17 : Nat)).isSome = true := by
  have reached : 10 ^ (16 + zeros) ≤ significand * 2 ^ exponent :=
    power_le_of_decimalWidth isLarge.positive (by omega)
  have fine : 2 * 10 ^ zeros <
      (4 * significand - lowerQuarters significand) * 2 ^ exponent := by
    have step : 0 < 2 ^ exponent := Nat.two_pow_pos exponent
    have below : significand * 2 ^ exponent < 2 ^ 53 * 2 ^ exponent :=
      Nat.mul_lt_mul_of_pos_right isLarge.below step
    rw [Nat.pow_add] at reached
    unfold lowerQuarters
    split
    next isFirst =>
      rw [isFirst] at reached ⊢
      omega
    next =>
      have quarters : 4 * significand - (4 * significand - 2) = 2 := by
        have atLeast := isLarge.atLeast
        omega
      rw [quarters]
      omega
  have rounds := nearestQuotient_rounds (significand * 2 ^ exponent)
    (Nat.pow_pos (by decide) : 0 < 10 ^ zeros)
  have lower := rounds.lower
  have upper := rounds.upper
  apply digitsOfLength_isSome
  exact readsBack_of_near isLarge (by omega) (by omega)

end Large

/-! ## The search -/

/-- The search stops at the first length at which there are digits, and not behind any. -/
theorem shortestFrom_found {significand exponent number point steps count target : Nat}
    (notBefore : count ≤ target) (withinSteps : target < count + steps)
    (isSome : (digitsOfLength significand exponent number 1 point target).isSome = true) :
    ∃ digits length, shortestFrom significand exponent number 1 point steps count =
        (digits, length) ∧ length ≤ target ∧
      digitsOfLength significand exponent number 1 point length = some digits := by
  induction steps generalizing count with
  | zero => omega
  | succ steps inductionHypothesis =>
      unfold shortestFrom
      cases isFound : digitsOfLength significand exponent number 1 point count with
      | some digits => exact ⟨digits, count, rfl, notBefore, isFound⟩
      | none =>
          have notHere : count ≠ target := by
            rintro rfl
            rw [isFound] at isSome
            cases isSome
          exact inductionHypothesis (by omega) (by omega)

/-! ## The form that is found -/

section Large

variable {significand exponent : Nat} (isLarge : IsLarge significand exponent)

include isLarge

theorem shortestFrom_large :
    ∃ digits length zeros, shortestFrom significand exponent (significand * 2 ^ exponent) 1
        (decimalWidth (significand * 2 ^ exponent)) 18 1 = (digits, length) ∧
      decimalWidth (significand * 2 ^ exponent) = length + zeros ∧
      readsBack significand exponent (digits * 10 ^ zeros) 1 = true := by
  have widthPositive := decimalWidth_pos (significand * 2 ^ exponent)
  have reaches : ∃ target, 1 ≤ target ∧ target ≤ 17 ∧
      target ≤ decimalWidth (significand * 2 ^ exponent) ∧
      (digitsOfLength significand exponent (significand * 2 ^ exponent) 1
        (decimalWidth (significand * 2 ^ exponent)) target).isSome = true := by
    rcases Nat.le_total (decimalWidth (significand * 2 ^ exponent)) 17 with isShort | isLong
    · exact ⟨_, widthPositive, isShort, Nat.le_refl _, digitsOfLength_whole isLarge _⟩
    · obtain ⟨zeros, isWidth⟩ := Nat.exists_eq_add_of_le isLong
      refine ⟨17, by decide, Nat.le_refl _, isLong, ?_⟩
      rw [isWidth]
      exact digitsOfLength_seventeen isLarge isWidth
  obtain ⟨target, notBefore, notLate, withinWidth, isSome⟩ := reaches
  obtain ⟨digits, length, isFound, notBehind, areDigits⟩ :=
    @shortestFrom_found _ _ _ _ 18 1 target notBefore (by omega) isSome
  obtain ⟨zeros, isWidth⟩ := Nat.exists_eq_add_of_le (Nat.le_trans notBehind withinWidth)
  rw [isWidth] at areDigits
  exact ⟨digits, length, zeros, isFound, isWidth, digitsOfLength_readsBack areDigits⟩

/-- **The shortest form of a large stored number.** Its digits are those of a number that reads
back as it with some zeros behind it, and its point stands behind these zeros. -/
theorem shortestForm_large :
    ∃ stem zeros : Nat, 0 < stem ∧
      shortestForm significand exponent =
        { digits := Nat.toDigits 10 stem, point := (decimalWidth stem + zeros : Nat) } ∧
      readsBack significand exponent (stem * 10 ^ zeros) 1 = true := by
  obtain ⟨digits, length, zeros, isFound, isWidth, isRead⟩ := shortestFrom_large isLarge
  have positive : 0 < digits :=
    Nat.pos_of_mul_pos_right (pos_of_readsBack isLarge isRead)
  obtain ⟨stem, dropped, stemPositive, rfl, areStem⟩ := toDigits_dropZeros positive
  refine ⟨stem, dropped + zeros, stemPositive, ?_, ?_⟩
  · have isNatural : 0 ≤ (exponent : Int) := Int.natCast_nonneg exponent
    have ofPower : significand * Nat.pow 2 exponent = significand * 2 ^ exponent := rfl
    simp only [shortestForm, if_pos isNatural, Int.toNat_natCast, ofPower,
      decimalPoint_nat isLarge.positive, isFound, areStem]
    congr 1
    have ofDigits : (Nat.toDigits 10 (stem * 10 ^ dropped)).length = decimalWidth stem + dropped :=
      decimalWidth_mul_power stemPositive dropped
    rw [ofDigits, isWidth]
    omega
  · rw [Nat.pow_add, ← Nat.mul_assoc]
    exact isRead

end Large

end PartitionBench.Numeric
