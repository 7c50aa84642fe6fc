import PartitionBench.Proofs.Numeric.Reading

/-!
Contract: which integers are written in plain digits.

Owns:
- that a large stored number is told apart from its neighbours by what reads back as it;
- that the text of a stored integer below `10 ^ 21` in magnitude has no exponent, and so no plus
  sign.

Does not own: what the texts are read as (`Proofs.Numeric.Reading`).
-/

namespace PartitionBench.Numeric

/-- A large stored number is the only stored integer that reads back as it. -/
theorem eq_of_readsBack {significand exponent number : Nat}
    (isLarge : IsLarge significand exponent) (isStored : IsStored number)
    (isLong : 2 ^ 53 ≤ number) (isRead : readsBack significand exponent number 1 = true) :
    number = significand * 2 ^ exponent := by
  obtain ⟨other, places, otherIsLarge, isProduct⟩ := isStored.large isLong
  rw [Int.natAbs_natCast] at isProduct
  have otherIsRead := otherIsLarge.readsBack
  rw [← isProduct] at otherIsRead
  have same := (ofQuotient_of_readsBack otherIsLarge false otherIsRead).symm.trans
    (ofQuotient_of_readsBack isLarge false isRead)
  obtain ⟨sameSignificand, samePlaces⟩ := Binary64.finite.inj same
  obtain rfl : other = significand := Int.ofNat.inj sameSignificand
  obtain rfl : places = exponent := Int.ofNat.inj samePlaces
  exact isProduct

theorem plus_not_mem_toDigits (number : Nat) : '+' ∉ Nat.toDigits 10 number := by
  intro member
  have isDigit := toDigits_areDigits member
  cases isDigit

theorem plus_mem_withSign {negative : Bool} {body : List Char} :
    '+' ∈ withSign negative body ↔ '+' ∈ body := by
  cases negative <;> simp [withSign]

/-- The layout of a form whose digits stand before its point has a plus sign only when the point
stands behind the twenty-first place. -/
theorem point_of_plus {stem zeros : Nat}
    (member : '+' ∈ DecimalForm.layout
      { digits := Nat.toDigits 10 stem, point := (decimalWidth stem + zeros : Nat) }) :
    21 < decimalWidth stem + zeros := by
  by_contra isShort
  have count : (Nat.toDigits 10 stem).length = decimalWidth stem := rfl
  have isPlain : ((Nat.toDigits 10 stem).length : Int) ≤ (decimalWidth stem + zeros : Nat) ∧
      ((decimalWidth stem + zeros : Nat) : Int) ≤ 21 := by omega
  rw [DecimalForm.layout, if_pos isPlain] at member
  rcases List.mem_append.mp member with inDigits | inZeros
  · exact plus_not_mem_toDigits stem inDigits
  · exact absurd (List.eq_of_mem_replicate inZeros) (by decide)

/-- **Plain digits.** The text of a stored integer has a plus sign, which is that of an exponent,
only when the integer has more than 21 digits. -/
theorem large_of_plus {value : Int} (isStored : IsStored value)
    (member : '+' ∈ (integerText value).toList) : 10 ^ 21 ≤ value.natAbs := by
  by_cases isShort : isSafe value = true
  · rw [integerText, if_pos isShort, toString_toList, plus_mem_withSign] at member
    exact absurd member (plus_not_mem_toDigits _)
  · rw [isSafe_iff] at isShort
    obtain ⟨significand, exponent, isLarge, isProduct⟩ := isStored.large (Nat.le_of_not_lt isShort)
    obtain ⟨stem, zeros, positive, isForm, isRead⟩ := shortestForm_large isLarge
    rw [← isSafe_iff] at isShort
    rw [integerText, if_neg isShort, ofInt_large isLarge isProduct, shortestText_large isLarge,
      plus_mem_withSign, isForm] at member
    have isLong : 10 ^ 21 ≤ stem * 10 ^ zeros := by
      have beyond := point_of_plus member
      rw [← decimalWidth_mul_power positive] at beyond
      rw [← Nat.not_lt, ← decimalWidth_le_iff (by decide)]
      omega
    -- Else the stored number `10 ^ 21` lies between two numbers that read back as a smaller one.
    by_contra isBelow
    rw [isProduct] at isBelow
    have between := readsBack_between isLarge isLarge.readsBack isRead (by omega) isLong
    have power : IsStored ((10 ^ 21 : Nat) : Int) := ⟨5 ^ 21, 21, by decide, by decide, by decide⟩
    have same := eq_of_readsBack isLarge power (by decide) between
    omega

end PartitionBench.Numeric
