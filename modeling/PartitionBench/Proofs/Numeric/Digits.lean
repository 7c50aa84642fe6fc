import Mathlib.Algebra.Order.Ring.Nat
import Mathlib.Data.List.Basic
import PartitionBench.Numeric.Decimal
import PartitionBench.Text.Digits

/-!
Contract: the decimal digits of natural numbers.

Owns:
- that the digits of a number denote it;
- how many digits a number has, and what a power of ten adds to them;
- what is left of the digits when the zeros at their end are dropped.

Does not own: the layout of digits in a text (`Proofs.Numeric.Reading`).
-/

namespace PartitionBench.Numeric

/-! ## Characters -/

theorem toDigits_areDigits {number : Nat} {c : Char} (member : c ∈ Nat.toDigits 10 number) :
    Text.isDigit c = true := by
  have isDigit : c.isDigit = true := Nat.isDigit_of_mem_toDigits (by decide) (by decide) member
  simpa [Char.isDigit, Text.isDigit, Char.le_def] using isDigit

theorem hexValue_of_isDigit {c : Char} (isDigit : Text.isDigit c = true) :
    Text.hexValue? c = some (c.toNat - '0'.toNat) := by
  rw [Text.isDigit, Bool.and_eq_true, decide_eq_true_eq, decide_eq_true_eq] at isDigit
  rw [Text.hexValue?, if_pos isDigit]
  rfl

/-! ## The number that digits denote -/

theorem valueFrom_eq_ofDigitChars {digits : List Char}
    (areDigits : ∀ c ∈ digits, Text.isDigit c = true) (read : Nat) :
    Text.valueFrom 10 read digits = Nat.ofDigitChars 10 digits read := by
  induction digits generalizing read with
  | nil => rfl
  | cons c digits inductionHypothesis =>
      obtain ⟨isDigit, othersAreDigits⟩ := List.forall_mem_cons.mp areDigits
      rw [Text.valueFrom, Nat.ofDigitChars_cons, hexValue_of_isDigit isDigit, Option.getD_some,
        Nat.mul_comm, inductionHypothesis othersAreDigits]

/-- The digits of a number denote it. -/
theorem decimalValue_toDigits (number : Nat) :
    Text.decimalValue (Nat.toDigits 10 number) = number := by
  rw [Text.decimalValue, valueFrom_eq_ofDigitChars fun c => toDigits_areDigits,
    Nat.ofDigitChars_ten_toDigits]

/-! ## The number of digits -/

theorem decimalWidth_le_iff {number count : Nat} (positive : 0 < count) :
    decimalWidth number ≤ count ↔ number < 10 ^ count :=
  Nat.length_toDigits_le_iff (by decide) positive

theorem decimalWidth_pos (number : Nat) : 0 < decimalWidth number :=
  Nat.length_toDigits_pos

theorem power_le_of_decimalWidth {number places : Nat} (positive : 0 < number)
    (isWidth : decimalWidth number = places + 1) : 10 ^ places ≤ number := by
  by_contra isBelow
  rcases Nat.eq_zero_or_pos places with rfl | some
  · exact isBelow positive
  · have narrow := (decimalWidth_le_iff some).mpr (Nat.lt_of_not_le isBelow)
    omega

/-! ## Zeros at the end -/

theorem digitChar_ne_zero {digit : Nat} (isDigit : digit < 10) (notZero : digit ≠ 0) :
    digit.digitChar ≠ '0' := by
  have ofDigits : ∀ digit : Fin 10, digit.val ≠ 0 → digit.val.digitChar ≠ '0' := by decide
  exact ofDigits ⟨digit, isDigit⟩ notZero

theorem toDigits_last (number : Nat) :
    ∃ front, Nat.toDigits 10 number = front ++ [(number % 10).digitChar] := by
  by_cases isDigit : number < 10
  · refine ⟨[], ?_⟩
    rw [Nat.toDigits_of_lt_base isDigit, Nat.mod_eq_of_lt isDigit]
    rfl
  · exact ⟨_, Nat.toDigits_of_base_le (by decide) (Nat.le_of_not_lt isDigit)⟩

theorem toDigits_mul_ten {number : Nat} (positive : 0 < number) :
    Nat.toDigits 10 (number * 10) = Nat.toDigits 10 number ++ ['0'] := by
  rw [Nat.toDigits_of_base_le (by decide) (by omega), Nat.mul_div_cancel _ (by decide),
    Nat.mul_mod_left]
  rfl

/-- A power of ten adds zeros to the digits. -/
theorem toDigits_mul_power {number : Nat} (positive : 0 < number) (places : Nat) :
    Nat.toDigits 10 (number * 10 ^ places) =
      Nat.toDigits 10 number ++ List.replicate places '0' := by
  induction places with
  | zero => rw [Nat.pow_zero, Nat.mul_one, List.replicate_zero, List.append_nil]
  | succ places inductionHypothesis =>
      rw [Nat.pow_succ, ← Nat.mul_assoc,
        toDigits_mul_ten (Nat.mul_pos positive (Nat.pow_pos (by decide))), inductionHypothesis,
        List.append_assoc, List.replicate_succ']

theorem decimalWidth_mul_power {number : Nat} (positive : 0 < number) (places : Nat) :
    decimalWidth (number * 10 ^ places) = decimalWidth number + places := by
  rw [decimalWidth, toDigits_mul_power positive, List.length_append, List.length_replicate]
  rfl

/-- Without the zeros at their end the digits of a number are those of a number that is as many
powers of ten below it. -/
theorem toDigits_dropZeros {number : Nat} (positive : 0 < number) :
    ∃ stem places, 0 < stem ∧ number = stem * 10 ^ places ∧
      ((Nat.toDigits 10 number).reverse.dropWhile (· = '0')).reverse = Nat.toDigits 10 stem := by
  induction number using Nat.strong_induction_on with
  | h number inductionHypothesis =>
    by_cases isRound : number % 10 = 0
    · obtain ⟨tenth, rfl⟩ : ∃ tenth, number = tenth * 10 := ⟨number / 10, by omega⟩
      have tenthPositive : 0 < tenth := by omega
      obtain ⟨stem, places, stemPositive, isProduct, areDigits⟩ :=
        inductionHypothesis tenth (by omega) tenthPositive
      refine ⟨stem, places + 1, stemPositive, ?_, ?_⟩
      · rw [Nat.pow_succ, ← Nat.mul_assoc, ← isProduct]
      · rw [toDigits_mul_ten tenthPositive, List.reverse_append]
        exact areDigits
    · refine ⟨number, 0, positive, (Nat.mul_one number).symm, ?_⟩
      obtain ⟨front, isWhole⟩ := toDigits_last number
      have notZero : (number % 10).digitChar ≠ '0' :=
        digitChar_ne_zero (Nat.mod_lt number (by decide)) isRound
      rw [isWhole, List.reverse_append]
      simp [notZero]

/-- The first digit of a positive number is no zero. -/
theorem toDigits_head {number : Nat} (positive : 0 < number) :
    (Nat.toDigits 10 number).head? ≠ some '0' := by
  induction number using Nat.strong_induction_on with
  | h number inductionHypothesis =>
    by_cases isDigit : number < 10
    · rw [Nat.toDigits_of_lt_base isDigit, List.head?_cons]
      intro isZero
      exact digitChar_ne_zero isDigit (by omega) (Option.some.inj isZero)
    · rw [Nat.toDigits_of_base_le (by decide) (Nat.le_of_not_lt isDigit),
        List.head?_append_of_ne_nil _ Nat.toDigits_ne_nil]
      exact inductionHypothesis (number / 10) (by omega) (by omega)

end PartitionBench.Numeric
