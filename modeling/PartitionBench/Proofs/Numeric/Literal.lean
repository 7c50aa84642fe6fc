import PartitionBench.Numeric.Literal
import PartitionBench.Proofs.Numeric.Reading
import PartitionBench.Proofs.Text.Blank

/-!
Contract: what the text of an integer option denotes.

Owns:
- the texts that spell an integer, as a relation that mentions no stored number;
- that a text spells one integer at most;
- that reading finds this integer when it is in the exact range, and says for every other text why
  it is none.

Does not own: the wording of complaints (`Arguments`).
-/

namespace PartitionBench.Numeric

/-! ## Spelling -/

/-- A text spells an integer: it has an optional minus sign and decimal digits, and blanks around
them. There may be any number of digits, of which the first may be zeros. -/
inductive Spells (text : String) : Int → Prop
  | numeral {before digits behind : List Char} {negative : Bool}
      (leading : ∀ c ∈ before, Text.isBlank c = true)
      (trailing : ∀ c ∈ behind, Text.isBlank c = true)
      (notEmpty : digits ≠ []) (areDigits : ∀ c ∈ digits, Text.isDigit c = true)
      (isText : text.toList = before ++ (withSign negative digits ++ behind)) :
      Spells text (signed negative (Nat.ofDigitChars 10 digits 0))

theorem isDigit_not_blank {c : Char} (isDigit : Text.isDigit c = true) :
    Text.isBlank c = false := by
  simp only [Text.isDigit, Bool.and_eq_true, decide_eq_true_eq] at isDigit
  have fromBelow : 48 ≤ c.toNat := isDigit.1
  have fromAbove : c.toNat ≤ 57 := isDigit.2
  simp [Text.isBlank]
  omega

theorem withSign_not_blank {negative : Bool} {digits : List Char}
    (areDigits : ∀ c ∈ digits, Text.isDigit c = true) :
    ∀ c ∈ withSign negative digits, Text.isBlank c = false := by
  have ofDigits : ∀ c ∈ digits, Text.isBlank c = false :=
    fun c member => isDigit_not_blank (areDigits c member)
  cases negative with
  | false => exact ofDigits
  | true => exact List.forall_mem_cons.mpr ⟨by decide, ofDigits⟩

theorem withSign_of_head (chars : List Char) :
    withSign (chars.head? = some '-') (if chars.head? = some '-' then chars.drop 1 else chars) =
      chars := by
  by_cases isNegative : chars.head? = some '-'
  · obtain ⟨rest, rfl⟩ := List.head?_eq_some_iff.mp isNegative
    rfl
  · rw [if_neg isNegative, decide_eq_false isNegative]
    rfl

/-- The numerals are the runs of digits with an optional sign. -/
theorem numeral_eq_some_iff {chars digits : List Char} {negative : Bool} :
    numeral? chars = some (negative, digits) ↔
      chars = withSign negative digits ∧ digits ≠ [] ∧ ∀ c ∈ digits, Text.isDigit c = true := by
  constructor
  · intro isNumeral
    obtain ⟨⟨notEmpty, areDigits⟩, isPair⟩ := Option.ite_none_right_eq_some.mp isNumeral
    obtain ⟨rfl, rfl⟩ := Prod.mk.inj (Option.some.inj isPair)
    exact ⟨(withSign_of_head chars).symm, notEmpty, List.all_eq_true.mp areDigits⟩
  · rintro ⟨rfl, notEmpty, areDigits⟩
    have unsigned : digits.head? ≠ some '-' := by
      intro isSign
      have isDigit := areDigits '-' (List.mem_of_head? isSign)
      cases isDigit
    simp only [numeral?, head_withSign negative unsigned, body_withSign negative unsigned]
    rw [if_pos ⟨notEmpty, List.all_eq_true.mpr areDigits⟩]

/-- A text spells an integer when its numeral denotes it. -/
theorem spells_iff {text : String} {value : Int} :
    Spells text value ↔ ∃ negative digits,
      numeral? (Text.trimChars text.toList) = some (negative, digits) ∧
        value = signed negative (Text.decimalValue digits) := by
  constructor
  · rintro @⟨before, digits, behind, negative, leading, trailing, notEmpty, areDigits, isText⟩
    refine ⟨negative, digits, numeral_eq_some_iff.mpr ⟨?_, notEmpty, areDigits⟩, ?_⟩
    · rw [isText, Text.trimChars_padded leading trailing (withSign_not_blank areDigits)]
    · rw [Text.decimalValue, valueFrom_eq_ofDigitChars areDigits]
  · rintro ⟨negative, digits, isNumeral, rfl⟩
    obtain ⟨isBody, notEmpty, areDigits⟩ := numeral_eq_some_iff.mp isNumeral
    obtain ⟨before, behind, leading, trailing, isText⟩ := Text.trimChars_split text.toList
    rw [isBody] at isText
    rw [Text.decimalValue, valueFrom_eq_ofDigitChars areDigits]
    exact .numeral leading trailing notEmpty areDigits isText

theorem Spells.unique {text : String} {first second : Int} (isFirst : Spells text first)
    (isSecond : Spells text second) : first = second := by
  obtain ⟨negative, digits, isNumeral, rfl⟩ := spells_iff.mp isFirst
  obtain ⟨_, _, again, rfl⟩ := spells_iff.mp isSecond
  rw [isNumeral] at again
  cases again
  rfl

/-! ## Reading -/

/-- A number of more than 53 bits is not stored as one of fewer, however many digits it has. -/
theorem integer_ofDecimal_long (negative : Bool) {number : Nat} (isLong : 2 ^ 53 ≤ number)
    {value : Int} (isInteger : (Binary64.ofDecimal negative number 0).integer? = some value) :
    2 ^ 53 ≤ value.natAbs := by
  have positive : 0 < number := by omega
  by_cases inRange : decimalWidth number + 0 ≤ 400
  · have asQuotient := ofDecimal_natural negative positive inRange
    rw [Nat.pow_zero, Nat.mul_one, Nat.cast_zero] at asQuotient
    rw [asQuotient] at isInteger
    exact integer_ofQuotient_long negative isLong isInteger
  · have isInfinite : 400 < (0 : Int) + decimalWidth number := by omega
    rw [Binary64.ofDecimal, if_neg (Nat.pos_iff_ne_zero.mp positive), if_pos isInfinite]
      at isInteger
    cases isInteger

/-- **Reading** gives the integer that a text spells, exactly when it is in the exact range, and
tells a text that spells a larger one from a text that spells none. -/
theorem readInteger_spec (text : String) :
    match readInteger text with
    | .integer value => Spells text value ∧ isSafe value = true
    | .outOfRange _ => ∃ value, Spells text value ∧ ¬ isSafe value = true
    | .notInteger => ∀ value, ¬ Spells text value := by
  unfold readInteger
  cases isNumeral : numeral? (Text.trimChars text.toList) with
  | none =>
      intro value spells
      obtain ⟨_, _, isSome, _⟩ := spells_iff.mp spells
      rw [isNumeral] at isSome
      cases isSome
  | some parts =>
      obtain ⟨negative, digits⟩ := parts
      have spells := spells_iff.mpr ⟨negative, digits, isNumeral, rfl⟩
      dsimp only
      by_cases small : Text.decimalValue digits < 2 ^ 53
      · have inRange : isSafe (signed negative (Text.decimalValue digits)) = true := by
          rwa [isSafe_iff, natAbs_signed]
        rw [ofDecimal_small negative small, integer_ofQuotient_small negative small]
        simp only [if_pos inRange]
        exact ⟨spells, inRange⟩
      · have beyond : ¬ isSafe (signed negative (Text.decimalValue digits)) = true := by
          rwa [isSafe_iff, natAbs_signed]
        cases isInteger : (Binary64.ofDecimal negative (Text.decimalValue digits) 0).integer? with
        | none => exact ⟨_, spells, beyond⟩
        | some stored =>
            have storedBeyond : ¬ isSafe stored = true := by
              have isLong := integer_ofDecimal_long negative (Nat.le_of_not_lt small) isInteger
              rw [isSafe_iff]
              omega
            simp only [if_neg storedBeyond]
            exact ⟨_, spells, beyond⟩

/-- A numeral that is rounded to an even neighbour stays out of range. -/
example : readInteger " 09007199254740993 " = .outOfRange 9007199254740992 := by decide

example : readInteger "-9007199254740991" = .integer (-9007199254740991) := by decide

end PartitionBench.Numeric
