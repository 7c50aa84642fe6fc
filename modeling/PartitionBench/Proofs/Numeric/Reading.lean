import PartitionBench.Document.Json
import PartitionBench.Proofs.Numerals
import PartitionBench.Proofs.Numeric.Shortest
import PartitionBench.Proofs.Numeric.Stored

/-!
Contract: the texts of stored integers read back as them.

Owns:
- what the parts of a numeral are read as;
- that the layout of a shortest form is read as the number that it denotes;
- that the text of a stored integer is read as that integer, and can be told from what stands
  behind it.

Does not own: the texts of numbers that are no integers.
-/

namespace PartitionBench.Numeric

open PartitionBench.Document

/-! ## The parts of a numeral -/

/-- A number with its sign. -/
def withSign (negative : Bool) (body : List Char) : List Char :=
  if negative then '-' :: body else body

section Sign

variable (negative : Bool) {body : List Char} (unsigned : body.head? ≠ some '-')

include unsigned

theorem head_withSign : decide ((withSign negative body).head? = some '-') = negative := by
  cases negative with
  | false => exact decide_eq_false unsigned
  | true => rfl

theorem body_withSign :
    (if (withSign negative body).head? = some '-' then (withSign negative body).drop 1
      else withSign negative body) = body := by
  cases negative with
  | false => exact if_neg unsigned
  | true => rfl

end Sign

/-- A run of digits ends where no digit follows. -/
theorem digits_append {run rest : List Char} (areDigits : ∀ c ∈ run, Text.isDigit c = true)
    (ended : ∀ c ∈ rest.head?, Text.isDigit c = false) :
    Json.digits (run ++ rest) = (run, rest) := by
  have taken : rest.takeWhile Text.isDigit = [] := by
    cases rest with
    | nil => rfl
    | cons c rest => exact List.takeWhile_cons_of_neg (by simp [ended c rfl])
  have dropped : rest.dropWhile Text.isDigit = rest := by
    cases rest with
    | nil => rfl
    | cons c rest => exact List.dropWhile_cons_of_neg (by simp [ended c rfl])
  rw [Json.digits, List.takeWhile_append_of_pos areDigits, List.dropWhile_append_of_pos areDigits,
    taken, dropped, List.append_nil]

theorem digits_toDigits (number : Nat) {rest : List Char}
    (ended : ∀ c ∈ rest.head?, Text.isDigit c = false) :
    Json.digits (Nat.toDigits 10 number ++ rest) = (Nat.toDigits 10 number, rest) :=
  digits_append (fun _ => toDigits_areDigits) ended

theorem exponent_exponentText (places : Nat) :
    Json.exponent? ('e' :: exponentText places) = some ((places : Int), []) := by
  have notNegative : ¬ (places : Int) < 0 := by omega
  have read := @digits_toDigits places [] (by simp)
  rw [List.append_nil] at read
  rw [exponentText, if_neg notNegative, Int.natAbs_natCast]
  simp [Json.exponent?, read, decimalValue_toDigits, Nat.toDigits_ne_nil]

theorem ended_exponentText (places : Nat) :
    ∀ c ∈ ('e' :: exponentText places).head?, Text.isDigit c = false := by
  rintro c isFirst
  obtain rfl := Option.mem_some_iff.mp isFirst
  decide

theorem fraction_append {run rest : List Char} (areDigits : ∀ c ∈ run, Text.isDigit c = true)
    (notEmpty : run ≠ []) (ended : ∀ c ∈ rest.head?, Text.isDigit c = false) :
    Json.fraction? ('.' :: (run ++ rest)) = some (run, rest) := by
  have read := digits_append areDigits ended
  simp only [Json.fraction?, read, if_neg notEmpty]

/-- A numeral of digits, of which the first is a zero only if there is no other, and of what is
read as a fraction and an exponent. -/
theorem number_of_parts (negative : Bool) {whole fraction behind more : List Char} {exponent : Int}
    (areDigits : ∀ c ∈ whole, Text.isDigit c = true) (notEmpty : whole ≠ [])
    (noZero : whole.head? = some '0' → whole.length = 1)
    (ended : ∀ c ∈ behind.head?, Text.isDigit c = false)
    (isFraction : Json.fraction? behind = some (fraction, more))
    (isExponent : Json.exponent? more = some (exponent, [])) :
    Json.number? (withSign negative (whole ++ behind)) =
      some (Binary64.ofDecimal negative (Text.decimalValue (whole ++ fraction))
        (exponent - fraction.length), []) := by
  have unsigned : (whole ++ behind).head? ≠ some '-' := by
    rw [List.head?_append_of_ne_nil _ notEmpty]
    intro isSign
    have isDigit := areDigits '-' (List.mem_of_head? isSign)
    cases isDigit
  have notRefused : ¬ (whole = [] ∨ whole.head? = some '0' ∧ whole.length ≠ 1) := by
    rintro (isEmpty | ⟨isZero, isLonger⟩)
    · exact notEmpty isEmpty
    · exact isLonger (noZero isZero)
  simp only [Json.number?, head_withSign negative unsigned, body_withSign negative unsigned,
    digits_append areDigits ended, if_neg notRefused, isFraction, isExponent]

/-! ## Layouts -/

theorem ofDecimal_natural (negative : Bool) {digits zeros : Nat} (positive : 0 < digits)
    (inRange : decimalWidth digits + zeros ≤ 400) :
    Binary64.ofDecimal negative digits zeros =
      Binary64.ofQuotient negative (digits * 10 ^ zeros) 1 := by
  have notZero : digits ≠ 0 := Nat.pos_iff_ne_zero.mp positive
  have notInfinite : ¬ 400 < (zeros : Int) + decimalWidth digits := by omega
  have notTiny : ¬ (zeros : Int) + decimalWidth digits < -400 := by omega
  have isNatural : 0 ≤ (zeros : Int) := Int.natCast_nonneg zeros
  rw [Binary64.ofDecimal, if_neg notZero, if_neg notInfinite, if_neg notTiny, if_pos isNatural,
    Int.toNat_natCast]
  rfl

theorem number_toDigits (negative : Bool) (number : Nat) :
    Json.number? (withSign negative (Nat.toDigits 10 number)) =
      some (Binary64.ofDecimal negative number 0, []) := by
  have noZero : (Nat.toDigits 10 number).head? = some '0' →
      (Nat.toDigits 10 number).length = 1 := by
    intro isZero
    rcases Nat.eq_zero_or_pos number with rfl | positive
    · rfl
    · exact absurd isZero (toDigits_head positive)
  have read := @number_of_parts negative _ [] [] [] 0 (fun _ => @toDigits_areDigits number _)
    Nat.toDigits_ne_nil noZero (by simp) rfl rfl
  rw [List.append_nil, decimalValue_toDigits] at read
  exact read

theorem number_oneDigit (negative : Bool) {digit : Char} (isDigit : Text.isDigit digit = true)
    (zeros : Nat) :
    Json.number? (withSign negative (digit :: 'e' :: exponentText zeros)) =
      some (Binary64.ofDecimal negative (Text.decimalValue [digit]) zeros, []) := by
  have read := @number_of_parts negative [digit] [] ('e' :: exponentText zeros) _ zeros
    (List.forall_mem_singleton.mpr isDigit) (List.cons_ne_nil _ _) (fun _ => rfl)
    (ended_exponentText zeros) rfl (exponent_exponentText zeros)
  rw [List.append_nil] at read
  simpa using read

theorem number_moreDigits (negative : Bool) {digit : Char} {more : List Char}
    (isDigit : Text.isDigit digit = true) (areDigits : ∀ c ∈ more, Text.isDigit c = true)
    (notEmpty : more ≠ []) (zeros : Nat) :
    Json.number? (withSign negative
        (digit :: '.' :: (more ++ 'e' :: exponentText (more.length + zeros : Nat)))) =
      some (Binary64.ofDecimal negative (Text.decimalValue (digit :: more)) zeros, []) := by
  have isFraction := fraction_append areDigits notEmpty (ended_exponentText (more.length + zeros))
  have read := @number_of_parts negative [digit] more _ _ _
    (List.forall_mem_singleton.mpr isDigit) (List.cons_ne_nil _ _) (fun _ => rfl)
    (by simp [Text.isDigit]) isFraction (exponent_exponentText _)
  have scale : ((more.length + zeros : Nat) : Int) - more.length = zeros := by omega
  rw [scale] at read
  exact read

/-- Digits of which the first stands before the point, with an exponent. -/
theorem number_scientific (negative : Bool) {stem zeros : Nat} (positive : 0 < stem)
    (inRange : decimalWidth stem + zeros ≤ 400) :
    Json.number? (withSign negative
        (match Nat.toDigits 10 stem with
        | [] => []
        | [digit] => digit :: 'e' :: exponentText ((decimalWidth stem + zeros : Nat) - 1)
        | digit :: more =>
            digit :: '.' :: (more ++ 'e' :: exponentText ((decimalWidth stem + zeros : Nat) - 1)))) =
      some (Binary64.ofQuotient negative (stem * 10 ^ zeros) 1, []) := by
  rw [← ofDecimal_natural negative positive inRange]
  have areDigits : ∀ c ∈ Nat.toDigits 10 stem, Text.isDigit c = true := fun _ => toDigits_areDigits
  have denoted : Text.decimalValue (Nat.toDigits 10 stem) = stem := decimalValue_toDigits stem
  unfold decimalWidth
  generalize Nat.toDigits 10 stem = digits at *
  have places : ∀ (digit : Char) (more : List Char),
      (((digit :: more).length + zeros : Nat) : Int) - 1 = (more.length + zeros : Nat) := by
    intro digit more
    rw [List.length_cons]
    omega
  match digits with
  | [] =>
      rw [← denoted] at positive
      cases positive
  | [digit] =>
      dsimp only
      rw [places, List.length_nil, Nat.zero_add, ← denoted]
      exact number_oneDigit negative (areDigits digit List.mem_cons_self) zeros
  | digit :: next :: others =>
      obtain ⟨isDigit, moreAreDigits⟩ := List.forall_mem_cons.mp areDigits
      dsimp only
      rw [places, ← denoted]
      exact number_moreDigits negative isDigit moreAreDigits (List.cons_ne_nil _ _) zeros

/-- The layout of a form whose digits stand before its point is read as what the form denotes. -/
theorem number_layout (negative : Bool) {stem zeros : Nat} (positive : 0 < stem)
    (inRange : decimalWidth stem + zeros ≤ 400) :
    Json.number? (withSign negative (DecimalForm.layout
        { digits := Nat.toDigits 10 stem, point := (decimalWidth stem + zeros : Nat) })) =
      some (Binary64.ofQuotient negative (stem * 10 ^ zeros) 1, []) := by
  have count : (Nat.toDigits 10 stem).length = decimalWidth stem := rfl
  have widthPositive := decimalWidth_pos stem
  unfold DecimalForm.layout
  dsimp only
  split
  · -- Plain digits: the zeros are written out.
    have padding : ((decimalWidth stem + zeros : Nat) : Int).toNat - decimalWidth stem = zeros := by
      omega
    rw [count, padding, ← toDigits_mul_power positive, number_toDigits]
    have read := @ofDecimal_natural negative (stem * 10 ^ zeros) 0
      (Nat.mul_pos positive (Nat.pow_pos (by decide)))
      (by rw [decimalWidth_mul_power positive]; exact inRange)
    rw [Nat.pow_zero, Nat.mul_one] at read
    rw [← read]
    rfl
  next isLong =>
    have beyond : ¬ (0 < ((decimalWidth stem + zeros : Nat) : Int) ∧
        ((decimalWidth stem + zeros : Nat) : Int) ≤ 21) := by omega
    have notSmall : ¬ (-6 < ((decimalWidth stem + zeros : Nat) : Int) ∧
        ((decimalWidth stem + zeros : Nat) : Int) ≤ 0) := by omega
    rw [if_neg beyond, if_neg notSmall]
    exact number_scientific negative positive inRange

/-! ## Integers -/

theorem ofDecimal_small (negative : Bool) {number : Nat} (small : number < 2 ^ 53) :
    Binary64.ofDecimal negative number 0 = Binary64.ofQuotient negative number 1 := by
  rcases Nat.eq_zero_or_pos number with rfl | positive
  · rfl
  · have inRange : decimalWidth number + 0 ≤ 400 := by
      refine (decimalWidth_le_iff (by decide)).mpr (Nat.lt_trans small ?_)
      exact two_pow_lt_ten_pow (by decide) (by decide)
    have read := ofDecimal_natural negative positive inRange
    rwa [Nat.pow_zero, Nat.mul_one] at read

theorem shortestText_large {significand exponent : Nat} (isLarge : IsLarge significand exponent)
    (negative : Bool) :
    (Binary64.finite (signed negative significand) exponent).shortestText.toList =
      withSign negative (shortestForm significand exponent).layout := by
  have atLeast := isLarge.atLeast
  have magnitude := natAbs_signed negative significand
  have notZero : ¬ signed negative significand = 0 := by
    omega
  have hasSign : (signed negative significand < 0) ↔ negative = true := by
    cases negative with
    | false => simp [signed]
    | true =>
        simp only [signed, if_true, iff_true]
        omega
  rw [Binary64.shortestText, if_neg notZero, String.toList_ofList, magnitude]
  simp only [hasSign]
  rfl

theorem toString_toList (value : Int) :
    (toString value).toList = withSign (value < 0) (Nat.toDigits 10 value.natAbs) := by
  cases value with
  | ofNat number =>
      change number.repr.toList = _
      rw [Nat.toList_repr]
      rfl
  | negSucc number =>
      change ("-" ++ (number + 1).repr).toList = _
      rw [String.toList_append, Nat.toList_repr, decide_eq_true (Int.negSucc_lt_zero number)]
      rfl

/-- **The text of a stored integer** is read as that integer. -/
theorem number_integerText {value : Int} (isStored : IsStored value) :
    ∃ number, Json.number? (integerText value).toList = some (number, []) ∧
      number.integer? = some value := by
  by_cases isShort : isSafe value = true
  · have small : value.natAbs < 2 ^ 53 := isSafe_iff.mp isShort
    refine ⟨Binary64.ofQuotient (value < 0) value.natAbs 1, ?_, ?_⟩
    · rw [integerText, if_pos isShort, toString_toList, number_toDigits, ofDecimal_small _ small]
    · rw [integer_ofQuotient_small _ small, signed_natAbs]
  · have isLong : 2 ^ 53 ≤ value.natAbs := by
      rw [isSafe_iff] at isShort
      exact Nat.le_of_not_lt isShort
    obtain ⟨significand, exponent, isLarge, isProduct⟩ := isStored.large isLong
    obtain ⟨stem, zeros, positive, isForm, isRead⟩ := shortestForm_large isLarge
    refine ⟨.finite (signed (value < 0) significand) exponent, ?_, ?_⟩
    · have inRange : decimalWidth stem + zeros ≤ 400 := by
        rw [← decimalWidth_mul_power positive, decimalWidth_le_iff (by decide)]
        exact lt_of_readsBack isLarge isRead
      rw [integerText, if_neg isShort, ofInt_large isLarge isProduct, shortestText_large isLarge,
        isForm, number_layout _ positive inRange, ofQuotient_of_readsBack isLarge _ isRead]
    · rw [integer_large, ← isProduct, signed_natAbs]

theorem integerText_injective {first second : Int} (firstIsStored : IsStored first)
    (secondIsStored : IsStored second) (same : integerText first = integerText second) :
    first = second := by
  obtain ⟨number, isRead, isFirst⟩ := number_integerText firstIsStored
  obtain ⟨other, otherIsRead, isSecond⟩ := number_integerText secondIsStored
  rw [← same, isRead] at otherIsRead
  cases otherIsRead
  exact Option.some.inj (isFirst.symm.trans isSecond)

/-- The text of a stored integer can be cut off a longer text whose rest opens with no character of
numerals. -/
theorem integerText_append_injective {first second : Int} (firstIsStored : IsStored first)
    (secondIsStored : IsStored second) {behind otherBehind : List Char}
    (ended : ∀ c ∈ behind.head?, isNumeralCharacter c = false)
    (otherEnded : ∀ c ∈ otherBehind.head?, isNumeralCharacter c = false)
    (same : (integerText first).toList ++ behind = (integerText second).toList ++ otherBehind) :
    first = second ∧ behind = otherBehind := by
  have cut : ∀ (value : Int) {rest : List Char},
      (∀ c ∈ rest.head?, isNumeralCharacter c = false) →
        ((integerText value).toList ++ rest).takeWhile isNumeralCharacter =
          (integerText value).toList := by
    intro value rest isEnded
    have nothing : rest.takeWhile isNumeralCharacter = [] := by
      cases rest with
      | nil => rfl
      | cons c rest => exact List.takeWhile_cons_of_neg (by simp [isEnded c rfl])
    rw [List.takeWhile_append_of_pos (integerText_areNumeral value), nothing, List.append_nil]
  have sameText := congrArg (List.takeWhile isNumeralCharacter) same
  rw [cut first ended, cut second otherEnded] at sameText
  have sameInteger := String.toList_injective sameText
  obtain rfl := integerText_injective firstIsStored secondIsStored sameInteger
  exact ⟨rfl, List.append_cancel_left same⟩

end PartitionBench.Numeric
