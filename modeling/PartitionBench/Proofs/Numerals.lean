import PartitionBench.Numeric.Shortest

/-!
Contract: the characters of the texts of numbers.

Owns: that such a text consists of letters, digits, points and signs, whatever the number
is, so that it never holds a slash, a blank or a quote mark.

Does not own: which number a text denotes.
-/

namespace PartitionBench.Numeric

/-- A character that the text of a number may hold. -/
def isNumeralCharacter (c : Char) : Bool :=
  c.isAlphanum || c = '.' || c = '+' || c = '-'

/-- All characters are such as the text of a number may hold. -/
def AreNumeral (chars : List Char) : Prop :=
  ∀ c ∈ chars, isNumeralCharacter c = true

instance (chars : List Char) : Decidable (AreNumeral chars) :=
  List.decidableBAll _ chars

theorem areNumeral_append {left right : List Char} (ofLeft : AreNumeral left)
    (ofRight : AreNumeral right) : AreNumeral (left ++ right) := by
  intro c member
  rcases List.mem_append.mp member with isLeft | isRight
  · exact ofLeft c isLeft
  · exact ofRight c isRight

theorem areNumeral_cons {c : Char} {rest : List Char} (ofFirst : isNumeralCharacter c = true)
    (ofRest : AreNumeral rest) : AreNumeral (c :: rest) :=
  List.forall_mem_cons.mpr ⟨ofFirst, ofRest⟩

theorem areNumeral_subset {part whole : List Char} (within : part ⊆ whole)
    (ofWhole : AreNumeral whole) : AreNumeral part :=
  fun c member => ofWhole c (within member)

theorem toDigits_areNumeral (number : Nat) : AreNumeral (Nat.toDigits 10 number) := by
  intro c member
  have isDigit : c.isDigit = true := Nat.isDigit_of_mem_toDigits (by decide) (by decide) member
  simp [isNumeralCharacter, Char.isAlphanum, isDigit]

theorem replicate_areNumeral (count : Nat) : AreNumeral (List.replicate count '0') := by
  intro c member
  rw [List.eq_of_mem_replicate member]
  decide

/-! ## Stored numbers -/

theorem shortestForm_areNumeral (significand : Nat) (exponent : Int) :
    AreNumeral (shortestForm significand exponent).digits := by
  intro c member
  unfold shortestForm at member
  dsimp only at member
  have kept := (List.dropWhile_sublist _).subset (List.mem_reverse.mp member)
  exact toDigits_areNumeral _ c (List.mem_reverse.mp kept)

theorem exponentText_areNumeral (value : Int) : AreNumeral (exponentText value) := by
  unfold exponentText
  split <;> exact areNumeral_cons (by decide) (toDigits_areNumeral _)

/-- Each of the layouts adds only zeros, a point and an exponent to the digits. -/
theorem layout_areNumeral {form : DecimalForm} (ofDigits : AreNumeral form.digits) :
    AreNumeral form.layout := by
  have taken (count : Nat) : AreNumeral (form.digits.take count) :=
    areNumeral_subset (List.take_subset count form.digits) ofDigits
  have dropped (count : Nat) : AreNumeral (form.digits.drop count) :=
    areNumeral_subset (List.drop_subset count form.digits) ofDigits
  unfold DecimalForm.layout
  dsimp only
  split
  · exact areNumeral_append ofDigits (replicate_areNumeral _)
  · split
    · exact areNumeral_append (taken _) (areNumeral_cons (by decide) (dropped _))
    · split
      · exact areNumeral_cons (by decide) (areNumeral_cons (by decide)
          (areNumeral_append (replicate_areNumeral _) ofDigits))
      · cases digits : form.digits with
        | nil => exact fun _ member => absurd member List.not_mem_nil
        | cons digit more =>
            rw [digits] at ofDigits
            have ofFirst : isNumeralCharacter digit = true := ofDigits digit List.mem_cons_self
            have ofMore : AreNumeral more :=
              fun c member => ofDigits c (List.mem_cons_of_mem digit member)
            have ofExponent := areNumeral_cons (c := 'e') (by decide)
              (exponentText_areNumeral (form.point - 1))
            cases more with
            | nil => exact areNumeral_cons ofFirst ofExponent
            | cons next others =>
                exact areNumeral_cons ofFirst
                  (areNumeral_cons (by decide) (areNumeral_append ofMore ofExponent))

theorem shortestText_areNumeral (value : Binary64) : AreNumeral value.shortestText.toList := by
  cases value with
  | undefined => decide
  | infinite negative => cases negative <;> decide
  | finite significand exponent =>
      have ofBody := layout_areNumeral (shortestForm_areNumeral significand.natAbs exponent)
      unfold Binary64.shortestText
      dsimp only
      split
      · decide
      · rw [String.toList_ofList]
        split
        · exact areNumeral_cons (by decide) ofBody
        · exact ofBody

/-! ## Integers -/

theorem repr_areNumeral (value : Int) : AreNumeral value.repr.toList := by
  cases value with
  | ofNat number =>
      change AreNumeral number.repr.toList
      rw [Nat.toList_repr]
      exact toDigits_areNumeral number
  | negSucc number =>
      change AreNumeral ("-" ++ (number + 1).repr).toList
      rw [String.toList_append, Nat.toList_repr]
      exact areNumeral_cons (by decide) (toDigits_areNumeral _)

theorem integerText_areNumeral (value : Int) : AreNumeral (integerText value).toList := by
  unfold integerText
  split
  · exact repr_areNumeral value
  · exact shortestText_areNumeral _

end PartitionBench.Numeric
