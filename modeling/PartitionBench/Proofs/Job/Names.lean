import Mathlib.Data.List.Nodup
import Mathlib.Data.List.Perm.Subperm
import PartitionBench.Job.Name
import PartitionBench.Proofs.Numerals

/-!
Contract: the names that jobs are given are new.

Owns:
- the search for a free number: it finds the least one, and finds it among as many
  numbers as there are names taken;
- the names that are claimed one after another: they differ from each other and from
  all that were taken before;
- the characters of names.

Does not own: the jobs that are named (`Proofs.Job.Plan`).
-/

namespace PartitionBench.Job

open PartitionBench.Numeric

/-! ## Numbered names -/

theorem numbered_toList (base : String) (number : Nat) :
    (numbered base number).toList = base.toList ++ '_' :: Nat.toDigits 10 number := by
  have digits : (toString number).toList = Nat.toDigits 10 number := Nat.toList_repr
  rw [numbered, String.toList_append, String.toList_append, digits, List.append_assoc]
  rfl

theorem numbered_injective (base : String) {first second : Nat}
    (same : numbered base first = numbered base second) : first = second := by
  have sameChars := congrArg String.toList same
  rw [numbered_toList, numbered_toList] at sameChars
  have sameDigits := (List.cons.inj (List.append_cancel_left sameChars)).2
  have sameValue := congrArg (fun digits => Nat.ofDigitChars 10 digits 0) sameDigits
  simpa using sameValue

theorem numbered_ne_base (base : String) (number : Nat) : numbered base number ≠ base := by
  intro same
  have sameLength := congrArg (fun name => name.toList.length) same
  simp only [numbered_toList, List.length_append, List.length_cons] at sameLength
  omega

/-! ## The search for a free number -/

/-- The search stops at the least number from `number` on that is free, or behind its last
probe when it has met none. -/
theorem freeFrom_finds (taken : List String) (base : String) (probes number : Nat) :
    ∃ found, freeFrom taken base probes number = numbered base found ∧
      number ≤ found ∧ found ≤ number + probes ∧
      (∀ earlier, number ≤ earlier → earlier < found → numbered base earlier ∈ taken) ∧
      (found < number + probes → numbered base found ∉ taken) := by
  induction probes generalizing number with
  | zero =>
      refine ⟨number, rfl, Nat.le_refl number, Nat.le_refl number, ?_, ?_⟩
      · intro earlier atLeast below
        omega
      · intro below
        omega
  | succ probes inductionHypothesis =>
      by_cases isTaken : numbered base number ∈ taken
      · obtain ⟨found, finds, atLeast, atMost, before, free⟩ := inductionHypothesis (number + 1)
        refine ⟨found, ?_, by omega, by omega, ?_, ?_⟩
        · rw [freeFrom, if_pos isTaken, finds]
        · intro earlier notBelow below
          rcases Nat.eq_or_lt_of_le notBelow with rfl | above
          · exact isTaken
          · exact before earlier above below
        · intro inside
          exact free (by omega)
      · refine ⟨number, ?_, Nat.le_refl number, by omega, ?_, ?_⟩
        · rw [freeFrom, if_neg isTaken]
        · intro earlier atLeast below
          omega
        · intro inside
          exact isTaken

/-- The base name and a run of numbered names are all different, so they cannot all be
taken when the run is as long as the list of names taken. -/
theorem run_shorter_than_taken {taken : List String} {base : String} {count : Nat}
    (baseTaken : base ∈ taken)
    (runTaken : ∀ number, 2 ≤ number → number < 2 + count → numbered base number ∈ taken) :
    count < taken.length := by
  let names := base :: (List.range' 2 count).map (numbered base)
  have distinct : names.Nodup := by
    refine List.nodup_cons.mpr ⟨?_, ?_⟩
    · intro member
      obtain ⟨number, _, same⟩ := List.mem_map.mp member
      exact numbered_ne_base base number same
    · exact List.Nodup.map (fun _ _ same => numbered_injective base same) List.nodup_range'
  have within : names ⊆ taken := by
    intro name member
    rcases List.mem_cons.mp member with rfl | inRun
    · exact baseTaken
    · obtain ⟨number, inRange, rfl⟩ := List.mem_map.mp inRun
      have bounds := List.mem_range'_1.mp inRange
      exact runTaken number bounds.1 bounds.2
  have bound := (List.subperm_of_subset distinct within).length_le
  simp only [names, List.length_cons, List.length_map, List.length_range'] at bound
  omega

theorem freeName_of_free {taken : List String} {base : String} (free : base ∉ taken) :
    freeName taken base = base := by
  rw [freeName, if_neg free]

/-- A base name that is taken gets the least number from two on that makes it new. It is
at most one more than the number of names taken. -/
theorem freeName_of_taken {taken : List String} {base : String} (isTaken : base ∈ taken) :
    ∃ found, freeName taken base = numbered base found ∧
      2 ≤ found ∧ found ≤ taken.length + 1 ∧ numbered base found ∉ taken ∧
      ∀ earlier, 2 ≤ earlier → earlier < found → numbered base earlier ∈ taken := by
  obtain ⟨found, finds, atLeast, atMost, before, free⟩ :=
    freeFrom_finds taken base taken.length 2
  have runTaken : ∀ number, 2 ≤ number → number < 2 + (found - 2) →
      numbered base number ∈ taken := by
    intro number notBelow below
    exact before number notBelow (by omega)
  have short := run_shorter_than_taken isTaken runTaken
  refine ⟨found, ?_, atLeast, by omega, free (by omega), before⟩
  rw [freeName, if_pos isTaken, finds]

theorem freeName_not_mem (taken : List String) (base : String) : freeName taken base ∉ taken := by
  by_cases isTaken : base ∈ taken
  · obtain ⟨found, finds, _, _, free, _⟩ := freeName_of_taken isTaken
    rw [finds]
    exact free
  · rw [freeName_of_free isTaken]
    exact isTaken

/-- A name is a base name as it is, or with a number behind it. -/
theorem freeName_form (taken : List String) (base : String) :
    freeName taken base = base ∨ ∃ number, freeName taken base = numbered base number := by
  by_cases isTaken : base ∈ taken
  · obtain ⟨found, finds, _⟩ := freeName_of_taken isTaken
    exact Or.inr ⟨found, finds⟩
  · exact Or.inl (freeName_of_free isTaken)

theorem freeName_ne_empty (taken : List String) (tool graphName : String) (blockCount : Int) :
    freeName taken (baseName tool graphName blockCount) ≠ "" := by
  have someBase : baseName tool graphName blockCount ≠ "" := by
    simp [baseName, baseNameChars]
  rcases freeName_form taken (baseName tool graphName blockCount) with isBase | ⟨number, isNumbered⟩
  · rw [isBase]
    exact someBase
  · rw [isNumbered, numbered]
    simp [someBase]

/-! ## Names claimed one after another -/

/-- Claiming goes on where it stopped: names for two lists are names for the one and then,
with these taken, for the other. -/
theorem claimAll_append (taken left right : List String) :
    claimAll taken (left ++ right) =
      ((claimAll taken left).1 ++ (claimAll (claimAll taken left).2 right).1,
        (claimAll (claimAll taken left).2 right).2) := by
  induction left generalizing taken with
  | nil => rfl
  | cons base left inductionHypothesis =>
      simp only [List.cons_append, claimAll, inductionHypothesis]

theorem claimAll_not_mem (taken bases : List String) :
    ∀ name ∈ (claimAll taken bases).1, name ∉ taken := by
  induction bases generalizing taken with
  | nil =>
      intro name member
      exact absurd member List.not_mem_nil
  | cons base rest inductionHypothesis =>
      intro name member
      rcases List.mem_cons.mp member with rfl | later
      · exact freeName_not_mem taken base
      · intro isTaken
        exact inductionHypothesis (freeName taken base :: taken) name later
          (List.mem_cons_of_mem _ isTaken)

theorem claimAll_nodup (taken bases : List String) : (claimAll taken bases).1.Nodup := by
  induction bases generalizing taken with
  | nil => exact List.nodup_nil
  | cons base rest inductionHypothesis =>
      refine List.nodup_cons.mpr ⟨?_, inductionHypothesis _⟩
      intro again
      exact claimAll_not_mem _ rest _ again List.mem_cons_self

/-- What is claimed is taken afterwards, and so is what was taken before. -/
theorem claimAll_taken (taken bases : List String) :
    (claimAll taken bases).2 = (claimAll taken bases).1.reverse ++ taken := by
  induction bases generalizing taken with
  | nil => rfl
  | cons base rest inductionHypothesis =>
      change (claimAll (freeName taken base :: taken) rest).2 =
        (freeName taken base :: (claimAll (freeName taken base :: taken) rest).1).reverse ++ taken
      rw [inductionHypothesis, List.reverse_cons, List.append_assoc]
      rfl

/-! ## The characters of names -/

section Characters

variable {property : Char → Prop}

theorem clean_characters (ofName : ∀ c, isNameCharacter c = true → property c)
    (chars : List Char) : ∀ c ∈ clean chars, property c := by
  intro c member
  obtain ⟨original, _, inCleaned⟩ := List.mem_flatMap.mp member
  unfold cleanCharacter at inCleaned
  split at inCleaned
  next isName =>
    rw [List.mem_singleton.mp inCleaned]
    exact ofName original isName
  next =>
    rw [List.eq_of_mem_replicate inCleaned]
    exact ofName '_' (by decide)

/-- A base name has the characters of names and those of the text of its block count. -/
theorem baseName_characters (ofName : ∀ c, isNameCharacter c = true → property c)
    (tool graphName : String) {blockCount : Int}
    (ofCount : ∀ c ∈ (integerText blockCount).toList, property c) :
    ∀ c ∈ (baseName tool graphName blockCount).toList, property c := by
  intro c member
  rw [baseName, String.toList_ofList, baseNameChars] at member
  rcases List.mem_append.mp member with inTexts | inCount
  · rcases List.mem_append.mp inTexts with inTool | inGraph
    · exact clean_characters ofName _ c inTool
    · rcases List.mem_cons.mp inGraph with rfl | inGraph
      · exact ofName '_' (by decide)
      · exact clean_characters ofName _ c inGraph
  · rcases List.mem_cons.mp inCount with rfl | inCount
    · exact ofName '_' (by decide)
    · rcases List.mem_cons.mp inCount with rfl | inCount
      · exact ofName 'k' (by decide)
      · exact ofCount c inCount

theorem numbered_characters (ofName : ∀ c, isNameCharacter c = true → property c)
    {base : String} (ofBase : ∀ c ∈ base.toList, property c) (number : Nat) :
    ∀ c ∈ (numbered base number).toList, property c := by
  intro c member
  rw [numbered_toList] at member
  rcases List.mem_append.mp member with inBase | inNumber
  · exact ofBase c inBase
  · rcases List.mem_cons.mp inNumber with rfl | inDigits
    · exact ofName '_' (by decide)
    · have isDigit : c.isDigit = true :=
        Nat.isDigit_of_mem_toDigits (by decide) (by decide) inDigits
      have bounds : '0' ≤ c ∧ c ≤ '9' := by
        simpa [Char.isDigit, Char.le_def] using isDigit
      exact ofName c (by simp [isNameCharacter, bounds])

theorem freeName_characters (ofName : ∀ c, isNameCharacter c = true → property c)
    (taken : List String) {base : String} (ofBase : ∀ c ∈ base.toList, property c) :
    ∀ c ∈ (freeName taken base).toList, property c := by
  rcases freeName_form taken base with isBase | ⟨number, isNumbered⟩
  · rw [isBase]
    exact ofBase
  · rw [isNumbered]
    exact numbered_characters ofName ofBase number

end Characters

end PartitionBench.Job
