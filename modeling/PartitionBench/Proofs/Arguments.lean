import PartitionBench.Arguments
import PartitionBench.Proofs.Check
import PartitionBench.Proofs.Numeric.Literal

/-!
Contract: the arguments that are read from raw values.

Owns:
- the integers that the texts of integer options denote, which are those that they are read as;
- what the check of raw values guarantees of the arguments that it accepts.

Does not own: advice on them (`Validation`) and the experiment they describe (`Experiment`).
-/

namespace PartitionBench.Arguments

open PartitionBench.Document PartitionBench.Numeric Checked Check

/-- Arguments that can be acted on: a file name and the names of tools, none of them empty, and
block counts, of which there is one at least and each is stored as it is. -/
structure WellFormed (arguments : Arguments) : Prop where
  someTools : arguments.tools ≠ []
  toolsNamed : ∀ tool ∈ arguments.tools, tool ≠ ""
  fileNamed : arguments.fileName ≠ ""
  someBlockCounts : arguments.blockCounts ≠ []
  blockCountsSafe : ∀ blockCount ∈ arguments.blockCounts, blockCount.natAbs < 2 ^ 53

/-- A text spells an integer that is stored exactly, and so are both its neighbours. -/
def Denotes (text : String) (value : Int) : Prop :=
  Spells text value ∧ value.natAbs ≤ 2 ^ 53 - 1

theorem denotes_iff {text : String} {value : Int} :
    Denotes text value ↔ Spells text value ∧ isSafe value = true := by
  rw [Denotes, isSafe_iff]
  exact and_congr_right fun _ => by omega

/-- An integer option accepts a text as the integer that it denotes. -/
theorem accepts_integerOption {option text : String} {value : Int} :
    (integerOption option (.text text)).Accepts value ↔ Denotes text value := by
  have isRead := readInteger_spec text
  rw [denotes_iff]
  simp only [integerOption]
  generalize readInteger text = reading at *
  cases reading with
  | notInteger =>
      rw [iff_false_left not_accepts_broken]
      rintro ⟨spells, _⟩
      exact isRead value spells
  | outOfRange stored =>
      obtain ⟨spelled, isSpelled, beyond⟩ := isRead
      rw [iff_false_left fun accepted => List.cons_ne_nil _ _ (accepts_noting.mp accepted).1]
      rintro ⟨spells, inRange⟩
      rw [isSpelled.unique spells] at beyond
      exact beyond inRange
  | integer spelled =>
      obtain ⟨isSpelled, inRange⟩ := isRead
      rw [accepts_sound]
      constructor
      · rintro rfl
        exact ⟨isSpelled, inRange⟩
      · rintro ⟨spells, _⟩
        exact isSpelled.unique spells

theorem isSafe_of_integerOption {option : String} {value : Value} {integer : Int}
    (isRead : (integerOption option value).Accepts integer) : integer.natAbs < 2 ^ 53 := by
  cases value with
  | text text =>
      have isDenoted := accepts_integerOption.mp isRead
      exact isSafe_iff.mp (denotes_iff.mp isDenoted).2
  | _ => exact absurd isRead not_accepts_broken

theorem wellFormed_of_accepts {raw : Value} {arguments : Arguments}
    (isRead : (check raw).Accepts arguments) : WellFormed arguments := by
  simp only [check, accepts_record, accepts_seq, accepts_map] at isRead
  obtain ⟨fields, rfl, _, ⟨_, ⟨_, ⟨_, ⟨tools, byTools, rfl⟩, fileName, byName, rfl⟩, blockCounts,
    byCounts, rfl⟩, _, _, rfl⟩, _, _, rfl⟩ := isRead
  obtain ⟨_, _, ofTools⟩ := accepts_field.mp byTools
  obtain ⟨toolValues, rfl, someTools, areTools⟩ := accepts_listOr.mp ofTools
  obtain ⟨_, _, ofName⟩ := accepts_field.mp byName
  obtain ⟨_, _, ofCounts⟩ := accepts_field.mp byCounts
  obtain ⟨countValues, rfl, someCounts, areCounts⟩ := accepts_listOr.mp ofCounts
  constructor
  case someTools =>
    rintro (rfl : tools = [])
    exact someTools (List.forall₂_nil_right_iff.mp areTools)
  case toolsNamed => exact forall_of_items areTools fun _ _ ofTool => (accepts_someText.mp ofTool).2
  case fileNamed => exact (accepts_textOr.mp ofName).2
  case someBlockCounts =>
    rintro (rfl : blockCounts = [])
    exact someCounts (List.forall₂_nil_right_iff.mp areCounts)
  case blockCountsSafe => exact forall_of_items areCounts fun _ _ => isSafe_of_integerOption

theorem ofValue_eq_ok_iff {raw : Value} {arguments : Arguments} :
    ofValue raw = .ok arguments ↔ (check raw).Accepts arguments := by
  rw [← accepted_eq_ok_iff, ofValue]
  split
  next isChecked => rw [isChecked, Except.ok.injEq, Except.ok.injEq]
  next isChecked =>
    rw [isChecked]
    constructor
    · intro parsed
      split at parsed <;> cases parsed
    · intro accepted
      cases accepted

theorem wellFormed_of_value {raw : Value} {arguments : Arguments}
    (parsed : ofValue raw = .ok arguments) : WellFormed arguments :=
  wellFormed_of_accepts (ofValue_eq_ok_iff.mp parsed)

end PartitionBench.Arguments
