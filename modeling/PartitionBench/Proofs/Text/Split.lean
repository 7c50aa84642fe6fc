import PartitionBench.Text.Split

/-!
Contract: texts that start with a fixed run of characters.

Owns: that the run is cut off exactly where it stands, and what is then left.

Does not own: the pieces between separators (`Proofs.FileName`).
-/

namespace PartitionBench.Text

theorem dropOpening_append (opening rest : List Char) :
    dropOpening? opening (opening ++ rest) = some rest := by
  induction opening with
  | nil => rfl
  | cons c opening inductionHypothesis =>
      rw [List.cons_append, dropOpening?, if_pos rfl, inductionHypothesis]

theorem dropOpening_eq_some_iff {opening chars rest : List Char} :
    dropOpening? opening chars = some rest ↔ chars = opening ++ rest := by
  refine ⟨fun isCut => ?_, fun isText => isText ▸ dropOpening_append opening rest⟩
  induction opening generalizing chars with
  | nil => exact Option.some.inj isCut
  | cons c opening inductionHypothesis =>
      cases chars with
      | nil => cases isCut
      | cons first chars =>
          obtain ⟨rfl, later⟩ := Option.ite_none_right_eq_some.mp isCut
          rw [inductionHypothesis later, List.cons_append]

end PartitionBench.Text
