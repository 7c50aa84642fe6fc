import Mathlib.Data.List.TakeWhile
import PartitionBench.Text.Blank

/-!
Contract: texts with blanks around them.

Owns: that trimming drops blanks at both ends of a text, and all of them.

Does not own: what stands between the blanks.
-/

namespace PartitionBench.Text

/-- A text consists of what is left when it is trimmed, with blanks around it. -/
theorem trimChars_split (chars : List Char) :
    ∃ before behind, (∀ c ∈ before, isBlank c = true) ∧ (∀ c ∈ behind, isBlank c = true) ∧
      chars = before ++ (trimChars chars ++ behind) := by
  refine ⟨chars.takeWhile isBlank, ((chars.dropWhile isBlank).reverse.takeWhile isBlank).reverse,
    fun c => List.mem_takeWhile_imp, ?_, ?_⟩
  · intro c member
    exact List.mem_takeWhile_imp (List.mem_reverse.mp member)
  · rw [trimChars, ← List.reverse_append, List.takeWhile_append_dropWhile, List.reverse_reverse,
      List.takeWhile_append_dropWhile]

/-- What has no blanks is left when the blanks around it are dropped. -/
theorem trimChars_padded {before body behind : List Char}
    (leading : ∀ c ∈ before, isBlank c = true) (trailing : ∀ c ∈ behind, isBlank c = true)
    (solid : ∀ c ∈ body, isBlank c = false) :
    trimChars (before ++ (body ++ behind)) = body := by
  have fromFront : (before ++ (body ++ behind)).dropWhile isBlank =
      body ++ if body = [] then [] else behind := by
    rw [List.dropWhile_append_of_pos leading]
    cases body with
    | nil => simpa using List.dropWhile_eq_nil_iff.mpr trailing
    | cons first rest =>
        rw [List.cons_append, List.dropWhile_cons_of_neg (by simp [solid first])]
        rfl
  have backwards : ∀ c ∈ (if body = [] then [] else behind).reverse, isBlank c = true := by
    intro c member
    split at member
    · cases member
    · exact trailing c (List.mem_reverse.mp member)
  have ended : body.reverse.dropWhile isBlank = body.reverse := by
    rw [List.dropWhile_eq_self_iff]
    intro some
    exact Bool.eq_false_iff.mp (solid _ (List.mem_reverse.mp (List.getElem_mem some)))
  rw [trimChars, fromFront, List.reverse_append, List.dropWhile_append_of_pos backwards, ended,
    List.reverse_reverse]

end PartitionBench.Text
