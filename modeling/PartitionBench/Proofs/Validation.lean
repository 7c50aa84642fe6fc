import Mathlib.Data.List.TakeWhile
import PartitionBench.Validation

/-!
Contract: the warnings that arguments give rise to.

Owns:
- the extension of a file name, as a splitting of the name;
- the warnings before the look-up of the file and behind it, in terms of the arguments alone.

Does not own: when the warnings are reported (`Proofs.Pipeline.Order`).
-/

namespace PartitionBench

/-! ## The extension of a file name -/

/-- The extension of a file name is free of dots, and stands behind the last dot of the name. A
name without a dot is all extension. -/
structure IsExtension (fileName extension : String) : Prop where
  noDot : '.' ∉ extension.toList
  atEnd : fileName = extension ∨ ∃ stem, fileName = stem ++ "." ++ extension

namespace Text

theorem not_mem_afterLast (separator : Char) (chars : List Char) :
    separator ∉ afterLast separator chars := by
  intro member
  have isOther := List.mem_takeWhile_imp (List.mem_reverse.mp member)
  simp at isOther

/-- What stands before the last separator ends with it, if there is one. -/
theorem afterLast_splits (separator : Char) (chars : List Char) :
    chars = afterLast separator chars ∨
      ∃ front, chars = front ++ separator :: afterLast separator chars := by
  have parts := List.takeWhile_append_dropWhile (p := (· ≠ separator)) (l := chars.reverse)
  unfold afterLast
  cases remaining : chars.reverse.dropWhile (· ≠ separator) with
  | nil =>
      rw [remaining, List.append_nil] at parts
      exact Or.inl (by rw [parts, List.reverse_reverse])
  | cons first others =>
      have isSeparator : first = separator := by
        have stopped := List.head?_dropWhile_not (· ≠ separator) chars.reverse
        rw [remaining] at stopped
        simpa using stopped
      refine Or.inr ⟨others.reverse, ?_⟩
      rw [remaining, isSeparator] at parts
      have whole := congrArg List.reverse parts
      rw [List.reverse_reverse, List.reverse_append, List.reverse_cons, List.append_assoc] at whole
      exact whole.symm

end Text

theorem fileExtension_isExtension (fileName : String) :
    IsExtension fileName (fileExtension fileName) where
  noDot := by
    rw [fileExtension, String.toList_ofList]
    exact Text.not_mem_afterLast '.' fileName.toList
  atEnd := by
    rcases Text.afterLast_splits '.' fileName.toList with isAll | ⟨front, isSplit⟩
    · refine Or.inl (String.toList_injective ?_)
      rw [fileExtension, String.toList_ofList, ← isAll]
    · refine Or.inr ⟨String.ofList front, String.toList_injective ?_⟩
      have written : (fileExtension fileName).toList = Text.afterLast '.' fileName.toList :=
        String.toList_ofList
      rw [String.toList_append, String.toList_append, String.toList_ofList, written,
        List.append_assoc]
      exact isSplit

/-! ## Warnings -/

/-- Of the formats, METIS files and binary files have a usual extension. -/
theorem FileFormat.extension?_eq (code : Int) :
    FileFormat.extension? code =
      if code = 1 then some "graph" else if code = 6 then some "bgf" else none := by
  unfold extension? ofCode?
  by_cases isNegative : code < 0
  · rw [if_pos isNegative, if_neg (by omega), if_neg (by omega)]
    rfl
  · obtain ⟨number, rfl⟩ := Int.eq_ofNat_of_zero_le (Int.not_lt.mp isNegative)
    rw [if_neg isNegative, Int.toNat_natCast]
    by_cases isKnown : number < 10
    · have ofKnown : ∀ known : Fin 10, (all[known.val]?).bind FileFormat.extension =
          if (known.val : Int) = 1 then some "graph"
          else if (known.val : Int) = 6 then some "bgf" else none := by decide
      exact ofKnown ⟨number, isKnown⟩
    · have isUnknown : all[number]? = none := List.getElem?_eq_none (Nat.le_of_not_lt isKnown)
      rw [isUnknown, if_neg (by omega), if_neg (by omega)]
      rfl

namespace Validation

/-- The warning that a METIS file does not end in `graph`, or a binary file not in `bgf`. -/
def disagreement (arguments : Arguments) : List Warning :=
  let found := fileExtension arguments.fileName
  if arguments.fileFormat = 1 ∧ found ≠ "graph" then [.formatMismatch 1 found "graph"]
  else if arguments.fileFormat = 6 ∧ found ≠ "bgf" then [.formatMismatch 6 found "bgf"]
  else []

/-- The warnings on arguments whose file is there: on the format, on each block count that sixteen
does not divide, on the dimension and on the format code. -/
def warningsDue (arguments : Arguments) : List Warning :=
  disagreement arguments
    ++ (arguments.blockCounts.filter fun count => ¬ (16 : Int) ∣ count).map .blockCount
    ++ (if arguments.dimensions ≤ 0 then [.dimension arguments.dimensions] else [])
    ++ (if arguments.fileFormat < 0 then [.fileFormat arguments.fileFormat] else [])

theorem formatAdvice_eq (arguments : Arguments) :
    formatAdvice arguments = disagreement arguments := by
  simp only [formatAdvice, disagreement, FileFormat.extension?_eq]
  by_cases isMetis : arguments.fileFormat = 1
  · simp [isMetis]
  · by_cases isBinary : arguments.fileFormat = 6
    · simp [isBinary]
    · simp [isMetis, isBinary]

theorem countAdvice_eq (arguments : Arguments) :
    countAdvice arguments =
      (arguments.blockCounts.filter fun count => ¬ (16 : Int) ∣ count).map .blockCount := by
  have sameTest : ∀ count : Int, decide (count % blockCountMultiple ≠ 0) =
      decide (¬ (16 : Int) ∣ count) := by
    intro count
    rw [decide_eq_decide, Int.dvd_iff_emod_eq_zero]
    rfl
  simp only [countAdvice, sameTest]

theorem advice_eq (arguments : Arguments) : advice arguments = warningsDue arguments := by
  simp only [advice, formatAdvice_eq, countAdvice_eq]
  rfl

theorem disagreement_opens (arguments : Arguments) :
    disagreement arguments <+: warningsDue arguments := by
  unfold warningsDue
  rw [List.append_assoc, List.append_assoc]
  exact List.prefix_append _ _

end Validation

end PartitionBench
