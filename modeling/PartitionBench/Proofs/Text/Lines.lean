import PartitionBench.Text.Lines

/-!
Contract: what the lines of a text are.

Owns:
- the lines of a text, each told by what stands behind it;
- that the splitting of a text gives these lines and no others.

Does not own: what lines are used for.
-/

namespace PartitionBench.Text

/-- The characters of a line: none of them ends a line. -/
def IsLine (chars : List Char) : Prop :=
  '\n' ∉ chars ∧ '\r' ∉ chars

/-- A text has the given lines. A carriage return ends a line together with the line feed
behind it, if there is one. The last line need not be ended, but counts then only if it is not
empty. -/
inductive AreLines : List Char → List (List Char) → Prop
  | nothing : AreLines [] []
  | unended {line : List Char} (isLine : IsLine line) (notEmpty : line ≠ []) :
      AreLines line [line]
  | lineFeed {line rest : List Char} {lines : List (List Char)} (isLine : IsLine line)
      (later : AreLines rest lines) : AreLines (line ++ '\n' :: rest) (line :: lines)
  | both {line rest : List Char} {lines : List (List Char)} (isLine : IsLine line)
      (later : AreLines rest lines) : AreLines (line ++ '\r' :: '\n' :: rest) (line :: lines)
  | carriageReturn {line rest : List Char} {lines : List (List Char)} (isLine : IsLine line)
      (alone : rest.head? ≠ some '\n') (later : AreLines rest lines) :
      AreLines (line ++ '\r' :: rest) (line :: lines)

theorem isLine_cons {c : Char} {rest : List Char} :
    IsLine (c :: rest) ↔ (c ≠ '\n' ∧ c ≠ '\r') ∧ IsLine rest := by
  simp only [IsLine, List.mem_cons, not_or]
  constructor
  · rintro ⟨⟨notFeed, noFeeds⟩, notReturn, noReturns⟩
    exact ⟨⟨Ne.symm notFeed, Ne.symm notReturn⟩, noFeeds, noReturns⟩
  · rintro ⟨⟨notFeed, notReturn⟩, noFeeds, noReturns⟩
    exact ⟨⟨Ne.symm notFeed, noFeeds⟩, Ne.symm notReturn, noReturns⟩

/-- A carriage return with no line feed behind it ends a line by itself. -/
theorem linesFrom_carriageReturn (current : List Char) {rest : List Char}
    (alone : rest.head? ≠ some '\n') :
    linesFrom current ('\r' :: rest) = current.reverse :: linesFrom [] rest := by
  cases rest with
  | nil => rfl
  | cons c rest =>
      have different : c ≠ '\n' := fun same => alone (congrArg some same)
      simp [linesFrom, different]

/-- The characters of a line are kept until something ends it. -/
theorem linesFrom_line {line : List Char} (isLine : IsLine line) (current rest : List Char) :
    linesFrom current (line ++ rest) = linesFrom (line.reverse ++ current) rest := by
  induction line generalizing current with
  | nil => rfl
  | cons c line inductionHypothesis =>
      obtain ⟨⟨notFeed, notReturn⟩, restIsLine⟩ := isLine_cons.mp isLine
      have kept : linesFrom current (c :: (line ++ rest)) = linesFrom (c :: current) (line ++ rest) := by
        simp [linesFrom, notFeed, notReturn]
      rw [List.cons_append, kept, inductionHypothesis restIsLine, List.reverse_cons,
        List.append_assoc]
      rfl

theorem isLine_nil : IsLine [] :=
  ⟨List.not_mem_nil, List.not_mem_nil⟩

theorem areLines_linesFrom {current : List Char} (isLine : IsLine current.reverse)
    (text : List Char) : AreLines (current.reverse ++ text) (linesFrom current text) := by
  fun_induction linesFrom current text with
  | case1 current isEmpty =>
      rw [List.isEmpty_iff.mp isEmpty]
      exact AreLines.nothing
  | case2 current notEmpty =>
      rw [List.append_nil]
      refine AreLines.unended isLine ?_
      simpa using notEmpty
  | case3 current rest inductionHypothesis =>
      exact AreLines.both isLine (inductionHypothesis isLine_nil)
  | case4 current c rest notBoth ends inductionHypothesis =>
      rcases ends with rfl | rfl
      · exact AreLines.lineFeed isLine (inductionHypothesis isLine_nil)
      · refine AreLines.carriageReturn isLine ?_ (inductionHypothesis isLine_nil)
        intro feed
        obtain ⟨others, rfl⟩ := List.head?_eq_some_iff.mp feed
        exact notBoth others rfl rfl
  | case5 current c rest notBoth goesOn inductionHypothesis =>
      have longer : IsLine (c :: current).reverse := by
        simp only [IsLine, List.mem_reverse] at isLine ⊢
        exact isLine_cons.mpr ⟨not_or.mp goesOn, isLine⟩
      have later := inductionHypothesis longer
      rwa [List.reverse_cons, List.append_assoc] at later

/-- The lines of a text are those that splitting gives: a text has them, and no others. -/
theorem areLines_iff {text : List Char} {lines : List (List Char)} :
    AreLines text lines ↔ linesFrom [] text = lines := by
  constructor
  · intro areLines
    induction areLines with
    | nothing => rfl
    | @unended line isLine notEmpty =>
        have whole := linesFrom_line isLine [] []
        rw [List.append_nil, List.append_nil] at whole
        rw [whole]
        simp [linesFrom, notEmpty]
    | lineFeed isLine later inductionHypothesis =>
        rw [linesFrom_line isLine, List.append_nil]
        simp [linesFrom, inductionHypothesis]
    | both isLine later inductionHypothesis =>
        rw [linesFrom_line isLine, List.append_nil]
        simp [linesFrom, inductionHypothesis]
    | carriageReturn isLine alone later inductionHypothesis =>
        rw [linesFrom_line isLine, List.append_nil, linesFrom_carriageReturn _ alone,
          inductionHypothesis, List.reverse_reverse]
  · rintro rfl
    exact @areLines_linesFrom [] isLine_nil text

theorem areLines_text_iff (text : String) (given : List String) :
    AreLines text.toList (given.map String.toList) ↔ given = lines text := by
  rw [areLines_iff, lines]
  constructor
  · intro areLines
    have restored : String.ofList ∘ String.toList = id := funext fun _ => String.ofList_toList
    rw [areLines, List.map_map, restored, List.map_id]
  · rintro rfl
    have restored : String.toList ∘ String.ofList = id := funext fun _ => String.toList_ofList
    rw [List.map_map, restored, List.map_id]

end PartitionBench.Text
