import Mathlib.Data.List.Basic
import PartitionBench.Path

/-!
Contract: a file name at the end of a path.

Owns:
- which components name a file;
- how pieces of a text follow from the pieces of its parts;
- the normal form of a file name in a directory: something that depends on the directory
  alone, and then the name itself;
- the name and the directory of such a path;
- which paths have a name, and that a path with its name in front of it is told by the text.

Does not own: where a path leads (`FileTree`) and which file names jobs use (`Job.Plan`).
-/

namespace PartitionBench.Text

/-! ## Pieces -/

theorem pieces_ne_nil (separator : Char) (chars : List Char) : pieces separator chars ≠ [] := by
  cases chars with
  | nil => exact List.cons_ne_nil _ _
  | cons c rest =>
      unfold pieces
      split
      · exact List.cons_ne_nil _ _
      · split <;> exact List.cons_ne_nil _ _

theorem pieces_whole {separator : Char} {chars : List Char} (absent : separator ∉ chars) :
    pieces separator chars = [chars] := by
  induction chars with
  | nil => rfl
  | cons c rest inductionHypothesis =>
      have different : c ≠ separator := by
        rintro rfl
        exact absent List.mem_cons_self
      have restWhole := inductionHypothesis fun member => absent (List.mem_cons_of_mem c member)
      simp only [pieces, if_neg different, restWhole]

/-- A separator between two texts ends the last piece of the one and begins the first of
the other. -/
theorem pieces_append (separator : Char) (left right : List Char) :
    pieces separator (left ++ separator :: right) =
      pieces separator left ++ pieces separator right := by
  induction left with
  | nil => simp [pieces]
  | cons c left inductionHypothesis =>
      by_cases isSeparator : c = separator
      · simp only [List.cons_append, pieces, if_pos isSeparator, inductionHypothesis]
      · simp only [List.cons_append, pieces, if_neg isSeparator, inductionHypothesis]
        cases split : pieces separator left with
        | nil => exact absurd split (pieces_ne_nil separator left)
        | cons piece others => rfl

/-- A character that is no separator stands in one of the pieces. -/
theorem mem_pieces_of_mem (separator : Char) {chars : List Char} {c : Char} (member : c ∈ chars) :
    c = separator ∨ ∃ piece ∈ pieces separator chars, c ∈ piece := by
  induction chars with
  | nil => exact absurd member List.not_mem_nil
  | cons d rest inductionHypothesis =>
      by_cases isSeparator : d = separator
      · rw [pieces, if_pos isSeparator]
        rcases List.mem_cons.mp member with rfl | inRest
        · exact Or.inl isSeparator
        · rcases inductionHypothesis inRest with same | ⟨piece, isPiece, inPiece⟩
          · exact Or.inl same
          · exact Or.inr ⟨piece, List.mem_cons_of_mem _ isPiece, inPiece⟩
      · rw [pieces, if_neg isSeparator]
        cases split : pieces separator rest with
        | nil => exact absurd split (pieces_ne_nil separator rest)
        | cons first others =>
            rw [split] at inductionHypothesis
            rcases List.mem_cons.mp member with rfl | inRest
            · exact Or.inr ⟨_, List.mem_cons_self, List.mem_cons_self⟩
            · rcases inductionHypothesis inRest with same | ⟨piece, isPiece, inPiece⟩
              · exact Or.inl same
              · rcases List.mem_cons.mp isPiece with rfl | inOthers
                · exact Or.inr ⟨_, List.mem_cons_self, List.mem_cons_of_mem _ inPiece⟩
                · exact Or.inr ⟨piece, List.mem_cons_of_mem _ inOthers, inPiece⟩

/-- A piece has no characters but those of the text. -/
theorem pieces_subset (separator : Char) {chars piece : List Char}
    (isPiece : piece ∈ pieces separator chars) : piece ⊆ chars := by
  induction chars generalizing piece with
  | nil =>
      rw [pieces, List.mem_singleton] at isPiece
      rw [isPiece]
      exact List.Subset.refl []
  | cons c rest inductionHypothesis =>
      have later : ∀ other ∈ pieces separator rest, other ⊆ c :: rest := fun other isOther =>
        List.subset_cons_of_subset c (inductionHypothesis isOther)
      unfold pieces at isPiece
      split at isPiece
      · rcases List.mem_cons.mp isPiece with rfl | isOther
        · exact List.nil_subset _
        · exact later piece isOther
      · cases split : pieces separator rest with
        | nil => exact absurd split (pieces_ne_nil separator rest)
        | cons first others =>
            rw [split] at isPiece later
            rcases List.mem_cons.mp isPiece with rfl | isOther
            · exact List.cons_subset.mpr ⟨List.mem_cons_self, later first List.mem_cons_self⟩
            · exact later piece (List.mem_cons_of_mem _ isOther)

end PartitionBench.Text

namespace PartitionBench.Path

/-! ## File names -/

/-- A component that names a file: one piece that is not empty and leads neither to the
same directory nor out of it. -/
structure IsFileName (component : List Char) : Prop where
  notEmpty : component ≠ []
  notSame : component ≠ ['.']
  notOuter : component ≠ ['.', '.']
  noSlash : '/' ∉ component

theorem pushComponent_fileName (mayClimb : Bool) (stack : List (List Char))
    {component : List Char} (isFile : IsFileName component) :
    pushComponent mayClimb stack component = component :: stack := by
  have notDropped : ¬ (component = [] ∨ component = ['.']) := by
    rintro (isEmpty | isSame)
    · exact isFile.notEmpty isEmpty
    · exact isFile.notSame isSame
  unfold pushComponent
  rw [if_neg notDropped, if_neg isFile.notOuter]

/-- A file name stays behind whatever remains of the directory, and takes nothing of it
back. -/
theorem resolved_fileName (mayClimb : Bool) (directory : List Char)
    {component : List Char} (isFile : IsFileName component) :
    resolved mayClimb (directory ++ '/' :: component) =
      resolved mayClimb directory ++ [component] := by
  rw [resolved, Text.pieces_append, Text.pieces_whole isFile.noSlash, List.foldl_append]
  simp only [List.foldl_cons, List.foldl_nil]
  rw [pushComponent_fileName mayClimb _ isFile, List.reverse_cons]
  rfl

theorem joined_concat (components : List (List Char)) (last : List Char) :
    joined (components ++ [last]) = components.flatMap (· ++ ['/']) ++ last := by
  induction components with
  | nil => simp [joined]
  | cons component rest inductionHypothesis =>
      unfold joined at inductionHypothesis ⊢
      cases rest with
      | nil => simp [List.intercalate]
      | cons next others =>
          rw [List.cons_append, List.cons_append, List.intercalate_cons_cons,
            ← List.cons_append, inductionHypothesis]
          simp

/-- What stands before a file name in its normal form inside a directory. -/
def leadChars (directory : List Char) : List Char :=
  if directory = [] then []
  else
    let isAbsolute := directory.head? = some '/'
    (if isAbsolute then ['/'] else [])
      ++ (resolved (!isAbsolute) directory).flatMap (· ++ ['/'])

/-- The lead is empty or ends in a slash, so that the file name behind it is a component
of its own. -/
theorem leadChars_shape (directory : List Char) :
    leadChars directory = [] ∨ ∃ before, leadChars directory = before ++ ['/'] := by
  unfold leadChars
  dsimp only
  split
  · exact Or.inl rfl
  · generalize resolved (!decide (directory.head? = some '/')) directory = components
    rcases List.eq_nil_or_concat' components with rfl | ⟨front, last, rfl⟩
    · split
      · exact Or.inr ⟨[], rfl⟩
      · exact Or.inl rfl
    · rw [List.flatMap_append, List.flatMap_singleton, ← List.append_assoc, ← List.append_assoc]
      exact Or.inr ⟨_, rfl⟩

/-- The normal form of a path that does not end in a slash and of which something
remains. -/
theorem normalizeChars_of_body (path : List Char)
    (present : joined (resolved (!decide (path.head? = some '/')) path) ≠ [])
    (notClosed : path.getLast? ≠ some '/') :
    normalizeChars path =
      (if path.head? = some '/' then ['/'] else [])
        ++ joined (resolved (!decide (path.head? = some '/')) path) := by
  unfold normalizeChars
  simp only [if_neg present, if_neg notClosed]
  split <;> rfl

/-- **A file name in a directory.** Its normal form is the lead, which the directory alone
decides, and the name as it was given. -/
theorem joinChars_fileName (directory : List Char) {component : List Char}
    (isFile : IsFileName component) :
    joinChars directory component = leadChars directory ++ component := by
  have notClosed : component.getLast? ≠ some '/' := by
    intro isSlash
    exact isFile.noSlash (List.mem_of_getLast? isSlash)
  have notAbsolute : component.head? ≠ some '/' := by
    intro isSlash
    exact isFile.noSlash (List.mem_of_head? isSlash)
  by_cases isEmpty : directory = []
  · have body : joined (resolved true component) = component := by
      rw [resolved, Text.pieces_whole isFile.noSlash]
      simp only [List.foldl_cons, List.foldl_nil]
      rw [pushComponent_fileName true [] isFile]
      simp [joined]
    have relative : (!decide (component.head? = some '/')) = true := by
      simpa using notAbsolute
    have normal := normalizeChars_of_body component
      (by rw [relative, body]; exact isFile.notEmpty) notClosed
    rw [relative, body, if_neg notAbsolute] at normal
    rw [joinChars, if_pos isEmpty, normal, leadChars, if_pos isEmpty]
  · have sameHead : (directory ++ '/' :: component).head? = directory.head? :=
      List.head?_append_of_ne_nil directory isEmpty
    have body : ∀ mayClimb,
        joined (resolved mayClimb (directory ++ '/' :: component)) =
          (resolved mayClimb directory).flatMap (· ++ ['/']) ++ component := by
      intro mayClimb
      rw [resolved_fileName mayClimb directory isFile, joined_concat]
    have normal := normalizeChars_of_body (directory ++ '/' :: component)
      (by
        rw [body]
        exact fun nothing => isFile.notEmpty (List.append_eq_nil_iff.mp nothing).2)
      (by
        rw [List.getLast?_append_cons, List.getLast?_cons_of_ne_nil isFile.notEmpty]
        exact notClosed)
    rw [body, sameHead] at normal
    rw [joinChars, if_neg isEmpty, if_neg isFile.notEmpty, normal, leadChars, if_neg isEmpty]
    simp only [List.append_assoc]

/-- Different file names in one directory have different paths. -/
theorem joinChars_fileName_injective (directory : List Char) {first second : List Char}
    (firstIsFile : IsFileName first) (secondIsFile : IsFileName second)
    (samePath : joinChars directory first = joinChars directory second) : first = second := by
  rw [joinChars_fileName directory firstIsFile, joinChars_fileName directory secondIsFile]
    at samePath
  exact List.append_cancel_left samePath

/-! ## The characters of a path -/

theorem pushComponent_members {mayClimb : Bool} {stack : List (List Char)}
    {component kept : List Char} (member : kept ∈ pushComponent mayClimb stack component) :
    kept ∈ stack ∨ kept = component := by
  unfold pushComponent at member
  split at member
  · exact Or.inl member
  · split at member
    · cases stack with
      | nil =>
          dsimp only at member
          split at member
          · exact Or.inr (List.mem_singleton.mp member)
          · exact Or.inl member
      | cons top rest =>
          dsimp only at member
          split at member
          · exact (List.mem_cons.mp member).symm
          · exact Or.inl (List.mem_cons_of_mem top member)
    · exact (List.mem_cons.mp member).symm

/-- Each component that remains of a path is one of its pieces. -/
theorem resolved_members {mayClimb : Bool} {path component : List Char}
    (member : component ∈ resolved mayClimb path) : component ∈ Text.pieces '/' path := by
  have kept : ∀ (components stack : List (List Char)),
      component ∈ components.foldl (pushComponent mayClimb) stack →
        component ∈ stack ∨ component ∈ components := by
    intro components
    induction components with
    | nil => exact fun stack inStack => Or.inl inStack
    | cons first others inductionHypothesis =>
        intro stack inFold
        rcases inductionHypothesis _ inFold with inPushed | inOthers
        · rcases pushComponent_members inPushed with inStack | rfl
          · exact Or.inl inStack
          · exact Or.inr List.mem_cons_self
        · exact Or.inr (List.mem_cons_of_mem first inOthers)
  rcases kept _ [] (List.mem_reverse.mp member) with inNothing | isPiece
  · exact absurd inNothing List.not_mem_nil
  · exact isPiece

theorem leadChars_characters {directory : List Char} {c : Char}
    (member : c ∈ leadChars directory) : c = '/' ∨ c ∈ directory := by
  have inComponents : ∀ mayClimb,
      c ∈ (resolved mayClimb directory).flatMap (· ++ ['/']) → c = '/' ∨ c ∈ directory := by
    intro mayClimb inFlat
    obtain ⟨component, isKept, inComponent⟩ := List.mem_flatMap.mp inFlat
    rcases List.mem_append.mp inComponent with inPiece | isSlash
    · exact Or.inr (Text.pieces_subset '/' (resolved_members isKept) inPiece)
    · exact Or.inl (List.mem_singleton.mp isSlash)
  unfold leadChars at member
  split at member
  · exact absurd member List.not_mem_nil
  · dsimp only at member
    rcases List.mem_append.mp member with isOpening | inFlat
    · split at isOpening
      · exact Or.inl (List.mem_singleton.mp isOpening)
      · exact absurd isOpening List.not_mem_nil
    · exact inComponents _ inFlat

/-- A file name in a directory has no characters but slashes and those of the two. -/
theorem joinChars_fileName_lacks {foreign : Char} {directory component : List Char}
    (isFile : IsFileName component) (notSlash : foreign ≠ '/')
    (notInDirectory : foreign ∉ directory) (notInName : foreign ∉ component) :
    foreign ∉ joinChars directory component := by
  rw [joinChars_fileName directory isFile]
  intro member
  rcases List.mem_append.mp member with inLead | inName
  · rcases leadChars_characters inLead with isSlash | inDirectory
    · exact notSlash isSlash
    · exact notInDirectory inDirectory
  · exact notInName inName

/-! ## The name of a path -/

/-- A path has no name when it consists of slashes. -/
theorem nameChars_eq_nil_iff {path : List Char} :
    nameChars path = [] ↔ ∀ c ∈ path, c = '/' := by
  have ofReversed : ∀ chars : List Char,
      (chars.dropWhile (· = '/')).takeWhile (· ≠ '/') = [] ↔ ∀ c ∈ chars, c = '/' := by
    intro chars
    induction chars with
    | nil => simp
    | cons c rest inductionHypothesis =>
        by_cases isSlash : c = '/'
        · simp only [List.dropWhile_cons, isSlash, decide_true, if_true, inductionHypothesis,
            List.forall_mem_cons, true_and]
        · simp [isSlash]
  rw [nameChars, List.reverse_eq_nil_iff, ofReversed]
  simp only [List.mem_reverse]

theorem name_eq_empty_iff {path : String} : name path = "" ↔ ∀ c ∈ path.toList, c = '/' := by
  rw [← nameChars_eq_nil_iff, name, String.ofList_eq_empty_iff]

/-- Whatever is put in front of a path, its name stays at the end of the name. -/
theorem nameChars_suffix (lead : List Char) {path : List Char} (named : nameChars path ≠ []) :
    nameChars path <:+ nameChars (lead ++ path) := by
  have someTail : path.reverse.dropWhile (· = '/') ≠ [] := by
    intro isEmpty
    rw [nameChars, isEmpty] at named
    exact named rfl
  rw [nameChars, nameChars, List.reverse_append, List.dropWhile_append,
    if_neg (by simpa using someTail), List.takeWhile_append, List.reverse_suffix]
  split
  next isWhole =>
    exact (List.takeWhile_prefix _).trans (List.prefix_append _ _)
  next => exact List.prefix_rfl

/-- **A name in front of its path** can be told from the path although the mark between the two may
stand in both. -/
theorem named_injective (mark : Char) {first second : List Char}
    (same : nameChars first ++ mark :: first = nameChars second ++ mark :: second) :
    first = second := by
  -- Were one name shorter, the other path would stand at the end of its path, and so would the
  -- longer name at the end of the shorter one.
  have notShorter : ∀ {path other : List Char},
      nameChars path ++ mark :: path = nameChars other ++ mark :: other →
        (nameChars other).length ≤ (nameChars path).length := by
    intro path other sameText
    by_contra isShorter
    rcases List.append_eq_append_iff.mp sameText with ⟨more, isLonger, rest⟩ | ⟨more, isLonger, _⟩
    · cases more with
      | nil =>
          rw [isLonger, List.append_nil] at isShorter
          exact isShorter (Nat.le_refl _)
      | cons c lead =>
          have isPath : path = (lead ++ [mark]) ++ other := by
            simpa using (List.cons.inj rest).2
          have named : nameChars other ≠ [] := by simp [isLonger]
          have suffix := nameChars_suffix (lead ++ [mark]) named
          rw [← isPath] at suffix
          exact isShorter suffix.length_le
    · rw [isLonger, List.length_append] at isShorter
      omega
  have sameLength := Nat.le_antisymm (notShorter same.symm) (notShorter same)
  exact (List.cons.inj (List.append_inj same sameLength).2).2

/-! ## The two parts of a path -/

section Lead

variable {lead component : List Char} (isFile : IsFileName component)

include isFile

/-- No slash stands behind a file name. -/
theorem dropWhile_slashes_fileName :
    (lead ++ component).reverse.dropWhile (· = '/') = component.reverse ++ lead.reverse := by
  rw [List.reverse_append]
  cases reversed : component.reverse with
  | nil => exact absurd (List.reverse_eq_nil_iff.mp reversed) isFile.notEmpty
  | cons last front =>
      have isLast : last ∈ component := by
        rw [← List.mem_reverse, reversed]
        exact List.mem_cons_self
      have notSlash : last ≠ '/' := by
        rintro rfl
        exact isFile.noSlash isLast
      rw [List.cons_append, List.dropWhile_cons_of_neg (by simpa using notSlash)]

theorem noSlash_reversed : ∀ c ∈ component.reverse, decide (c ≠ '/') = true := by
  intro c member
  refine decide_eq_true ?_
  rintro rfl
  exact isFile.noSlash (List.mem_reverse.mp member)

variable (isLead : lead = [] ∨ ∃ before, lead = before ++ ['/'])

include isLead

theorem nameChars_fileName : nameChars (lead ++ component) = component := by
  have ended : lead.reverse.takeWhile (· ≠ '/') = [] := by
    rcases isLead with rfl | ⟨before, rfl⟩ <;> simp
  rw [nameChars, dropWhile_slashes_fileName isFile,
    List.takeWhile_append_of_pos (noSlash_reversed isFile), ended, List.append_nil,
    List.reverse_reverse]

/-- The directory of a path hangs on what stands in front of its file name, and not on the file
name. -/
theorem directoryChars_fileName {other : List Char} (otherIsFile : IsFileName other) :
    directoryChars (lead ++ component) = directoryChars (lead ++ other) := by
  have ended : lead.reverse.dropWhile (· ≠ '/') = lead.reverse := by
    rcases isLead with rfl | ⟨before, rfl⟩ <;> simp
  have above : ∀ {name : List Char}, IsFileName name →
      ((lead ++ name).reverse.dropWhile (· = '/')).dropWhile (· ≠ '/') = lead.reverse := by
    intro name isName
    rw [dropWhile_slashes_fileName isName,
      List.dropWhile_append_of_pos (noSlash_reversed isName), ended]
  have relative : ∀ {name : List Char}, IsFileName name → name.head? ≠ some '/' := by
    intro name isName isSlash
    exact isName.noSlash (List.mem_of_head? isSlash)
  unfold directoryChars
  rw [above isFile, above otherIsFile]
  cases reversed : lead.reverse with
  | nil =>
      obtain rfl := List.reverse_eq_nil_iff.mp reversed
      simp only [List.nil_append, if_neg (relative isFile), if_neg (relative otherIsFile)]
  | cons slash before => rfl

end Lead

section Join

variable (directory : String) {name : String} (isFile : IsFileName name.toList)

include isFile

/-- **A file stays in its directory.** The last component of its path is its name as it was
given. -/
theorem name_join : Path.name (Path.join directory name) = name := by
  rw [Path.name, Path.join, String.toList_ofList, joinChars_fileName _ isFile,
    nameChars_fileName isFile (leadChars_shape _), String.ofList_toList]

/-- All file names have the same directory part in a directory. -/
theorem directory_join {other : String} (otherIsFile : IsFileName other.toList) :
    Path.directory (Path.join directory name) = Path.directory (Path.join directory other) := by
  simp only [Path.directory, Path.join, String.toList_ofList, joinChars_fileName _ isFile,
    joinChars_fileName _ otherIsFile]
  rw [directoryChars_fileName isFile (leadChars_shape _) otherIsFile]

end Join

end PartitionBench.Path
