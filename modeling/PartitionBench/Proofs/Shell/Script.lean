import Mathlib.Data.List.Basic
import PartitionBench.Proofs.Shell.RoundTrip

/-!
Contract: the command that a shell finds in a script.

Owns:
- the reader of a script, which expects comment lines, one blank line and one command;
- the first words that a shell does not take for the name of a command;
- the texts that can be pasted into a comment without ending it;
- that a script with comments above a written command is read as that command exactly when
  what was pasted stays in the comments and the first word can name a command.

Does not own: which texts the scripts of jobs are made of (`Proofs.Job.Script`).
-/

namespace PartitionBench.Shell

/-! ## The reader of a script -/

/-- A character of the name of a variable. -/
def isVariableCharacter (c : Char) : Bool :=
  ('A' ≤ c && c ≤ 'Z') || ('a' ≤ c && c ≤ 'z') || ('0' ≤ c && c ≤ '9') || c = '_'

/-- A text begins with what stands behind the name in an assignment. -/
def opensValue (text : List Char) : Bool :=
  text.head? = some '=' || text.take 2 = ['+', '=']

/-- A text begins with an assignment: with the name of a variable, which does not begin with a
digit, and `=` or `+=`. -/
def opensAssignment (text : List Char) : Bool :=
  (text.head?.any fun c => isVariableCharacter c && !('0' ≤ c && c ≤ '9'))
    && opensValue (text.dropWhile isVariableCharacter)

/-- The words with which a shell begins or ends something else than a simple command. -/
def reservedWords : List String :=
  ["if", "then", "else", "elif", "fi", "case", "esac", "for", "select", "while", "until", "do",
    "done", "in", "function", "time", "coproc"]

/-- A character behind which a word ends. -/
def isDelimiter (c : Char) : Bool :=
  c = ' ' || c = '\n'

/-- A text begins with a reserved word. -/
def opensReserved (text : List Char) : Bool :=
  reservedWords.contains (String.ofList (text.takeWhile fun c => !isDelimiter c))

/-- The words of the simple command that a text consists of, up to the newline that ends it.
There is none where the text opens with an assignment or a reserved word: then its first word
is not the name of a command. -/
def simpleCommand? (text : List Char) : Option (List (List Char)) :=
  let line := text.dropWhile (· = ' ')
  if opensAssignment line || opensReserved line then none
  else if text.getLast? = some '\n' then readFrom .between text.dropLast
  else none

/-- What is left of a text behind the comment lines at its start. Such a line begins with `#`. -/
def skipComments (inComment : Bool) : List Char → List Char
  | [] => []
  | c :: rest =>
      if inComment then skipComments (c ≠ '\n') rest
      else if c = '#' then skipComments true rest
      else c :: rest

/-- The words of the command of a script that holds, above the command, nothing but comment
lines and then one blank line, and nothing behind it. -/
def scriptCommand? (script : String) : Option (List String) :=
  match skipComments false script.toList with
  | '\n' :: rest => (simpleCommand? rest).map (·.map String.ofList)
  | _ => none

/-! ## The first word -/

/-- A word that is written bare and is then no name of a command, where it stands first. -/
def misleads (word : List Char) : Bool :=
  word.all isPlain && (opensAssignment word || reservedWords.contains (String.ofList word))

theorem isPlain_not_delimiter {c : Char} (plain : isPlain c = true) : isDelimiter c = false := by
  have notSpace : c ≠ ' ' := (isPlain_ordinary plain).1
  have notNewline : c ≠ '\n' := by
    rintro rfl
    exact absurd plain (by decide)
  simp [isDelimiter, notSpace, notNewline]

theorem opensReserved_of_quote (rest : List Char) : opensReserved ('\'' :: rest) = false := by
  have noneQuoted : ∀ word ∈ reservedWords, word.toList.head? ≠ some '\'' := by decide
  have kept : ('\'' :: rest).takeWhile (fun c => !isDelimiter c) =
      '\'' :: rest.takeWhile fun c => !isDelimiter c :=
    List.takeWhile_cons_of_pos (by decide)
  rw [opensReserved, kept, Bool.eq_false_iff]
  intro isReserved
  refine noneQuoted _ (List.contains_iff_mem.mp isReserved) ?_
  rw [String.toList_ofList]
  rfl

section FirstWord

/-! A text begins as the word at its start does. -/

variable {delimiter : Char} (ends : delimiter = ' ' ∨ delimiter = '\n')

include ends

theorem opensValue_append (text more : List Char) :
    opensValue (text ++ delimiter :: more) = opensValue text := by
  rcases ends with rfl | rfl
  all_goals rcases text with _ | ⟨first, _ | ⟨second, rest⟩⟩ <;> simp [opensValue]

theorem opensAssignment_append (word more : List Char) :
    opensAssignment (word ++ delimiter :: more) = opensAssignment word := by
  have notVariable : isVariableCharacter delimiter = false := by
    rcases ends with rfl | rfl <;> decide
  have sameFirst : ((word ++ delimiter :: more).head?.any fun c =>
        isVariableCharacter c && !('0' ≤ c && c ≤ '9')) =
      word.head?.any fun c => isVariableCharacter c && !('0' ≤ c && c ≤ '9') := by
    cases word with
    | nil => simp [notVariable]
    | cons c rest => rfl
  have sameName : (word ++ delimiter :: more).dropWhile isVariableCharacter =
      word.dropWhile isVariableCharacter ++ delimiter :: more := by
    rw [List.dropWhile_append, List.dropWhile_cons_of_neg (by simp [notVariable])]
    cases word.dropWhile isVariableCharacter <;> rfl
  rw [opensAssignment, opensAssignment, sameFirst, sameName, opensValue_append ends]

theorem opensReserved_append {word : List Char} (undelimited : ∀ c ∈ word, isDelimiter c = false)
    (more : List Char) :
    opensReserved (word ++ delimiter :: more) = reservedWords.contains (String.ofList word) := by
  have isDelimited : isDelimiter delimiter = true := by
    rcases ends with rfl | rfl <;> decide
  have whole : (word ++ delimiter :: more).takeWhile (fun c => !isDelimiter c) = word := by
    rw [List.takeWhile_append_of_pos (by simpa using undelimited),
      List.takeWhile_cons_of_neg (by simp [isDelimited]), List.append_nil]
  rw [opensReserved, whole]

/-- A text that begins with a written word opens with an assignment or a reserved word exactly
when that word misleads. In quotes no word does. -/
theorem opens_quoteChars (word more : List Char) :
    (opensAssignment (quoteChars word ++ delimiter :: more) ||
      opensReserved (quoteChars word ++ delimiter :: more)) = misleads word := by
  by_cases isBare : word ≠ [] ∧ word.all isPlain = true
  · have undelimited : ∀ c ∈ word, isDelimiter c = false := fun c member =>
      isPlain_not_delimiter (List.all_eq_true.mp isBare.2 c member)
    rw [quoteChars, if_pos isBare, opensAssignment_append ends,
      opensReserved_append ends undelimited, misleads, isBare.2, Bool.true_and]
  · have quoted : quoteChars word = '\'' :: (quotedChars word ++ ['\'']) := by
      rw [quoteChars, if_neg isBare]
    have notMisleading : misleads word = false := by
      by_cases isEmpty : word = []
      · subst isEmpty
        decide
      · have notPlain : word.all isPlain = false :=
          Bool.eq_false_iff.mpr fun plain => isBare ⟨isEmpty, plain⟩
        rw [misleads, notPlain, Bool.false_and]
    rw [quoted, notMisleading, List.cons_append, opensReserved_of_quote, Bool.or_false]
    rfl

end FirstWord

/-! ## Commands -/

/-- The written form of a command, as characters. -/
def lineOf (words : List (List Char)) : List Char :=
  List.intercalate [' '] (words.map quoteChars)

theorem lineOf_cons (word : List Char) (rest : List (List Char)) :
    ∃ more, lineOf (word :: rest) ++ ['\n'] = quoteChars word ++ more ∧
      ∃ delimiter behind, more = delimiter :: behind ∧ (delimiter = ' ' ∨ delimiter = '\n') := by
  cases rest with
  | nil =>
      refine ⟨['\n'], ?_, '\n', [], rfl, Or.inr rfl⟩
      simp [lineOf]
  | cons next others =>
      refine ⟨' ' :: (lineOf (next :: others) ++ ['\n']), ?_, ' ', _, rfl, Or.inl rfl⟩
      simp [lineOf, List.intercalate]

theorem quoteChars_head (word : List Char) :
    ∃ c rest, quoteChars word = c :: rest ∧ c ≠ ' ' := by
  by_cases isBare : word ≠ [] ∧ word.all isPlain = true
  · obtain ⟨c, rest, rfl⟩ := List.exists_cons_of_ne_nil isBare.1
    have plain := List.all_eq_true.mp isBare.2 c List.mem_cons_self
    exact ⟨c, rest, by rw [quoteChars, if_pos isBare], (isPlain_ordinary plain).1⟩
  · exact ⟨'\'', quotedChars word ++ ['\''], by rw [quoteChars, if_neg isBare], by decide⟩

/-- A written command is a simple command of its words unless its first word misleads. -/
theorem simpleCommand?_lineOf (word : List Char) (rest : List (List Char)) :
    simpleCommand? (lineOf (word :: rest) ++ ['\n']) =
      if misleads word = true then none else some (word :: rest) := by
  have read : readFrom .between (lineOf (word :: rest) ++ ['\n']).dropLast =
      some (word :: rest) := by
    rw [List.dropLast_concat]
    exact readFrom_line (word :: rest)
  have ended : (lineOf (word :: rest) ++ ['\n']).getLast? = some '\n' := List.getLast?_concat
  obtain ⟨_, written, delimiter, behind, rfl, ends⟩ := lineOf_cons word rest
  have noBlank : (lineOf (word :: rest) ++ ['\n']).dropWhile (· = ' ') =
      lineOf (word :: rest) ++ ['\n'] := by
    obtain ⟨c, others, isFirst, notSpace⟩ := quoteChars_head word
    rw [written, isFirst, List.cons_append, List.dropWhile_cons_of_neg (by simpa using notSpace)]
  unfold simpleCommand?
  simp only [noBlank, ended, read, if_true]
  rw [written, opens_quoteChars ends]

/-! ## Newlines -/

/-- The characters of a word that a reader is in. -/
def Reading.read : Reading → List Char
  | .between => []
  | .inWord read | .inQuotes read | .behindBackslash read => read

/-- No newline of a text is lost: a reader of words that does not fail finds each of them in a
word. -/
theorem readFrom_newlines {reading : Reading} {text : List Char} {words : List (List Char)}
    (read : readFrom reading text = some words) :
    words.flatten.count '\n' = reading.read.count '\n' + text.count '\n' := by
  fun_induction readFrom reading text generalizing words with
  | case1 =>
      cases read
      rfl
  | case2 =>
      cases read
      simp [Reading.read]
  | case3 | case4 | case9 | case14 => cases read
  | case10 before rest inductionHypothesis =>
      obtain ⟨others, isRead, rfl⟩ := Option.map_eq_some_iff.mp read
      simp [Reading.read, inductionHypothesis isRead]
  -- A space, a quote mark or a backslash is no newline and goes into no word.
  | case5 rest inductionHypothesis
  | case6 rest _ inductionHypothesis
  | case7 rest _ _ inductionHypothesis
  | case11 before rest _ inductionHypothesis
  | case12 before rest _ _ inductionHypothesis
  | case15 before rest inductionHypothesis =>
      simp [Reading.read, inductionHypothesis read]
  -- Every other character goes into the word, a newline too where it is read.
  | case8 c rest _ _ _ _ inductionHypothesis
  | case13 before c rest _ _ _ _ inductionHypothesis
  | case16 before c rest _ inductionHypothesis
  | case17 before c rest inductionHypothesis =>
      simp only [inductionHypothesis read, Reading.read, List.count_cons, List.count_nil]
      omega

/-- A simple command holds its words, and one newline that is in none of them. -/
theorem simpleCommand?_newlines {text : List Char} {words : List (List Char)}
    (read : simpleCommand? text = some words) :
    text.count '\n' = words.flatten.count '\n' + 1 := by
  unfold simpleCommand? at read
  dsimp only at read
  split at read
  · cases read
  · split at read
    next isEnded =>
      obtain ⟨line, rfl⟩ := List.getLast?_eq_some_iff.mp isEnded
      rw [List.dropLast_concat] at read
      have inWords := readFrom_newlines read
      rw [Reading.read, List.count_nil, Nat.zero_add] at inWords
      rw [List.count_append, inWords]
      rfl
    next => cases read

/-- With more newlines than the written command has, a text is no command of the same words. -/
theorem simpleCommand?_of_more {text before : List Char} {words : List (List Char)}
    (holds : text = before ++ '\n' :: (lineOf words ++ ['\n'])) :
    simpleCommand? text ≠ some words := by
  intro read
  have inLine : words.flatten.count '\n' = (lineOf words).count '\n' := by
    simpa [Reading.read, lineOf] using readFrom_newlines (readFrom_line words)
  have inText := simpleCommand?_newlines read
  rw [holds, List.count_append, List.count_cons_self, List.count_append, ← inLine,
    List.count_singleton_self] at inText
  omega

/-! ## Comments -/

/-- A text stays in the comment that it is pasted into: behind each of its newlines a comment
begins. -/
def staysComment : List Char → Bool
  | [] => true
  | c :: rest => (c ≠ '\n' || rest.head? = some '#') && staysComment rest

/-- A front without newlines decides nothing. -/
theorem staysComment_append {front : List Char} (noNewline : '\n' ∉ front) (back : List Char) :
    staysComment (front ++ back) = staysComment back := by
  induction front with
  | nil => rfl
  | cons c front inductionHypothesis =>
      rw [List.mem_cons, not_or] at noNewline
      have different : c ≠ '\n' := fun same => noNewline.1 same.symm
      simp [staysComment, different, inductionHypothesis noNewline.2]

theorem staysComment_of_noNewline {text : List Char} (noNewline : '\n' ∉ text) :
    staysComment text = true := by
  rw [← List.append_nil text, staysComment_append noNewline]
  rfl

theorem skipComments_stays {text : List Char} (stays : staysComment text = true)
    (rest : List Char) :
    skipComments true (text ++ '\n' :: rest) = skipComments false rest := by
  induction text with
  | nil => rfl
  | cons c text inductionHypothesis =>
      rw [staysComment, Bool.and_eq_true] at stays
      have later := inductionHypothesis stays.2
      by_cases isNewline : c = '\n'
      · subst isNewline
        have opened : text.head? = some '#' := by simpa using stays.1
        obtain ⟨others, rfl⟩ := List.head?_eq_some_iff.mp opened
        exact later
      · simpa [skipComments, isNewline] using later

theorem skipComments_of_unopened {text : List Char} (unopened : text.head? ≠ some '#') :
    skipComments false text = text := by
  cases text with
  | nil => rfl
  | cons c rest =>
      have different : c ≠ '#' := fun same => unopened (by rw [same]; rfl)
      simp [skipComments, different]

/-- A text that does not stay in the comment leaves it: a part of it is left of the comments. -/
theorem skipComments_leaves {text : List Char} (leaves : staysComment text = false)
    (rest : List Char) :
    ∃ tail, skipComments true (text ++ '\n' :: rest) = tail ++ '\n' :: rest := by
  induction text with
  | nil => cases leaves
  | cons c text inductionHypothesis =>
      by_cases isNewline : c = '\n'
      · subst isNewline
        by_cases opened : text.head? = some '#'
        · have later : staysComment text = false := by simpa [staysComment, opened] using leaves
          obtain ⟨others, rfl⟩ := List.head?_eq_some_iff.mp opened
          exact inductionHypothesis later
        · refine ⟨text, skipComments_of_unopened ?_⟩
          cases text with
          | nil => simp
          | cons d others => exact opened
      · have later : staysComment text = false := by simpa [staysComment, isNewline] using leaves
        obtain ⟨tail, skipped⟩ := inductionHypothesis later
        exact ⟨tail, by simpa [skipComments, isNewline] using skipped⟩

/-! ## Scripts -/

/-- Lines, each with the newline that ends it. -/
def linesOf (lines : List (List Char)) : List Char :=
  lines.flatMap fun line => line ++ ['\n']

theorem linesOf_cons (line : List Char) (lines : List (List Char)) (rest : List Char) :
    linesOf (line :: lines) ++ rest = line ++ '\n' :: (linesOf lines ++ rest) := by
  simp [linesOf]

section Comments

variable {lines : List (List Char)} (opened : ∀ line ∈ lines, line.head? = some '#')

include opened

theorem skipComments_linesOf (stay : ∀ line ∈ lines, staysComment line = true)
    (rest : List Char) : skipComments false (linesOf lines ++ rest) = skipComments false rest := by
  induction lines with
  | nil => rfl
  | cons line lines inductionHypothesis =>
      obtain ⟨isOpened, areOpened⟩ := List.forall_mem_cons.mp opened
      obtain ⟨stays, othersStay⟩ := List.forall_mem_cons.mp stay
      obtain ⟨text, rfl⟩ := List.head?_eq_some_iff.mp isOpened
      have textStays : staysComment text = true := by simpa [staysComment] using stays
      rw [linesOf_cons]
      exact (skipComments_stays textStays _).trans (inductionHypothesis areOpened othersStay)

theorem skipComments_linesOf_leaves (leaves : ∃ line ∈ lines, staysComment line = false)
    (rest : List Char) :
    ∃ tail behind,
      skipComments false (linesOf lines ++ rest) = tail ++ '\n' :: (behind ++ rest) := by
  induction lines with
  | nil =>
      obtain ⟨line, member, _⟩ := leaves
      exact absurd member List.not_mem_nil
  | cons line lines inductionHypothesis =>
      obtain ⟨isOpened, areOpened⟩ := List.forall_mem_cons.mp opened
      obtain ⟨text, rfl⟩ := List.head?_eq_some_iff.mp isOpened
      rw [linesOf_cons]
      cases stays : staysComment text with
      | false =>
          obtain ⟨tail, skipped⟩ := skipComments_leaves stays (linesOf lines ++ rest)
          exact ⟨tail, linesOf lines, skipped⟩
      | true =>
          have later : ∃ line ∈ lines, staysComment line = false := by
            obtain ⟨other, member, otherLeaves⟩ := leaves
            rcases List.mem_cons.mp member with rfl | inRest
            · simp [staysComment, stays] at otherLeaves
            · exact ⟨other, inRest, otherLeaves⟩
          obtain ⟨tail, behind, skipped⟩ := inductionHypothesis areOpened later
          exact ⟨tail, behind, (skipComments_stays stays _).trans skipped⟩

end Comments

theorem scriptCommand?_eq_some {script : String} {words : List String} :
    scriptCommand? script = some words ↔
      ∃ rest, skipComments false script.toList = '\n' :: rest ∧
        simpleCommand? rest = some (words.map String.toList) := by
  have sameWords : ∀ read : List (List Char),
      read.map String.ofList = words ↔ read = words.map String.toList := by
    intro read
    constructor
    · rintro rfl
      simp
    · rintro rfl
      simp
  unfold scriptCommand?
  split
  next rest skipped => simp [Option.map_eq_some_iff, sameWords, skipped]
  next skipped =>
    simp only [reduceCtorEq, false_iff, not_exists, not_and]
    intro rest isSkipped
    exact absurd isSkipped (skipped rest)

/-- What a shell finds in a script of comments, a blank line and a written command. It finds that
command exactly when every comment is one to its end, whatever newlines were pasted into it, and
the first word can be the name of a command. -/
theorem scriptCommand?_iff {script : String} {lines : List (List Char)} {word : String}
    {others : List String} (opened : ∀ line ∈ lines, line.head? = some '#')
    (written : script.toList = linesOf lines ++
      '\n' :: (lineOf ((word :: others).map String.toList) ++ ['\n'])) :
    scriptCommand? script = some (word :: others) ↔
      (∀ line ∈ lines, staysComment line = true) ∧ misleads word.toList = false := by
  rw [scriptCommand?_eq_some, written]
  by_cases stay : ∀ line ∈ lines, staysComment line = true
  · rw [skipComments_linesOf opened stay, skipComments_of_unopened (by simp)]
    simp only [List.cons.injEq, true_and, exists_eq_left', List.map_cons, simpleCommand?_lineOf]
    cases misleads word.toList with
    | false => simpa using stay
    | true => simp
  · have leaves : ∃ line ∈ lines, staysComment line = false := by simpa using stay
    obtain ⟨tail, behind, skipped⟩ := skipComments_linesOf_leaves opened leaves
      ('\n' :: (lineOf ((word :: others).map String.toList) ++ ['\n']))
    rw [skipped]
    refine iff_of_false ?_ fun holds => stay holds.1
    rintro ⟨rest, isRest, read⟩
    -- What is left of the comments holds a newline more than the command has.
    cases tail with
    | nil =>
        obtain ⟨_, rfl⟩ := List.cons.inj isRest
        exact simpleCommand?_of_more rfl read
    | cons c tail =>
        obtain ⟨_, rfl⟩ := List.cons.inj isRest
        exact @simpleCommand?_of_more _ (tail ++ '\n' :: behind) _ (by simp) read

end PartitionBench.Shell
