import PartitionBench.Shell.Word

/-!
Contract: reading a written command gives back its words.

Owns: what a reader makes of plain characters, of the inside of a quoted word, and of
one written word with anything behind it; and from these the round trip of whole
commands.

Does not own: scripts, in which a command is one line among others.
-/

namespace PartitionBench.Shell

/-! ## Characters -/

/-- A plain character is none of those that a reader acts on. -/
theorem isPlain_ordinary {c : Char} (plain : isPlain c = true) :
    c ≠ ' ' ∧ c ≠ '\'' ∧ c ≠ '\\' := by
  refine ⟨?_, ?_, ?_⟩
  · rintro rfl
    exact absurd plain (by decide)
  · rintro rfl
    exact absurd plain (by decide)
  · rintro rfl
    exact absurd plain (by decide)

theorem readFrom_between_plain {c : Char} (plain : isPlain c = true) (rest : List Char) :
    readFrom .between (c :: rest) = readFrom (.inWord [c]) rest := by
  obtain ⟨notSpace, notQuote, notBackslash⟩ := isPlain_ordinary plain
  simp only [readFrom, if_neg notSpace, if_neg notQuote, if_neg notBackslash, if_pos plain]

theorem readFrom_inWord_plain {c : Char} (plain : isPlain c = true) (read rest : List Char) :
    readFrom (.inWord read) (c :: rest) = readFrom (.inWord (c :: read)) rest := by
  obtain ⟨notSpace, notQuote, notBackslash⟩ := isPlain_ordinary plain
  simp only [readFrom, if_neg notSpace, if_neg notQuote, if_neg notBackslash, if_pos plain]

/-! ## One word -/

theorem readFrom_inWord_plainChars (word read rest : List Char)
    (plain : ∀ c ∈ word, isPlain c = true) :
    readFrom (.inWord read) (word ++ rest) = readFrom (.inWord (word.reverse ++ read)) rest := by
  induction word generalizing read with
  | nil => rfl
  | cons c word inductionHypothesis =>
      have wordPlain : ∀ d ∈ word, isPlain d = true := by
        intro d member
        exact plain d (List.mem_cons_of_mem c member)
      rw [List.cons_append, readFrom_inWord_plain (plain c List.mem_cons_self),
        inductionHypothesis (c :: read) wordPlain, List.reverse_cons, List.append_assoc]
      rfl

/-- Inside quotes the written characters are read as they are. Behind a quote mark of the
word the reader has left the quotes and entered them again. -/
theorem readFrom_quotedChars (word read rest : List Char) :
    readFrom (.inQuotes read) (quotedChars word ++ '\'' :: rest) =
      readFrom (.inWord (word.reverse ++ read)) rest := by
  induction word generalizing read with
  | nil => rfl
  | cons c word inductionHypothesis =>
      have oneRead :
          readFrom (.inQuotes read) (quotedChars (c :: word) ++ '\'' :: rest) =
            readFrom (.inQuotes (c :: read)) (quotedChars word ++ '\'' :: rest) := by
        by_cases isQuote : c = '\''
        · subst isQuote
          rfl
        · simp only [quotedChars, if_neg isQuote, List.cons_append, readFrom]
      rw [oneRead, inductionHypothesis (c :: read), List.reverse_cons, List.append_assoc]
      rfl

/-- A written word leaves the reader inside a word of exactly its characters, whatever
stands behind it. An empty word does so too, through its quotes. -/
theorem readFrom_quoteChars (word rest : List Char) :
    readFrom .between (quoteChars word ++ rest) = readFrom (.inWord word.reverse) rest := by
  by_cases isBare : word ≠ [] ∧ word.all isPlain = true
  · obtain ⟨c, others, rfl⟩ := List.exists_cons_of_ne_nil isBare.1
    have plain : ∀ d ∈ c :: others, isPlain d = true := List.all_eq_true.mp isBare.2
    have othersPlain : ∀ d ∈ others, isPlain d = true := by
      intro d member
      exact plain d (List.mem_cons_of_mem c member)
    rw [quoteChars, if_pos isBare, List.cons_append,
      readFrom_between_plain (plain c List.mem_cons_self),
      readFrom_inWord_plainChars others [c] rest othersPlain, List.reverse_cons]
  · have enterQuotes :
        readFrom .between ('\'' :: (quotedChars word ++ ['\'']) ++ rest) =
          readFrom (.inQuotes []) (quotedChars word ++ '\'' :: rest) := by
      rw [List.cons_append, List.append_assoc]
      rfl
    rw [quoteChars, if_neg isBare, enterQuotes, readFrom_quotedChars, List.append_nil]

/-! ## Whole commands -/

/-- The words of a line are read one by one: the space behind a word ends it, and no word
takes part of another. -/
theorem readFrom_line (words : List (List Char)) :
    readFrom .between (List.intercalate [' '] (words.map quoteChars)) = some words := by
  induction words with
  | nil => rfl
  | cons word rest inductionHypothesis =>
      cases rest with
      | nil =>
          have written : List.intercalate [' '] ([word].map quoteChars) = quoteChars word ++ [] := by
            simp
          rw [written, readFrom_quoteChars]
          simp only [readFrom, List.reverse_reverse]
      | cons next others =>
          have written :
              List.intercalate [' '] ((word :: next :: others).map quoteChars) =
                quoteChars word ++
                  ' ' :: List.intercalate [' '] ((next :: others).map quoteChars) := by
            simp [List.intercalate]
          rw [written, readFrom_quoteChars]
          simp only [readFrom, if_pos, inductionHypothesis, Option.map_some,
            List.reverse_reverse]

theorem commandLine_toList (words : List String) :
    (commandLine words).toList =
      List.intercalate [' '] ((words.map String.toList).map quoteChars) := by
  have quoted : String.toList ∘ quote = quoteChars ∘ String.toList := by
    funext word
    exact String.toList_ofList
  rw [commandLine, String.toList_intercalate, List.map_map, List.map_map, quoted]
  rfl

/-- A reader of the written form of a command reads its words: as many, in the same
order, and each character for character. This holds of every list of words, of the empty
list and of empty words too. -/
theorem commandLine_reads_back (words : List String) :
    readWords? (commandLine words) = some words := by
  rw [readWords?, commandLine_toList, readFrom_line, Option.map_some, List.map_map]
  have restored : String.ofList ∘ String.toList = id := by
    funext word
    exact String.ofList_toList
  rw [restored, List.map_id]

example : commandLine ["it's", ""] = "'it'\\''s' ''" := by decide

end PartitionBench.Shell
