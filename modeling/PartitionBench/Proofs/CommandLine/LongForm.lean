import Mathlib.Data.List.Forall2
import PartitionBench.CommandLine.LongForm
import PartitionBench.Proofs.Table

/-!
Contract: what becomes of the arguments of a command line before they are read.

Owns:
- the two parts of an argument, its option and what stands behind it;
- everything that is ever put in place of an option, and that nothing is put in place of it again;
- the rule that arguments are rewritten by, and when an argument follows it: unless its option is
  one of the names that every table answers.

Does not own: the meaning of the arguments (`CommandLine.Grammar`).
-/

namespace PartitionBench.CommandLine

/-! ## The parts of an argument -/

/-- The option of an argument, as a text. -/
def optionOf (argument : String) : String :=
  String.ofList (optionPart argument)

/-- What stands behind the option of an argument: nothing, or an equals sign and a value. -/
def behindOption (argument : String) : String :=
  String.ofList (argument.toList.dropWhile (· ≠ '='))

theorem optionOf_append_behindOption (argument : String) :
    optionOf argument ++ behindOption argument = argument := by
  rw [optionOf, behindOption, optionPart, ← String.ofList_append, List.takeWhile_append_dropWhile,
    String.ofList_toList]

theorem behindOption_cases (argument : String) :
    behindOption argument = "" ∨ ∃ value, behindOption argument = "=" ++ value := by
  unfold behindOption
  cases behind : argument.toList.dropWhile (· ≠ '=') with
  | nil => exact Or.inl rfl
  | cons c value =>
      have stops := List.head?_dropWhile_not (· ≠ '=') argument.toList
      rw [behind] at stops
      obtain rfl : c = '=' := by simpa using stops
      exact Or.inr ⟨String.ofList value, by rw [← List.singleton_append, String.ofList_append]⟩

/-- A text without an equals sign is the option of what it is put in front of an option's value. -/
theorem optionOf_append {option : String} (noValue : '=' ∉ option.toList) (argument : String) :
    optionOf (option ++ behindOption argument) = option := by
  have inOption : ∀ c ∈ option.toList, decide (c ≠ '=') = true := by
    intro c member
    refine decide_eq_true ?_
    rintro rfl
    exact noValue member
  rw [optionOf, optionPart, String.toList_append, List.takeWhile_append_of_pos inOption]
  rcases behindOption_cases argument with nothing | ⟨value, hasValue⟩
  · rw [nothing]
    simp
  · rw [hasValue, String.toList_append]
    simp

theorem expand_eq (argument : String) :
    expand argument =
      match longForm? (optionOf argument) with
      | some long => long ++ behindOption argument
      | none => argument := by
  have behind : argument.toList.drop (optionPart argument).length =
      argument.toList.dropWhile (· ≠ '=') := by
    conv_lhs => rw [← List.takeWhile_append_dropWhile (p := (· ≠ '=')) (l := argument.toList)]
    exact List.drop_left
  unfold expand
  dsimp only
  rw [behind]
  rfl

/-! ## What is put in place of options -/

/-- Every option that something is put in place of, with what that is. -/
def replacements : List (String × String) :=
  longForms ++ Table.builtins

theorem mem_replacements {option long : String} (isReplaced : longForm? option = some long) :
    (option, long) ∈ replacements := by
  unfold longForm? Table.lookUp at isReplaced
  cases found : Table.find? longForms option with
  | some listed =>
      rw [found] at isReplaced
      cases isReplaced
      exact List.mem_append_left _ (Table.mem_of_find? found)
  | none =>
      rw [found] at isReplaced
      cases isBuiltin : Table.builtinText? option with
      | none =>
          rw [isBuiltin] at isReplaced
          cases isReplaced
      | some text =>
          rw [isBuiltin] at isReplaced
          cases isReplaced
          exact List.mem_append_right _ (Table.mem_builtins isBuiltin)

/-- Something is put in place of an option, and nothing in place of that: it has no equals sign and
is no such option itself. -/
structure Settles (option long : String) : Prop where
  changed : option ≠ long
  noValue : '=' ∉ long.toList
  settled : longForm? long = none

theorem longForm?_settles {option long : String} (isReplaced : longForm? option = some long) :
    Settles option long := by
  have changed : ∀ entry ∈ replacements, entry.1 ≠ entry.2 := by decide +kernel
  have noValue : ∀ entry ∈ replacements, '=' ∉ entry.2.toList := by decide +kernel
  have settled : ∀ entry ∈ replacements, longForm? entry.2 = none := by decide +kernel
  have member := mem_replacements isReplaced
  exact ⟨changed _ member, noValue _ member, settled _ member⟩

theorem longForm?_of_builtin {option text : String}
    (isBuiltin : Table.builtinText? option = some text) : longForm? option = some text := by
  have notListed : ∀ entry ∈ Table.builtins, Table.find? longForms entry.1 = none := by
    decide +kernel
  have missing := notListed _ (Table.mem_builtins isBuiltin)
  simp only at missing
  simp [longForm?, Table.lookUp, missing, isBuiltin]

theorem longForm?_of_ordinary {option : String} (notShort : option ≠ "-ff")
    (notBuiltin : Table.builtinText? option = none) : longForm? option = none := by
  have missing : Table.find? longForms option = none := by
    simp [longForms, Ne.symm notShort]
  simp [longForm?, Table.lookUp, missing, notBuiltin]

/-! ## One argument -/

/-- The rule for one argument: the short option is written out, with its value kept whole if it has
one, and every other argument stays as it is. -/
inductive Rewrites : String → String → Prop
  | bare : Rewrites "-ff" "--fileFormat"
  | valued (value : String) : Rewrites ("-ff=" ++ value) ("--fileFormat=" ++ value)
  | other {argument : String} (notBare : argument ≠ "-ff")
      (notValued : ∀ value, argument ≠ "-ff=" ++ value) : Rewrites argument argument

theorem optionOf_valued (value : String) : optionOf ("-ff=" ++ value) = "-ff" := by
  rw [optionOf, optionPart, String.toList_append]
  rfl

theorem rewrites_of_ordinary {argument : String}
    (notBuiltin : Table.builtinText? (optionOf argument) = none) :
    Rewrites argument (expand argument) := by
  have parts := optionOf_append_behindOption argument
  rw [expand_eq]
  by_cases isShort : optionOf argument = "-ff"
  · have isLong : longForm? "-ff" = some "--fileFormat" := by decide +kernel
    rw [isShort] at parts
    rw [isShort, isLong]
    dsimp only
    rcases behindOption_cases argument with nothing | ⟨value, hasValue⟩
    · rw [nothing] at parts ⊢
      rw [← parts]
      exact Rewrites.bare
    · rw [hasValue] at parts ⊢
      rw [← parts, ← String.append_assoc, ← String.append_assoc]
      exact Rewrites.valued value
  · rw [longForm?_of_ordinary isShort notBuiltin]
    refine Rewrites.other ?_ ?_
    · rintro rfl
      exact isShort rfl
    · rintro value rfl
      exact isShort (optionOf_valued value)

theorem not_rewrites_of_builtin {argument text : String}
    (isBuiltin : Table.builtinText? (optionOf argument) = some text) :
    ¬ Rewrites argument (expand argument) := by
  have isReplaced := longForm?_of_builtin isBuiltin
  have parts := optionOf_append_behindOption argument
  have notShort : optionOf argument ≠ "-ff" := by
    intro isShort
    have ordinary : Table.builtinText? "-ff" = none := by decide +kernel
    rw [isShort, ordinary] at isBuiltin
    cases isBuiltin
  rw [expand_eq, isReplaced]
  dsimp only
  -- The result is a text put together of two, and the cases of the rule need one that is not.
  generalize isResult : text ++ behindOption argument = result
  intro rewrites
  cases rewrites with
  | bare => exact notShort rfl
  | valued value => exact notShort (optionOf_valued value)
  | other _ _ =>
      have sameArgument := parts.trans isResult.symm
      have unchanged := (String.append_left_inj (behindOption argument)).mp sameArgument
      exact (longForm?_settles isReplaced).changed unchanged

/-- The arguments that follow the rule are those whose option is no name that every table
answers. -/
theorem rewrites_expand_iff {argument : String} :
    Rewrites argument (expand argument) ↔ Table.builtinText? (optionOf argument) = none := by
  cases isBuiltin : Table.builtinText? (optionOf argument) with
  | none => exact iff_of_true (rewrites_of_ordinary isBuiltin) rfl
  | some text => exact iff_of_false (not_rewrites_of_builtin isBuiltin) nofun

/-- Nothing is left to be put in place of an option. -/
theorem expand_expand (argument : String) : expand (expand argument) = expand argument := by
  cases isReplaced : longForm? (optionOf argument) with
  | none =>
      have unchanged : expand argument = argument := by rw [expand_eq, isReplaced]
      rw [unchanged, unchanged]
  | some long =>
      have settles := longForm?_settles isReplaced
      have changed : expand argument = long ++ behindOption argument := by
        rw [expand_eq, isReplaced]
      rw [changed, expand_eq, optionOf_append settles.noValue, settles.settled]

/-! ## All arguments -/

theorem expandAll_eq (arguments : List String) :
    expandAll arguments =
      (arguments.takeWhile (· ≠ "--")).map expand ++ arguments.dropWhile (· ≠ "--") := by
  induction arguments with
  | nil => rfl
  | cons argument rest inductionHypothesis =>
      by_cases ends : argument = "--"
      · simp [expandAll, ends]
      · simp [expandAll, ends, inductionHypothesis]

theorem expandAll_expandAll (arguments : List String) :
    expandAll (expandAll arguments) = expandAll arguments := by
  induction arguments with
  | nil => rfl
  | cons argument rest inductionHypothesis =>
      by_cases ends : argument = "--"
      · rw [expandAll, if_pos ends, expandAll, if_pos ends]
      · rw [expandAll, if_neg ends, expandAll, expand_expand, inductionHypothesis]
        split <;> rfl

/-- **Arguments in long form.** There are as many as before, a bare `--` and what follows it stay as
they are, and doing it again changes nothing. Of the arguments in front of a bare `--` each follows
the rule, that only the short option is written out, exactly when its option is none of the names
that every table answers. -/
theorem arguments_follow_rule_iff (arguments : List String) :
    (expandAll arguments).length = arguments.length ∧
      (∃ results, expandAll arguments = results ++ arguments.dropWhile (· ≠ "--") ∧
        List.Forall₂
          (fun argument result => Rewrites argument result ↔
            Table.builtinText? (optionOf argument) = none)
          (arguments.takeWhile (· ≠ "--")) results) ∧
      expandAll (expandAll arguments) = expandAll arguments := by
  refine ⟨?_, ⟨_, expandAll_eq arguments, ?_⟩, expandAll_expandAll arguments⟩
  · rw [expandAll_eq, List.length_append, List.length_map, ← List.length_append,
      List.takeWhile_append_dropWhile]
  · rw [List.forall₂_map_right_iff, List.forall₂_same]
    exact fun _ _ => rewrites_expand_iff

/-- A tool is called like an entry that every table has, and another one is not. -/
theorem tool_called_constructor_is_replaced :
    expandAll ["-t", "constructor", "metis", "-ff=1", "--", "toString"] =
        ["-t", "function Object() \x7b [native code] \x7d", "metis", "--fileFormat=1", "--",
          "toString"] ∧
      ∀ result, Rewrites "constructor" result → result = "constructor" := by
  refine ⟨by decide +kernel, ?_⟩
  generalize isArgument : "constructor" = argument
  intro result rewrites
  cases rewrites with
  | bare => exact absurd isArgument (by decide)
  | valued value =>
      have characters := congrArg String.toList isArgument
      rw [String.toList_append] at characters
      exact absurd (List.cons.inj characters).1 (by decide)
  | other _ _ => rfl

end PartitionBench.CommandLine
