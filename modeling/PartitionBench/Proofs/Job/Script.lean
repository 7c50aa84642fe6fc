import Mathlib.Data.List.Basic
import PartitionBench.Job.Script
import PartitionBench.Proofs.Job.Plan
import PartitionBench.Proofs.Shell.Script

/-!
Contract: what a shell finds in the script of a job.

Owns:
- the texts that are pasted into the comments of a script;
- that a script is comments, a blank line and the written command;
- when the command of the job is all that a shell finds in its script.

Does not own: how scripts are read (`Proofs.Shell.Script`) and which jobs there are
(`Proofs.Batch.Commands`).
-/

namespace PartitionBench.Job

open PartitionBench.Shell

/-! ## Comments -/

/-- The texts that are pasted into the comments of a script as they are configured: the path of
the output, and the account and the partition where there are any. -/
def pasted (settings : Settings) (job : Job) : List String :=
  Path.join settings.outputDirectory (job.name ++ ".%j.out") ::
    (settings.account.toList ++ settings.partition.toList)

theorem directive_isComment (name value : String) :
    (directive name value).toList.head? = some '#' := by
  simp [directive, String.toList_append]

theorem directive_stays {name : String} (noNewline : '\n' ∉ name.toList) (value : String) :
    staysComment (directive name value).toList = staysComment value.toList := by
  have front : '\n' ∉ ("#SBATCH --" ++ name ++ "=").toList := by
    simp [String.toList_append, noNewline]
  rw [directive, String.toList_append, staysComment_append front]

theorem optionalDirective_areComments (name : String) (value : Option String) :
    ∀ line ∈ optionalDirective name value, line.toList.head? = some '#' := by
  cases value with
  | none => exact List.forall_mem_nil _
  | some value => exact List.forall_mem_singleton.mpr (directive_isComment name value)

theorem optionalDirective_stay {name : String} (noNewline : '\n' ∉ name.toList)
    (value : Option String) :
    (∀ line ∈ optionalDirective name value, staysComment line.toList = true) ↔
      ∀ text ∈ value.toList, staysComment text.toList = true := by
  cases value with
  | none => simp [optionalDirective]
  | some value => simp [optionalDirective, directive_stays noNewline]

theorem scriptHead_areComments (settings : Settings) (job : Job) :
    ∀ line ∈ scriptHead settings job, line.toList.head? = some '#' := by
  refine List.forall_mem_append.mpr ⟨List.forall_mem_append.mpr ⟨?_, ?_⟩, ?_⟩
  · simp [directive_isComment]
  · exact optionalDirective_areComments "account" settings.account
  · exact optionalDirective_areComments "partition" settings.partition

/-- Of what stands above the command only the pasted texts can end a comment. -/
theorem scriptHead_stay {settings : Settings} {job : Job} (name : '\n' ∉ job.name.toList)
    (walltime : '\n' ∉ settings.walltime.toList) :
    (∀ line ∈ scriptHead settings job, staysComment line.toList = true) ↔
      ∀ text ∈ pasted settings job, staysComment text.toList = true := by
  have fixed : staysComment "#!/bin/bash".toList = true := by decide
  have numbers : ∀ value, staysComment (Numeric.integerText value).toList = true := fun value =>
    staysComment_of_noNewline (integerText_lacks newline_isForeign value)
  simp only [scriptHead, pasted, List.forall_mem_append, List.forall_mem_cons,
    optionalDirective_stay (by decide : '\n' ∉ "account".toList),
    optionalDirective_stay (by decide : '\n' ∉ "partition".toList),
    directive_stays (by decide : '\n' ∉ "job-name".toList),
    directive_stays (by decide : '\n' ∉ "output".toList),
    directive_stays (by decide : '\n' ∉ "nodes".toList),
    directive_stays (by decide : '\n' ∉ "ntasks".toList),
    directive_stays (by decide : '\n' ∉ "time".toList),
    fixed, numbers, staysComment_of_noNewline name, staysComment_of_noNewline walltime,
    List.not_mem_nil, false_imp_iff, implies_true, true_and, and_true, and_assoc]

/-! ## The script as a whole -/

theorem intercalate_newline (lines : List (List Char)) {rest : List (List Char)}
    (notEmpty : rest ≠ []) :
    List.intercalate ['\n'] (lines ++ rest) = linesOf lines ++ List.intercalate ['\n'] rest := by
  induction lines with
  | nil => rfl
  | cons line lines inductionHypothesis =>
      have more : lines ++ rest ≠ [] := by simp [notEmpty]
      obtain ⟨next, others, isMore⟩ := List.exists_cons_of_ne_nil more
      rw [linesOf_cons, ← inductionHypothesis, List.cons_append, isMore]
      simp [List.intercalate]

/-- A script is its comments, a blank line and the line of the written command. -/
theorem scriptOf_toList (settings : Settings) (job : Job) (words : List String) :
    (scriptOf settings job words).toList =
      linesOf ((scriptHead settings job).map String.toList) ++
        '\n' :: (lineOf (words.map String.toList) ++ ['\n']) := by
  have separator : "\n".toList = ['\n'] := rfl
  have lines : (scriptHead settings job ++ ["", commandLine words, ""]).map String.toList =
      (scriptHead settings job).map String.toList ++ [[], (commandLine words).toList, []] := by
    simp
  rw [scriptOf, String.toList_intercalate, separator, lines,
    intercalate_newline _ (List.cons_ne_nil _ _), commandLine_toList]
  simp [List.intercalate, lineOf]

/-- The words of a command, where all are texts, begin as the command does. -/
theorem texts?_head {command : List (Option String)} {word : String} {words : List String}
    (isFirst : command.head? = some (some word)) (areTexts : texts? command = some words) :
    ∃ others, words = word :: others := by
  obtain ⟨rest, rfl⟩ := List.head?_eq_some_iff.mp isFirst
  simp only [texts?, List.mapM_cons, id, Option.bind_eq_bind, Option.bind_some,
    Option.bind_eq_some_iff] at areTexts
  obtain ⟨others, _, isWhole⟩ := areTexts
  exact ⟨others, (Option.some.inj isWhole).symm⟩

/-- A shell finds the command of a job in its script, and nothing else, exactly when the pasted
texts stay in their comments and the first word can be the name of a command. -/
theorem script_runs_iff {settings : Settings} {job : Job} {word : String} {others : List String}
    (name : '\n' ∉ job.name.toList) (walltime : '\n' ∉ settings.walltime.toList)
    (areTexts : texts? job.command = some (word :: others)) :
    ∃ text, job.script settings = .ok text ∧
      (scriptCommand? text = some (word :: others) ↔
        (∀ text ∈ pasted settings job, staysComment text.toList = true) ∧
          misleads word.toList = false) := by
  refine ⟨scriptOf settings job (word :: others), by simp only [script, areTexts], ?_⟩
  have opened : ∀ line ∈ (scriptHead settings job).map String.toList, line.head? = some '#' :=
    List.forall_mem_map.mpr (scriptHead_areComments settings job)
  rw [scriptCommand?_iff opened (scriptOf_toList settings job _), List.forall_mem_map,
    scriptHead_stay name walltime]

end PartitionBench.Job
