import Mathlib.Data.List.TakeWhile
import PartitionBench.Proofs.Batch.Accounting
import PartitionBench.Proofs.Numeric.Reading
import PartitionBench.Proofs.Text.Split

/-!
Contract: the identifiers of jobs that were handed on.

Owns:
- the announcements of jobs in a text, of which the first with a number is found, with all digits
  of this number and no others;
- that a submitted job has no identifier, or one that stands whole in what the submit command wrote
  for this job.

Does not own: how jobs are handed on (`Proofs.Batch.Accounting`).
-/

namespace PartitionBench

namespace Scheduler

/-! ## Announcements -/

/-- Characters start with an announcement that has a number. -/
def Announces (chars : List Char) : Prop :=
  ∃ digit rest, Text.isDigit digit = true ∧ chars = announcement.toList ++ digit :: rest

/-- The digits are those behind the first announcement with a number, all of them. -/
inductive Announced (chars digits : List Char) : Prop
  | first {before behind : List Char}
      (isText : chars = before ++ (announcement.toList ++ (digits ++ behind)))
      (notEmpty : digits ≠ []) (areDigits : ∀ c ∈ digits, Text.isDigit c = true)
      (ended : ∀ c ∈ behind.head?, Text.isDigit c = false)
      (noneBefore : ∀ position < before.length, ¬ Announces (chars.drop position))

theorem announced_eq_some_iff {chars digits : List Char} :
    announced? chars = some digits ↔
      ∃ behind, chars = announcement.toList ++ (digits ++ behind) ∧ digits ≠ [] ∧
        (∀ c ∈ digits, Text.isDigit c = true) ∧ ∀ c ∈ behind.head?, Text.isDigit c = false := by
  constructor
  · intro isFound
    unfold announced? at isFound
    split at isFound
    next rest isCut =>
      dsimp only at isFound
      obtain ⟨notEmpty, isRun⟩ := Option.ite_none_left_eq_some.mp isFound
      obtain rfl := Option.some.inj isRun
      refine ⟨rest.dropWhile Text.isDigit, ?_, notEmpty, fun c => List.mem_takeWhile_imp, ?_⟩
      · rw [List.takeWhile_append_dropWhile]
        exact Text.dropOpening_eq_some_iff.mp isCut
      · intro c isFirst
        have notDigit := List.head?_dropWhile_not Text.isDigit rest
        rwa [Option.mem_def.mp isFirst] at notDigit
    next => cases isFound
  · rintro ⟨behind, rfl, notEmpty, areDigits, ended⟩
    have run : (digits ++ behind).takeWhile Text.isDigit = digits :=
      congrArg Prod.fst (Numeric.digits_append areDigits ended)
    simp only [announced?, Text.dropOpening_append, run, if_neg notEmpty]

theorem announces_iff {chars : List Char} :
    Announces chars ↔ ∃ digits, announced? chars = some digits := by
  constructor
  · rintro ⟨digit, rest, isDigit, rfl⟩
    have notEmpty : (digit :: rest).takeWhile Text.isDigit ≠ [] := by
      rw [List.takeWhile_cons_of_pos isDigit]
      exact List.cons_ne_nil _ _
    simp only [announced?, Text.dropOpening_append, if_neg notEmpty, Option.some.injEq, exists_eq']
  · rintro ⟨digits, isFound⟩
    obtain ⟨behind, isText, notEmpty, areDigits, _⟩ := announced_eq_some_iff.mp isFound
    cases digits with
    | nil => exact absurd rfl notEmpty
    | cons digit more => exact ⟨digit, more ++ behind, areDigits digit List.mem_cons_self, isText⟩

theorem not_announces_nil : ¬ Announces [] := by
  rintro ⟨digit, rest, _, isText⟩
  cases isText

/-! ## The first announcement -/

theorem announced_here_iff {chars digits found : List Char} (isFound : announced? chars = some found) :
    Announced chars digits ↔ found = digits := by
  constructor
  · rintro @⟨before, behind, isText, notEmpty, areDigits, ended, noneBefore⟩
    cases before with
    | nil =>
        have again := announced_eq_some_iff.mpr ⟨behind, isText, notEmpty, areDigits, ended⟩
        exact Option.some.inj (isFound.symm.trans again)
    | cons =>
        exact absurd (announces_iff.mpr ⟨found, isFound⟩) (noneBefore 0 (Nat.succ_pos _))
  · rintro rfl
    obtain ⟨behind, isText, notEmpty, areDigits, ended⟩ := announced_eq_some_iff.mp isFound
    exact @Announced.first _ _ [] behind isText notEmpty areDigits ended (fun _ below => by cases below)

/-- Where nothing is announced, one goes on to the next character. -/
theorem announced_cons_iff {c : Char} {rest digits : List Char} (notHere : ¬ Announces (c :: rest)) :
    Announced (c :: rest) digits ↔ Announced rest digits := by
  constructor
  · rintro @⟨before, behind, isText, notEmpty, areDigits, ended, noneBefore⟩
    cases before with
    | nil =>
        have isFound := announced_eq_some_iff.mpr ⟨behind, isText, notEmpty, areDigits, ended⟩
        exact absurd (announces_iff.mpr ⟨digits, isFound⟩) notHere
    | cons first before =>
        refine .first (List.cons.inj isText).2 notEmpty areDigits ended fun position below => ?_
        exact noneBefore (position + 1) (Nat.succ_lt_succ below)
  · rintro @⟨before, behind, rfl, notEmpty, areDigits, ended, noneBefore⟩
    refine @Announced.first _ _ (c :: before) behind rfl notEmpty areDigits ended ?_
    intro position below
    cases position with
    | zero => exact notHere
    | succ position => exact noneBefore position (Nat.lt_of_succ_lt_succ below)

theorem firstAnnounced_eq_some_iff {chars digits : List Char} :
    firstAnnounced? chars = some digits ↔ Announced chars digits := by
  induction chars with
  | nil =>
      refine iff_of_false (fun isFound => by cases isFound) ?_
      rintro @⟨before, behind, isText, _⟩
      cases before <;> cases isText
  | cons c rest inductionHypothesis =>
      cases isFound : announced? (c :: rest) with
      | some found =>
          simp only [firstAnnounced?, isFound, Option.some.injEq]
          exact (announced_here_iff isFound).symm
      | none =>
          have notHere : ¬ Announces (c :: rest) := by
            simp [announces_iff, isFound]
          simp only [firstAnnounced?, isFound]
          rw [inductionHypothesis, announced_cons_iff notHere]

theorem firstAnnounced_eq_none_iff {chars : List Char} :
    firstAnnounced? chars = none ↔ ∀ position, ¬ Announces (chars.drop position) := by
  induction chars with
  | nil => exact iff_of_true rfl fun position => by simpa using not_announces_nil
  | cons c rest inductionHypothesis =>
      cases isFound : announced? (c :: rest) with
      | some found =>
          simp only [firstAnnounced?, isFound]
          refine iff_of_false (Option.some_ne_none found) fun nowhere => ?_
          exact nowhere 0 (announces_iff.mpr ⟨found, isFound⟩)
      | none =>
          have notHere : ¬ Announces (c :: rest) := by
            simp [announces_iff, isFound]
          simp only [firstAnnounced?, isFound]
          rw [inductionHypothesis]
          constructor
          · intro nowhere position
            cases position with
            | zero => exact notHere
            | succ position => exact nowhere position
          · exact fun nowhere position => nowhere (position + 1)

/-! ## Identifiers -/

theorem jobIdentifier_eq_some_iff {output identifier : String} :
    jobIdentifier? output = some identifier ↔ Announced output.toList identifier.toList := by
  rw [jobIdentifier?, Option.map_eq_some_iff, ← firstAnnounced_eq_some_iff]
  constructor
  · rintro ⟨digits, isFound, rfl⟩
    rwa [String.toList_ofList]
  · exact fun isFound => ⟨identifier.toList, isFound, String.ofList_toList⟩

theorem jobIdentifier_eq_none_iff {output : String} :
    jobIdentifier? output = none ↔ ∀ position, ¬ Announces (output.toList.drop position) := by
  rw [jobIdentifier?, Option.map_eq_none_iff, firstAnnounced_eq_none_iff]

/-- A number stands whole in a text: it has digits, and none of the text goes on with it at either
end. -/
structure StandsWhole (number text : String) : Prop where
  notEmpty : number ≠ ""
  areDigits : ∀ c ∈ number.toList, Text.isDigit c = true
  apart : ∃ before behind, text.toList = before ++ (number.toList ++ behind) ∧
    (∀ c ∈ before.getLast?, Text.isDigit c = false) ∧
    ∀ c ∈ behind.head?, Text.isDigit c = false

theorem Announced.standsWhole {identifier output : String}
    (announced : Announced output.toList identifier.toList) : StandsWhole identifier output := by
  obtain @⟨before, behind, isText, notEmpty, areDigits, ended, _⟩ := announced
  constructor
  case notEmpty =>
    rintro rfl
    exact notEmpty rfl
  case areDigits => exact areDigits
  case apart =>
    refine ⟨before ++ announcement.toList, behind, ?_, ?_, ended⟩
    · rw [isText, List.append_assoc]
    · have lastSpace : (before ++ announcement.toList).getLast? = some ' ' := by
        rw [List.getLast?_append]
        rfl
      rintro c isLast
      rw [lastSpace] at isLast
      cases isLast
      rfl

end Scheduler

namespace Batch

open PartitionBench.Document Activity Scheduler

variable {τ : Type} {scheduler : Scheduler τ} {settings : Settings} {dryRun : Bool}

/-! ## Submitted jobs -/

/-- The submit command was run on the script of a job and wrote a text. -/
def WroteFor (scheduler : Scheduler τ) (settings : Settings) (job : Job) (output : String) : Prop :=
  ∃ found queue left after, Holds settings found job ∧
    scheduler.run found settings.submitCommand [job.scriptPath] queue = ⟨.ok output, left, after⟩

theorem RunsFor.wrote {queue last : τ} {jobs : List SubmittedJob}
    (runs : RunsFor scheduler settings queue jobs last) :
    ∀ submitted ∈ jobs, ∃ output, WroteFor scheduler settings submitted.job output ∧
      submitted.identifier = jobIdentifier? output := by
  induction runs with
  | done => exact List.forall_mem_nil _
  | next holds answered _ inductionHypothesis =>
      refine List.forall_mem_cons.mpr ⟨?_, inductionHypothesis⟩
      exact ⟨_, ⟨_, _, _, _, holds, answered⟩, rfl⟩

/-- A submitted job has the identifier that was announced first in what the submit command wrote for
this job, and it stands whole there. It has none in a dry run, or when nothing was announced. -/
inductive Identified (scheduler : Scheduler τ) (settings : Settings) (dryRun : Bool)
    (submitted : SubmittedJob) : Prop
  | rehearsed (isDry : dryRun = true) (isNone : submitted.identifier = none)
  | unannounced {output : String} (isNone : submitted.identifier = none)
      (wrote : WroteFor scheduler settings submitted.job output)
      (nowhere : ∀ position, ¬ Announces (output.toList.drop position))
  | named {output identifier : String} (isSome : submitted.identifier = some identifier)
      (wrote : WroteFor scheduler settings submitted.job output)
      (announced : Announced output.toList identifier.toList)
      (whole : StandsWhole identifier output)

theorem Handed.identified {queue last : τ} {jobs : List SubmittedJob} {events : List Event}
    (handed : Handed scheduler settings dryRun queue jobs events last) :
    ∀ submitted ∈ jobs, Identified scheduler settings dryRun submitted := by
  intro submitted member
  cases dryRun with
  | true => exact .rehearsed rfl ((handed.dry rfl).1 submitted member)
  | false =>
      obtain ⟨output, wrote, isRead⟩ := (handed.real rfl).1.wrote submitted member
      cases isIdentifier : jobIdentifier? output with
      | none =>
          exact .unannounced (isRead.trans isIdentifier) wrote
            (jobIdentifier_eq_none_iff.mp isIdentifier)
      | some identifier =>
          have announced := jobIdentifier_eq_some_iff.mp isIdentifier
          exact .named (isRead.trans isIdentifier) wrote announced announced.standsWhole

/-- **Identifiers are read exactly.** What is found in a text is the number of the first announcement
that has one, and nothing is found when there is no such announcement. So each job that a call gives
back has no identifier, or one that stands whole in what the run of the submit command for this job
wrote. -/
theorem announced_identifiers (scheduler : Scheduler τ) (settings : Settings) (dryRun : Bool) :
    (∀ output identifier, jobIdentifier? output = some identifier ↔
      Announced output.toList identifier.toList) ∧
    (∀ output, jobIdentifier? output = none ↔
      ∀ position, ¬ Announces (output.toList.drop position)) ∧
    ∀ site call jobs, ((submitter scheduler settings dryRun).call call site).result = .ok jobs →
      Handed scheduler settings dryRun site.queue jobs
          ((submitter scheduler settings dryRun).call call site).events
          ((submitter scheduler settings dryRun).call call site).state.queue ∧
        ∀ submitted ∈ jobs, Identified scheduler settings dryRun submitted := by
  refine ⟨fun _ _ => jobIdentifier_eq_some_iff, fun _ => jobIdentifier_eq_none_iff, ?_⟩
  intro site call jobs succeeded
  obtain ⟨_, _, _, handed⟩ := call_handed succeeded
  exact ⟨handed, handed.identified⟩

/-- A run that writes other numbers, an announcement without a number and two with one, of which the
first goes on with a letter. -/
theorem announced_identifiers_among_noise :
    let output := "12: Submitted batch job x, Submitted batch job 0034a Submitted batch job 5"
    let site : Site Scheduler.Script := ⟨⟨[], []⟩, [], ⟨[.ok output], 0⟩⟩
    let call : Submitter.Call :=
      ⟨(Experiment.mk 2 2 0 (-1) [4] 1 ["a"] ["a"]).toValue, .tool "metis"⟩
    ∃ jobs, ((submitter Scheduler.scripted Settings.standard false).call call site).result =
        .ok jobs ∧
      jobs.map SubmittedJob.identifier = [some "0034"] ∧
      ∀ submitted ∈ jobs, Identified Scheduler.scripted Settings.standard false submitted := by
  intro output site call
  have identifiers : ((submitter Scheduler.scripted Settings.standard false).call call
      site).result.toOption.map (List.map SubmittedJob.identifier) = some [some "0034"] := by
    decide +kernel
  cases succeeded : ((submitter Scheduler.scripted Settings.standard false).call call
      site).result with
  | error failure =>
      rw [succeeded] at identifiers
      cases identifiers
  | ok jobs =>
      rw [succeeded] at identifiers
      obtain ⟨_, identified⟩ := (announced_identifiers Scheduler.scripted Settings.standard
        false).2.2 site call jobs succeeded
      exact ⟨jobs, rfl, Option.some.inj identifiers, identified⟩

end Batch

end PartitionBench
