import PartitionBench.Proofs.Batch.Planning
import PartitionBench.Proofs.Job.Script
import PartitionBench.Proofs.Settings

/-!
Contract: which scripts of planned jobs run the planned command and nothing else.

Owns:
- that the command of a planned job begins with the launcher;
- for checked settings and any environment, when a shell finds the planned command, and only
  that, in the script of a planned job;
- settings that are accepted and lead a shell astray.

Does not own: the texts of scripts (`Proofs.Job.Script`).
-/

namespace PartitionBench.Batch

open PartitionBench.Document

/-- A planned job runs the launcher, and its name has no newline. -/
theorem plannedBy_launched {settings : Settings} {taken : List String} {call : Submitter.Call}
    {job : Job} (member : job ∈ plannedBy settings taken call) :
    job.command.head? = some (some settings.launcher) ∧ '\n' ∉ job.name.toList := by
  obtain ⟨experiment, place, blockCount, before, rfl⟩ := plannedBy_members member
  exact ⟨rfl, Job.name_lacks Job.newline_isForeign before experiment call.target place blockCount⟩

/-- **The script of a job runs the planned command and nothing else**, whatever the environment
overrides in checked settings, exactly when two things hold. In the path of the output, the
account and the partition, which are pasted into comments, every newline has another comment
behind it. And the launcher, where it is written bare, is neither an assignment nor a word that
the shell has reserved. -/
theorem planned_script_runs_iff {config : Value} {base : Settings}
    (isChecked : (Settings.check config).accepted = .ok base)
    (environment : List (String × String)) (taken : List String) (call : Submitter.Call)
    {job : Job} (member : job ∈ plannedBy (base.overridden environment) taken call)
    {words : List String} (areTexts : Job.texts? job.command = some words) :
    words.head? = some base.launcher ∧
      ∃ script, job.script (base.overridden environment) = .ok script ∧
        (Shell.scriptCommand? script = some words ↔
          (∀ text ∈ Job.pasted (base.overridden environment) job,
            Shell.staysComment text.toList = true) ∧
          Shell.misleads base.launcher.toList = false) := by
  obtain ⟨isLauncher, name⟩ := plannedBy_launched member
  obtain ⟨others, rfl⟩ := Job.texts?_head isLauncher areTexts
  have walltime := Settings.check_walltime isChecked
  exact ⟨rfl, Job.script_runs_iff name walltime areTexts⟩

/-- With an account behind which a second directive follows, the script still runs the planned
command alone. -/
theorem planned_script_runs_with_directive :
    let settings := Settings.standard.overridden
      [("PARTSUBMIT_ACCOUNT", "project\n#SBATCH --exclusive")]
    let call : Submitter.Call :=
      ⟨(Experiment.mk 2 2 0 (-1) [4] 1 ["a b"] ["a b"]).toValue, .tool "metis"⟩
    ∃ job ∈ plannedBy settings [] call, ∃ script, job.script settings = .ok script ∧
      Shell.scriptCommand? script = some ["mpiexec", "-n", "4", "competitorsMain",
        "--graphFile", "a b", "--fileFormat", "0", "--dimensions", "2", "--numBlocks", "4",
        "--repeatTimes", "5", "--tool", "metis", "--outFile", "output/metis_a_b_k4.info"] := by
  intro settings call
  let job := Job.planned settings (Experiment.mk 2 2 0 (-1) [4] 1 ["a b"] ["a b"])
    (.tool "metis") 0 4 "metis_a_b_k4"
  have isChecked : (Settings.check (.record [])).accepted = .ok Settings.standard := by
    decide +kernel
  have member : job ∈ plannedBy settings [] call := by decide +kernel
  have areTexts : Job.texts? job.command = some ["mpiexec", "-n", "4", "competitorsMain",
      "--graphFile", "a b", "--fileFormat", "0", "--dimensions", "2", "--numBlocks", "4",
      "--repeatTimes", "5", "--tool", "metis", "--outFile", "output/metis_a_b_k4.info"] := by
    decide +kernel
  obtain ⟨_, script, isScript, runs⟩ := planned_script_runs_iff isChecked _ _ _ member areTexts
  exact ⟨job, member, script, isScript, runs.mpr ⟨by decide +kernel, by decide +kernel⟩⟩

/-- In the script of some planned job a shell does not find the command of the job. -/
def LeadAstray (settings : Settings) (call : Submitter.Call) : Prop :=
  ∃ job ∈ plannedBy settings [] call, ∃ words script, Job.texts? job.command = some words ∧
    job.script settings = .ok script ∧ Shell.scriptCommand? script ≠ some words

theorem leadAstray_of {settings : Settings} {call : Submitter.Call} {job : Job} {word : String}
    {others : List String} (member : job ∈ plannedBy settings [] call)
    (walltime : '\n' ∉ settings.walltime.toList)
    (areTexts : Job.texts? job.command = some (word :: others))
    (strays : ¬ ((∀ text ∈ Job.pasted settings job, Shell.staysComment text.toList = true) ∧
      Shell.misleads word.toList = false)) : LeadAstray settings call := by
  obtain ⟨_, name⟩ := plannedBy_launched member
  obtain ⟨script, isScript, runs⟩ := Job.script_runs_iff name walltime areTexts
  exact ⟨job, member, word :: others, script, areTexts, isScript, fun found =>
    strays (runs.mp found)⟩

/-- Settings that are accepted and lead a shell astray: with a launcher that is read as an
assignment, and with an account that ends its comment. -/
theorem accepted_settings_lead_astray :
    let call : Submitter.Call :=
      ⟨(Experiment.mk 2 2 0 (-1) [4] 1 ["a"] ["a"]).toValue, .tool "metis"⟩
    (∃ base, (Settings.check (.record [("launcher", .text "A=b")])).accepted = .ok base ∧
      LeadAstray (base.overridden []) call) ∧
    ∃ base, (Settings.check (.record [("account", .text "project\nrm jobs")])).accepted = .ok base ∧
      LeadAstray (base.overridden []) call := by
  intro call
  have plans : ∀ settings ∈ [({ launcher := "A=b" } : Settings),
      { account := some "project\nrm jobs" }],
      Job.planned settings (Experiment.mk 2 2 0 (-1) [4] 1 ["a"] ["a"]) (.tool "metis") 0 4
        "metis_a_k4" ∈ plannedBy settings [] call := by
    decide +kernel
  obtain ⟨byLauncher, byAccount, _⟩ := by simpa only [List.forall_mem_cons] using plans
  refine ⟨⟨{ launcher := "A=b" }, by decide +kernel, ?_⟩,
    ⟨{ account := some "project\nrm jobs" }, by decide +kernel, ?_⟩⟩
  · exact leadAstray_of byLauncher (by decide) rfl (by decide +kernel)
  · exact leadAstray_of byAccount (by decide) rfl (by decide +kernel)

end PartitionBench.Batch
