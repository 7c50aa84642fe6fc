import PartitionBench.Proofs.Job.Plan
import PartitionBench.Proofs.Numeric.Quotient

/-!
Contract: the number of nodes of planned jobs.

Owns:
- that it is the ceiling of the rounded quotient, and the same as that of the exact one;
- that the nodes have room for the tasks and that none of them is one too many.

Does not own: node counts of jobs that are read from documents (`Proofs.Job.Soundness`).
-/

namespace PartitionBench.Job

open PartitionBench.Numeric

/-- The number of nodes is exact for a number of tasks. -/
structure ExactNodes (tasks coresPerNode nodes : Int) : Prop where
  /-- The planner divides as stored numbers are divided. -/
  divided : IsNearest ((tasks : ℚ) / coresPerNode) (Binary64.divide tasks coresPerNode).toRat
  /-- The rounded quotient is rounded up. -/
  roundedUp : ∀ quotient : ℚ, IsNearest ((tasks : ℚ) / coresPerNode) quotient → nodes = ⌈quotient⌉
  /-- The exact quotient has the same ceiling. -/
  exact : nodes = ⌈(tasks : ℚ) / coresPerNode⌉
  /-- With one node less there is not enough room. -/
  needed : (nodes - 1) * coresPerNode < tasks
  /-- There is room for all tasks. -/
  enough : tasks ≤ nodes * coresPerNode

theorem nodeCount_exact {tasks coresPerNode : Int} (small : tasks.natAbs < 2 ^ 53)
    (positive : 0 < coresPerNode) (bounded : coresPerNode < 2 ^ 53) :
    ExactNodes tasks coresPerNode (nodeCount tasks coresPerNode) := by
  have isNearest := divide_isNearest small positive bounded
  have isCeiling := ceiling_eq (Binary64.divide tasks coresPerNode)
  have isExact := isCeiling.trans (ceil_divide small positive bounded)
  have coresPositive : (0 : ℚ) < coresPerNode := by exact_mod_cast positive
  obtain ⟨needed, enough⟩ := Int.ceil_eq_iff.mp isExact.symm
  constructor
  case divided => exact isNearest
  case roundedUp =>
    intro quotient isQuotient
    rw [nodeCount, isCeiling, isQuotient.unique isNearest]
  case exact => exact isExact
  case needed =>
    rw [lt_div_iff₀ coresPositive] at needed
    exact_mod_cast needed
  case enough =>
    rw [div_le_iff₀ coresPositive] at enough
    exact_mod_cast enough

theorem planFrom_nodes (settings : Settings) (experiment : Experiment) (target : Target)
    (index : Nat) (blockCounts : List Int) (taken : List String) :
    List.Forall₂
      (fun blockCount job => job.blockCount = blockCount ∧ job.tasks = blockCount ∧
        job.nodes = nodeCount blockCount settings.coresPerNode)
      blockCounts (planFrom settings experiment target index blockCounts taken).1 := by
  induction blockCounts generalizing index taken with
  | nil => exact .nil
  | cons blockCount rest inductionHypothesis =>
      exact .cons ⟨rfl, rfl, rfl⟩ (inductionHypothesis _ _)

/-- **Every planned job** has exactly as many nodes as its tasks need, whenever the block count and
the cores of a node are integers of at most 53 bits. -/
theorem plan_nodes (settings : Settings) (experiment : Experiment) (target : Target)
    (taken : List String) (positive : 1 ≤ settings.coresPerNode)
    (bounded : settings.coresPerNode ≤ 2 ^ 53 - 1) :
    List.Forall₂
      (fun blockCount job => -(2 ^ 53 - 1) ≤ blockCount → blockCount ≤ 2 ^ 53 - 1 →
        job.blockCount = blockCount ∧ job.tasks = blockCount ∧
          ExactNodes blockCount settings.coresPerNode job.nodes)
      experiment.blockCounts (plan settings experiment target taken).1 := by
  refine (planFrom_nodes settings experiment target 0 experiment.blockCounts taken).imp ?_
  rintro blockCount job ⟨isCount, isTasks, isNodes⟩ fromBelow fromAbove
  refine ⟨isCount, isTasks, ?_⟩
  rw [isNodes]
  exact nodeCount_exact (by omega) positive (by omega)

/-- Block counts at both ends, on nodes of three cores. -/
theorem plan_nodes_three_cores :
    let settings := { Settings.standard with coresPerNode := 3 }
    let experiment : Experiment :=
      { experimentType := Experiment.singleFileType, dimension := 2, fileFormatCode := 0
        identifier := Experiment.unassignedIdentifier
        blockCounts := [1, 3, 4, 9007199254740991, -7, 0], size := 6
        paths := List.replicate 6 "graph.metis", graphNames := List.replicate 6 "graph.metis" }
    let jobs := (plan settings experiment .allCompetitors []).1
    List.Forall₂
        (fun blockCount job => -(2 ^ 53 - 1) ≤ blockCount → blockCount ≤ 2 ^ 53 - 1 →
          job.blockCount = blockCount ∧ job.tasks = blockCount ∧
            ExactNodes blockCount settings.coresPerNode job.nodes)
        experiment.blockCounts jobs ∧
      jobs.map Job.nodes = [1, 1, 2, 3002399751580331, -2, 0] :=
  ⟨plan_nodes _ _ _ _ (by decide) (by decide), by decide⟩

end PartitionBench.Job
