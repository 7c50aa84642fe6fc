import PartitionBench.Batch
import PartitionBench.CommandLine.Reach
import PartitionBench.Main
import PartitionBench.Pipeline
import PartitionBench.Settings.Load
import PartitionBench.Proofs.Shell.RoundTrip
import PartitionBench.Proofs.FileName
import PartitionBench.Proofs.Arguments
import PartitionBench.Proofs.Job.Names
import PartitionBench.Proofs.Job.Registry
import PartitionBench.Proofs.Job.Plan
import PartitionBench.Proofs.Job.Soundness
import PartitionBench.Proofs.Batch.Calls
import PartitionBench.Proofs.Batch.Planning
import PartitionBench.Proofs.Dispatch.Consent
import PartitionBench.Proofs.Batch.Watch
import PartitionBench.Proofs.FileTree
import PartitionBench.Proofs.Batch.Scripts
import PartitionBench.Proofs.Batch.Refusal
import PartitionBench.Proofs.Batch.Admission
import PartitionBench.Proofs.Batch.Interruption
import PartitionBench.Proofs.Batch.Programs
import PartitionBench.Proofs.Batch.Rehearsal
import PartitionBench.Proofs.Batch.Commands
import PartitionBench.Proofs.Consent.Answers
import PartitionBench.Proofs.Dispatch.Reach
import PartitionBench.Proofs.Pipeline.Order
import PartitionBench.Proofs.CommandLine.Ending
import PartitionBench.Proofs.Dispatch.Account
import PartitionBench.Proofs.Dispatch.Replay
import PartitionBench.Proofs.Batch.Accounting
import PartitionBench.Proofs.Numeric.Rounding
import PartitionBench.Proofs.Numeric.Stored
import PartitionBench.Proofs.Numeric.Division
import PartitionBench.Proofs.Numeric.Digits
import PartitionBench.Proofs.Numeric.Shortest
import PartitionBench.Proofs.Numeric.Reading
import PartitionBench.Proofs.Numeric.Plain
import PartitionBench.Proofs.Batch.Decoding
import PartitionBench.Proofs.Batch.Identifiers
import PartitionBench.Proofs.Settings.Stability
import PartitionBench.Proofs.Job.Nodes
import PartitionBench.Proofs.Job.Places
import PartitionBench.Proofs.Job.Alignment
import PartitionBench.Proofs.Experiment.Summary
import PartitionBench.Proofs.CommandLine.Options
import PartitionBench.Proofs.CommandLine.Offences
import PartitionBench.Proofs.CommandLine.LongForm
