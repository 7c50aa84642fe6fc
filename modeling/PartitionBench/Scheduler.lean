import PartitionBench.Document.Value
import PartitionBench.Failure
import PartitionBench.FileTree
import PartitionBench.Text.Digits

/-!
Contract: the command that takes jobs for a batch queue.

Owns:
- the interface of a scheduler command, and the scheduler whose outcomes are laid down
  beforehand;
- what a command can be broken off by, and the words for it;
- the reading of a job identifier from what the command wrote.

Does not own: commands of the host (`Host.Command`).
-/

namespace PartitionBench

open PartitionBench.Document

/-- What a submit command is broken off by: an error, or any other value. A value that makes
its text by a function of its own is told by what that gives: a message, or a failure. -/
inductive Scheduler.Thrown where
  | error (message : String)
  | other (value : Value)
  /-- A value whose own function fails to make its text, with this message. -/
  | unreadable (message : String)

/-- The words for what was thrown. A value without a plain text has none: to look for them
is a failure of its own. -/
def Scheduler.Thrown.words : Scheduler.Thrown → Except Failure String
  | .error message => .ok message
  | .other value =>
      if value.hasPlainText then .ok value.plainText else .error (.unusable Value.unspeakable)
  | .unreadable message => .error (.system message)

/-- What comes of a submit command: what it wrote, or what it was broken off by, the
files that it leaves, and what is remembered of it. -/
structure Scheduler.Answer (τ : Type) where
  outcome : Except Scheduler.Thrown String
  files : FileTree
  state : τ

/-- A way to run the submit command on files; `τ` is what it remembers. -/
structure Scheduler (τ : Type) where
  run : FileTree → (command : String) → (arguments : List String) → τ → Scheduler.Answer τ

namespace Scheduler

/-- Outcomes laid down for the next calls, and the number of calls made. -/
structure Script where
  outcomes : List (Except Thrown String)
  calls : Nat := 0

/-- The announcement of a job by its number. -/
def announcement : String := "Submitted batch job "

/-- The scheduler that follows a script and leaves the files as they are. Behind the end of
the script it announces jobs that are numbered like the calls. -/
def scripted : Scheduler Script :=
  ⟨fun files _ _ script =>
    let call := script.calls + 1
    match script.outcomes with
    | [] => ⟨.ok (announcement ++ toString call ++ "\n"), files, ⟨[], call⟩⟩
    | outcome :: rest => ⟨outcome, files, ⟨rest, call⟩⟩⟩

/-- Where no words are found, the failure is not one of the program's own. -/
theorem Thrown.wordless {thrown : Thrown} {failure : Failure}
    (noWords : thrown.words = .error failure) :
    (∃ message, failure = .unusable message) ∨ ∃ message, failure = .system message := by
  cases thrown with
  | error message => cases noWords
  | other value =>
      rw [words] at noWords
      split at noWords
      · cases noWords
      · cases noWords
        exact Or.inl ⟨_, rfl⟩
  | unreadable message =>
      cases noWords
      exact Or.inr ⟨_, rfl⟩

/-- No submit command changes a file. -/
def KeepsFiles {τ : Type} (scheduler : Scheduler τ) : Prop :=
  ∀ files command arguments state,
    (scheduler.run files command arguments state).files = files

theorem scripted_keepsFiles : KeepsFiles scripted := by
  intro files command arguments script
  cases script with
  | mk outcomes calls => cases outcomes <;> rfl

/-- The digits behind an announcement at the start of a text, if there are any. -/
def announced? (chars : List Char) : Option (List Char) :=
  match Text.dropOpening? announcement.toList chars with
  | some rest =>
      let digits := rest.takeWhile Text.isDigit
      if digits = [] then none else some digits
  | none => none

/-- The digits behind the first announcement in a text that has any. -/
def firstAnnounced? : List Char → Option (List Char)
  | [] => none
  | c :: rest =>
      match announced? (c :: rest) with
      | some digits => some digits
      | none => firstAnnounced? rest

def jobIdentifier? (output : String) : Option String :=
  (firstAnnounced? output.toList).map String.ofList

end Scheduler

end PartitionBench
