import Mathlib.Data.List.Forall2
import PartitionBench.Consent
import PartitionBench.Proofs.Text.Lines

/-!
Contract: how the lines of an input are dealt out to the questions put to the operator.

Owns:
- wishes for one answer, or for a clear decision, made one after another of one operator;
- what each wish takes of the lines that are left, the questions it puts and what it gets;
- that over any sequence of wishes the lines go out in their order, none lost and none twice.

Does not own: the lines of a text (`Proofs.Text.Lines`), and what a dispatch asks (`Dispatch`).
-/

namespace PartitionBench

open Activity

/-- The question that an event puts, with the answer that it gets. -/
def Event.asked? : Event → Option (String × Option String)
  | .asked question answer => some (question, answer)
  | _ => none

/-- The questions put in a trace, each with the answer that it gets. -/
def asksIn (events : List Event) : List (String × Option String) :=
  events.filterMap Event.asked?

namespace Consent

/-! ## Wishes -/

/-- What may be wanted of the operator: the next answer, whatever it is, or a clear one. -/
inductive Wish where
  | answer (question : String)
  | decision (question : String)

/-- What a wish gets. -/
inductive Reply where
  | answer (text : String)
  | decision (yes : Bool)
  deriving DecidableEq, Repr

def Wish.make : Wish → Activity Operator Reply
  | .answer question => Reply.answer <$> ask question
  | .decision question => Reply.decision <$> confirm question

/-- What comes of wishes that are made one after another, each of the operator as the one before
it left him, whether or not that one failed. -/
def outcomes : Operator → List Wish → List (Outcome Operator Reply)
  | _, [] => []
  | operator, wish :: rest =>
      let outcome := wish.make operator
      outcome :: outcomes outcome.state rest

/-- The questions of a wish that takes the given number of them. -/
def Wish.questions : Wish → Nat → List String
  | .answer question, _ => [question]
  | .decision question, count => question :: List.replicate (count - 1) retryQuestion

/-- The answers that say yes or no. -/
def clearAnswers : List String :=
  ["Y", "y", "N", "n"]

/-- A question that is put again, in other words, until there are no more of the given
answers. -/
def attempts (question : String) : List (Option String) → List Event
  | [] => []
  | answer :: rest => .asked question answer :: rest.map (.asked retryQuestion)

/-! ## One wish -/

/-- What comes of a wish when the given lines are left and nothing is behind them.

One answer takes one line. A decision takes the lines up to the first clear one, which decides.
Where there is no such line the wish fails, and the lines are used up. -/
inductive Serves : Wish → List String → Outcome Operator Reply → Prop
  | answered (question line : String) (rest : List String) :
      Serves (.answer question) (line :: rest)
        ⟨.ok (.answer line), [.asked question (some line)], ⟨rest, .closed⟩⟩
  | unanswered (question : String) :
      Serves (.answer question) []
        ⟨.error .promptClosed, [.asked question none], ⟨[], .closed⟩⟩
  | decided (question : String) {unclear : List String} {line : String} (rest : List String)
      (noneClear : ∀ other ∈ unclear, other ∉ clearAnswers) (isClear : line ∈ clearAnswers) :
      Serves (.decision question) (unclear ++ line :: rest)
        ⟨.ok (.decision (line = "Y" ∨ line = "y")),
          attempts question ((unclear ++ [line]).map some), ⟨rest, .closed⟩⟩
  | undecided (question : String) {lines : List String}
      (noneClear : ∀ line ∈ lines, line ∉ clearAnswers) :
      Serves (.decision question) lines
        ⟨.error .promptClosed, attempts question (lines.map some ++ [none]), ⟨[], .closed⟩⟩

theorem verdict?_of_clear {answer : String} (isClear : answer ∈ clearAnswers) :
    verdict? answer = some (decide (answer = "Y" ∨ answer = "y")) := by
  simp only [clearAnswers, List.mem_cons, List.not_mem_nil, or_false] at isClear
  rcases isClear with rfl | rfl | rfl | rfl <;> decide

theorem verdict?_of_unclear {answer : String} (notClear : answer ∉ clearAnswers) :
    verdict? answer = none := by
  simp only [clearAnswers, List.mem_cons, List.not_mem_nil, or_false, not_or] at notClear
  simp [verdict?, notClear]

theorem attempts_retry (answers : List (Option String)) :
    attempts retryQuestion answers = answers.map (.asked retryQuestion) := by
  cases answers <;> rfl

/-- To ask until the answer is clear, from whichever question, takes the lines up to the first
clear one, or all of them. -/
theorem confirmFrom_serves (question : String) (lines : List String) :
    (∃ unclear line rest, lines = unclear ++ line :: rest ∧
      (∀ other ∈ unclear, other ∉ clearAnswers) ∧ line ∈ clearAnswers ∧
      confirmFrom .closed question lines =
        ⟨.ok (line = "Y" ∨ line = "y"), attempts question ((unclear ++ [line]).map some),
          ⟨rest, .closed⟩⟩) ∨
    (∀ line ∈ lines, line ∉ clearAnswers) ∧
      confirmFrom .closed question lines =
        ⟨.error .promptClosed, attempts question (lines.map some ++ [none]), ⟨[], .closed⟩⟩ := by
  induction lines generalizing question with
  | nil => exact Or.inr ⟨List.forall_mem_nil _, rfl⟩
  | cons line lines inductionHypothesis =>
      by_cases isClear : line ∈ clearAnswers
      · refine Or.inl ⟨[], line, lines, rfl, List.forall_mem_nil _, isClear, ?_⟩
        simp only [confirmFrom, verdict?_of_clear isClear]
        rfl
      · simp only [confirmFrom, verdict?_of_unclear isClear]
        rcases inductionHypothesis retryQuestion with
          ⟨unclear, decisive, rest, rfl, noneClear, decides, later⟩ | ⟨noneClear, later⟩
        · refine Or.inl ⟨line :: unclear, decisive, rest, rfl,
            List.forall_mem_cons.mpr ⟨isClear, noneClear⟩, decides, ?_⟩
          rw [later, attempts_retry]
          rfl
        · refine Or.inr ⟨List.forall_mem_cons.mpr ⟨isClear, noneClear⟩, ?_⟩
          rw [later, attempts_retry]
          rfl

theorem make_serves (wish : Wish) (lines : List String) :
    Serves wish lines (wish.make ⟨lines, .closed⟩) := by
  cases wish with
  | answer question =>
      cases lines with
      | nil => exact Serves.unanswered question
      | cons line rest => exact Serves.answered question line rest
  | decision question =>
      change Serves _ _ ((confirm question >>= fun yes => pure (Reply.decision yes)) _)
      rcases confirmFrom_serves question lines with
        ⟨unclear, line, rest, rfl, noneClear, isClear, confirmed⟩ | ⟨noneClear, notConfirmed⟩
      · have succeeded : (confirm question ⟨unclear ++ line :: rest, .closed⟩).result =
            .ok (decide (line = "Y" ∨ line = "y")) := congrArg Outcome.result confirmed
        rw [bind_of_ok succeeded]
        change Serves _ _ ⟨_, (confirmFrom .closed question _).events ++ [],
          (confirmFrom .closed question _).state⟩
        rw [confirmed, List.append_nil]
        exact Serves.decided question rest noneClear isClear
      · have failed : (confirm question ⟨lines, .closed⟩).result = .error .promptClosed :=
          congrArg Outcome.result notConfirmed
        rw [bind_of_error failed]
        change Serves _ _ ⟨_, (confirmFrom .closed question _).events,
          (confirmFrom .closed question _).state⟩
        rw [notConfirmed]
        exact Serves.undecided question noneClear

/-! ## What a wish takes -/

section Serves

variable {wish : Wish} {lines : List String} {outcome : Outcome Operator Reply}

theorem asksIn_attempts (question : String) (answers : List (Option String)) :
    asksIn (attempts question answers) =
      ((Wish.decision question).questions answers.length).zip answers := by
  cases answers with
  | nil => rfl
  | cons answer rest =>
      have again : (rest.map (Event.asked retryQuestion)).filterMap Event.asked? =
          (List.replicate rest.length retryQuestion).zip rest := by
        induction rest with
        | nil => rfl
        | cons next others inductionHypothesis =>
            rw [List.map_cons, List.filterMap_cons, inductionHypothesis]
            rfl
      change (question, answer) :: (rest.map (Event.asked retryQuestion)).filterMap Event.asked? = _
      rw [again]
      rfl

theorem answers_attempts (question : String) (answers : List (Option String)) :
    (asksIn (attempts question answers)).map Prod.snd = answers := by
  rw [asksIn_attempts]
  refine List.map_snd_zip ?_
  simp only [Wish.questions, List.length_cons, List.length_replicate]
  omega

theorem length_attempts (question : String) (answers : List (Option String)) :
    (asksIn (attempts question answers)).length = answers.length := by
  rw [← List.length_map (f := Prod.snd), answers_attempts]

theorem questions_attempts (question : String) {answers : List (Option String)}
    (notEmpty : answers ≠ []) :
    (asksIn (attempts question answers)).map Prod.fst =
      (Wish.decision question).questions answers.length := by
  rw [asksIn_attempts]
  refine List.map_fst_zip ?_
  have positive : 0 < answers.length := List.length_pos_iff.mpr notEmpty
  simp only [Wish.questions, List.length_cons, List.length_replicate]
  omega

/-- The answers that a wish gets are the first of the lines that are left, in their order, and
behind the last line there is none. -/
theorem Serves.answers (serves : Serves wish lines outcome) {index : Nat}
    {answer : Option String}
    (isAnswer : ((asksIn outcome.events).map Prod.snd)[index]? = some answer) :
    answer = lines[index]? := by
  cases serves with
  | answered question line rest =>
      obtain ⟨isFirst, rfl⟩ := List.getElem?_eq_some_iff.mp isAnswer
      have isZero : index = 0 := Nat.lt_one_iff.mp isFirst
      subst isZero
      rfl
  | unanswered question =>
      obtain ⟨isFirst, rfl⟩ := List.getElem?_eq_some_iff.mp isAnswer
      have isZero : index = 0 := Nat.lt_one_iff.mp isFirst
      subst isZero
      rfl
  | @decided question unclear line rest noneClear isClear =>
      rw [answers_attempts, List.getElem?_map] at isAnswer
      obtain ⟨taken, isTaken, rfl⟩ := Option.map_eq_some_iff.mp isAnswer
      have within : index < (unclear ++ [line]).length := (List.getElem?_eq_some_iff.mp isTaken).1
      have regrouped : unclear ++ line :: rest = (unclear ++ [line]) ++ rest := by simp
      rw [regrouped, List.getElem?_append_left within, isTaken]
  | undecided question noneClear =>
      rw [answers_attempts] at isAnswer
      by_cases within : index < lines.length
      · rw [List.getElem?_append_left (by simpa using within), List.getElem?_map,
          List.getElem?_eq_getElem within] at isAnswer
        rw [List.getElem?_eq_getElem within]
        exact (Option.some.inj isAnswer).symm
      · have beyond : lines.length ≤ index := Nat.le_of_not_lt within
        rw [List.getElem?_append_right (by simpa using beyond)] at isAnswer
        obtain ⟨_, isNone⟩ := List.getElem?_eq_some_iff.mp isAnswer
        rw [List.getElem?_eq_none beyond, ← isNone]
        simp

/-- A wish takes a line for each question and leaves the others. -/
theorem Serves.leaves (serves : Serves wish lines outcome) :
    outcome.state = ⟨lines.drop (asksIn outcome.events).length, .closed⟩ := by
  cases serves with
  | answered question line rest => rfl
  | unanswered question => rfl
  | @decided question unclear line rest noneClear isClear =>
      have regrouped : unclear ++ line :: rest = (unclear ++ [line]) ++ rest := by simp
      rw [length_attempts, List.length_map, regrouped, List.drop_left]
  | undecided question noneClear =>
      rw [length_attempts, List.drop_of_length_le (by simp)]

/-- A wish puts its own question first, and then only the one for an answer that is not clear. -/
theorem Serves.questions (serves : Serves wish lines outcome) :
    (asksIn outcome.events).map Prod.fst = wish.questions (asksIn outcome.events).length := by
  cases serves with
  | answered question line rest => rfl
  | unanswered question => rfl
  | decided question rest noneClear isClear =>
      rw [length_attempts, questions_attempts question (by simp)]
  | undecided question noneClear =>
      rw [length_attempts, questions_attempts question (by simp)]

/-- A wish comes to an end: it puts at most one question more than there are lines. -/
theorem Serves.bounded (serves : Serves wish lines outcome) :
    (asksIn outcome.events).length ≤ lines.length + 1 := by
  cases serves with
  | answered question line rest => exact Nat.le_add_left 1 _
  | unanswered question => exact Nat.le_refl 1
  | decided question rest noneClear isClear =>
      rw [length_attempts]
      simp only [List.length_map, List.length_append, List.length_cons, List.length_nil]
      omega
  | undecided question noneClear =>
      rw [length_attempts]
      simp

end Serves

/-! ## Wishes one after another -/

/-- Wishes are served in turn: each gets what the one before it left of the lines. -/
inductive InTurn : List String → List Wish → List (Outcome Operator Reply) → Prop
  | done (lines : List String) : InTurn lines [] []
  | next {lines : List String} {wish : Wish} {wishes : List Wish}
      {outcome : Outcome Operator Reply} {outcomes : List (Outcome Operator Reply)}
      (serves : Serves wish lines outcome)
      (later : InTurn outcome.state.answers wishes outcomes) :
      InTurn lines (wish :: wishes) (outcome :: outcomes)

theorem outcomes_inTurn (lines : List String) (wishes : List Wish) :
    InTurn lines wishes (outcomes ⟨lines, .closed⟩ wishes) := by
  induction wishes generalizing lines with
  | nil => exact InTurn.done lines
  | cons wish wishes inductionHypothesis =>
      have serves := make_serves wish lines
      have left : (wish.make ⟨lines, .closed⟩).state =
          ⟨(wish.make ⟨lines, .closed⟩).state.answers, .closed⟩ := by
        rw [serves.leaves]
      refine InTurn.next serves ?_
      rw [left]
      exact inductionHypothesis _

section InTurn

variable {lines : List String} {wishes : List Wish} {outcomes : List (Outcome Operator Reply)}

/-- The questions of the first outcome take the first lines, and those of the others, counted on
from there, the lines behind them. -/
theorem InTurn.answers (inTurn : InTurn lines wishes outcomes) {index : Nat}
    {answer : Option String}
    (isAnswer : ((asksIn (outcomes.flatMap Outcome.events)).map Prod.snd)[index]? = some answer) :
    answer = lines[index]? := by
  induction inTurn generalizing index with
  | done lines => cases isAnswer
  | @next lines wish wishes outcome outcomes serves later inductionHypothesis =>
      rw [asksIn, List.flatMap_cons, List.filterMap_append, List.map_append] at isAnswer
      change ((asksIn outcome.events).map Prod.snd ++
        (asksIn (outcomes.flatMap Outcome.events)).map Prod.snd)[index]? = some answer at isAnswer
      have count : ((asksIn outcome.events).map Prod.snd).length =
          (asksIn outcome.events).length := List.length_map _
      rcases Nat.lt_or_ge index (asksIn outcome.events).length with isOwn | isLater
      · rw [List.getElem?_append_left (by rwa [count])] at isAnswer
        exact serves.answers isAnswer
      · rw [List.getElem?_append_right (by rwa [count]), count] at isAnswer
        have ofLater := inductionHypothesis isAnswer
        rw [serves.leaves, List.getElem?_drop, Nat.add_sub_cancel' isLater] at ofLater
        exact ofLater

theorem InTurn.questions (inTurn : InTurn lines wishes outcomes) :
    List.Forall₂
      (fun wish outcome =>
        (asksIn outcome.events).map Prod.fst = wish.questions (asksIn outcome.events).length)
      wishes outcomes := by
  induction inTurn with
  | done lines => exact List.Forall₂.nil
  | next serves later inductionHypothesis =>
      exact List.Forall₂.cons serves.questions inductionHypothesis

theorem InTurn.bounded (inTurn : InTurn lines wishes outcomes) :
    ∀ outcome ∈ outcomes, (asksIn outcome.events).length ≤ lines.length + 1 := by
  induction inTurn with
  | done lines => exact List.forall_mem_nil _
  | next serves later inductionHypothesis =>
      refine List.forall_mem_cons.mpr ⟨serves.bounded, fun other member => ?_⟩
      have ofLater := inductionHypothesis other member
      rw [serves.leaves, List.length_drop] at ofLater
      omega

/-- Nothing is written but the questions. -/
theorem Serves.written {wish : Wish} {outcome : Outcome Operator Reply}
    (serves : Serves wish lines outcome) :
    outcome.events.map Event.output = (asksIn outcome.events).map Prod.fst := by
  have ofAttempts : ∀ (question : String) (answers : List (Option String)),
      (attempts question answers).map Event.output =
        (asksIn (attempts question answers)).map Prod.fst := by
    intro question answers
    cases answers with
    | nil => rfl
    | cons answer rest =>
        rw [questions_attempts question (List.cons_ne_nil _ _)]
        simp [attempts, Event.output, Wish.questions, Function.comp_def, List.map_const']
  cases serves with
  | answered question line rest => rfl
  | unanswered question => rfl
  | decided question rest noneClear isClear => exact ofAttempts _ _
  | undecided question noneClear => exact ofAttempts _ _

theorem InTurn.written (inTurn : InTurn lines wishes outcomes) :
    outputOf (outcomes.flatMap Outcome.events) =
      String.join ((asksIn (outcomes.flatMap Outcome.events)).map Prod.fst) := by
  have texts : (outcomes.flatMap Outcome.events).map Event.output =
      (asksIn (outcomes.flatMap Outcome.events)).map Prod.fst := by
    induction inTurn with
    | done lines => rfl
    | next serves later inductionHypothesis =>
        rw [asksIn, List.flatMap_cons, List.map_append, List.filterMap_append, List.map_append,
          serves.written, inductionHypothesis]
        rfl
  rw [outputOf, texts]

end InTurn

/-- How lines are dealt out over a sequence of wishes. Each wish is served from the lines that
are left to it. The questions of all wishes, counted together, get the lines in their order, and
none once these are used up. Each wish puts its own question and then asks again, and what is
written is these questions. -/
structure Dealt (lines : List String) (wishes : List Wish)
    (outcomes : List (Outcome Operator Reply)) : Prop where
  inTurn : InTurn lines wishes outcomes
  inOrder : ∀ (index : Nat) (answer : Option String),
    ((asksIn (outcomes.flatMap Outcome.events)).map Prod.snd)[index]? = some answer →
      answer = lines[index]?
  bounded : ∀ outcome ∈ outcomes, (asksIn outcome.events).length ≤ lines.length + 1
  questions : List.Forall₂
    (fun wish outcome =>
      (asksIn outcome.events).map Prod.fst = wish.questions (asksIn outcome.events).length)
    wishes outcomes
  written : outputOf (outcomes.flatMap Outcome.events) =
    String.join ((asksIn (outcomes.flatMap Outcome.events)).map Prod.fst)

/-- **Piped answers are neither lost, nor given twice, nor given to another question.** Whatever
the input is and whatever is wanted in whatever order, the lines of the input are dealt out over
the wishes. -/
theorem lines_dealt (input : String) (wishes : List Wish) :
    (∀ given, Text.AreLines input.toList (given.map String.toList) ↔
        given = Text.lines input) ∧
      Dealt (Text.lines input) wishes (outcomes ⟨Text.lines input, .closed⟩ wishes) := by
  have inTurn := outcomes_inTurn (Text.lines input) wishes
  refine ⟨Text.areLines_text_iff input, inTurn, ?_, inTurn.bounded, inTurn.questions,
    inTurn.written⟩
  intro index answer isAnswer
  exact inTurn.answers isAnswer

example : (outcomes ⟨Text.lines "maybe\r\ny\rN", .closed⟩
    [.decision "Go?", .answer "Name:", .decision "Go?"]).map Outcome.result =
      [.ok (.decision true), .ok (.answer "N"), .error .promptClosed] := by decide

end Consent

end PartitionBench
