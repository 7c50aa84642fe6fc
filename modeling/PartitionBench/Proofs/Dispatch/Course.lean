import PartitionBench.Dispatch

/-!
Contract: the dialogue of a dispatch as a machine that takes one event at a time.

Owns:
- where a dialogue stands: which target is asked about, which are still ahead, what the
  operator and the submitter have left;
- the events that may come next, and where each leads;
- that every dispatch runs along this machine.

Does not own: what the machine means for the requests made (`Proofs.Dispatch.Consent`).
-/

namespace PartitionBench

namespace Dispatch

open PartitionBench.Document Activity

variable {σ α β : Type}

/-! ## The machine -/

/-- What the dialogue waits for. -/
inductive Phase where
  /-- The next target may be asked about. -/
  | ready
  /-- The last answer about this target was not clear. -/
  | unclear (target : Target)
  /-- The operator has agreed to this target. -/
  | granted (target : Target)
  /-- A question or a request has failed. -/
  | ended

/-- What the dialogue waits for, and the targets that were not asked about so far. -/
structure Position where
  phase : Phase
  ahead : List Target

/-- A position, with the answers still to come and the state of the submitter. -/
structure Course (σ : Type) where
  position : Position
  session : Session σ

/-- The question that may be asked next, the target it is about and those behind it. -/
inductive Asks : Position → Target → String → List Target → Prop
  | first (target : Target) (rest : List Target) :
      Asks ⟨.ready, target :: rest⟩ target (question target) rest
  | again (target : Target) (rest : List Target) :
      Asks ⟨.unclear target, rest⟩ target Consent.retryQuestion rest

/-- Where a clear or unclear answer about a target leads. -/
def phaseAfter (target : Target) : Option Bool → Phase
  | none => .unclear target
  | some true => .granted target
  | some false => .ready

/-- Where a request leads that came to the given result. -/
def phaseOf (result : Except Failure α) : Phase :=
  match result with
  | .ok _ => .ready
  | .error _ => .ended

/-- One event of a dialogue. A question takes the next answer, and only what the operator
has agreed to is requested, at once and with nothing in between. -/
inductive Step (submitter : Submitter σ) (descriptor : Value) :
    Course σ → Event → Course σ → Prop
  | aside {position : Position} {session : Session σ} {event : Event}
      (noDialogue : event.isDialogue = false)
      (notGranted : ∀ target, position.phase ≠ .granted target) :
      Step submitter descriptor ⟨position, session⟩ event ⟨position, session⟩
  | unanswered {position : Position} {session : Session σ} {target : Target}
      {asking : String} {rest : List Target} (asks : Asks position target asking rest)
      (nothingLeft : session.operator.answers = []) :
      Step submitter descriptor ⟨position, session⟩ (.asked asking none)
        ⟨⟨.ended, target :: rest⟩, session⟩
  | answered {position : Position} {session : Session σ} {target : Target}
      {asking : String} {rest : List Target} {answer : String} {answers : List String}
      (asks : Asks position target asking rest)
      (nextAnswer : session.operator.answers = answer :: answers) :
      Step submitter descriptor ⟨position, session⟩ (.asked asking (some answer))
        ⟨⟨phaseAfter target (Consent.verdict? answer), rest⟩,
          ⟨⟨answers, session.operator.ending⟩, session.backend⟩⟩
  | requested {target : Target} {rest : List Target} {session : Session σ} :
      Step submitter descriptor ⟨⟨.granted target, rest⟩, session⟩
        (.requested descriptor target)
        ⟨⟨phaseOf (submitter.submit descriptor target session.backend).result, rest⟩,
          ⟨session.operator, (submitter.submit descriptor target session.backend).state⟩⟩

/-- Event after event. -/
inductive Steps (submitter : Submitter σ) (descriptor : Value) :
    Course σ → List Event → Course σ → Prop
  | done (course : Course σ) : Steps submitter descriptor course [] course
  | next {start middle last : Course σ} {event : Event} {events : List Event}
      (first : Step submitter descriptor start event middle)
      (later : Steps submitter descriptor middle events last) :
      Steps submitter descriptor start (event :: events) last

section Steps

variable {submitter : Submitter σ} {descriptor : Value} {start middle last : Course σ}
  {before after : List Event}

theorem Steps.append (first : Steps submitter descriptor start before middle)
    (second : Steps submitter descriptor middle after last) :
    Steps submitter descriptor start (before ++ after) last := by
  induction first with
  | done course => exact second
  | next step later inductionHypothesis => exact Steps.next step (inductionHypothesis second)

/-- A run can be cut at any point of its events. -/
theorem Steps.split (steps : Steps submitter descriptor start (before ++ after) last) :
    ∃ middle, Steps submitter descriptor start before middle ∧
      Steps submitter descriptor middle after last := by
  induction before generalizing start with
  | nil => exact ⟨start, Steps.done start, steps⟩
  | cons event before inductionHypothesis =>
      cases steps with
      | next step later =>
          obtain ⟨middle, first, second⟩ := inductionHypothesis later
          exact ⟨middle, Steps.next step first, second⟩

/-- Events outside the dialogue lead nowhere, unless a request is due. -/
theorem Steps.asides {position : Position} {session : Session σ} {events : List Event}
    (noDialogue : ∀ event ∈ events, event.isDialogue = false)
    (notGranted : ∀ target, position.phase ≠ .granted target) :
    Steps submitter descriptor ⟨position, session⟩ events ⟨position, session⟩ := by
  induction events with
  | nil => exact Steps.done _
  | cons event events inductionHypothesis =>
      have first : Step submitter descriptor ⟨position, session⟩ event ⟨position, session⟩ :=
        Step.aside (noDialogue event List.mem_cons_self) notGranted
      refine Steps.next first (inductionHypothesis ?_)
      intro later member
      exact noDialogue later (List.mem_cons_of_mem event member)

end Steps

/-! ## Steps of a program along the machine -/

/-- A step of a program leads from one position to another, which may depend on its value.
When it fails it ends the dialogue. -/
def Advances (submitter : Submitter σ) (descriptor : Value) (start : Position)
    (finish : α → Position) (step : Activity (Session σ) α) : Prop :=
  ∀ session, ∃ last,
    Steps submitter descriptor ⟨start, session⟩ (step session).events last ∧
      (∀ value, (step session).result = .ok value →
        last = ⟨finish value, (step session).state⟩) ∧
      ∀ failure, (step session).result = .error failure → last.position.phase = .ended

section Advances

variable {submitter : Submitter σ} {descriptor : Value} {start : Position}

theorem advances_pure {finish : α → Position} (value : α) (here : finish value = start) :
    Advances submitter descriptor start finish (pure value : Activity (Session σ) α) := by
  intro session
  refine ⟨⟨start, session⟩, Steps.done _, ?_, ?_⟩
  · intro given succeeded
    cases succeeded
    rw [here]
    rfl
  · intro failure failed
    cases failed

theorem advances_log (entry : Log.Entry) (notGranted : ∀ target, start.phase ≠ .granted target) :
    Advances submitter descriptor start (fun _ => start)
      (Activity.log entry : Activity (Session σ) Unit) := by
  intro session
  refine ⟨⟨start, session⟩, Steps.asides ?_ notGranted, fun _ _ => rfl, ?_⟩
  · intro event member
    rw [List.mem_singleton.mp member]
    rfl
  · intro failure failed
    cases failed

theorem advances_bind {middle : α → Position} {finish : β → Position}
    {first : Activity (Session σ) α} {second : α → Activity (Session σ) β}
    (byFirst : Advances submitter descriptor start middle first)
    (bySecond : ∀ value, Advances submitter descriptor (middle value) finish (second value)) :
    Advances submitter descriptor start finish (first >>= second) := by
  intro session
  obtain ⟨reached, firstSteps, firstEnds, firstFails⟩ := byFirst session
  cases ended : (first session).result with
  | error failure =>
      rw [bind_of_error ended]
      refine ⟨reached, firstSteps, ?_, fun _ _ => firstFails failure ended⟩
      intro value succeeded
      cases succeeded
  | ok value =>
      obtain ⟨last, secondSteps, secondEnds⟩ := bySecond value (first session).state
      rw [bind_of_ok ended]
      rw [firstEnds value ended] at firstSteps
      exact ⟨last, firstSteps.append secondSteps, secondEnds⟩

end Advances

/-! ## A dispatch along the machine -/

section Dispatch

variable (submitter : Submitter σ) (descriptor : Value)

/-- Asking until the answer is clear, from whichever question. -/
theorem confirmFrom_steps {position : Position} {target : Target} {asking : String}
    {rest : List Target} (asks : Asks position target asking rest) (ending : Consent.Ending)
    (backend : σ) (answers : List String) :
    ∃ last, Steps submitter descriptor ⟨position, ⟨⟨answers, ending⟩, backend⟩⟩
        (Consent.confirmFrom ending asking answers).events last ∧
      (∀ verdict, (Consent.confirmFrom ending asking answers).result = .ok verdict →
        last = ⟨⟨phaseAfter target (some verdict), rest⟩,
          ⟨(Consent.confirmFrom ending asking answers).state, backend⟩⟩) ∧
      ∀ failure, (Consent.confirmFrom ending asking answers).result = .error failure →
        last.position.phase = .ended := by
  induction answers generalizing position asking with
  | nil =>
      refine ⟨_, Steps.next (Step.unanswered asks rfl) (Steps.done _), ?_, fun _ _ => rfl⟩
      intro verdict succeeded
      cases succeeded
  | cons answer answers inductionHypothesis =>
      have first : Step submitter descriptor ⟨position, ⟨⟨answer :: answers, ending⟩, backend⟩⟩
          (.asked asking (some answer))
          ⟨⟨phaseAfter target (Consent.verdict? answer), rest⟩, ⟨⟨answers, ending⟩, backend⟩⟩ :=
        Step.answered asks rfl
      cases clear : Consent.verdict? answer with
      | some verdict =>
          simp only [Consent.confirmFrom, clear]
          rw [clear] at first
          refine ⟨_, Steps.next first (Steps.done _), ?_, ?_⟩
          · intro given succeeded
            cases succeeded
            rfl
          · intro failure failed
            cases failed
      | none =>
          simp only [Consent.confirmFrom, clear]
          rw [clear] at first
          obtain ⟨last, later, ends⟩ := inductionHypothesis (Asks.again target rest)
          exact ⟨last, Steps.next first later, ends⟩

theorem confirm_advances (target : Target) (rest : List Target) :
    Advances submitter descriptor ⟨.ready, target :: rest⟩
      (fun verdict => ⟨phaseAfter target (some verdict), rest⟩)
      (Session.withOperator (Consent.confirm (question target))) := by
  intro session
  exact confirmFrom_steps submitter descriptor (Asks.first target rest)
    session.operator.ending session.backend session.operator.answers

/-- The submitter is called as soon as the operator has agreed, and what it does meanwhile
is no part of the dialogue. -/
theorem request_advances (target : Target) (rest : List Target) :
    Advances submitter descriptor ⟨.granted target, rest⟩ (fun _ => ⟨.ready, rest⟩)
      (request submitter descriptor target) := by
  intro session
  have notGranted : ∀ other,
      phaseOf (submitter.submit descriptor target session.backend).result ≠ .granted other := by
    intro other
    cases (submitter.submit descriptor target session.backend).result with
    | ok jobs => exact Phase.noConfusion
    | error failure => exact Phase.noConfusion
  refine ⟨_, Steps.next Step.requested (Steps.asides
    (submitter.discreet descriptor target session.backend) notGranted), ?_, ?_⟩
  · intro jobs succeeded
    have callSucceeded : (submitter.submit descriptor target session.backend).result =
        .ok jobs := succeeded
    rw [callSucceeded]
    rfl
  · intro failure failed
    have callFailed : (submitter.submit descriptor target session.backend).result =
        .error failure := failed
    rw [callFailed]
    rfl

theorem offer_advances (target : Target) (rest : List Target) :
    Advances submitter descriptor ⟨.ready, target :: rest⟩ (fun _ => ⟨.ready, rest⟩)
      (offer submitter descriptor target) := by
  unfold offer
  refine advances_bind (confirm_advances submitter descriptor target rest) fun verdict => ?_
  cases verdict with
  | true =>
      refine advances_bind (request_advances submitter descriptor target rest) fun jobs => ?_
      exact advances_pure _ rfl
  | false =>
      refine advances_bind (advances_log _ fun _ => Phase.noConfusion) fun logged => ?_
      exact advances_pure _ rfl

theorem offerTools_advances (tools : List String) :
    Advances submitter descriptor ⟨.ready, tools.map Target.tool⟩ (fun _ => ⟨.ready, []⟩)
      (offerTools submitter descriptor tools) := by
  induction tools with
  | nil => exact advances_pure _ rfl
  | cons tool rest inductionHypothesis =>
      unfold offerTools
      refine advances_bind (offer_advances submitter descriptor (.tool tool) _) fun first => ?_
      exact advances_bind inductionHypothesis fun later => advances_pure _ rfl

/-- The targets that a list of tools stands for, one for each position unless the first is
the word for all competitors. -/
def targetsOf (tools : List String) : List Target :=
  if tools.head? = some allWord then [.allCompetitors] else tools.map .tool

theorem announceAll_advances (ignored : List String) (ahead : List Target) :
    Advances submitter descriptor ⟨.ready, ahead⟩ (fun _ => ⟨.ready, ahead⟩)
      (announceAll ignored : Activity (Session σ) Unit) := by
  unfold announceAll
  refine advances_bind (advances_log _ fun _ => Phase.noConfusion) fun warned => ?_
  split
  · exact advances_log _ fun _ => Phase.noConfusion
  · exact advances_pure _ rfl

theorem dispatch_advances (tools : List String) :
    Advances submitter descriptor ⟨.ready, targetsOf tools⟩ (fun _ => ⟨.ready, []⟩)
      (dispatch submitter descriptor tools) := by
  unfold dispatch targetsOf
  by_cases isAll : tools.head? = some allWord
  · rw [if_pos isAll, if_pos isAll]
    refine advances_bind (announceAll_advances submitter descriptor _ _) fun announced => ?_
    exact offer_advances submitter descriptor .allCompetitors []
  · rw [if_neg isAll, if_neg isAll]
    exact offerTools_advances submitter descriptor tools

/-- All events of a dispatch lead from the first target to the end of the list or to the end
of the dialogue. In neither is a request still due. -/
theorem dispatch_steps (tools : List String) (session : Session σ) :
    ∃ last, Steps submitter descriptor ⟨⟨.ready, targetsOf tools⟩, session⟩
        (dispatch submitter descriptor tools session).events last ∧
      ∀ target, last.position.phase ≠ .granted target := by
  obtain ⟨last, steps, ends, fails⟩ := dispatch_advances submitter descriptor tools session
  refine ⟨last, steps, ?_⟩
  intro target
  cases ended : (dispatch submitter descriptor tools session).result with
  | ok account =>
      rw [ends account ended]
      exact Phase.noConfusion
  | error failure =>
      rw [fails failure ended]
      exact Phase.noConfusion

end Dispatch

/-! ## What may still come -/

section Outlook

variable {submitter : Submitter σ} {descriptor : Value} {last : Course σ} {events : List Event}

/-- Where the dialogue has ended, nothing is asked and nothing requested any more. -/
theorem Steps.of_ended {ahead : List Target} {session : Session σ}
    (steps : Steps submitter descriptor ⟨⟨.ended, ahead⟩, session⟩ events last) :
    ∀ event ∈ events, event.isDialogue = false := by
  induction events with
  | nil =>
      intro event member
      exact absurd member List.not_mem_nil
  | cons first events inductionHypothesis =>
      cases steps with
      | next step later =>
          cases step with
          | aside noDialogue notGranted =>
              intro event member
              rcases List.mem_cons.mp member with rfl | inLater
              · exact noDialogue
              · exact inductionHypothesis later event inLater
          | unanswered asks nothingLeft => cases asks
          | answered asks nextAnswer => cases asks

/-- What the operator has agreed to is requested next. -/
theorem Steps.of_granted {target : Target} {ahead : List Target} {session : Session σ}
    (steps : Steps submitter descriptor ⟨⟨.granted target, ahead⟩, session⟩ events last)
    (nothingDue : ∀ other, last.position.phase ≠ .granted other) :
    ∃ others, events = .requested descriptor target :: others := by
  cases steps with
  | done => exact absurd rfl (nothingDue target)
  | next step later =>
      cases step with
      | aside noDialogue notGranted => exact absurd rfl (notGranted target)
      | unanswered asks nothingLeft => cases asks
      | answered asks nextAnswer => cases asks
      | requested => exact ⟨_, rfl⟩

end Outlook

end Dispatch

end PartitionBench
