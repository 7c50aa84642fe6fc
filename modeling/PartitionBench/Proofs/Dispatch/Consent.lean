import Mathlib.Data.List.Basic
import PartitionBench.Proofs.Dispatch.Course

/-!
Contract: nothing is submitted without consent.

Owns:
- reading a trace: the questions settled in it with what was decided, the answers taken
  and the requests made;
- what the reading of a trace has to do with where the dialogue stands, event by event;
- the law of consent at every point of every dispatch.

Does not own: the machine that a dispatch runs along (`Proofs.Dispatch.Course`).
-/

namespace PartitionBench.Dispatch

open PartitionBench.Document

variable {σ : Type}

/-! ## Reading a trace -/

/-- What a trace tells up to some point: the question that waits for a clear answer, and
those settled so far, each with what was decided. -/
structure Reading where
  opened : Option String
  settled : List (String × Bool)

/-- What one more event tells. To ask again keeps the open question open, any other question
opens itself, and the first clear answer settles what is open. -/
def Reading.next (reading : Reading) : Event → Reading
  | .asked asking (some answer) =>
      let opened :=
        if asking = Consent.retryQuestion then reading.opened.getD asking else asking
      match Consent.verdict? answer with
      | some verdict => ⟨none, reading.settled ++ [(opened, verdict)]⟩
      | none => ⟨some opened, reading.settled⟩
  | _ => reading

def reading (events : List Event) : Reading :=
  events.foldl Reading.next ⟨none, []⟩

/-- The questions settled in a trace, in order, with what was decided. -/
def settled (events : List Event) : List (String × Bool) :=
  (reading events).settled

def answer? : Event → Option String
  | .asked _ answer => answer
  | _ => none

/-- The answers taken in a trace. -/
def answersIn (events : List Event) : List String :=
  events.filterMap answer?

def request? : Event → Option Submitter.Call
  | .requested descriptor target => some ⟨descriptor, target⟩
  | _ => none

/-- The calls of the submitter in a trace. -/
def requests (events : List Event) : List Submitter.Call :=
  events.filterMap request?

/-- The last event of a trace is an answer that says yes. -/
def EndsInYes (events : List Event) : Prop :=
  ∃ asking answer, events.getLast? = some (.asked asking (some answer)) ∧
    Consent.verdict? answer = some true

/-- The targets among decided ones that the operator agreed to. -/
def agreed (decided : List (Target × Bool)) : List Target :=
  (decided.filter Prod.snd).map Prod.fst

/-- What was decided about targets, when the questions settled in a trace are about them in
their order. -/
def decidedIn (targets : List Target) (events : List Event) : List (Target × Bool) :=
  targets.zip ((settled events).map Prod.snd)

/-- The calls that submit an experiment for targets. -/
def callsFor (descriptor : Value) (targets : List Target) : List Submitter.Call :=
  targets.map (Submitter.Call.mk descriptor)

/-! ## One more event -/

section Concat

variable (events : List Event) (event : Event)

theorem reading_concat : reading (events ++ [event]) = (reading events).next event := by
  rw [reading, List.foldl_append]
  rfl

theorem answersIn_concat :
    answersIn (events ++ [event]) = answersIn events ++ (answer? event).toList := by
  rw [answersIn, List.filterMap_append]
  cases found : answer? event with
  | none => simp [found, answersIn]
  | some answer => simp [found, answersIn]

theorem requests_concat :
    requests (events ++ [event]) = requests events ++ (request? event).toList := by
  rw [requests, List.filterMap_append]
  cases found : request? event with
  | none => simp [found, requests]
  | some call => simp [found, requests]

theorem endsInYes_concat :
    EndsInYes (events ++ [event]) ↔
      ∃ asking answer, event = .asked asking (some answer) ∧
        Consent.verdict? answer = some true := by
  unfold EndsInYes
  rw [List.getLast?_concat]
  constructor
  · rintro ⟨asking, answer, isLast, isYes⟩
    exact ⟨asking, answer, Option.some.inj isLast, isYes⟩
  · rintro ⟨asking, answer, isEvent, isYes⟩
    exact ⟨asking, answer, congrArg some isEvent, isYes⟩

end Concat

section Aside

variable {event : Event}

theorem next_of_aside (reading : Reading) (noDialogue : event.isDialogue = false) :
    reading.next event = reading := by
  cases event with
  | asked asking answer => cases noDialogue
  | _ => rfl

theorem answer?_of_aside (noDialogue : event.isDialogue = false) : answer? event = none := by
  cases event with
  | asked asking answer => cases noDialogue
  | _ => rfl

theorem request?_of_aside (noDialogue : event.isDialogue = false) : request? event = none := by
  cases event with
  | requested descriptor target => cases noDialogue
  | _ => rfl

end Aside

theorem agreed_concat (decided : List (Target × Bool)) (target : Target) (verdict : Bool) :
    agreed (decided ++ [(target, verdict)]) =
      agreed decided ++ (if verdict then [target] else []) := by
  cases verdict <;> simp [agreed]

theorem question_ne_retry (target : Target) : question target ≠ Consent.retryQuestion := by
  have retryStart : Consent.retryQuestion.toList.head? = some 'P' := by decide
  cases target with
  | tool name =>
      have opening : "Submit experiments with >>> ".toList.head? = some 'S' := by decide
      have start : (question (.tool name)).toList.head? = some 'S' := by
        unfold question toolQuestion
        simp only [String.toList_append, List.head?_append, opening, Option.some_or]
      intro same
      rw [same, retryStart] at start
      exact absurd start (by decide)
  | allCompetitors =>
      have start : (question .allCompetitors).toList.head? = some 'C' := by decide
      intro same
      rw [same, retryStart] at start
      exact absurd start (by decide)

/-! ## The trace and the machine -/

/-- The target whose question is open. -/
def Phase.pending : Phase → List Target
  | .unclear target => [target]
  | _ => []

/-- The target that is to be requested next. -/
def Phase.due : Phase → List Target
  | .granted target => [target]
  | _ => []

/-- A trace has brought the dialogue to where it stands, and has decided what is given. -/
structure Follows (submitter : Submitter σ) (descriptor : Value) (targets : List Target)
    (session : Session σ) (decided : List (Target × Bool)) (events : List Event)
    (course : Course σ) : Prop where
  targets : targets =
    decided.map Prod.fst ++ (course.position.phase.pending ++ course.position.ahead)
  settled : (reading events).settled =
    decided.map fun decision => (question decision.1, decision.2)
  opened : ∀ target, course.position.phase = .unclear target →
    (reading events).opened = some (question target)
  answers : session.operator.answers = answersIn events ++ course.session.operator.answers
  made : callsFor descriptor (agreed decided) =
    requests events ++ callsFor descriptor course.position.phase.due
  yes : EndsInYes events → ∃ target, course.position.phase = .granted target
  due : ∀ target, course.position.phase = .granted target → EndsInYes events
  backend : course.session.backend = submitter.after session.backend (requests events)
  unanswered : (∃ asking, .asked asking none ∈ events) → course.position.phase = .ended
  failed : (∃ outcome ∈ submitter.outcomes session.backend (requests events),
    ∃ failure, outcome.result = .error failure) → course.position.phase = .ended

section Follows

variable {submitter : Submitter σ} {descriptor : Value} {targets : List Target}
  {start : Session σ} {decided : List (Target × Bool)} {events : List Event}

theorem follows_start (submitter : Submitter σ) (descriptor : Value) (targets : List Target)
    (start : Session σ) :
    Follows submitter descriptor targets start [] [] ⟨⟨.ready, targets⟩, start⟩ where
  targets := rfl
  settled := rfl
  opened := by
    intro target isUnclear
    cases isUnclear
  answers := rfl
  made := rfl
  yes := by
    rintro ⟨asking, answer, isLast, isYes⟩
    cases isLast
  due := by
    intro target isGranted
    cases isGranted
  backend := rfl
  unanswered := by
    rintro ⟨asking, member⟩
    exact absurd member List.not_mem_nil
  failed := by
    rintro ⟨outcome, member, failure⟩
    exact absurd member List.not_mem_nil

theorem follows_aside {course : Course σ} {event : Event}
    (follows : Follows submitter descriptor targets start decided events course)
    (noDialogue : event.isDialogue = false)
    (notGranted : ∀ target, course.position.phase ≠ .granted target) :
    Follows submitter descriptor targets start decided (events ++ [event]) course := by
  have sameReading : reading (events ++ [event]) = reading events := by
    rw [reading_concat, next_of_aside _ noDialogue]
  have sameAnswers : answersIn (events ++ [event]) = answersIn events := by
    rw [answersIn_concat, answer?_of_aside noDialogue, Option.toList_none, List.append_nil]
  have sameRequests : requests (events ++ [event]) = requests events := by
    rw [requests_concat, request?_of_aside noDialogue, Option.toList_none, List.append_nil]
  constructor
  case targets => exact follows.targets
  case settled =>
    rw [sameReading]
    exact follows.settled
  case opened =>
    rw [sameReading]
    exact follows.opened
  case answers =>
    rw [sameAnswers]
    exact follows.answers
  case made =>
    rw [sameRequests]
    exact follows.made
  case yes =>
    intro endsInYes
    obtain ⟨asking, answer, isEvent, isYes⟩ := (endsInYes_concat events event).mp endsInYes
    rw [isEvent] at noDialogue
    cases noDialogue
  case due =>
    intro target isGranted
    exact absurd isGranted (notGranted target)
  case backend =>
    rw [sameRequests]
    exact follows.backend
  case unanswered =>
    rintro ⟨asking, member⟩
    rcases List.mem_append.mp member with early | late
    · exact follows.unanswered ⟨asking, early⟩
    · rw [← List.mem_singleton.mp late] at noDialogue
      cases noDialogue
  case failed =>
    rw [sameRequests]
    exact follows.failed

/-! ### A question -/

section Question

variable {position : Position} {session : Session σ} {target : Target} {asking : String}
  {rest : List Target}

theorem Asks.covers (asks : Asks position target asking rest) :
    position.phase.pending ++ position.ahead = target :: rest := by
  cases asks <;> rfl

theorem Asks.nothingDue (asks : Asks position target asking rest) :
    position.phase.due = [] := by
  cases asks <;> rfl

theorem Asks.notEnded (asks : Asks position target asking rest) : position.phase ≠ .ended := by
  cases asks <;> exact Phase.noConfusion

/-- Whether a question is put for the first time or again, what is open then is the question
of its target. -/
theorem Asks.opens (asks : Asks position target asking rest)
    (follows : Follows submitter descriptor targets start decided events ⟨position, session⟩) :
    (if asking = Consent.retryQuestion then (reading events).opened.getD asking else asking) =
      question target := by
  cases asks with
  | first => rw [if_neg (question_ne_retry target)]
  | again => rw [if_pos rfl, follows.opened target rfl, Option.getD_some]

/-- Before a question the targets are those decided about, the one asked about and those
behind it. -/
theorem Asks.allTargets (asks : Asks position target asking rest)
    (follows : Follows submitter descriptor targets start decided events ⟨position, session⟩) :
    targets = decided.map Prod.fst ++ target :: rest := by
  rw [← asks.covers]
  exact follows.targets

/-- Before a question all that was agreed to has been requested. -/
theorem Asks.allMade (asks : Asks position target asking rest)
    (follows : Follows submitter descriptor targets start decided events ⟨position, session⟩) :
    requests events = callsFor descriptor (agreed decided) := by
  have made := follows.made
  rw [asks.nothingDue] at made
  rw [made]
  exact (List.append_nil _).symm

theorem requests_asked (events : List Event) (asking : String) (answer : Option String) :
    requests (events ++ [.asked asking answer]) = requests events := by
  rw [requests_concat]
  exact List.append_nil _

theorem follows_unanswered (asks : Asks position target asking rest)
    (follows : Follows submitter descriptor targets start decided events ⟨position, session⟩) :
    Follows submitter descriptor targets start decided (events ++ [.asked asking none])
      ⟨⟨.ended, target :: rest⟩, session⟩ := by
  have sameReading : reading (events ++ [.asked asking none]) = reading events :=
    reading_concat events _
  constructor
  case targets => exact asks.allTargets follows
  case settled =>
    rw [sameReading]
    exact follows.settled
  case opened =>
    intro other isUnclear
    cases isUnclear
  case answers =>
    rw [answersIn_concat]
    exact follows.answers.trans (congrArg (· ++ _) (List.append_nil _).symm)
  case made =>
    rw [requests_asked, asks.allMade follows]
    exact (List.append_nil _).symm
  case yes =>
    intro endsInYes
    obtain ⟨other, answer, isEvent, isYes⟩ := (endsInYes_concat events _).mp endsInYes
    cases isEvent
  case due =>
    intro other isGranted
    cases isGranted
  case backend =>
    rw [requests_asked]
    exact follows.backend
  case unanswered => exact fun _ => rfl
  case failed => exact fun _ => rfl

theorem not_failed_before (asks : Asks position target asking rest)
    (follows : Follows submitter descriptor targets start decided events ⟨position, session⟩) :
    ¬ ∃ outcome ∈ submitter.outcomes start.backend (requests events),
      ∃ failure, outcome.result = .error failure :=
  fun someFailed => asks.notEnded (follows.failed someFailed)

theorem not_unanswered_after {answer : String} (asks : Asks position target asking rest)
    (follows : Follows submitter descriptor targets start decided events ⟨position, session⟩) :
    ¬ ∃ other, .asked other none ∈ events ++ [.asked asking (some answer)] := by
  rintro ⟨other, member⟩
  rcases List.mem_append.mp member with early | late
  · exact asks.notEnded (follows.unanswered ⟨other, early⟩)
  · cases List.mem_singleton.mp late

theorem answers_after {answer : String} {answers : List String}
    (nextAnswer : session.operator.answers = answer :: answers)
    (follows : Follows submitter descriptor targets start decided events ⟨position, session⟩) :
    start.operator.answers = answersIn (events ++ [.asked asking (some answer)]) ++ answers := by
  rw [follows.answers, answersIn_concat, nextAnswer, List.append_assoc]
  rfl

/-- An unclear answer leaves the question of the target open. -/
theorem follows_unclear {answer : String} {answers : List String}
    (asks : Asks position target asking rest)
    (nextAnswer : session.operator.answers = answer :: answers)
    (notClear : Consent.verdict? answer = none)
    (follows : Follows submitter descriptor targets start decided events ⟨position, session⟩) :
    Follows submitter descriptor targets start decided
      (events ++ [.asked asking (some answer)])
      ⟨⟨.unclear target, rest⟩, ⟨⟨answers, session.operator.ending⟩, session.backend⟩⟩ := by
  have nowReading : reading (events ++ [.asked asking (some answer)]) =
      ⟨some (question target), (reading events).settled⟩ := by
    rw [reading_concat, ← asks.opens follows]
    simp only [Reading.next, notClear]
  constructor
  case targets => exact asks.allTargets follows
  case settled =>
    rw [nowReading]
    exact follows.settled
  case opened =>
    intro other isUnclear
    rw [nowReading]
    cases isUnclear
    rfl
  case answers => exact answers_after nextAnswer follows
  case made =>
    rw [requests_asked, asks.allMade follows]
    exact (List.append_nil _).symm
  case yes =>
    intro endsInYes
    obtain ⟨other, given, isEvent, isYes⟩ := (endsInYes_concat events _).mp endsInYes
    cases isEvent
    rw [notClear] at isYes
    cases isYes
  case due =>
    intro other isGranted
    cases isGranted
  case backend =>
    rw [requests_asked]
    exact follows.backend
  case unanswered =>
    exact fun unanswered => absurd unanswered (not_unanswered_after asks follows)
  case failed =>
    rw [requests_asked]
    exact fun someFailed => absurd someFailed (not_failed_before asks follows)

/-- A clear answer decides about the target, and makes its request due if it is a yes. -/
theorem follows_clear {answer : String} {answers : List String} {verdict : Bool}
    (asks : Asks position target asking rest)
    (nextAnswer : session.operator.answers = answer :: answers)
    (clear : Consent.verdict? answer = some verdict)
    (follows : Follows submitter descriptor targets start decided events ⟨position, session⟩) :
    Follows submitter descriptor targets start (decided ++ [(target, verdict)])
      (events ++ [.asked asking (some answer)])
      ⟨⟨phaseAfter target (some verdict), rest⟩,
        ⟨⟨answers, session.operator.ending⟩, session.backend⟩⟩ := by
  have nowReading : reading (events ++ [.asked asking (some answer)]) =
      ⟨none, (reading events).settled ++ [(question target, verdict)]⟩ := by
    rw [reading_concat, ← asks.opens follows]
    simp only [Reading.next, clear]
  constructor
  case targets =>
    have covered := asks.allTargets follows
    cases verdict <;> simpa [phaseAfter, Phase.pending] using covered
  case settled =>
    rw [nowReading, follows.settled, List.map_append]
    rfl
  case opened =>
    intro other isUnclear
    cases verdict <;> cases isUnclear
  case answers => exact answers_after nextAnswer follows
  case made =>
    rw [requests_asked, agreed_concat, asks.allMade follows]
    cases verdict <;> simp [callsFor, phaseAfter, Phase.due]
  case yes =>
    intro endsInYes
    obtain ⟨other, given, isEvent, isYes⟩ := (endsInYes_concat events _).mp endsInYes
    cases isEvent
    rw [clear] at isYes
    cases isYes
    exact ⟨target, rfl⟩
  case due =>
    intro other isGranted
    refine (endsInYes_concat events _).mpr ⟨asking, answer, rfl, ?_⟩
    cases verdict with
    | true => exact clear
    | false => cases isGranted
  case backend =>
    rw [requests_asked]
    exact follows.backend
  case unanswered =>
    exact fun unanswered => absurd unanswered (not_unanswered_after asks follows)
  case failed =>
    rw [requests_asked]
    exact fun someFailed => absurd someFailed (not_failed_before asks follows)

end Question

/-! ### A request -/

theorem follows_requested {target : Target} {rest : List Target} {session : Session σ}
    (follows : Follows submitter descriptor targets start decided events
      ⟨⟨.granted target, rest⟩, session⟩) :
    Follows submitter descriptor targets start decided
      (events ++ [.requested descriptor target])
      ⟨⟨phaseOf (submitter.submit descriptor target session.backend).result, rest⟩,
        ⟨session.operator, (submitter.submit descriptor target session.backend).state⟩⟩ := by
  have sameReading : reading (events ++ [.requested descriptor target]) = reading events :=
    reading_concat events _
  have nowRequests : requests (events ++ [.requested descriptor target]) =
      requests events ++ [⟨descriptor, target⟩] := requests_concat events _
  have reached : session.backend = submitter.after start.backend (requests events) :=
    follows.backend
  generalize called : submitter.submit descriptor target session.backend = outcome
  have nothingPending : (phaseOf outcome.result).pending = [] := by
    cases outcome.result <;> rfl
  have nothingDue : (phaseOf outcome.result).due = [] := by
    cases outcome.result <;> rfl
  constructor
  case targets =>
    rw [nothingPending]
    exact follows.targets
  case settled =>
    rw [sameReading]
    exact follows.settled
  case opened =>
    intro other isUnclear
    cases ended : outcome.result <;> rw [ended] at isUnclear <;> cases isUnclear
  case answers =>
    rw [answersIn_concat]
    exact follows.answers.trans (congrArg (· ++ _) (List.append_nil _).symm)
  case made =>
    rw [nowRequests, nothingDue, follows.made]
    exact (List.append_nil _).symm
  case yes =>
    intro endsInYes
    obtain ⟨other, answer, isEvent, isYes⟩ := (endsInYes_concat events _).mp endsInYes
    cases isEvent
  case due =>
    intro other isGranted
    cases ended : outcome.result <;> rw [ended] at isGranted <;> cases isGranted
  case backend =>
    rw [nowRequests, Submitter.after_append, ← reached, ← called]
    rfl
  case unanswered =>
    rintro ⟨other, member⟩
    rcases List.mem_append.mp member with early | late
    · cases follows.unanswered ⟨other, early⟩
    · cases List.mem_singleton.mp late
  case failed =>
    rintro ⟨failing, member, failure, failed⟩
    rw [nowRequests, Submitter.outcomes_append, ← reached] at member
    rcases List.mem_append.mp member with early | late
    · cases follows.failed ⟨failing, early, failure, failed⟩
    · have isThis : failing = outcome := (List.mem_singleton.mp late).trans called
      rw [← isThis, failed]
      rfl

/-! ### Event after event -/

theorem follows_step {course next : Course σ} {event : Event}
    (follows : Follows submitter descriptor targets start decided events course)
    (step : Step submitter descriptor course event next) :
    ∃ decidedNow, Follows submitter descriptor targets start decidedNow (events ++ [event])
      next := by
  cases step with
  | aside noDialogue notGranted => exact ⟨_, follows_aside follows noDialogue notGranted⟩
  | unanswered asks nothingLeft => exact ⟨_, follows_unanswered asks follows⟩
  | @answered position session target asking rest answer answers asks nextAnswer =>
      cases said : Consent.verdict? answer with
      | none => exact ⟨_, follows_unclear asks nextAnswer said follows⟩
      | some verdict => exact ⟨_, follows_clear asks nextAnswer said follows⟩
  | requested => exact ⟨_, follows_requested follows⟩

theorem follows_steps {course last : Course σ} {later : List Event}
    (follows : Follows submitter descriptor targets start decided events course)
    (steps : Steps submitter descriptor course later last) :
    ∃ decidedNow, Follows submitter descriptor targets start decidedNow (events ++ later)
      last := by
  induction steps generalizing decided events with
  | done course => exact ⟨decided, by rwa [List.append_nil]⟩
  | next step later inductionHypothesis =>
      obtain ⟨decidedNow, followsNow⟩ := follows_step follows step
      obtain ⟨decidedLast, followsLast⟩ := inductionHypothesis followsNow
      rw [List.append_assoc] at followsLast
      exact ⟨decidedLast, followsLast⟩

end Follows

/-! ## The law of consent -/

/-- What holds at a point of a dispatch, with the events before it and those behind it.

The questions settled so far are those of the first targets in the list, the answers taken
are the first of the operator's, and the requests made are exactly those that the operator
agreed to, but for the last one while its yes is the last event: it is requested next.
Competitors are requested all together or not at all, as the first tool says. Behind a
question without an answer, or a request that failed, the dialogue is over. -/
structure Consented (submitter : Submitter σ) (descriptor : Value) (tools : List String)
    (session : Session σ) (earlier later : List Event) : Prop where
  inOrder : (settled earlier).map Prod.fst <+: (targetsOf tools).map question
  answers : answersIn earlier <+: session.operator.answers
  exactly : ¬ EndsInYes earlier →
    requests earlier = callsFor descriptor (agreed (decidedIn (targetsOf tools) earlier))
  outstanding : EndsInYes earlier →
    ∃ target others, later = .requested descriptor target :: others ∧
      callsFor descriptor (agreed (decidedIn (targetsOf tools) earlier)) =
        requests earlier ++ [⟨descriptor, target⟩]
  toolByTool : tools.head? ≠ some allWord →
    ∀ call ∈ requests earlier, ∃ tool ∈ tools, call = ⟨descriptor, .tool tool⟩
  allAtOnce : tools.head? = some allWord →
    requests earlier <+: [⟨descriptor, .allCompetitors⟩]
  unanswered : (∃ asking, .asked asking none ∈ earlier) →
    ∀ event ∈ later, event.isDialogue = false
  failed : (∃ outcome ∈ submitter.outcomes session.backend (requests earlier),
    ∃ failure, outcome.result = .error failure) → ∀ event ∈ later, event.isDialogue = false

section Consented

variable {submitter : Submitter σ} {descriptor : Value} {targets : List Target}
  {start : Session σ} {decided : List (Target × Bool)} {events : List Event} {course : Course σ}

theorem zip_decided (decided : List (Target × Bool)) (others : List Target) :
    (decided.map Prod.fst ++ others).zip (decided.map Prod.snd) = decided := by
  induction decided with
  | nil => exact List.zip_nil_right
  | cons first rest inductionHypothesis =>
      exact congrArg (first :: ·) inductionHypothesis

theorem decidedIn_of_follows
    (follows : Follows submitter descriptor targets start decided events course) :
    decidedIn targets events = decided := by
  have verdicts : (settled events).map Prod.snd = decided.map Prod.snd := by
    rw [settled, follows.settled, List.map_map]
    rfl
  rw [decidedIn, verdicts, follows.targets]
  exact zip_decided decided _

theorem settled_inOrder
    (follows : Follows submitter descriptor targets start decided events course) :
    (settled events).map Prod.fst <+: targets.map question := by
  have questions : (settled events).map Prod.fst = (decided.map Prod.fst).map question := by
    rw [settled, follows.settled, List.map_map, List.map_map]
    rfl
  rw [questions, follows.targets, List.map_append]
  exact List.prefix_append _ _

theorem requests_within
    (follows : Follows submitter descriptor targets start decided events course) :
    requests events <+: callsFor descriptor (agreed decided) := by
  rw [follows.made]
  exact List.prefix_append _ _

/-- What was agreed to are targets of the list, each at most as often as it stands there. -/
theorem agreed_sublist
    (follows : Follows submitter descriptor targets start decided events course) :
    (agreed decided).Sublist targets := by
  rw [follows.targets]
  exact (List.filter_sublist.map Prod.fst).trans (List.sublist_append_left _ _)

theorem requests_sublist
    (follows : Follows submitter descriptor targets start decided events course) :
    (requests events).Sublist (callsFor descriptor targets) :=
  (requests_within follows).sublist.trans ((agreed_sublist follows).map _)

/-- **Nothing is submitted without consent.** Wherever a dispatch is cut, whatever the
operator answers and however the submitter behaves, the law of consent holds. -/
theorem dispatch_consented (submitter : Submitter σ) (descriptor : Value) (tools : List String)
    (session : Session σ) {earlier later : List Event}
    (cut : (dispatch submitter descriptor tools session).events = earlier ++ later) :
    Consented submitter descriptor tools session earlier later := by
  obtain ⟨last, steps, nothingDue⟩ := dispatch_steps submitter descriptor tools session
  rw [cut] at steps
  obtain ⟨⟨⟨phase, ahead⟩, here⟩, before, behind⟩ := steps.split
  have begins := follows_start submitter descriptor (targetsOf tools) session
  obtain ⟨decided, follows⟩ := follows_steps begins before
  rw [List.nil_append] at follows
  have isOver : phase = .ended → ∀ event ∈ later, event.isDialogue = false := by
    rintro rfl
    exact behind.of_ended
  constructor
  case inOrder => exact settled_inOrder follows
  case answers =>
    rw [follows.answers]
    exact List.prefix_append _ _
  case exactly =>
    intro notYes
    have noneDue : phase.due = [] := by
      cases phase with
      | granted target => exact absurd (follows.due target rfl) notYes
      | _ => rfl
    have allMade := follows.made
    simp only [noneDue] at allMade
    rw [decidedIn_of_follows follows, allMade]
    exact (List.append_nil _).symm
  case outstanding =>
    intro isYes
    obtain ⟨target, isGranted⟩ := follows.yes isYes
    simp only at isGranted
    subst isGranted
    obtain ⟨others, comesNext⟩ := behind.of_granted nothingDue
    refine ⟨target, others, comesNext, ?_⟩
    rw [decidedIn_of_follows follows]
    exact follows.made
  case toolByTool =>
    intro notAll call member
    have isTarget := (requests_sublist follows).subset member
    rw [targetsOf, if_neg notAll, callsFor, List.map_map] at isTarget
    obtain ⟨tool, inTools, isCall⟩ := List.mem_map.mp isTarget
    exact ⟨tool, inTools, isCall.symm⟩
  case allAtOnce =>
    intro isAll
    have atMost := requests_within follows
    have within := agreed_sublist follows
    rw [targetsOf, if_pos isAll] at within
    rcases List.sublist_singleton.mp within with none | one
    · rw [none] at atMost
      exact atMost.trans (List.nil_prefix)
    · rw [one] at atMost
      exact atMost
  case unanswered =>
    intro someUnanswered
    exact isOver (follows.unanswered someUnanswered)
  case failed =>
    intro someFailed
    exact isOver (follows.failed someFailed)

/-- Cut behind a yes that took two answers, with the second tool still to be declined. -/
theorem dispatch_consented_behind_yes :
    Consented (Submitter.idle Unit) .null ["metis", "zoltan"]
      ⟨⟨["maybe", "y", "N"], .exhausted⟩, ()⟩
      [.asked (toolQuestion "metis") (some "maybe"), .asked Consent.retryQuestion (some "y")]
      [.requested .null (.tool "metis"), .asked (toolQuestion "zoltan") (some "N"),
        .logged (.info (declined (.tool "zoltan")))] :=
  dispatch_consented _ _ _ _ rfl

end Consented

end PartitionBench.Dispatch
