import PartitionBench.Proofs.Dispatch.Account

/-!
Contract: what is submitted does not depend on what was declined.

Owns:
- the submissions of tools one after another, which know of no answers;
- that every dispatch tool by tool comes to the submissions of the tools agreed to, in which a
  declined tool is a step on the spot;
- that the same submissions come of a dispatch of these tools alone, all of them agreed to.

Does not own: how the answers decide (`Proofs.Dispatch.Account`), and when a request may be made
(`Proofs.Dispatch.Consent`).
-/

namespace PartitionBench

/-- An event between the program and the operator alone: a question, or a remark on its answer. -/
def Event.isTalk : Event → Bool
  | .asked _ _ => true
  | .logged (.info _) => true
  | _ => false

/-- The events of a trace that are more than talk. -/
def deedsIn (events : List Event) : List Event :=
  events.filter fun event => !event.isTalk

theorem deedsIn_append (first second : List Event) :
    deedsIn (first ++ second) = deedsIn first ++ deedsIn second :=
  List.filter_append first second

theorem deedsIn_talk {events : List Event} (areTalk : ∀ event ∈ events, event.isTalk = true) :
    deedsIn events = [] := by
  rw [deedsIn, List.filter_eq_nil_iff]
  intro event member
  rw [areTalk event member]
  decide

theorem run?_of_isTalk {event : Event} (isTalk : event.isTalk = true) : event.run? = none := by
  cases event with
  | asked => rfl
  | logged => rfl
  | _ => cases isTalk

/-- A command that is run is no talk. -/
theorem runs_of_deedsIn (events : List Event) :
    (deedsIn events).filterMap Event.run? = events.filterMap Event.run? := by
  induction events with
  | nil => rfl
  | cons event rest inductionHypothesis =>
      cases isTalk : event.isTalk with
      | true =>
          have skipped : deedsIn (event :: rest) = deedsIn rest := by simp [deedsIn, isTalk]
          rw [skipped, inductionHypothesis, List.filterMap_cons, run?_of_isTalk isTalk]
      | false =>
          have kept : deedsIn (event :: rest) = event :: deedsIn rest := by
            simp [deedsIn, isTalk]
          rw [kept, List.filterMap_cons, List.filterMap_cons, inductionHypothesis]

namespace Dispatch

open PartitionBench.Document Activity

variable {σ : Type} {submitter : Submitter σ} {descriptor : Value}

/-! ## Submissions -/

/-- Tools are submitted one after another, and every call succeeds. The list of jobs is what the
calls gave, and the events are the requests, each with what its call left. -/
inductive Submits (submitter : Submitter σ) (descriptor : Value) :
    σ → List String → List SubmittedJob → List Event → σ → Prop
  | done (backend : σ) : Submits submitter descriptor backend [] [] [] backend
  | next {before last : σ} {tool : String} {tools : List String} {jobs more : List SubmittedJob}
      {events : List Event}
      (given : (submitter.submit descriptor (.tool tool) before).result = .ok jobs)
      (later : Submits submitter descriptor (submitter.submit descriptor (.tool tool) before).state
        tools more events last) :
      Submits submitter descriptor before (tool :: tools) (jobs ++ more)
        (.requested descriptor (.tool tool) ::
          (submitter.submit descriptor (.tool tool) before).events ++ events) last

/-! ## One offer -/

theorem confirm_isTalk (operator : Consent.Operator) (asking : String) :
    ∀ event ∈ (Consent.confirm asking operator).events, event.isTalk = true :=
  Consent.confirmFrom_leaves (fun _ _ => rfl) operator.ending asking operator.answers

/-- What an offer of a tool that succeeds comes to: the tool was agreed to and is submitted, or it
was declined and the submitter is as it was. -/
inductive Offered (submitter : Submitter σ) (descriptor : Value) (tool : String) (before : σ) :
    Account → List Event → σ → Prop
  | agreed {jobs : List SubmittedJob} {events : List Event}
      (given : (submitter.submit descriptor (.tool tool) before).result = .ok jobs)
      (deeds : deedsIn events = deedsIn (.requested descriptor (.tool tool) ::
        (submitter.submit descriptor (.tool tool) before).events)) :
      Offered submitter descriptor tool before
        { allCompetitors := false, submitted := [tool], jobs := jobs } events
        (submitter.submit descriptor (.tool tool) before).state
  | declined {events : List Event} (noDeeds : deedsIn events = []) :
      Offered submitter descriptor tool before { allCompetitors := false, skipped := [tool] } events
        before

theorem offer_offered {tool : String} {session : Session σ} {account : Account}
    (succeeded : (offer submitter descriptor (.tool tool) session).result = .ok account) :
    Offered submitter descriptor tool session.backend account
      (offer submitter descriptor (.tool tool) session).events
      (offer submitter descriptor (.tool tool) session).state.backend := by
  unfold offer at succeeded ⊢
  obtain ⟨verdict, _, goesOn, whole⟩ := bind_succeeds succeeded
  have talk := deedsIn_talk (confirm_isTalk session.operator (question (.tool tool)))
  rw [whole]
  cases verdict with
  | true =>
      rw [if_pos rfl] at goesOn ⊢
      obtain ⟨jobs, made, ends, rest⟩ := bind_succeeds goesOn
      cases ends
      rw [rest]
      refine @Offered.agreed _ _ _ _ _ jobs _ made ?_
      have nothing : ∀ events : List Event, events ++ [] = events := List.append_nil
      change deedsIn ((Consent.confirm (question (.tool tool)) session.operator).events ++
        ((.requested descriptor (.tool tool) ::
          (submitter.submit descriptor (.tool tool) session.backend).events) ++ [])) = _
      rw [nothing, deedsIn_append, talk, List.nil_append]
  | false =>
      cases goesOn
      refine Offered.declined ?_
      change deedsIn ((Consent.confirm (question (.tool tool)) session.operator).events ++
        [.logged (.info (declined (.tool tool)))]) = []
      rw [deedsIn_append, talk]
      rfl

/-- An offer of a tool that the next answer agrees to. -/
theorem offer_agreed {tool : String} {answers : List String} {ending : Consent.Ending}
    {backend : σ} {jobs : List SubmittedJob}
    (given : (submitter.submit descriptor (.tool tool) backend).result = .ok jobs) :
    offer submitter descriptor (.tool tool) ⟨⟨"y" :: answers, ending⟩, backend⟩ =
      ⟨.ok { allCompetitors := false, submitted := [tool], jobs := jobs },
        .asked (toolQuestion tool) (some "y") :: .requested descriptor (.tool tool) ::
          (submitter.submit descriptor (.tool tool) backend).events,
        ⟨⟨answers, ending⟩, (submitter.submit descriptor (.tool tool) backend).state⟩⟩ := by
  have confirmed : Session.withOperator (Consent.confirm (question (.tool tool)))
      (⟨⟨"y" :: answers, ending⟩, backend⟩ : Session σ) =
        ⟨.ok true, [.asked (toolQuestion tool) (some "y")], ⟨⟨answers, ending⟩, backend⟩⟩ := rfl
  have requested : request submitter descriptor (.tool tool)
      (⟨⟨answers, ending⟩, backend⟩ : Session σ) =
        ⟨.ok jobs, .requested descriptor (.tool tool) ::
            (submitter.submit descriptor (.tool tool) backend).events,
          ⟨⟨answers, ending⟩, (submitter.submit descriptor (.tool tool) backend).state⟩⟩ := by
    rw [← given]
    rfl
  unfold offer
  rw [bind_eq_behind confirmed, if_pos rfl, bind_eq_behind requested]
  simp only [Outcome.behind, pure, done, List.append_nil]
  rfl

/-! ## A list of offers -/

theorem offerTools_submits {tools : List String} {session : Session σ} {account : Account}
    (succeeded : (offerTools submitter descriptor tools session).result = .ok account) :
    ∃ events, Submits submitter descriptor session.backend account.submitted account.jobs events
        (offerTools submitter descriptor tools session).state.backend ∧
      deedsIn (offerTools submitter descriptor tools session).events = deedsIn events ∧
      account.allCompetitors = false ∧ account.submitted.Sublist tools := by
  induction tools generalizing session account with
  | nil =>
      cases succeeded
      exact ⟨[], Submits.done session.backend, rfl, rfl, List.Sublist.refl []⟩
  | cons tool tools inductionHypothesis =>
      unfold offerTools at succeeded ⊢
      obtain ⟨first, offered, goesOn, whole⟩ := bind_succeeds succeeded
      obtain ⟨later, settled, ends, rest⟩ := bind_succeeds goesOn
      cases ends
      obtain ⟨events, submits, deeds, _, within⟩ := inductionHypothesis settled
      have ofFirst := offer_offered offered
      rw [whole, rest]
      simp only [Outcome.behind, pure, done, List.append_nil]
      generalize (offer submitter descriptor (.tool tool) session).state.backend = reached at *
      generalize (offer submitter descriptor (.tool tool) session).events = offering at *
      rw [deedsIn_append, deeds]
      -- A tool that was declined is a step on the spot.
      cases ofFirst with
      | agreed given ofOffer =>
          refine ⟨_, Submits.next given submits, ?_, rfl, List.cons_sublist_cons.mpr within⟩
          rw [deedsIn_append, ofOffer]
      | declined noDeeds =>
          refine ⟨events, submits, ?_, rfl, within.cons tool⟩
          rw [noDeeds, List.nil_append]

/-- Whatever was submitted comes of a dispatch of the same tools that are all agreed to. -/
theorem Submits.offerTools {before last : σ} {tools : List String} {jobs : List SubmittedJob}
    {events : List Event} (submits : Submits submitter descriptor before tools jobs events last)
    {operator : Consent.Operator} (allYes : ∀ answer ∈ operator.answers, answer = "y")
    (enough : tools.length ≤ operator.answers.length) :
    ∃ talk left, offerTools submitter descriptor tools ⟨operator, before⟩ =
        ⟨.ok { allCompetitors := false, submitted := tools, jobs := jobs }, talk, ⟨left, last⟩⟩ ∧
      deedsIn talk = deedsIn events := by
  induction submits generalizing operator with
  | done backend => exact ⟨[], operator, rfl, rfl⟩
  | @next before last tool tools jobs more events given later inductionHypothesis =>
      obtain ⟨answers, ending⟩ := operator
      obtain ⟨answer, answers, rfl⟩ := List.exists_cons_of_length_pos
        (Nat.lt_of_lt_of_le (Nat.succ_pos tools.length) enough)
      obtain ⟨rfl, stillYes⟩ := List.forall_mem_cons.mp allYes
      obtain ⟨talk, left, goesOn, deeds⟩ := @inductionHypothesis ⟨answers, ending⟩ stillYes
        (Nat.le_of_succ_le_succ enough)
      refine ⟨(.asked (toolQuestion tool) (some "y") :: .requested descriptor (.tool tool) ::
        (submitter.submit descriptor (.tool tool) before).events) ++ talk, left, ?_, ?_⟩
      · unfold Dispatch.offerTools
        rw [bind_eq_behind (offer_agreed given), bind_eq_behind goesOn]
        simp only [Outcome.behind, pure, Activity.done, List.append_nil]
        rfl
      · have asked : deedsIn [.asked (toolQuestion tool) (some "y")] = [] := rfl
        rw [← List.singleton_append, deedsIn_append, deedsIn_append, asked, List.nil_append, deeds,
          ← deedsIn_append]

/-! ## The same submissions again -/

/-- A completed dispatch done again comes to the same: the account but for what was skipped, the
state of the submitter, and the events but for the talk with the operator. -/
structure Replayed (original replay : Outcome (Session σ) Account) (account : Account) :
    Prop where
  account : replay.result = .ok { account with skipped := [] }
  backend : replay.state.backend = original.state.backend
  deeds : deedsIn replay.events = deedsIn original.events
  runs : replay.events.filterMap Event.run? = original.events.filterMap Event.run?

theorem dispatch_of_notAll {tools : List String} (noAll : allWord ∉ tools) :
    dispatch submitter descriptor tools = offerTools submitter descriptor tools :=
  if_neg fun isAll => noAll (List.mem_of_mem_head? isAll)

/-- **Declined tools leave no trace.** When a dispatch tool by tool completes, the tools it
submitted and nothing but yes for an answer bring about the same jobs under the same names and
identifiers, the same files, the same runs of the command and the same list of submitted tools. -/
theorem declined_leave_no_trace (submitter : Submitter σ) (descriptor : Value)
    (tools : List String) (first : Session σ) {account : Account} (noAll : allWord ∉ tools)
    (completed : (dispatch submitter descriptor tools first).result = .ok account)
    (again : Consent.Operator) (allYes : ∀ answer ∈ again.answers, answer = "y")
    (enough : account.submitted.length ≤ again.answers.length) :
    Replayed (dispatch submitter descriptor tools first)
      (dispatch submitter descriptor account.submitted ⟨again, first.backend⟩) account := by
  rw [dispatch_of_notAll noAll] at completed ⊢
  obtain ⟨events, submits, deeds, marked, within⟩ := offerTools_submits completed
  rw [dispatch_of_notAll fun member => noAll (within.subset member)]
  obtain ⟨talk, left, comesTo, sameDeeds⟩ := submits.offerTools allYes enough
  have same : deedsIn talk = deedsIn (offerTools submitter descriptor tools first).events :=
    sameDeeds.trans deeds.symm
  rw [comesTo]
  constructor
  case account => rw [marked]
  case backend => rfl
  case deeds => exact same
  case runs => rw [← runs_of_deedsIn talk, same, runs_of_deedsIn]

/-- A tool is declined whose jobs would have had the name of the next tool. -/
theorem declined_leave_no_trace_scripted :
    let submitter := Batch.submitter Scheduler.scripted Settings.standard false
    let descriptor := (Experiment.ofArguments ⟨["a/b", "a_b", "a/b"], "g", [4], 2, 2⟩).toValue
    let first : Session (Batch.Site Scheduler.Script) :=
      ⟨⟨["maybe", "n", "y", "Y"], .exhausted⟩, ⟨⟨[], []⟩, [], ⟨[.ok "Submitted batch job 7"], 0⟩⟩⟩
    let original := dispatch submitter descriptor ["a/b", "a_b", "a/b"] first
    ∃ account, original.result = .ok account ∧ account.submitted = ["a_b", "a/b"] ∧
      account.skipped = ["a/b"] ∧
      account.jobs.map (fun submitted => (submitted.job.name, submitted.identifier)) =
        [("a_b_g_k4", some "7"), ("a_b_g_k4_2", some "2")] ∧
      Replayed original (dispatch submitter descriptor account.submitted
        ⟨⟨["y", "y"], .exhausted⟩, first.backend⟩) account := by
  intro submitter descriptor first original
  have evaluated : original.result.toOption.map (fun account =>
      (account.submitted, account.skipped,
        account.jobs.map fun submitted => (submitted.job.name, submitted.identifier))) =
      some (["a_b", "a/b"], ["a/b"], [("a_b_g_k4", some "7"), ("a_b_g_k4_2", some "2")]) := by
    decide +kernel
  cases completed : original.result with
  | error failure =>
      rw [completed] at evaluated
      cases evaluated
  | ok account =>
      rw [completed] at evaluated
      have parts := Option.some.inj evaluated
      have submitted : account.submitted = ["a_b", "a/b"] := congrArg Prod.fst parts
      have skipped := congrArg (fun part => part.2.1) parts
      have jobs := congrArg (fun part => part.2.2) parts
      exact ⟨account, rfl, submitted, skipped, jobs,
        declined_leave_no_trace submitter descriptor _ first (by decide) completed
          ⟨["y", "y"], .exhausted⟩ (by decide) (by rw [submitted]; decide)⟩

end Dispatch

end PartitionBench
