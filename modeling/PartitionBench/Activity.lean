import PartitionBench.Event
import PartitionBench.Failure

/-!
Contract: steps that change a state, leave events, and may fail.

Owns:
- the outcome of a step: a result or a failure, the events, and the state that is
  left behind in either case;
- the sequence of steps: a failure ends it and keeps what was done before;
- running a step on one part of a larger state;
- what all events of a step have in common, what a step leaves as it is in the state,
  and what its value is like, and how each follows from the parts of a step; the first
  two are relations that hold of a sequence when they hold of its parts.

Does not own: any particular state.
-/

namespace PartitionBench

/-- What comes of a step. The events and the state are those of everything that
was done, whether or not it failed in the end. -/
structure Outcome (σ α : Type) where
  result : Except Failure α
  events : List Event
  state : σ

def Activity (σ α : Type) : Type :=
  σ → Outcome σ α

namespace Activity

variable {σ τ α β : Type}

/-- Do nothing and give a value. -/
def done (value : α) : Activity σ α :=
  fun state => ⟨.ok value, [], state⟩

/-- Do nothing and fail. -/
def fail (failure : Failure) : Activity σ α :=
  fun state => ⟨.error failure, [], state⟩

/-- Do one step and then another that depends on its value. The second is not
begun when the first fails. -/
def andThen (first : Activity σ α) (second : α → Activity σ β) : Activity σ β :=
  fun state =>
    let before := first state
    match before.result with
    | .error failure => ⟨.error failure, before.events, before.state⟩
    | .ok value =>
        let after := second value before.state
        ⟨after.result, before.events ++ after.events, after.state⟩

instance : Monad (Activity σ) where
  pure := done
  bind := andThen

def leave (event : Event) : Activity σ Unit :=
  fun state => ⟨.ok (), [event], state⟩

def log (entry : Log.Entry) : Activity σ Unit :=
  leave (.logged entry)

/-- The value of a result, or its failure. -/
def ofResult (result : Except Failure α) : Activity σ α :=
  fun state => ⟨result, [], state⟩

/-- Change the state by a function that gives a result beside the new state. -/
def change (step : σ → Except Failure α × σ) : Activity σ α :=
  fun state => ⟨(step state).1, [], (step state).2⟩

/-- Do a step and give its result as a value, so that a failure ends nothing. -/
def settled (step : Activity σ α) : Activity σ (Except Failure α) :=
  fun state =>
    let outcome := step state
    ⟨.ok outcome.result, outcome.events, outcome.state⟩

def on (part : σ → τ) (replace : σ → τ → σ) (step : Activity τ α) : Activity σ α :=
  fun state =>
    let outcome := step (part state)
    ⟨outcome.result, outcome.events, replace state outcome.state⟩

/-- Do one step for each item, in order, and give the values. -/
def each (step : α → Activity σ β) : List α → Activity σ (List β)
  | [] => done []
  | item :: rest => andThen (step item) fun value =>
      andThen (each step rest) fun values => done (value :: values)

/-- Do one step for each item, in order, for its events and changes alone. -/
def forEach (step : α → Activity σ Unit) : List α → Activity σ Unit
  | [] => done ()
  | item :: rest => andThen (step item) fun _ => forEach step rest

/-! ## Sequences -/

section Sequences

variable {first : Activity σ α} {second : α → Activity σ β} {state : σ}

theorem bind_of_ok {value : α} (succeeded : (first state).result = .ok value) :
    (first >>= second) state =
      ⟨(second value (first state).state).result,
        (first state).events ++ (second value (first state).state).events,
        (second value (first state).state).state⟩ := by
  change andThen first second state = _
  simp only [andThen, succeeded]

theorem bind_of_error {failure : Failure} (failed : (first state).result = .error failure) :
    (first >>= second) state = ⟨.error failure, (first state).events, (first state).state⟩ := by
  change andThen first second state = _
  simp only [andThen, failed]

end Sequences

/-! ## What holds of every step by its parts -/

/-- A relation between a state, the events from there on and the state that they lead to. It
holds where nothing is done, and of one thing done after another. -/
structure Composes (relation : σ → List Event → σ → Prop) : Prop where
  nothing : ∀ state, relation state [] state
  sequence : ∀ start middle last before after, relation start before middle →
    relation middle after last → relation start (before ++ after) last

/-- A relation holds of a step from whatever state it starts, even when the step fails. -/
def Obeys (relation : σ → List Event → σ → Prop) (step : Activity σ α) : Prop :=
  ∀ state, relation state (step state).events (step state).state

section Obeys

variable {relation : σ → List Event → σ → Prop} (composes : Composes relation)

include composes

theorem obeys_pure (value : α) : Obeys relation (pure value : Activity σ α) :=
  fun state => composes.nothing state

theorem obeys_ofResult (result : Except Failure α) :
    Obeys relation (ofResult result : Activity σ α) :=
  fun state => composes.nothing state

theorem obeys_bind {first : Activity σ α} {second : α → Activity σ β}
    (byFirst : Obeys relation first) (bySecond : ∀ value, Obeys relation (second value)) :
    Obeys relation (first >>= second) := by
  intro state
  cases ended : (first state).result with
  | error failure =>
      rw [bind_of_error ended]
      exact byFirst state
  | ok value =>
      rw [bind_of_ok ended]
      exact composes.sequence _ _ _ _ _ (byFirst state) (bySecond value (first state).state)

theorem obeys_each {step : α → Activity σ β} (byStep : ∀ item, Obeys relation (step item))
    (items : List α) : Obeys relation (each step items) := by
  induction items with
  | nil => exact obeys_pure composes []
  | cons item rest inductionHypothesis =>
      apply obeys_bind composes (byStep item)
      intro value
      apply obeys_bind composes inductionHypothesis
      intro values
      exact obeys_pure composes (value :: values)

end Obeys

/-! ## Events that a step leaves -/

/-- Every event that a step leaves has a property, from whatever state it starts. -/
def Leaves (property : Event → Prop) (step : Activity σ α) : Prop :=
  ∀ state, ∀ event ∈ (step state).events, property event

section Leaves

variable {property : Event → Prop}

theorem leaves_composes :
    Composes fun (_ : σ) events (_ : σ) => ∀ event ∈ events, property event where
  nothing := fun _ => List.forall_mem_nil _
  sequence := fun _ _ _ _ _ early late => List.forall_mem_append.mpr ⟨early, late⟩

theorem leaves_pure (value : α) : Leaves property (pure value : Activity σ α) :=
  obeys_pure leaves_composes value

theorem leaves_ofResult (result : Except Failure α) :
    Leaves property (ofResult result : Activity σ α) :=
  obeys_ofResult leaves_composes result

theorem leaves_change (step : σ → Except Failure α × σ) : Leaves property (change step) :=
  fun _ => List.forall_mem_nil _

theorem leaves_log {entry : Log.Entry} (holds : property (.logged entry)) :
    Leaves property (log entry : Activity σ Unit) := by
  intro state event member
  rw [List.mem_singleton.mp member]
  exact holds

theorem leaves_bind {first : Activity σ α} {second : α → Activity σ β}
    (ofFirst : Leaves property first) (ofSecond : ∀ value, Leaves property (second value)) :
    Leaves property (first >>= second) :=
  obeys_bind leaves_composes ofFirst ofSecond

theorem leaves_each {step : α → Activity σ β} (ofStep : ∀ item, Leaves property (step item))
    (items : List α) : Leaves property (each step items) :=
  obeys_each leaves_composes ofStep items

end Leaves

/-! ## Parts of the state that a step leaves as they are -/

/-- A step leaves what is seen of the state as it is, even when it fails. -/
def Keeps (view : σ → τ) (step : Activity σ α) : Prop :=
  ∀ state, view (step state).state = view state

section Keeps

variable {view : σ → τ}

theorem keeps_composes : Composes fun before (_ : List Event) after => view after = view before where
  nothing := fun _ => rfl
  sequence := fun _ _ _ _ _ byFirst bySecond => bySecond.trans byFirst

theorem keeps_pure (value : α) : Keeps view (pure value : Activity σ α) :=
  obeys_pure keeps_composes value

theorem keeps_ofResult (result : Except Failure α) :
    Keeps view (ofResult result : Activity σ α) :=
  obeys_ofResult keeps_composes result

theorem keeps_log (entry : Log.Entry) : Keeps view (log entry : Activity σ Unit) :=
  fun _ => rfl

theorem keeps_bind {first : Activity σ α} {second : α → Activity σ β}
    (byFirst : Keeps view first) (bySecond : ∀ value, Keeps view (second value)) :
    Keeps view (first >>= second) :=
  obeys_bind keeps_composes byFirst bySecond

theorem keeps_each {step : α → Activity σ β} (byStep : ∀ item, Keeps view (step item))
    (items : List α) : Keeps view (each step items) :=
  obeys_each keeps_composes byStep items

end Keeps

/-! ## Values that a step comes to -/

/-- The value of a step has a property whenever the step succeeds. -/
def Gives (property : α → Prop) (step : Activity σ α) : Prop :=
  ∀ state value, (step state).result = .ok value → property value

section Gives

theorem gives_pure {property : α → Prop} {value : α} (holds : property value) :
    Gives property (pure value : Activity σ α) := by
  intro state given succeeded
  cases succeeded
  exact holds

theorem gives_bind {property : β → Prop} {first : Activity σ α} {second : α → Activity σ β}
    (bySecond : ∀ value, Gives property (second value)) : Gives property (first >>= second) := by
  intro state given succeeded
  cases ended : (first state).result with
  | error failure =>
      rw [bind_of_error ended] at succeeded
      cases succeeded
  | ok value =>
      rw [bind_of_ok ended] at succeeded
      exact bySecond value _ given succeeded

/-- When the value for an item shows the item, the values for a list show the list. -/
theorem gives_each {view : β → α} {step : α → Activity σ β}
    (byStep : ∀ item, Gives (fun value => view value = item) (step item)) (items : List α) :
    Gives (fun values => values.map view = items) (each step items) := by
  induction items with
  | nil => exact gives_pure rfl
  | cons item rest inductionHypothesis =>
      intro state given succeeded
      change ((step item >>= fun value => each step rest >>= fun values =>
        pure (value :: values)) state).result = .ok given at succeeded
      cases first : (step item state).result with
      | error failure =>
          rw [bind_of_error first] at succeeded
          cases succeeded
      | ok value =>
          rw [bind_of_ok first] at succeeded
          cases later : (each step rest (step item state).state).result with
          | error failure =>
              rw [bind_of_error later] at succeeded
              cases succeeded
          | ok values =>
              rw [bind_of_ok later] at succeeded
              cases succeeded
              rw [List.map_cons, byStep item state value first,
                inductionHypothesis _ values later]

end Gives

end Activity

end PartitionBench
