import LabNetstack.Outcome
import Mathlib.Data.List.Induction

/-! Runs of a system in which a step can stop the process or touch memory it does not own. -/

namespace LabNetstack

universe u v

variable {State : Type u} {Event : Type v}

def execute (step : State → Event → Outcome State) : State → List Event → Outcome State
  | state, [] => .done state
  | state, event :: events => step state event >>= fun next => execute step next events

/-- Every event that completes is allowed in the state it meets. -/
def Allowed (step : State → Event → Outcome State) (allowed : State → Event → Prop) :
    State → List Event → Prop
  | _, [] => True
  | state, event :: events => ∀ next, step state event = .done next →
      allowed state event ∧ Allowed step allowed next events

/-- In every state of the run that is reached. -/
def Throughout (step : State → Event → Outcome State) (good : State → Prop) (state : State)
    (events : List Event) : Prop :=
  ∀ before, before <+: events → ∀ reached, execute step state before = .done reached → good reached

variable {step : State → Event → Outcome State}

theorem execute_cons {state final : State} {event : Event} {events : List Event} :
    execute step state (event :: events) = .done final ↔
      ∃ next, step state event = .done next ∧ execute step next events = .done final := by
  rw [execute]
  exact Outcome.bind_eq_done

theorem execute_concat {state final : State} {event : Event} {events : List Event} :
    execute step state (events ++ [event]) = .done final ↔
      ∃ last, execute step state events = .done last ∧ step last event = .done final := by
  induction events generalizing state with
  | nil =>
      rw [List.nil_append, execute_cons]
      constructor
      · rintro ⟨next, taken, reached⟩
        cases reached
        exact ⟨state, rfl, taken⟩
      · rintro ⟨last, reached, taken⟩
        cases reached
        exact ⟨final, taken, rfl⟩
  | cons first events ih =>
      simp only [List.cons_append, execute_cons, ih]
      constructor
      · rintro ⟨next, taken, last, reached, later⟩
        exact ⟨last, ⟨next, taken, reached⟩, later⟩
      · rintro ⟨last, ⟨next, taken, reached⟩, later⟩
        exact ⟨next, taken, last, reached, later⟩

theorem allowed_cons {allowed : State → Event → Prop} {state next : State} {event : Event}
    {events : List Event} (taken : step state event = .done next) :
    Allowed step allowed state (event :: events) ↔
      allowed state event ∧ Allowed step allowed next events := by
  constructor
  · intro permitted
    exact permitted next taken
  · intro permitted other otherTaken
    cases taken.symm.trans otherTaken
    exact permitted

theorem allowed_of_forall {allowed : State → Event → Prop}
    (always : ∀ state event, allowed state event) (state : State) (events : List Event) :
    Allowed step allowed state events := by
  induction events generalizing state with
  | nil => trivial
  | cons event events ih => exact fun next _ => ⟨always state event, ih next⟩

theorem allowed_and {first second : State → Event → Prop} {state : State} {events : List Event}
    (one : Allowed step first state events) (other : Allowed step second state events) :
    Allowed step (fun state event => first state event ∧ second state event) state events := by
  induction events generalizing state with
  | nil => trivial
  | cons event events ih =>
      intro next taken
      obtain ⟨oneHere, oneLater⟩ := one next taken
      obtain ⟨otherHere, otherLater⟩ := other next taken
      exact ⟨⟨oneHere, otherHere⟩, ih oneLater otherLater⟩

instance decidableAllowed {allowed : State → Event → Prop}
    [∀ state event, Decidable (allowed state event)] :
    ∀ state events, Decidable (Allowed step allowed state events)
  | _, [] => isTrue trivial
  | state, event :: events =>
      match taken : step state event with
      | .done next =>
          have : Decidable (Allowed step allowed next events) := decidableAllowed next events
          decidable_of_iff _ (allowed_cons taken).symm
      | .aborted => isTrue fun _ completed => by cases taken.symm.trans completed
      | .outOfBounds => isTrue fun _ completed => by cases taken.symm.trans completed

theorem throughout_nil {good : State → Prop} {state : State} :
    Throughout step good state [] ↔ good state := by
  constructor
  · intro holds
    exact holds [] List.nil_prefix state rfl
  · intro holds before early reached found
    rw [List.prefix_nil.mp early] at found
    cases found
    exact holds

theorem throughout_cons {good : State → Prop} {state : State} {event : Event}
    {events : List Event} : Throughout step good state (event :: events) ↔
      good state ∧ ∀ next, step state event = .done next → Throughout step good next events := by
  constructor
  · intro holds
    refine ⟨holds [] List.nil_prefix state rfl, ?_⟩
    intro next taken before early reached found
    exact holds (event :: before) (List.cons_prefix_cons.mpr ⟨rfl, early⟩) reached
      (execute_cons.mpr ⟨next, taken, found⟩)
  · rintro ⟨first, later⟩ before early reached found
    rcases List.prefix_cons_iff.mp early with rfl | ⟨rest, rfl, earlyRest⟩
    · cases found
      exact first
    · obtain ⟨next, taken, foundRest⟩ := execute_cons.mp found
      exact later next taken rest earlyRest reached foundRest

/-- What holds at the start and survives each allowed step holds wherever a run gets. -/
theorem execute_invariant {allowed : State → Event → Prop} {motive : State → Prop}
    (preserved : ∀ state event next, motive state → allowed state event →
      step state event = .done next → motive next)
    {state final : State} {events : List Event} (initial : motive state)
    (permitted : Allowed step allowed state events)
    (reached : execute step state events = .done final) : motive final := by
  induction events generalizing state with
  | nil =>
      cases reached
      exact initial
  | cons event events ih =>
      obtain ⟨next, taken, later⟩ := execute_cons.mp reached
      obtain ⟨first, rest⟩ := permitted next taken
      exact ih (preserved state event next initial first taken) rest later

/-- A run in which the events to come always let the next one complete. -/
theorem execute_done {motive : State → List Event → Prop}
    (progress : ∀ state event events, motive state (event :: events) →
      ∃ next, step state event = .done next ∧ motive next events)
    {state : State} {events : List Event} (initial : motive state events) :
    ∃ final, execute step state events = .done final := by
  induction events generalizing state with
  | nil => exact ⟨state, rfl⟩
  | cons event events ih =>
      obtain ⟨next, taken, later⟩ := progress state event events initial
      obtain ⟨final, reached⟩ := ih later
      exact ⟨final, execute_cons.mpr ⟨next, taken, reached⟩⟩

theorem execute_inside {allowed : State → Event → Prop} {motive : State → Prop}
    (inside : ∀ state event, motive state → step state event ≠ .outOfBounds)
    (preserved : ∀ state event next, motive state → allowed state event →
      step state event = .done next → motive next)
    {state : State} {events : List Event} (initial : motive state)
    (permitted : Allowed step allowed state events) :
    execute step state events ≠ .outOfBounds := by
  induction events generalizing state with
  | nil => exact nofun
  | cons event events ih =>
      rw [execute]
      cases taken : step state event with
      | done next =>
          obtain ⟨first, rest⟩ := permitted next taken
          exact ih (preserved state event next initial first taken) rest
      | aborted => exact nofun
      | outOfBounds => exact absurd taken (inside state event initial)

/-- The same for what also depends on the events so far. -/
theorem execute_history {motive : List Event → State → Prop} {state final : State}
    {events : List Event} (initial : motive [] state)
    (preserved : ∀ past event last next, motive past last → step last event = .done next →
      motive (past ++ [event]) next)
    (reached : execute step state events = .done final) : motive events final := by
  induction events using List.reverseRecOn generalizing final with
  | nil =>
      cases reached
      exact initial
  | append_singleton past event ih =>
      obtain ⟨last, earlier, taken⟩ := execute_concat.mp reached
      exact preserved past event last final (ih earlier) taken

/-- The same where each step is allowed. -/
theorem execute_record {allowed : State → Event → Prop} {motive : List Event → State → Prop}
    (preserved : ∀ past event last next, motive past last → allowed last event →
      step last event = .done next → motive (past ++ [event]) next)
    {past events : List Event} {state final : State} (initial : motive past state)
    (permitted : Allowed step allowed state events)
    (reached : execute step state events = .done final) : motive (past ++ events) final := by
  induction events generalizing past state with
  | nil =>
      cases reached
      rw [List.append_nil]
      exact initial
  | cons event events ih =>
      obtain ⟨next, taken, later⟩ := execute_cons.mp reached
      obtain ⟨first, rest⟩ := permitted next taken
      rw [List.append_cons]
      exact ih (preserved past event state next initial first taken) rest later

/-- A property that an invariant gives, that allowed steps keep and that every other step breaks
holds throughout a run exactly when each of its steps is allowed. -/
theorem throughout_iff {lawful allowed : State → Event → Prop} {motive good : State → Prop}
    (holds : ∀ state, motive state → good state)
    (kept : ∀ state event next, motive state → lawful state event → allowed state event →
      step state event = .done next → motive next)
    (broken : ∀ state event next, motive state → lawful state event → ¬allowed state event →
      step state event = .done next → ¬good next)
    {state : State} {events : List Event} (initial : motive state)
    (environment : Allowed step lawful state events) :
    Throughout step good state events ↔ Allowed step allowed state events := by
  induction events generalizing state with
  | nil => exact iff_of_true (throughout_nil.mpr (holds state initial)) trivial
  | cons event events ih =>
      rw [throughout_cons]
      constructor
      · rintro ⟨_, later⟩ next taken
        obtain ⟨lawfulFirst, lawfulRest⟩ := environment next taken
        have goodNext : good next := later next taken [] List.nil_prefix next rfl
        have allowedFirst : allowed state event := by
          by_contra refused
          exact broken state event next initial lawfulFirst refused taken goodNext
        have motiveNext := kept state event next initial lawfulFirst allowedFirst taken
        exact ⟨allowedFirst, (ih motiveNext lawfulRest).mp (later next taken)⟩
      · intro permitted
        refine ⟨holds state initial, ?_⟩
        intro next taken
        obtain ⟨lawfulFirst, lawfulRest⟩ := environment next taken
        obtain ⟨allowedFirst, allowedRest⟩ := permitted next taken
        have motiveNext := kept state event next initial lawfulFirst allowedFirst taken
        exact (ih motiveNext lawfulRest).mpr allowedRest

/-- A view of the state under which each step is a step of another system. -/
theorem execute_view {Seen : Type u} {seen : Seen → Event → Outcome Seen} {view : State → Seen}
    {motive : State → Prop}
    (follows : ∀ state event, motive state → view <$> step state event = seen (view state) event)
    (kept : ∀ state event next, motive state → step state event = .done next → motive next)
    {state : State} {events : List Event} (initial : motive state) :
    view <$> execute step state events = execute seen (view state) events := by
  induction events generalizing state with
  | nil => rfl
  | cons event events ih =>
      rw [execute, execute, ← follows state event initial]
      cases taken : step state event with
      | done next => exact ih (kept state event next initial taken)
      | aborted => rfl
      | outOfBounds => rfl

/-- Every event that is tried meets the condition, whether it completes or not. -/
def Attempted (step : State → Event → Outcome State) (condition : State → Event → Prop) :
    State → List Event → Prop
  | _, [] => True
  | state, event :: events => condition state event ∧
      ∀ next, step state event = .done next → Attempted step condition next events

theorem attempted_cons {condition : State → Event → Prop} {state next : State} {event : Event}
    {events : List Event} (taken : step state event = .done next) :
    Attempted step condition state (event :: events) ↔
      condition state event ∧ Attempted step condition next events := by
  refine and_congr_right fun _ => ⟨fun later => later next taken, fun later other otherTaken => ?_⟩
  cases taken.symm.trans otherTaken
  exact later

instance decidableAttempted {condition : State → Event → Prop}
    [∀ state event, Decidable (condition state event)] :
    ∀ state events, Decidable (Attempted step condition state events)
  | _, [] => isTrue trivial
  | state, event :: events =>
      match taken : step state event with
      | .done next =>
          have : Decidable (Attempted step condition next events) := decidableAttempted next events
          decidable_of_iff _ (attempted_cons taken).symm
      | .aborted => decidable_of_iff (condition state event)
          ⟨fun met => ⟨met, fun _ completed => by cases taken.symm.trans completed⟩, And.left⟩
      | .outOfBounds => decidable_of_iff (condition state event)
          ⟨fun met => ⟨met, fun _ completed => by cases taken.symm.trans completed⟩, And.left⟩

theorem attempted_of_forall {condition : State → Event → Prop} {state : State} {events : List Event}
    (always : ∀ event ∈ events, ∀ state, condition state event) :
    Attempted step condition state events := by
  induction events generalizing state with
  | nil => trivial
  | cons event events ih =>
      exact ⟨always event List.mem_cons_self state, fun _ _ =>
        ih fun other member => always other (List.mem_cons_of_mem event member)⟩

/-- A run whose events all meet a condition under which they complete and keep an invariant. -/
theorem attempted_completes {condition : State → Event → Prop} {motive : State → Prop}
    (completes : ∀ state event, motive state → condition state event →
      ∃ next, step state event = .done next ∧ motive next)
    {state : State} {events : List Event} (initial : motive state)
    (met : Attempted step condition state events) :
    ∃ final, execute step state events = .done final ∧ motive final := by
  induction events generalizing state with
  | nil => exact ⟨state, rfl, initial⟩
  | cons event events ih =>
      obtain ⟨next, taken, kept⟩ := completes state event initial met.1
      obtain ⟨final, reached, holds⟩ := ih kept (met.2 next taken)
      exact ⟨final, execute_cons.mpr ⟨next, taken, reached⟩, holds⟩

/-- Two conditions that agree wherever an invariant holds agree over whole runs. -/
theorem attempted_congr {first second : State → Event → Prop} {motive : State → Prop}
    (agree : ∀ state event, motive state → (first state event ↔ second state event))
    (kept : ∀ state event next, motive state → step state event = .done next → motive next)
    {state : State} {events : List Event} (initial : motive state) :
    Attempted step first state events ↔ Attempted step second state events := by
  induction events generalizing state with
  | nil => exact Iff.rfl
  | cons event events ih =>
      refine and_congr (agree state event initial) (forall_congr' fun next => ?_)
      exact forall_congr' fun taken => ih (kept state event next initial taken)

end LabNetstack
