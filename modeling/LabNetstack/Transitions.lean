import Mathlib.Data.List.Basic
import Mathlib.Tactic.Common

/-! Runs of a deterministic system over a list of events, of which each may be
taken only in the states that permit it. -/

namespace LabNetstack

universe u v

variable {State : Type u} {Event : Type v}

def runEvents (step : State → Event → State) (state : State) (events : List Event) : State :=
  events.foldl step state

def Permitted (step : State → Event → State) (allowed : State → Event → Prop) :
    State → List Event → Prop
  | _, [] => True
  | state, event :: events =>
      allowed state event ∧ Permitted step allowed (step state event) events

instance decidablePermitted {step : State → Event → State} {allowed : State → Event → Prop}
    [∀ state event, Decidable (allowed state event)] :
    ∀ state events, Decidable (Permitted step allowed state events)
  | _, [] => isTrue trivial
  | state, event :: events =>
      have : Decidable (Permitted step allowed (step state event) events) :=
        decidablePermitted (step state event) events
      inferInstanceAs (Decidable (_ ∧ _))

@[simp] theorem runEvents_nil (step : State → Event → State) (state : State) :
    runEvents step state [] = state := rfl

@[simp] theorem runEvents_cons (step : State → Event → State) (state : State) (event : Event)
    (events : List Event) :
    runEvents step state (event :: events) = runEvents step (step state event) events := rfl

theorem runEvents_append (step : State → Event → State) (state : State) (first second : List Event) :
    runEvents step state (first ++ second) = runEvents step (runEvents step state first) second := by
  simp [runEvents, List.foldl_append]

theorem permitted_append {step : State → Event → State} {allowed : State → Event → Prop}
    {state : State} {first second : List Event} :
    Permitted step allowed state (first ++ second) ↔
      Permitted step allowed state first ∧
        Permitted step allowed (runEvents step state first) second := by
  induction first generalizing state with
  | nil => simp [Permitted]
  | cons event events ih =>
      simp only [List.cons_append, Permitted, ih, runEvents_cons, and_assoc]

theorem permitted_and {step : State → Event → State} {first second : State → Event → Prop}
    {state : State} {events : List Event} (left : Permitted step first state events)
    (right : Permitted step second state events) :
    Permitted step (fun state event => first state event ∧ second state event) state events := by
  induction events generalizing state with
  | nil => trivial
  | cons event events ih => exact ⟨⟨left.1, right.1⟩, ih left.2 right.2⟩

/-- What holds at the start and survives each permitted step holds after every permitted run. -/
theorem runEvents_invariant {step : State → Event → State} {allowed : State → Event → Prop}
    {motive : State → Prop}
    (preserved : ∀ state event, motive state → allowed state event → motive (step state event))
    {state : State} {events : List Event} (initial : motive state)
    (permitted : Permitted step allowed state events) : motive (runEvents step state events) := by
  induction events generalizing state with
  | nil => exact initial
  | cons event events ih =>
      obtain ⟨first, later⟩ := permitted
      exact ih (preserved state event initial first) later

/-! A system that another one carries along beside more state. -/

theorem runEvents_project {Extended : Type*} {extended : Extended → Event → Extended}
    {step : State → Event → State} (project : Extended → State)
    (commutes : ∀ state event, project (extended state event) = step (project state) event)
    (state : Extended) (events : List Event) :
    project (runEvents extended state events) = runEvents step (project state) events := by
  induction events generalizing state with
  | nil => rfl
  | cons event events ih => rw [runEvents_cons, runEvents_cons, ih, commutes]

theorem permitted_true (step : State → Event → State) (state : State) (events : List Event) :
    Permitted step (fun _ _ => True) state events := by
  induction events generalizing state with
  | nil => trivial
  | cons event events ih => exact ⟨trivial, ih (step state event)⟩

/-- Two conditions on events agree over whole runs when they agree in every state
that the second leads to. -/
theorem permitted_congr {step : State → Event → State}
    {lawful first second : State → Event → Prop} {motive : State → Prop}
    (agree : ∀ state event, motive state → lawful state event →
      (first state event ↔ second state event))
    (kept : ∀ state event, motive state → lawful state event → second state event →
      motive (step state event))
    {state : State} {events : List Event} (initial : motive state)
    (environment : Permitted step lawful state events) :
    Permitted step first state events ↔ Permitted step second state events := by
  induction events generalizing state with
  | nil => exact Iff.rfl
  | cons event events ih =>
      obtain ⟨now, later⟩ := environment
      simp only [Permitted, agree state event initial now]
      refine and_congr_right fun allows => ?_
      exact ih (kept state event initial now allows) later

/-- A property holds in every state of a run exactly when every event meets a
condition, if each such event keeps it and each other event breaks it. -/
theorem always_iff {step : State → Event → State} {lawful allowed : State → Event → Prop}
    {motive : State → Prop} (good : State → Prop) (holds : ∀ state, motive state → good state)
    (kept : ∀ state event, motive state → lawful state event → allowed state event →
      motive (step state event))
    (broken : ∀ state event, motive state → lawful state event → ¬allowed state event →
      ¬good (step state event))
    {state : State} {events : List Event} (initial : motive state)
    (environment : Permitted step lawful state events) :
    (∀ before, before <+: events → good (runEvents step state before)) ↔
      Permitted step allowed state events := by
  induction events generalizing state with
  | nil =>
      refine iff_of_true ?_ trivial
      intro before none
      rw [List.prefix_nil.mp none]
      exact holds state initial
  | cons event events ih =>
      obtain ⟨now, later⟩ := environment
      by_cases allows : allowed state event
      · have rest := ih (kept state event initial now allows) later
        constructor
        · intro always
          refine ⟨allows, rest.mp fun before early => ?_⟩
          exact always (event :: before) (List.cons_prefix_cons.mpr ⟨rfl, early⟩)
        · intro permitted before early
          rcases List.prefix_cons_iff.mp early with rfl | ⟨tail, rfl, earlyTail⟩
          · exact holds state initial
          · exact rest.mpr permitted.2 tail earlyTail
      · refine iff_of_false ?_ (fun permitted => allows permitted.1)
        intro always
        refine broken state event initial now allows ?_
        exact always [event] (List.cons_prefix_cons.mpr ⟨rfl, List.nil_prefix⟩)

end LabNetstack
