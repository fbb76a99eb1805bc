import LabNetstack.Executions
import Mathlib.Logic.Function.Basic

/-! `ProtocolStack::getInstance` under several threads, each of which takes its statements one at a
time; a statement of one thread is seen by the next statement of any other. -/

namespace LabNetstack

/-- Where a thread stands in `getInstance`; `rv` is the stack it has built. -/
inductive CallPoint where
  | check
  | lock
  | checkAgain
  | create
  | spawn (rv : Nat)
  | assign (rv : Nat)
  | unlock
  | leave
  | returned (stack : Nat)
deriving DecidableEq, Repr

namespace CallPoint

def holds : CallPoint → Bool
  | checkAgain | create | spawn _ | assign _ | unlock => true
  | _ => false

/-- The most statements that are left. -/
def rank : CallPoint → Nat
  | check => 8
  | lock => 7
  | checkAgain => 6
  | create => 5
  | spawn _ => 4
  | assign _ => 3
  | unlock => 2
  | leave => 1
  | returned _ => 0

end CallPoint

-- the stacks are numbered as they are built; `loops` are those with an event loop
structure GetInstance (Thread : Type) where
  instance_ : Option Nat
  mtx : Option Thread
  built : Nat
  loops : List Nat
  points : Thread → CallPoint

namespace GetInstance

variable {Thread : Type} [DecidableEq Thread]

def start : GetInstance Thread := ⟨none, none, 0, [], fun _ => .check⟩

def goes (state : GetInstance Thread) (thread : Thread) (point : CallPoint) : GetInstance Thread :=
  { state with points := Function.update state.points thread point }

def step (state : GetInstance Thread) (thread : Thread) : Outcome (GetInstance Thread) :=
  match state.points thread with
  | .check => .done (state.goes thread (if state.instance_ = none then .lock else .leave))
  | .lock =>
      if state.mtx = none then .done { state.goes thread .checkAgain with mtx := some thread }
      else .done state
  | .checkAgain => .done (state.goes thread (if state.instance_ = none then .create else .unlock))
  | .create => .done { state.goes thread (.spawn state.built) with built := state.built + 1 }
  | .spawn rv => .done { state.goes thread (.assign rv) with loops := state.loops ++ [rv] }
  | .assign rv => .done { state.goes thread .unlock with instance_ := some rv }
  | .unlock => .done { state.goes thread .leave with mtx := none }
  | .leave =>
      match state.instance_ with
      | none => .outOfBounds
      | some stack => .done (state.goes thread (.returned stack))
  | .returned _ => .done state

/-! One stack, with its event loop, is there before any thread gets it. -/

section Rely

variable {state : GetInstance Thread} {thread : Thread}

omit [DecidableEq Thread]

def Untouched (state : GetInstance Thread) : Prop :=
  state.instance_ = none ∧ state.built = 0 ∧ state.loops = []

def Settled (state : GetInstance Thread) : Prop :=
  state.instance_ = some 0 ∧ state.built = 1 ∧ state.loops = [0]

-- what a thread at the point relies on
def Relies (state : GetInstance Thread) : CallPoint → Prop
  | .check | .lock => True
  | .checkAgain => state.Untouched ∨ state.Settled
  | .create => state.Untouched
  | .spawn rv => state.instance_ = none ∧ state.built = 1 ∧ state.loops = [] ∧ rv = 0
  | .assign rv => state.instance_ = none ∧ state.built = 1 ∧ state.loops = [0] ∧ rv = 0
  | .unlock | .leave => state.Settled
  | .returned stack => state.Settled ∧ stack = 0

structure Orderly (state : GetInstance Thread) : Prop where
  relies : ∀ thread, state.Relies (state.points thread)
  holder : ∀ thread, (state.points thread).holds = true ↔ state.mtx = some thread
  free : state.mtx = none → state.Untouched ∨ state.Settled
  filled : state.instance_ ≠ none → state.Settled

theorem start_orderly : (start : GetInstance Thread).Orderly :=
  ⟨fun _ => trivial, fun _ => by simp [start, CallPoint.holds], fun _ => Or.inl ⟨rfl, rfl, rfl⟩,
    fun present => absurd rfl present⟩

theorem Settled.present (settled : state.Settled) : state.instance_ ≠ none := by
  rw [settled.1]
  simp

theorem Orderly.at_ (orderly : state.Orderly) {point : CallPoint}
    (here : state.points thread = point) : state.Relies point := by
  rw [← here]
  exact orderly.relies thread

theorem Orderly.alone (orderly : state.Orderly) (holds : (state.points thread).holds = true)
    {other : Thread} (also : (state.points other).holds = true) : other = thread := by
  have first := (orderly.holder thread).mp holds
  have second := (orderly.holder other).mp also
  exact Option.some.inj (second.symm.trans first)

theorem Orderly.keeps (orderly : state.Orderly) {point next : CallPoint}
    (here : state.points thread = point) (same : next.holds = point.holds) :
    next.holds = true ↔ state.mtx = some thread := by
  rw [same, ← here]
  exact orderly.holder thread

theorem Orderly.held (orderly : state.Orderly) {point : CallPoint}
    (here : state.points thread = point) (holds : point.holds = true) :
    state.mtx = some thread := by
  rw [← orderly.holder thread, here]
  exact holds

/-- While there is nothing to return, the threads beside the holder of the mutex wait for it or have
not looked yet. -/
theorem Orderly.others_wait (orderly : state.Orderly) (holds : (state.points thread).holds = true)
    (missing : state.instance_ = none) {other : Thread} (elsewhere : other ≠ thread) :
    state.points other = .check ∨ state.points other = .lock := by
  have excluded : (state.points other).holds ≠ true :=
    fun also => elsewhere (orderly.alone holds also)
  cases here : state.points other with
  | check => exact Or.inl rfl
  | lock => exact Or.inr rfl
  | leave => exact absurd missing (orderly.at_ here : state.Settled).present
  | returned stack => exact absurd missing (orderly.at_ here).1.present
  | _ =>
      rw [here] at excluded
      exact absurd rfl excluded

end Rely

variable {state next : GetInstance Thread} {thread : Thread}

theorem goes_self (point : CallPoint) : (state.goes thread point).points thread = point :=
  Function.update_self ..

theorem goes_other {other : Thread} (elsewhere : other ≠ thread) (point : CallPoint) :
    (state.goes thread point).points other = state.points other :=
  Function.update_of_ne elsewhere ..

/-- What is left to show when one thread moves on. -/
theorem Orderly.moved (orderly : state.Orderly) {after : GetInstance Thread} {point : CallPoint}
    (points : after.points = (state.goes thread point).points)
    (own : point.holds = true ↔ after.mtx = some thread)
    (foreign : ∀ other, other ≠ thread → (after.mtx = some other ↔ state.mtx = some other))
    (relies : after.Relies point)
    (others : ∀ other, other ≠ thread → after.Relies (state.points other))
    (free : after.mtx = none → after.Untouched ∨ after.Settled)
    (filled : after.instance_ ≠ none → after.Settled) : after.Orderly := by
  refine ⟨fun other => ?_, fun other => ?_, free, filled⟩
  · rw [points]
    by_cases self : other = thread
    · rw [self, goes_self]
      exact relies
    · rw [goes_other self]
      exact others other self
  · rw [points]
    by_cases self : other = thread
    · rw [self, goes_self]
      exact own
    · rw [goes_other self, foreign other self]
      exact orderly.holder other

/-- The holder changes what the others do not rely on yet. -/
theorem Orderly.builds (orderly : state.Orderly) {after : GetInstance Thread}
    {point next : CallPoint} (here : state.points thread = point) (before : point.holds = true)
    (missing : state.instance_ = none) (points : after.points = (state.goes thread next).points)
    (mutex : after.mtx = state.mtx) (holds : next.holds = true) (relies : after.Relies next)
    (filled : after.instance_ ≠ none → after.Settled) : after.Orderly := by
  have locked := orderly.held here before
  refine orderly.moved points ?_ (fun other _ => by rw [mutex]) relies ?_ ?_ filled
  · rw [mutex]
    exact iff_of_true holds locked
  · intro other elsewhere
    rcases orderly.others_wait (by rw [here]; exact before) missing elsewhere with early | waiting
    · rw [early]
      trivial
    · rw [waiting]
      trivial
  · intro unlocked
    rw [mutex, locked] at unlocked
    cases unlocked

theorem Orderly.step (orderly : state.Orderly) (thread : Thread) :
    ∃ next, state.step thread = .done next ∧ next.Orderly := by
  rw [GetInstance.step]
  cases here : state.points thread with
  | check =>
      refine ⟨_, rfl, orderly.moved rfl (orderly.keeps here ?_) (fun _ _ => Iff.rfl) ?_
        (fun other _ => orderly.relies other) orderly.free orderly.filled⟩
      · split <;> rfl
      · split
        · trivial
        · next present => exact orderly.filled present
  | lock =>
      dsimp only
      split
      · next unlocked =>
          refine ⟨_, rfl, orderly.moved rfl (iff_of_true rfl rfl) ?_ (orderly.free unlocked)
            (fun other _ => orderly.relies other) (fun wrong => by cases wrong) orderly.filled⟩
          intro other elsewhere
          rw [unlocked]
          refine iff_of_false (fun same => elsewhere (Option.some.inj same).symm) ?_
          exact fun wrong => by cases wrong
      · exact ⟨state, rfl, orderly⟩
  | checkAgain =>
      refine ⟨_, rfl, orderly.moved rfl (orderly.keeps here ?_) (fun _ _ => Iff.rfl) ?_
        (fun other _ => orderly.relies other) orderly.free orderly.filled⟩
      · split <;> rfl
      · split
        · next missing =>
            rcases orderly.at_ here with untouched | settled
            · exact untouched
            · exact absurd missing settled.present
        · next present => exact orderly.filled present
  | create =>
      obtain ⟨missing, none, empty⟩ := orderly.at_ here
      refine ⟨_, rfl, orderly.builds here rfl missing rfl rfl rfl ?_ (absurd missing)⟩
      exact ⟨missing, congrArg Nat.succ none, empty, none⟩
  | spawn rv =>
      obtain ⟨missing, one, empty, first⟩ := orderly.at_ here
      refine ⟨_, rfl, orderly.builds here rfl missing rfl rfl rfl ?_ (absurd missing)⟩
      refine ⟨missing, one, ?_, first⟩
      change state.loops ++ [rv] = [0]
      rw [empty, first, List.nil_append]
  | assign rv =>
      obtain ⟨missing, one, loop, first⟩ := orderly.at_ here
      have settled : Settled { state.goes thread .unlock with instance_ := some rv } :=
        ⟨congrArg some first, one, loop⟩
      exact ⟨_, rfl, orderly.builds here rfl missing rfl rfl rfl settled fun _ => settled⟩
  | unlock =>
      have settled : state.Settled := orderly.at_ here
      have locked := orderly.held here rfl
      refine ⟨_, rfl, orderly.moved rfl (by simp [CallPoint.holds]) ?_ settled
        (fun other _ => orderly.relies other) (fun _ => Or.inr settled) orderly.filled⟩
      intro other elsewhere
      rw [locked]
      refine iff_of_false (fun wrong => by cases wrong) ?_
      exact fun same => elsewhere (Option.some.inj same).symm
  | leave =>
      have settled : state.Settled := orderly.at_ here
      simp only [settled.1]
      exact ⟨_, rfl, orderly.moved rfl (orderly.keeps here rfl) (fun _ _ => Iff.rfl) ⟨settled, rfl⟩
        (fun other _ => orderly.relies other) orderly.free orderly.filled⟩
  | returned stack => exact ⟨state, rfl, orderly⟩

theorem Orderly.run (orderly : state.Orderly) (schedule : List Thread) :
    ∃ final, execute GetInstance.step state schedule = .done final ∧ final.Orderly := by
  induction schedule generalizing state with
  | nil => exact ⟨state, rfl, orderly⟩
  | cons thread schedule ih =>
      obtain ⟨next, taken, after⟩ := orderly.step thread
      obtain ⟨final, reached, last⟩ := ih after
      exact ⟨final, execute_cons.mpr ⟨next, taken, reached⟩, last⟩

omit [DecidableEq Thread] in
theorem Orderly.one (orderly : state.Orderly) : state.built ≤ 1 ∧ state.loops.length ≤ 1 := by
  have outside (stage : state.Untouched ∨ state.Settled) :
      state.built ≤ 1 ∧ state.loops.length ≤ 1 := by
    rcases stage with ⟨_, none, empty⟩ | ⟨_, one, loop⟩
    · rw [none, empty]
      decide
    · rw [one, loop]
      decide
  cases locked : state.mtx with
  | none => exact outside (orderly.free locked)
  | some thread =>
      have holds := (orderly.holder thread).mpr locked
      cases here : state.points thread with
      | checkAgain => exact outside (orderly.at_ here)
      | create => exact outside (Or.inl (orderly.at_ here))
      | unlock => exact outside (Or.inr (orderly.at_ here))
      | spawn rv =>
          obtain ⟨_, one, empty, _⟩ := orderly.at_ here
          rw [one, empty]
          decide
      | assign rv =>
          obtain ⟨_, one, loop, _⟩ := orderly.at_ here
          rw [one, loop]
          decide
      | _ =>
          rw [here] at holds
          cases holds

/-- A thread that does not wait for the mutex moves on. -/
theorem Orderly.moves (orderly : state.Orderly)
    (under : ∀ stack, state.points thread ≠ .returned stack)
    (unblocked : state.points thread = .lock → state.mtx = none) :
    ∃ next, state.step thread = .done next ∧
      (next.points thread).rank < (state.points thread).rank := by
  have after (point : CallPoint) : (Function.update state.points thread point thread) = point :=
    Function.update_self ..
  rw [GetInstance.step]
  cases here : state.points thread with
  | check =>
      refine ⟨_, rfl, ?_⟩
      rw [goes_self]
      split <;> decide
  | lock =>
      refine ⟨_, if_pos (unblocked here), ?_⟩
      change (Function.update state.points thread _ thread).rank < _
      rw [after]
      decide
  | checkAgain =>
      refine ⟨_, rfl, ?_⟩
      rw [goes_self]
      split <;> decide
  | leave =>
      have settled : state.Settled := orderly.at_ here
      simp only [settled.1]
      refine ⟨_, rfl, ?_⟩
      rw [goes_self]
      decide
  | returned stack => exact absurd here (under stack)
  | _ =>
      refine ⟨_, rfl, ?_⟩
      change (Function.update state.points thread _ thread).rank < _
      rw [after]
      simp [CallPoint.rank]

theorem Orderly.progress (orderly : state.Orderly)
    (under : ∀ stack, state.points thread ≠ .returned stack) :
    ∃ other next, state.step other = .done next ∧
      (next.points other).rank < (state.points other).rank := by
  cases locked : state.mtx with
  | none => exact ⟨thread, orderly.moves under fun _ => locked⟩
  | some holder =>
      have holds := (orderly.holder holder).mpr locked
      refine ⟨holder, orderly.moves (fun stack returned => ?_) fun waiting => ?_⟩
      · rw [returned] at holds
        cases holds
      · rw [waiting] at holds
        cases holds

/-- Whatever the threads do and in which order, one stack is built and one event loop started at
most, every thread that returns has got that stack with its loop running, and as long as a thread
has not returned some thread gets closer to its end. -/
theorem getInstance_once (schedule : List Thread) :
    ∃ state : GetInstance Thread, execute GetInstance.step start schedule = .done state ∧
      state.built ≤ 1 ∧ state.loops.length ≤ 1 ∧
      (∀ thread stack, state.points thread = .returned stack →
        state.instance_ = some stack ∧ state.built = 1 ∧ state.loops = [stack]) ∧
      ∀ thread, (∀ stack, state.points thread ≠ .returned stack) →
        ∃ other next, state.step other = .done next ∧
          (next.points other).rank < (state.points other).rank := by
  obtain ⟨state, reached, orderly⟩ := start_orderly.run schedule
  refine ⟨state, reached, orderly.one.1, orderly.one.2, ?_, fun thread => orderly.progress⟩
  intro thread stack returned
  obtain ⟨settled, first⟩ := orderly.at_ returned
  rw [first]
  exact settled

end GetInstance

end LabNetstack
