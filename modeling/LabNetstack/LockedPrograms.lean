import LabNetstack.Transitions
import Mathlib.Logic.Function.Basic

/-! Threads that run pieces of straight code under one mutex, one instruction of one thread at a
time. An access does something to the memory, or it does not find there what its code goes on with:
then the thread has taken another way, and this one ends at the access. Two threads that stand at an
access each can make them at the same time. -/

namespace LabNetstack

universe u v

inductive Instruction (Site : Type u) where
  | access (site : Site)
  | lock
  | unlock
deriving DecidableEq, Repr

def Instruction.isAccess {Site : Type u} : Instruction Site → Bool
  | access _ => true
  | _ => false

inductive InterleavingEvent (Site : Type u) where
  | call (thread : Nat) (program : List (Instruction Site))
  | step (thread : Nat)
deriving DecidableEq, Repr

structure Interleaving (Site : Type u) (Memory : Type v) where
  holder : Option Nat
  programs : Nat → List (Instruction Site)
  memory : Memory

variable {Site : Type u} {Memory : Type v}

/-- The mutex is locked and unlocked in turn, and it is held at the accesses that are marked. -/
def Bracketed (locked : Site → Bool) : Bool → List (Instruction Site) → Bool
  | held, [] => !held
  | held, .access site :: rest => (locked site == held) && Bracketed locked held rest
  | held, .lock :: rest => !held && Bracketed locked true rest
  | held, .unlock :: rest => held && Bracketed locked false rest

theorem bracketed_append {locked : Site → Bool} {held : Bool}
    {first second : List (Instruction Site)} (one : Bracketed locked held first = true)
    (other : Bracketed locked false second = true) :
    Bracketed locked held (first ++ second) = true := by
  induction first generalizing held with
  | nil =>
      have free : held = false := by simpa [Bracketed] using one
      rw [free]
      exact other
  | cons instruction first ih =>
      cases instruction <;> simp only [List.cons_append, Bracketed, Bool.and_eq_true] at one ⊢
      all_goals exact ⟨one.1, ih one.2⟩

theorem bracketed_flatMap {α : Type u} {locked : Site → Bool} {piece : α → List (Instruction Site)}
    (pieces : ∀ item, Bracketed locked false (piece item) = true) (items : List α) :
    Bracketed locked false (items.flatMap piece) = true := by
  induction items with
  | nil => rfl
  | cons item items ih =>
      rw [List.flatMap_cons]
      exact bracketed_append (pieces item) ih

/-- A piece of code that leaves the mutex as it finds it, any number of times. -/
theorem bracketed_repeat {locked : Site → Bool} {held : Bool}
    {piece rest : List (Instruction Site)}
    (keeps : ∀ after, Bracketed locked held after = true →
      Bracketed locked held (piece ++ after) = true)
    (last : Bracketed locked held rest = true) (count : Nat) :
    Bracketed locked held ((List.replicate count piece).flatten ++ rest) = true := by
  induction count with
  | zero => exact last
  | succ count ih =>
      rw [List.replicate_succ, List.flatten_cons, List.append_assoc]
      exact keeps _ ih

/-- What a piece of code does to the memory if no other thread runs. -/
def replay (effect : Memory → Site → Option Memory) :
    Memory → List (Instruction Site) → Option Memory
  | memory, [] => some memory
  | memory, .access site :: rest => do
      let next ← effect memory site
      replay effect next rest
  | memory, .lock :: rest | memory, .unlock :: rest => replay effect memory rest

theorem replay_append (effect : Memory → Site → Option Memory) (memory : Memory)
    (first second : List (Instruction Site)) :
    replay effect memory (first ++ second) =
      (replay effect memory first).bind fun next => replay effect next second := by
  induction first generalizing memory with
  | nil => rfl
  | cons instruction first ih =>
      cases instruction with
      | access site =>
          rw [List.cons_append, replay, replay]
          cases effect memory site with
          | none => rfl
          | some next => exact ih next
      | lock | unlock => exact ih memory

namespace Interleaving

def start (memory : Memory) : Interleaving Site Memory := ⟨none, fun _ => [], memory⟩

def advance (effect : Memory → Site → Option Memory) (state : Interleaving Site Memory)
    (thread : Nat) : Interleaving Site Memory :=
  match state.programs thread with
  | [] => state
  | .access site :: rest =>
      match effect state.memory site with
      | some memory => ⟨state.holder, Function.update state.programs thread rest, memory⟩
      | none => state
  | .lock :: rest =>
      if state.holder.isNone then
        ⟨some thread, Function.update state.programs thread rest, state.memory⟩
      else state
  | .unlock :: rest => ⟨none, Function.update state.programs thread rest, state.memory⟩

/-- One event. A thread calls one piece of code at a time. -/
def step (effect : Memory → Site → Option Memory) (state : Interleaving Site Memory) :
    InterleavingEvent Site → Interleaving Site Memory
  | .call thread program =>
      if (state.programs thread).isEmpty then
        { state with programs := Function.update state.programs thread program }
      else state
  | .step thread => state.advance effect thread

/-- Each thread calls only its own code. -/
def calls (code : Nat → List (Instruction Site) → Prop) (_ : Interleaving Site Memory) :
    InterleavingEvent Site → Prop
  | .call thread program => code thread program
  | .step _ => True

def At (state : Interleaving Site Memory) (thread : Nat) (site : Site) : Prop :=
  ∃ rest, state.programs thread = .access site :: rest

variable {effect : Memory → Site → Option Memory} {locked : Site → Bool}
  {code : Nat → List (Instruction Site) → Prop} {state : Interleaving Site Memory} {thread : Nat}

structure Disciplined (locked : Site → Bool) (code : Nat → List (Instruction Site) → Prop)
    (state : Interleaving Site Memory) : Prop where
  bracketed : ∀ thread,
    Bracketed locked (state.holder == some thread) (state.programs thread) = true
  origin : ∀ thread, state.programs thread = [] ∨
    ∃ program, code thread program ∧ state.programs thread <:+ program

theorem start_disciplined (memory : Memory) : Disciplined locked code (start memory) :=
  ⟨fun _ => rfl, fun _ => Or.inl rfl⟩

/-- A thread moves on in its code, and the mutex is what it was to the others. -/
theorem Disciplined.moves (disciplined : Disciplined locked code state) {holder : Option Nat}
    {rest : List (Instruction Site)} {memory : Memory}
    (own : Bracketed locked (holder == some thread) rest = true)
    (others : ∀ other ≠ thread, (holder == some other) = (state.holder == some other))
    (origin : rest = [] ∨ ∃ program, code thread program ∧ rest <:+ program) :
    Disciplined locked code ⟨holder, Function.update state.programs thread rest, memory⟩ := by
  refine ⟨fun other => ?_, fun other => ?_⟩ <;> dsimp only <;> by_cases here : other = thread
  · subst here
    rw [Function.update_self]
    exact own
  · rw [Function.update_of_ne here, others other here]
    exact disciplined.bracketed other
  · subst here
    rw [Function.update_self]
    exact origin
  · rw [Function.update_of_ne here]
    exact disciplined.origin other

theorem Disciplined.advance (disciplined : Disciplined locked code state) (thread : Nat) :
    Disciplined locked code (state.advance effect thread) := by
  have own := disciplined.bracketed thread
  have origin := disciplined.origin thread
  unfold Interleaving.advance
  cases shape : state.programs thread with
  | nil => exact disciplined
  | cons instruction rest =>
      have behind : rest = [] ∨ ∃ program, code thread program ∧ rest <:+ program := by
        rcases origin with none | ⟨program, mine, tail⟩
        · rw [shape] at none
          cases none
        · rw [shape] at tail
          exact Or.inr ⟨program, mine, (List.suffix_cons instruction rest).trans tail⟩
      rw [shape] at own
      cases instruction with
      | access site =>
          dsimp only
          split
          · exact disciplined.moves (Bool.and_eq_true_iff.mp own).2 (fun _ _ => rfl) behind
          · exact disciplined
      | lock =>
          dsimp only
          split
          · rename_i free
            have none := Option.isNone_iff_eq_none.mp free
            refine disciplined.moves ?_ (fun other apart => ?_) behind
            · rw [beq_self_eq_true]
              exact (Bool.and_eq_true_iff.mp own).2
            · rw [none]
              exact beq_false_of_ne fun same => apart (Option.some.inj same).symm
          · exact disciplined
      | unlock =>
          obtain ⟨held, after⟩ := Bool.and_eq_true_iff.mp own
          refine disciplined.moves after (fun other apart => ?_) behind
          rw [beq_iff_eq.mp held]
          exact (beq_false_of_ne fun same => apart (Option.some.inj same).symm).symm

theorem Disciplined.step (brackets : ∀ thread program, code thread program →
      Bracketed locked false program = true)
    (disciplined : Disciplined locked code state) {event : InterleavingEvent Site}
    (allowed : calls code state event) : Disciplined locked code (state.step effect event) := by
  cases event with
  | step thread => exact disciplined.advance thread
  | call thread program =>
      unfold Interleaving.step
      dsimp only
      split
      · rename_i idle
        have own := disciplined.bracketed thread
        rw [List.isEmpty_iff.mp idle] at own
        have free : (state.holder == some thread) = false := by simpa [Bracketed] using own
        refine disciplined.moves ?_ (fun _ _ => rfl) (Or.inr ⟨program, allowed, List.suffix_rfl⟩)
        rw [free]
        exact brackets thread program allowed
      · exact disciplined

theorem Disciplined.holds (disciplined : Disciplined locked code state) {site : Site}
    (stands : state.At thread site) (guarded : locked site = true) :
    state.holder = some thread := by
  obtain ⟨rest, shape⟩ := stands
  have own := disciplined.bracketed thread
  rw [shape, Bracketed, guarded, Bool.and_eq_true_iff] at own
  exact beq_iff_eq.mp (beq_iff_eq.mp own.1).symm

theorem Disciplined.source (disciplined : Disciplined locked code state) {site : Site}
    (stands : state.At thread site) : ∃ program, code thread program ∧ .access site ∈ program := by
  obtain ⟨rest, shape⟩ := stands
  rcases disciplined.origin thread with none | ⟨program, mine, tail⟩
  · rw [shape] at none
    cases none
  · exact ⟨program, mine, tail.subset (by simp [shape])⟩

/-- Two threads that stand at an access each are in their own code, and not both of the accesses
are under the mutex. -/
theorem meet_unlocked {first second : Site} {i j : Nat} {memory : Memory}
    {events : List (InterleavingEvent Site)} (apart : i ≠ j)
    (brackets : ∀ thread program, code thread program → Bracketed locked false program = true)
    (permitted : Permitted (Interleaving.step effect) (calls code) (start memory) events)
    (stands : (runEvents (Interleaving.step effect) (start memory) events).At i first)
    (meets : (runEvents (Interleaving.step effect) (start memory) events).At j second) :
    (∃ program, code i program ∧ .access first ∈ program) ∧
      (∃ program, code j program ∧ .access second ∈ program) ∧
      ¬(locked first = true ∧ locked second = true) := by
  have disciplined : Disciplined locked code
      (runEvents (Interleaving.step effect) (start memory) events) :=
    runEvents_invariant (fun _ _ kept allowed => kept.step brackets allowed)
      (start_disciplined memory) permitted
  refine ⟨disciplined.source stands, disciplined.source meets, fun ⟨firstHeld, secondHeld⟩ => ?_⟩
  have same := (disciplined.holds stands firstHeld).symm.trans (disciplined.holds meets secondHeld)
  exact apart (Option.some.inj same)

/-! A thread that runs while the others stand. -/

theorem permitted_steps (code : Nat → List (Instruction Site) → Prop)
    (state : Interleaving Site Memory) (thread count : Nat) :
    Permitted (Interleaving.step effect) (calls code) state
      (List.replicate count (.step thread)) := by
  induction count generalizing state with
  | zero => trivial
  | succ count ih => exact ⟨trivial, ih (state.step effect (.step thread))⟩

theorem run_alone {ahead rest : List (Instruction Site)} {held : Bool} {memory : Memory}
    (shape : state.programs thread = ahead ++ rest)
    (holder : state.holder = if held then some thread else none)
    (bracketed : Bracketed locked held (ahead ++ rest) = true)
    (replayed : replay effect state.memory ahead = some memory) :
    ∃ after, Bracketed locked after rest = true ∧
      runEvents (Interleaving.step effect) state (List.replicate ahead.length (.step thread)) =
        ⟨if after then some thread else none, Function.update state.programs thread rest,
          memory⟩ := by
  induction ahead generalizing state held with
  | nil =>
      refine ⟨held, bracketed, ?_⟩
      rw [← holder, ← List.nil_append rest, ← shape, Function.update_eq_self,
        ← Option.some.inj replayed]
      rfl
  | cons instruction ahead ih =>
      -- what one instruction does, whichever it is
      have one : ∃ after between, Bracketed locked after (ahead ++ rest) = true ∧
          replay effect between ahead = some memory ∧
          state.advance effect thread = ⟨if after then some thread else none,
            Function.update state.programs thread (ahead ++ rest), between⟩ := by
        rw [List.cons_append] at bracketed shape
        unfold Interleaving.advance
        rw [shape]
        cases instruction with
        | access site =>
            obtain ⟨between, done, later⟩ := Option.bind_eq_some_iff.mp replayed
            refine ⟨held, between, (Bool.and_eq_true_iff.mp bracketed).2, later, ?_⟩
            dsimp only
            rw [← holder, done]
        | lock =>
            obtain ⟨free, after⟩ := Bool.and_eq_true_iff.mp bracketed
            have none : state.holder.isNone = true := by
              rw [holder, if_neg (by simpa using free)]
              rfl
            exact ⟨true, state.memory, after, replayed, if_pos none⟩
        | unlock =>
            exact ⟨false, state.memory, (Bool.and_eq_true_iff.mp bracketed).2, replayed, rfl⟩
      obtain ⟨middle, between, first, later, moved⟩ := one
      rw [List.length_cons, List.replicate_succ, runEvents_cons]
      change ∃ after, _ ∧ runEvents (Interleaving.step effect) (state.advance effect thread) _ = _
      have shapeNext : (state.advance effect thread).programs thread = ahead ++ rest := by
        rw [moved]
        exact Function.update_self ..
      have holderNext : (state.advance effect thread).holder =
          if middle then some thread else none := by
        rw [moved]
      have memoryNext : replay effect (state.advance effect thread).memory ahead = some memory := by
        rw [moved]
        exact later
      obtain ⟨after, last, reached⟩ := ih shapeNext holderNext first memoryNext
      refine ⟨after, last, reached.trans ?_⟩
      rw [moved, Function.update_idem]

/-- As long as it leaves the mutex alone a thread runs whoever holds it. -/
theorem run_accesses {ahead rest : List (Instruction Site)} {memory : Memory}
    (shape : state.programs thread = ahead ++ rest)
    (quiet : ahead.all Instruction.isAccess = true)
    (replayed : replay effect state.memory ahead = some memory) :
    runEvents (Interleaving.step effect) state (List.replicate ahead.length (.step thread)) =
      ⟨state.holder, Function.update state.programs thread rest, memory⟩ := by
  induction ahead generalizing state with
  | nil =>
      rw [← List.nil_append rest, ← shape, Function.update_eq_self, ← Option.some.inj replayed]
      rfl
  | cons instruction ahead ih =>
      rw [List.all_cons, Bool.and_eq_true] at quiet
      cases instruction with
      | access site =>
          obtain ⟨between, done, later⟩ := Option.bind_eq_some_iff.mp replayed
          have moved : state.advance effect thread =
              ⟨state.holder, Function.update state.programs thread (ahead ++ rest), between⟩ := by
            rw [advance, shape]
            dsimp only [List.cons_append]
            rw [done]
          rw [List.length_cons, List.replicate_succ, runEvents_cons]
          change runEvents (Interleaving.step effect) (state.advance effect thread) _ = _
          rw [moved, ih (Function.update_self ..) quiet.2 later, Function.update_idem]
      | lock | unlock => cases quiet.1

/-- An idle thread calls its code and runs the first part of it. -/
theorem run_called {ahead rest : List (Instruction Site)} {last : Interleaving Site Memory}
    (mine : code thread (ahead ++ rest)) (idle : state.programs thread = [])
    (reached : runEvents (Interleaving.step effect)
      { state with programs := Function.update state.programs thread (ahead ++ rest) }
      (List.replicate ahead.length (.step thread)) = last) :
    ∃ events, Permitted (Interleaving.step effect) (calls code) state events ∧
      runEvents (Interleaving.step effect) state events = last := by
  refine ⟨.call thread (ahead ++ rest) :: List.replicate ahead.length (.step thread),
    ⟨mine, permitted_steps code _ thread _⟩, ?_⟩
  have begun : state.step effect (.call thread (ahead ++ rest)) =
      { state with programs := Function.update state.programs thread (ahead ++ rest) } := by
    simp only [Interleaving.step, idle, List.isEmpty_nil, if_true]
  rw [runEvents_cons, begun, reached]

/-- With the mutex free an idle thread can run the first part of its code. -/
theorem run_part {ahead rest : List (Instruction Site)} {memory : Memory}
    (mine : code thread (ahead ++ rest))
    (bracketed : Bracketed locked false (ahead ++ rest) = true) (free : state.holder = none)
    (idle : state.programs thread = [])
    (replayed : replay effect state.memory ahead = some memory) :
    ∃ events after, Permitted (Interleaving.step effect) (calls code) state events ∧
      Bracketed locked after rest = true ∧
      runEvents (Interleaving.step effect) state events =
        ⟨if after then some thread else none, Function.update state.programs thread rest,
          memory⟩ := by
  let called : Interleaving Site Memory :=
    { state with programs := Function.update state.programs thread (ahead ++ rest) }
  have shape : called.programs thread = ahead ++ rest := Function.update_self ..
  have unheld : called.holder = if false then some thread else none := free
  obtain ⟨after, last, reached⟩ := run_alone shape unheld bracketed replayed
  rw [Function.update_idem] at reached
  obtain ⟨events, permitted, ended⟩ := run_called mine idle reached
  exact ⟨events, after, permitted, last, ended⟩

/-- It can also run it if another thread holds the mutex and it does not ask for it. -/
theorem run_beside {ahead rest : List (Instruction Site)} {memory : Memory}
    (mine : code thread (ahead ++ rest))
    (bracketed : Bracketed locked false (ahead ++ rest) = true)
    (able : state.holder = none ∨ ahead.all Instruction.isAccess = true)
    (idle : state.programs thread = [])
    (replayed : replay effect state.memory ahead = some memory) :
    ∃ events holder, Permitted (Interleaving.step effect) (calls code) state events ∧
      runEvents (Interleaving.step effect) state events =
        ⟨holder, Function.update state.programs thread rest, memory⟩ := by
  rcases able with free | quiet
  · obtain ⟨events, after, permitted, _, reached⟩ := run_part mine bracketed free idle replayed
    exact ⟨events, _, permitted, reached⟩
  · let called : Interleaving Site Memory :=
      { state with programs := Function.update state.programs thread (ahead ++ rest) }
    have shape : called.programs thread = ahead ++ rest := Function.update_self ..
    have reached := run_accesses shape quiet replayed
    rw [Function.update_idem] at reached
    obtain ⟨events, permitted, ended⟩ := run_called mine idle reached
    exact ⟨events, _, permitted, ended⟩

/-- Whole calls, one after the other. -/
theorem run_calls {setup : List (Nat × List (Instruction Site))} {memory last : Memory}
    (brackets : ∀ thread program, code thread program → Bracketed locked false program = true)
    (mine : ∀ call ∈ setup, code call.1 call.2)
    (replayed : replay effect memory (setup.flatMap Prod.snd) = some last) :
    ∃ events, Permitted (Interleaving.step effect) (calls code) (start memory) events ∧
      runEvents (Interleaving.step effect) (start memory) events = start last := by
  induction setup generalizing memory with
  | nil => exact ⟨[], trivial, congrArg start (Option.some.inj replayed)⟩
  | cons call setup ih =>
      obtain ⟨thread, program⟩ := call
      rw [List.flatMap_cons, replay_append] at replayed
      obtain ⟨between, done, later⟩ := Option.bind_eq_some_iff.mp replayed
      have own : code thread (program ++ []) := by
        rw [List.append_nil]
        exact mine _ List.mem_cons_self
      obtain ⟨events, after, permitted, free, reached⟩ := run_part own (brackets thread _ own)
        (rfl : (start memory : Interleaving Site Memory).holder = none) rfl done
      have idle : runEvents (Interleaving.step effect) (start memory) events = start between := by
        have released : after = false := by simpa [Bracketed] using free
        rw [reached, released]
        exact congrArg (Interleaving.mk none · between) (Function.update_eq_self ..)
      obtain ⟨more, permittedMore, reachedMore⟩ :=
        ih (fun call member => mine call (List.mem_cons_of_mem _ member)) later
      rw [← idle] at permittedMore reachedMore
      exact ⟨events ++ more, permitted_append.mpr ⟨permitted, permittedMore⟩,
        (runEvents_append ..).trans reachedMore⟩

theorem split_at {program : List (Instruction Site)} {site : Site} {place : Nat}
    (here : program[place]? = some (.access site)) :
    program.take place ++ .access site :: program.drop (place + 1) = program := by
  obtain ⟨inside, same⟩ := List.getElem?_eq_some_iff.mp here
  rw [← same, ← List.drop_eq_getElem_cons inside, List.take_append_drop]

/-- After some whole calls two threads can come to two accesses one after the other, if the first
does not hold the mutex there or the second does not ask for it before. -/
theorem reach_both {setup : List (Nat × List (Instruction Site))}
    {one other : List (Instruction Site)} {first second : Site} {i j place spot : Nat}
    {memory : Memory} (apart : i ≠ j)
    (brackets : ∀ thread program, code thread program → Bracketed locked false program = true)
    (ours : ∀ call ∈ setup, code call.1 call.2) (mine : code i one) (yours : code j other)
    (here : one[place]? = some (.access first)) (there : other[spot]? = some (.access second))
    (able : locked first = false ∨ (other.take spot).all Instruction.isAccess = true)
    (replayed : (replay effect memory
      (setup.flatMap Prod.snd ++ (one.take place ++ other.take spot))).isSome = true) :
    ∃ events, Permitted (Interleaving.step effect) (calls code) (start memory) events ∧
      (runEvents (Interleaving.step effect) (start memory) events).At i first ∧
      (runEvents (Interleaving.step effect) (start memory) events).At j second := by
  obtain ⟨last, replayed⟩ := Option.isSome_iff_exists.mp replayed
  rw [replay_append] at replayed
  obtain ⟨ready, prepared, replayed⟩ := Option.bind_eq_some_iff.mp replayed
  rw [replay_append] at replayed
  obtain ⟨between, done, later⟩ := Option.bind_eq_some_iff.mp replayed
  obtain ⟨events, permitted, quiet⟩ := run_calls brackets ours prepared
  -- the first thread goes up to its access
  rw [← split_at here] at mine
  obtain ⟨more, after, permittedOne, stands, reachedOne⟩ := run_part mine (brackets i _ mine)
    (rfl : (start ready : Interleaving Site Memory).holder = none) rfl done
  have held : locked first = after := beq_iff_eq.mp (Bool.and_eq_true_iff.mp stands).1
  -- the second thread starts from there
  rw [← split_at there] at yours
  have idle : (runEvents (Interleaving.step effect) (start ready) more).programs j = [] := by
    rw [reachedOne]
    exact Function.update_of_ne apart.symm ..
  have goes : (runEvents (Interleaving.step effect) (start ready) more).holder = none ∨
      (other.take spot).all Instruction.isAccess = true := by
    refine able.imp_left fun unlocked => ?_
    rw [reachedOne, ← held, unlocked]
    rfl
  have found : replay effect (runEvents (Interleaving.step effect) (start ready) more).memory
      (other.take spot) = some last := by
    rw [reachedOne]
    exact later
  obtain ⟨rest, holder, permittedOther, reachedOther⟩ :=
    run_beside yours (brackets j _ yours) goes idle found
  refine ⟨events ++ (more ++ rest), ?_, ?_⟩
  · rw [permitted_append, permitted_append, quiet]
    exact ⟨permitted, permittedOne, permittedOther⟩
  · rw [runEvents_append, runEvents_append, quiet, reachedOther, reachedOne]
    refine ⟨⟨one.drop (place + 1), ?_⟩, ⟨other.drop (spot + 1), Function.update_self ..⟩⟩
    exact (Function.update_of_ne apart ..).trans (Function.update_self ..)

end Interleaving

end LabNetstack
