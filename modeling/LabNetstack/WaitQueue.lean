import Mathlib.Data.List.Basic
import Mathlib.Tactic.Tauto

/-! A condition variable: the threads that wait at it, and those that were woken and have not got
the mutex back yet. Whom a notification wakes is up to the scheduler. -/

namespace LabNetstack

universe u

structure WaitQueue (Thread : Type u) where
  waiting : List Thread
  woken : List Thread
deriving DecidableEq, Repr

namespace WaitQueue

variable {Thread : Type u}

def empty : WaitQueue Thread := ⟨[], []⟩

def blocked (queue : WaitQueue Thread) : List Thread := queue.waiting ++ queue.woken

def wait (queue : WaitQueue Thread) (thread : Thread) : WaitQueue Thread :=
  { queue with waiting := queue.waiting ++ [thread] }

theorem mem_blocked_wait {queue : WaitQueue Thread} {thread other : Thread} :
    other ∈ (queue.wait thread).blocked ↔ other = thread ∨ other ∈ queue.blocked := by
  simp only [wait, blocked, List.mem_append, List.mem_singleton]
  tauto

variable [DecidableEq Thread]

def wake (queue : WaitQueue Thread) (thread : Thread) : WaitQueue Thread :=
  if thread ∈ queue.waiting then ⟨queue.waiting.erase thread, queue.woken ++ [thread]⟩ else queue

-- the scheduler's pick, if it waits, and some waiting thread otherwise
def chosen (queue : WaitQueue Thread) (pick : Thread) : Thread :=
  if pick ∈ queue.waiting then pick else queue.waiting.headD pick

def notifyOne (queue : WaitQueue Thread) (pick : Thread) : WaitQueue Thread :=
  queue.wake (queue.chosen pick)

def leave (queue : WaitQueue Thread) (thread : Thread) : WaitQueue Thread :=
  { queue with woken := queue.woken.erase thread }

theorem chosen_mem {queue : WaitQueue Thread} (pick : Thread) (someone : queue.waiting ≠ []) :
    queue.chosen pick ∈ queue.waiting := by
  unfold chosen
  split
  · assumption
  · cases threads : queue.waiting with
    | nil => exact absurd threads someone
    | cons first rest => exact List.mem_cons_self

theorem wake_waiting (queue : WaitQueue Thread) (thread : Thread) :
    (queue.wake thread).waiting = queue.waiting.erase thread := by
  unfold wake
  split
  · rfl
  · rename_i absent
    exact (List.erase_of_not_mem absent).symm

theorem mem_blocked_wake {queue : WaitQueue Thread} {thread other : Thread} :
    other ∈ (queue.wake thread).blocked ↔ other ∈ queue.blocked := by
  unfold wake
  split
  · rename_i member
    simp only [blocked, List.mem_append, List.mem_singleton]
    constructor
    · rintro (left | right | rfl)
      · exact Or.inl (List.mem_of_mem_erase left)
      · exact Or.inr right
      · exact Or.inl member
    · rintro (left | right)
      · by_cases same : other = thread
        · exact Or.inr (Or.inr same)
        · exact Or.inl ((List.mem_erase_of_ne same).mpr left)
      · exact Or.inr (Or.inl right)
  · exact Iff.rfl

theorem mem_blocked_leave {queue : WaitQueue Thread} {thread other : Thread}
    (member : other ∈ (queue.leave thread).blocked) : other ∈ queue.blocked := by
  simp only [leave, blocked, List.mem_append] at member ⊢
  exact member.imp_right List.mem_of_mem_erase

end WaitQueue

end LabNetstack
