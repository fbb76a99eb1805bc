import Mathlib.Data.List.Basic
import Mathlib.Tactic.Common

/-! A first-in first-out queue of bounded capacity: the meaning of a ring
buffer, and of anything else that buffers a stream. -/

namespace LabNetstack

universe u

structure BoundedQueue (α : Type u) (capacity : Nat) where
  items : List α
  bounded : items.length ≤ capacity

namespace BoundedQueue

variable {α : Type u} {capacity : Nat}

@[ext] theorem ext {first second : BoundedQueue α capacity} (same : first.items = second.items) :
    first = second := by
  cases first
  cases second
  simpa using same

def nil : BoundedQueue α capacity := ⟨[], by simp⟩

def remaining (queue : BoundedQueue α capacity) : Nat := queue.items.length

def free (queue : BoundedQueue α capacity) : Nat := capacity - queue.remaining

def isEmpty (queue : BoundedQueue α capacity) : Bool := queue.remaining == 0

def isFull (queue : BoundedQueue α capacity) : Bool := queue.remaining == capacity

/-- The part of `data` that still fits. -/
def accepted (queue : BoundedQueue α capacity) (data : List α) : List α := data.take queue.free

/-- Append what fits of `data`. -/
def write (queue : BoundedQueue α capacity) (data : List α) : BoundedQueue α capacity :=
  ⟨queue.items ++ queue.accepted data, by
    have := queue.bounded
    simp only [accepted, free, remaining, List.length_append, List.length_take]
    omega⟩

/-- Remove the first `count` items, or all of them. -/
def consume (queue : BoundedQueue α capacity) (count : Nat) : BoundedQueue α capacity :=
  ⟨queue.items.drop count, by
    have := queue.bounded
    simp only [List.length_drop]
    omega⟩

/-- At most `count` of the items after the first `offset`. -/
def peek (queue : BoundedQueue α capacity) (offset count : Nat) : List α :=
  (queue.items.drop offset).take count

@[simp] theorem nil_items : (nil : BoundedQueue α capacity).items = [] := rfl

@[simp] theorem write_items (queue : BoundedQueue α capacity) (data : List α) :
    (queue.write data).items = queue.items ++ queue.accepted data := rfl

@[simp] theorem consume_items (queue : BoundedQueue α capacity) (count : Nat) :
    (queue.consume count).items = queue.items.drop count := rfl

theorem remaining_le (queue : BoundedQueue α capacity) : queue.remaining ≤ capacity := queue.bounded

theorem accepted_length (queue : BoundedQueue α capacity) (data : List α) :
    (queue.accepted data).length = min data.length queue.free := by
  simp [accepted, Nat.min_comm]

@[simp] theorem write_remaining (queue : BoundedQueue α capacity) (data : List α) :
    (queue.write data).remaining = queue.remaining + (queue.accepted data).length := by
  simp [remaining]

@[simp] theorem consume_remaining (queue : BoundedQueue α capacity) (count : Nat) :
    (queue.consume count).remaining = queue.remaining - count := by
  simp [remaining]

/-- Consuming in two goes, the second without what the first has taken. -/
theorem consume_consume (queue : BoundedQueue α capacity) {early late : Nat}
    (ordered : early ≤ late) :
    (queue.consume early).consume (late - min early queue.remaining) = queue.consume late := by
  apply ext
  simp only [consume_items, List.drop_drop]
  by_cases inside : early ≤ queue.remaining
  · congr 1
    omega
  · have whole : queue.items.length = queue.remaining := rfl
    rw [List.drop_eq_nil_of_le (by omega), List.drop_eq_nil_of_le (by omega)]

theorem peek_length (queue : BoundedQueue α capacity) (offset count : Nat) :
    (queue.peek offset count).length = min count (queue.remaining - offset) := by
  simp [peek, remaining]

end BoundedQueue

end LabNetstack
