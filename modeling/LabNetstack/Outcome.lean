import LabNetstack.RingSlice

/-! Outcomes of native code. A call returns a value, stops the process at a
failed check, or touches memory outside the object it was given. -/

namespace LabNetstack

universe u v

inductive Outcome (α : Type u) where
  | done (value : α)
  | aborted
  | outOfBounds
deriving DecidableEq, Repr

namespace Outcome

variable {α : Type u} {β : Type v}

def bind (first : Outcome α) (next : α → Outcome β) : Outcome β :=
  match first with
  | done value => next value
  | aborted => aborted
  | outOfBounds => outOfBounds

instance : Monad Outcome where
  pure := done
  bind := bind

/-- Stop the process unless the condition holds. -/
def require (condition : Bool) : Outcome Unit :=
  if condition then done () else aborted

end Outcome

section Rules

variable {α β : Type u}

@[simp] theorem Outcome.pure_eq (value : α) : (pure value : Outcome α) = .done value := rfl

@[simp] theorem Outcome.done_bind (value : α) (next : α → Outcome β) :
    (Outcome.done value >>= next) = next value := rfl

@[simp] theorem Outcome.aborted_bind (next : α → Outcome β) :
    (Outcome.aborted >>= next) = .aborted := rfl

@[simp] theorem Outcome.outOfBounds_bind (next : α → Outcome β) :
    (Outcome.outOfBounds >>= next) = .outOfBounds := rfl

theorem Outcome.bind_eq_done {first : Outcome α} {next : α → Outcome β} {result : β} :
    (first >>= next) = .done result ↔ ∃ value, first = .done value ∧ next value = .done result := by
  cases first <;> simp

theorem Outcome.bind_of_done {first : Outcome α} {value : α} {next : α → Outcome β}
    {result : Outcome β} (completed : first = .done value) (later : next value = result) :
    (first >>= next) = result := by
  rw [completed]
  exact later

theorem Outcome.bind_done_aborted {first : Outcome α} {next : α → β} :
    (first >>= fun value => Outcome.done (next value)) = .aborted ↔ first = .aborted := by
  cases first <;> simp

theorem Outcome.map_eq_done {change : α → β} {first : Outcome α} {result : β} :
    (change <$> first) = .done result ↔ ∃ value, first = .done value ∧ change value = result := by
  change (first >>= fun value => pure (change value)) = _ ↔ _
  simp [Outcome.bind_eq_done]

@[simp] theorem Outcome.require_true : Outcome.require true = .done () := rfl

end Rules

section Copies

variable {α : Type u}

/-- Copy `count` cells out of an object, from `start` on. -/
def copyOut (cells : List α) (start count : Nat) : Outcome (List α) :=
  if start + count ≤ cells.length then .done ((cells.drop start).take count) else .outOfBounds

/-- Copy the first `count` cells of `source` over those of an object, from `start` on. -/
def copyIn (cells : List α) (start : Nat) (source : List α) (count : Nat) : Outcome (List α) :=
  if start + count ≤ cells.length ∧ count ≤ source.length then
    .done (splice cells start (source.take count))
  else .outOfBounds

theorem copyOut_done {cells : List α} {start count : Nat} (fits : start + count ≤ cells.length) :
    copyOut cells start count = .done ((cells.drop start).take count) := by
  rw [copyOut, if_pos fits]

theorem copyIn_done {cells source : List α} {start count : Nat}
    (fits : start + count ≤ cells.length) (enough : count ≤ source.length) :
    copyIn cells start source count = .done (splice cells start (source.take count)) := by
  rw [copyIn, if_pos ⟨fits, enough⟩]

theorem copyIn_outOfBounds {cells source : List α} {start count : Nat}
    (exceeds : cells.length < start + count) : copyIn cells start source count = .outOfBounds := by
  rw [copyIn, if_neg]
  rintro ⟨fits, _⟩
  omega

end Copies

end LabNetstack
