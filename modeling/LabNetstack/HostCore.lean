import Mathlib.Algebra.BigOperators.Group.List.Basic
import Mathlib.Tactic.Ring
import LabNetstack.Outcome

/-! What the stack takes from the machine and the build: `DCHECK`, byte
buffers whose length is a `size_t`, and pointers into them. -/

namespace LabNetstack

inductive Build where
  | debug
  | release
deriving DecidableEq, Repr

/-- glog's `DCHECK` on a condition without side effects. -/
def dcheck (build : Build) (condition : Bool) : Outcome Unit :=
  match build with
  | .debug => .require condition
  | .release => .done ()

/-- glog's `DCHECK` on a call. The release build does not make the call. -/
def dcheckCall {σ : Type} (build : Build) (before : σ) (call : σ → Outcome (Bool × σ)) : Outcome σ :=
  match build with
  | .debug => do
      let (condition, after) ← call before
      Outcome.require condition
      pure after
  | .release => .done before

/-- The bytes a `char *` argument points to, with their number passed as a `size_t`. -/
structure Buffer where
  bytes : List UInt8
  fits : bytes.length < 2 ^ 64
deriving DecidableEq, Repr

namespace Buffer

def length (buffer : Buffer) : UInt64 := UInt64.ofNat buffer.bytes.length

@[simp] theorem length_toNat (buffer : Buffer) : buffer.length.toNat = buffer.bytes.length :=
  UInt64.toNat_ofNat_of_lt' buffer.fits

end Buffer

/-- A `char *`: the object it points into and the distance from its first byte. -/
structure Pointer where
  object : List UInt8
  offset : Nat
deriving DecidableEq, Repr

namespace Pointer

def null : Pointer := ⟨[], 0⟩

/-- The bytes of the object from the pointer on. -/
def target (pointer : Pointer) : List UInt8 := pointer.object.drop pointer.offset

end Pointer

theorem dcheck_done {build : Build} {condition : Bool} (holds : condition = true) :
    dcheck build condition = .done () := by
  cases build <;> simp [dcheck, holds]

theorem dcheck_stops {condition : Bool} (fails : condition = false) :
    dcheck .debug condition = .aborted := by
  rw [fails]
  rfl

end LabNetstack
