import LabNetstack.SegmentCore

/-! `ControlBlock` of src/tcp with its comparisons of sequence numbers, which
are all taken relative to the initial one. -/

namespace LabNetstack

def moduloComparison (compare : UInt32 → UInt32 → Bool) (initial a b : SequenceNumber) : Bool :=
  compare (a - initial) (b - initial)

structure SendSpace where
  unack : SequenceNumber
  next : SequenceNumber
  initial : SequenceNumber
deriving DecidableEq, Repr

structure ReceiveSpace where
  next : SequenceNumber
  initial : SequenceNumber
  synReceived : Bool
deriving DecidableEq, Repr

structure ControlBlock where
  send : SendSpace
  receive : ReceiveSpace
deriving DecidableEq, Repr

def moduloInMiddle (initial x a b : SequenceNumber) : Bool :=
  moduloComparison (fun a b => decide (a ≤ b)) initial a x &&
    moduloComparison (fun a b => decide (a < b)) initial x b

namespace SendSpace

def equal (space : SendSpace) : SequenceNumber → SequenceNumber → Bool :=
  moduloComparison (fun a b => a == b) space.initial

def lessThan (space : SendSpace) : SequenceNumber → SequenceNumber → Bool :=
  moduloComparison (fun a b => decide (a < b)) space.initial

def lessOrEqual (space : SendSpace) : SequenceNumber → SequenceNumber → Bool :=
  moduloComparison (fun a b => decide (a ≤ b)) space.initial

def greaterThan (space : SendSpace) : SequenceNumber → SequenceNumber → Bool :=
  moduloComparison (fun a b => decide (a > b)) space.initial

def greaterOrEqual (space : SendSpace) : SequenceNumber → SequenceNumber → Bool :=
  moduloComparison (fun a b => decide (a ≥ b)) space.initial

def inMiddle (space : SendSpace) : SequenceNumber → SequenceNumber → SequenceNumber → Bool :=
  moduloInMiddle space.initial

theorem equal_eq (space : SendSpace) (a b : SequenceNumber) : space.equal a b = (a == b) := by
  rw [Bool.eq_iff_iff]
  simp [equal, moduloComparison]

end SendSpace

namespace ReceiveSpace

def equal (space : ReceiveSpace) : SequenceNumber → SequenceNumber → Bool :=
  moduloComparison (fun a b => a == b) space.initial

def lessThan (space : ReceiveSpace) : SequenceNumber → SequenceNumber → Bool :=
  moduloComparison (fun a b => decide (a < b)) space.initial

def lessOrEqual (space : ReceiveSpace) : SequenceNumber → SequenceNumber → Bool :=
  moduloComparison (fun a b => decide (a ≤ b)) space.initial

def greaterThan (space : ReceiveSpace) : SequenceNumber → SequenceNumber → Bool :=
  moduloComparison (fun a b => decide (a > b)) space.initial

def greaterOrEqual (space : ReceiveSpace) : SequenceNumber → SequenceNumber → Bool :=
  moduloComparison (fun a b => decide (a ≥ b)) space.initial

def inMiddle (space : ReceiveSpace) : SequenceNumber → SequenceNumber → SequenceNumber → Bool :=
  moduloInMiddle space.initial

end ReceiveSpace

end LabNetstack
