import LabNetstack.SendBufferAccounting

/-! The comparisons of `ControlBlock` on positions of a stream. A position is counted from the
initial sequence number and may lie any number of laps of the sequence numbers behind it. -/

namespace LabNetstack

def position (initial : SequenceNumber) (p : Nat) : SequenceNumber := initial + UInt32.ofNat p

def lap (p : Nat) : Nat := p / 2 ^ 32

def near (p q : Nat) : Prop := p < q + 2 ^ 31 ∧ q < p + 2 ^ 31

instance (p q : Nat) : Decidable (near p q) := inferInstanceAs (Decidable (_ ∧ _))

theorem near_eq_iff {p q : Nat} (close : near p q) : p % 2 ^ 32 = q % 2 ^ 32 ↔ p = q := by
  simp only [near] at close
  omega

theorem near_lt_iff {p q : Nat} (close : near p q) :
    (p % 2 ^ 32 < q % 2 ^ 32 ↔ p < q) ↔ lap p = lap q := by
  simp only [near, lap] at *
  omega

theorem near_le_iff {p q : Nat} (close : near p q) :
    (p % 2 ^ 32 ≤ q % 2 ^ 32 ↔ p ≤ q) ↔ lap p = lap q := by
  simp only [near, lap] at *
  omega

theorem near_between_iff {x a b : Nat} (left : near a x) (right : near x b) (outer : near a b) :
    (a % 2 ^ 32 ≤ x % 2 ^ 32 ∧ x % 2 ^ 32 < b % 2 ^ 32 ↔ a ≤ x ∧ x < b) ↔
      (lap a ≠ lap x → lap x = lap b → b ≤ x) ∧ (lap a = lap x → lap x ≠ lap b → x < a) := by
  simp only [near, lap] at *
  omega

theorem moduloComparison_position (compare : UInt32 → UInt32 → Bool) (initial : SequenceNumber)
    (p q : Nat) : moduloComparison compare initial (position initial p) (position initial q) =
      compare (UInt32.ofNat p) (UInt32.ofNat q) := by
  have offset : ∀ r, position initial r - initial = UInt32.ofNat r := by
    intro r
    rw [position, UInt32.add_comm, UInt32.add_sub_cancel]
  rw [moduloComparison, offset, offset]

theorem ofNat_lt_iff (p q : Nat) :
    UInt32.ofNat p < UInt32.ofNat q ↔ p % 2 ^ 32 < q % 2 ^ 32 := by
  rw [UInt32.lt_iff_toNat_lt, UInt32.toNat_ofNat', UInt32.toNat_ofNat']

theorem ofNat_le_iff (p q : Nat) :
    UInt32.ofNat p ≤ UInt32.ofNat q ↔ p % 2 ^ 32 ≤ q % 2 ^ 32 := by
  rw [UInt32.le_iff_toNat_le, UInt32.toNat_ofNat', UInt32.toNat_ofNat']

theorem ofNat_eq_iff (p q : Nat) :
    UInt32.ofNat p = UInt32.ofNat q ↔ p % 2 ^ 32 = q % 2 ^ 32 := by
  rw [← UInt32.toNat_inj, UInt32.toNat_ofNat', UInt32.toNat_ofNat']

/-! The five comparisons made by the one pattern decide the order of two positions, and the test
for a window decides it for three. -/

structure Compares (initial : SequenceNumber)
    (equal lessThan lessOrEqual greaterThan greaterOrEqual : SequenceNumber → SequenceNumber → Bool)
    (p q : Nat) : Prop where
  equal : equal (position initial p) (position initial q) = decide (p = q)
  lessThan : lessThan (position initial p) (position initial q) = decide (p < q)
  lessOrEqual : lessOrEqual (position initial p) (position initial q) = decide (p ≤ q)
  greaterThan : greaterThan (position initial p) (position initial q) = decide (p > q)
  greaterOrEqual : greaterOrEqual (position initial p) (position initial q) = decide (p ≥ q)

def Surrounds (initial : SequenceNumber)
    (inMiddle : SequenceNumber → SequenceNumber → SequenceNumber → Bool) (x a b : Nat) : Prop :=
  inMiddle (position initial x) (position initial a) (position initial b) = decide (a ≤ x ∧ x < b)

def SendSpace.Compares (space : SendSpace) : Nat → Nat → Prop :=
  LabNetstack.Compares space.initial space.equal space.lessThan space.lessOrEqual space.greaterThan
    space.greaterOrEqual

def ReceiveSpace.Compares (space : ReceiveSpace) : Nat → Nat → Prop :=
  LabNetstack.Compares space.initial space.equal space.lessThan space.lessOrEqual space.greaterThan
    space.greaterOrEqual

theorem moduloComparison_eq_iff (initial : SequenceNumber) {p q : Nat}
    {compare : UInt32 → UInt32 → Bool} {relation : Prop} [Decidable relation]
    {residues : Prop} (computed : compare (UInt32.ofNat p) (UInt32.ofNat q) = true ↔ residues) :
    moduloComparison compare initial (position initial p) (position initial q) = decide relation ↔
      (residues ↔ relation) := by
  rw [moduloComparison_position, Bool.eq_iff_iff, computed, decide_eq_true_iff]

/-- The comparisons are right exactly while both positions are in the same lap. -/
theorem compares_iff (initial : SequenceNumber) {p q : Nat} (close : near p q) :
    LabNetstack.Compares initial (moduloComparison (fun a b => a == b) initial)
      (moduloComparison (fun a b => decide (a < b)) initial)
      (moduloComparison (fun a b => decide (a ≤ b)) initial)
      (moduloComparison (fun a b => decide (a > b)) initial)
      (moduloComparison (fun a b => decide (a ≥ b)) initial) p q ↔ lap p = lap q := by
  have back : near q p := ⟨close.2, close.1⟩
  have less : moduloComparison (fun a b => decide (a < b)) initial (position initial p)
      (position initial q) = decide (p < q) ↔ lap p = lap q := by
    rw [moduloComparison_eq_iff initial (by rw [decide_eq_true_iff, ofNat_lt_iff]), near_lt_iff close]
  constructor
  · intro compares
    exact less.mp compares.lessThan
  · intro sameLap
    refine ⟨?_, less.mpr sameLap, ?_, ?_, ?_⟩
    · exact (moduloComparison_eq_iff initial (by rw [beq_iff_eq, ofNat_eq_iff])).mpr
        (near_eq_iff close)
    · exact (moduloComparison_eq_iff initial (by rw [decide_eq_true_iff, ofNat_le_iff])).mpr
        ((near_le_iff close).mpr sameLap)
    · exact (moduloComparison_eq_iff initial
        (by rw [decide_eq_true_iff, gt_iff_lt, ofNat_lt_iff])).mpr
        ((near_lt_iff back).mpr sameLap.symm)
    · exact (moduloComparison_eq_iff initial
        (by rw [decide_eq_true_iff, ge_iff_le, ofNat_le_iff])).mpr
        ((near_le_iff back).mpr sameLap.symm)

theorem surrounds_iff (initial : SequenceNumber) {x a b : Nat} (left : near a x) (right : near x b)
    (outer : near a b) : Surrounds initial (moduloInMiddle initial) x a b ↔
      (lap a ≠ lap x → lap x = lap b → b ≤ x) ∧ (lap a = lap x → lap x ≠ lap b → x < a) := by
  rw [← near_between_iff left right outer, Surrounds, moduloInMiddle, moduloComparison_position,
    moduloComparison_position, Bool.eq_iff_iff, Bool.and_eq_true, decide_eq_true_iff,
    decide_eq_true_iff, decide_eq_true_iff, ofNat_le_iff, ofNat_lt_iff]

theorem SendBuffer.orderChecked_iff (env : Surroundings) (sender : SendBuffer)
    (ack : SequenceNumber) (now : TimeBase) (established : sender.syn = .acked)
    (checked : SendCheck.acknowledgeOrder ∉ sender.failedChecks) :
    SendCheck.acknowledgeOrder ∉ (sender.acknowledge env ack now).failedChecks ↔
      sender.tcb.send.greaterOrEqual ack sender.tcb.send.unack = true := by
  have after : (sender.acknowledge env ack now).failedChecks = _ :=
    SendBuffer.step_failedChecks env sender (.acknowledge ack now)
  have from_ : sender.acknowledgedFrom = sender.tcb.send.unack := by
    simp [SendBuffer.acknowledgedFrom, established]
  rw [after, List.mem_append, not_or]
  simp only [SendBuffer.failedAt, from_, established]
  cases sender.tcb.send.greaterOrEqual ack sender.tcb.send.unack <;> simp [checked]

/-- Positions less than half a lap apart are ordered rightly exactly when they lie in the same lap,
and so does `acknowledge` accept an acknowledgment of the window. -/
theorem sequenceOrder_iff (tcb : ControlBlock) (p q : Nat) (close : near p q) :
    (tcb.send.Compares p q ↔ lap p = lap q) ∧
    (tcb.receive.Compares p q ↔ lap p = lap q) ∧
    (∀ x, near p x → near x q →
      (Surrounds tcb.send.initial tcb.send.inMiddle x p q ↔
        (lap p ≠ lap x → lap x = lap q → q ≤ x) ∧ (lap p = lap x → lap x ≠ lap q → x < p)) ∧
      (Surrounds tcb.receive.initial tcb.receive.inMiddle x p q ↔
        (lap p ≠ lap x → lap x = lap q → q ≤ x) ∧ (lap p = lap x → lap x ≠ lap q → x < p))) ∧
    (∀ (env : Surroundings) (sender : SendBuffer) (now : TimeBase), sender.tcb = tcb →
      sender.syn = .acked → sender.tcb.send.unack = position tcb.send.initial p → p ≤ q →
      SendCheck.acknowledgeOrder ∉ sender.failedChecks →
      (SendCheck.acknowledgeOrder ∉
        (sender.acknowledge env (position tcb.send.initial q) now).failedChecks ↔ lap p = lap q)) := by
  refine ⟨compares_iff tcb.send.initial close, compares_iff tcb.receive.initial close,
    fun x left right => ⟨surrounds_iff tcb.send.initial left right close,
      surrounds_iff tcb.receive.initial left right close⟩, ?_⟩
  intro env sender now same established unack order checked
  have back : near q p := ⟨close.2, close.1⟩
  rw [SendBuffer.orderChecked_iff env sender _ now established checked, unack, same]
  rw [SendSpace.greaterOrEqual, moduloComparison_position, decide_eq_true_iff, ge_iff_le,
    ofNat_le_iff, ← near_le_iff close]
  exact (iff_true_right order).symm

theorem firstLap_ordered :
    (⟨⟨0, 0, 4294967295⟩, ⟨0, 0, false⟩⟩ : ControlBlock).send.Compares 0 1000 :=
  (sequenceOrder_iff ⟨⟨0, 0, 4294967295⟩, ⟨0, 0, false⟩⟩ 0 1000 (by decide)).1.mpr rfl

/-- The last position of the first lap does not come before the first of the second. -/
theorem secondLap_unordered :
    (⟨0, 0, 7⟩ : SendSpace).lessThan (position 7 4294967295) (position 7 4294967296) = false ∧
      (⟨0, 0, 7⟩ : SendSpace).greaterOrEqual (position 7 4294967296) (position 7 4294967295) = false := by
  decide

end LabNetstack
