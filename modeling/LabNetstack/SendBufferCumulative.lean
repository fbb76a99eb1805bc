import LabNetstack.RingBuffer
import LabNetstack.SendBufferAccounting

/-! Acknowledgments one after the other. What they do to the stream depends on its own fields
only, and not on what was transmitted between them. -/

namespace LabNetstack

structure StreamState where
  initial : SequenceNumber
  unack : SequenceNumber
  next : SequenceNumber
  buffer : BoundedQueue UInt8 kSendBufferSize
  syn : CtlState
  fin : CtlState

namespace StreamState

def acknowledgedFrom (state : StreamState) : SequenceNumber :=
  if state.syn == .sent then state.initial + 1 else state.unack

def consumedBy (state : StreamState) (ack : SequenceNumber) : SequenceNumber :=
  ack - state.acknowledgedFrom

def acknowledgesFIN (state : StreamState) (ack : SequenceNumber) : Bool :=
  state.fin == .sent && ack == state.next

def acknowledge (state : StreamState) (ack : SequenceNumber) : StreamState :=
  { state with
    buffer := state.buffer.consume (state.consumedBy ack).toNat
    unack := state.acknowledgedFrom +
      UInt32.ofNat (min (state.consumedBy ack).toNat state.buffer.remaining) +
      (if state.acknowledgesFIN ack then 1 else 0)
    syn := if state.syn == .sent then .acked else state.syn
    fin := if state.acknowledgesFIN ack then .acked else state.fin }

/-- The acknowledgment covers the FIN and leaves bytes in the buffer. -/
def Overfull (state : StreamState) (ack : SequenceNumber) : Prop :=
  state.acknowledgesFIN ack = true ∧ (state.consumedBy ack).toNat < state.buffer.remaining

variable {state : StreamState} {first second ack : SequenceNumber}

theorem acknowledge_from (state : StreamState) (ack : SequenceNumber) :
    (state.acknowledge ack).acknowledgedFrom = (state.acknowledge ack).unack := by
  have settled : (state.acknowledge ack).syn ≠ .sent := state.syn.acknowledged_settled
  rw [acknowledgedFrom, if_neg (by simpa using settled)]

theorem acknowledge_syn (state : StreamState) (first second : SequenceNumber) :
    ((state.acknowledge first).acknowledge second).syn = (state.acknowledge second).syn := by
  change (if (if state.syn == .sent then CtlState.acked else state.syn) == .sent then .acked
    else if state.syn == .sent then CtlState.acked else state.syn) =
      if state.syn == .sent then .acked else state.syn
  cases state.syn <;> rfl

theorem remaining_le (state : StreamState) : state.buffer.remaining ≤ 262144 := state.buffer.bounded

/-- An acknowledgment that leaves the FIN open is absorbed by a later one. -/
theorem acknowledge_absorbed (ordered : state.consumedBy first ≤ state.consumedBy second)
    (open_ : state.acknowledgesFIN first = false) :
    (state.acknowledge first).acknowledge second = state.acknowledge second := by
  have bound := state.remaining_le
  rw [UInt32.le_iff_toNat_le] at ordered
  have unack : (state.acknowledge first).unack = state.acknowledgedFrom +
      UInt32.ofNat (min (state.consumedBy first).toNat state.buffer.remaining) := by
    change _ + _ + (if state.acknowledgesFIN first then 1 else 0) = _
    rw [open_]
    exact UInt32.add_zero _
  have fin : (state.acknowledge first).fin = state.fin := by
    change (if state.acknowledgesFIN first then CtlState.acked else state.fin) = state.fin
    rw [open_]
    rfl
  have finished : (state.acknowledge first).acknowledgesFIN second = state.acknowledgesFIN second := by
    unfold acknowledgesFIN
    rw [fin]
    rfl
  have left : ((state.acknowledge first).consumedBy second).toNat =
      (state.consumedBy second).toNat -
        min (state.consumedBy first).toNat state.buffer.remaining := by
    have distance : (state.acknowledge first).consumedBy second = state.consumedBy second -
        UInt32.ofNat (min (state.consumedBy first).toNat state.buffer.remaining) := by
      change second - (state.acknowledge first).acknowledgedFrom = second - state.acknowledgedFrom - _
      rw [acknowledge_from, unack]
      generalize UInt32.ofNat _ = moved
      grind
    have small : (UInt32.ofNat (min (state.consumedBy first).toNat state.buffer.remaining)).toNat =
        min (state.consumedBy first).toNat state.buffer.remaining :=
      UInt32.toNat_ofNat_of_lt' (by
        simp only [UInt32.size]
        omega)
    rw [distance, UInt32.toNat_sub_of_le, small]
    rw [UInt32.le_iff_toNat_le, small]
    omega
  have buffer : ((state.acknowledge first).acknowledge second).buffer =
      (state.acknowledge second).buffer := by
    change (state.buffer.consume _).consume _ = state.buffer.consume _
    rw [left, BoundedQueue.consume_consume _ ordered]
  have moved : ((state.acknowledge first).acknowledge second).unack =
      (state.acknowledge second).unack := by
    change (state.acknowledge first).acknowledgedFrom + UInt32.ofNat (min _
      (state.buffer.consume (state.consumedBy first).toNat).remaining) + _ = _ + _ + _
    rw [acknowledge_from, unack, finished, left, BoundedQueue.consume_remaining,
      UInt32.add_assoc state.acknowledgedFrom, ← UInt32.ofNat_add]
    congr 3
    omega
  have closed : ((state.acknowledge first).acknowledge second).fin =
      (state.acknowledge second).fin := by
    change (if (state.acknowledge first).acknowledgesFIN second then CtlState.acked
      else (state.acknowledge first).fin) = if state.acknowledgesFIN second then .acked else state.fin
    rw [finished, fin]
  have same := acknowledge_syn state first second
  rw [mk.injEq]
  exact ⟨rfl, moved, rfl, buffer, same, closed⟩

theorem acknowledgesFIN_next (finished : state.acknowledgesFIN ack = true) : ack = state.next := by
  simp only [acknowledgesFIN, Bool.and_eq_true, beq_iff_eq] at finished
  exact finished.2

/-- Once the FIN is covered the number of consumed bytes is one short, and wraps when the buffer
was left with bytes. -/
theorem acknowledge_finished (finished : state.acknowledgesFIN ack = true) :
    (state.acknowledge ack).acknowledge ack = state.acknowledge ack ↔
      state.buffer.remaining ≤ (state.consumedBy ack).toNat := by
  have bound := state.remaining_le
  have closed : (state.acknowledge ack).acknowledgesFIN ack = false := by
    change ((if state.acknowledgesFIN ack then CtlState.acked else state.fin) == .sent &&
      ack == state.next) = false
    rw [finished]
    rfl
  have remaining : (state.acknowledge ack).buffer.remaining =
      state.buffer.remaining - (state.consumedBy ack).toNat :=
    BoundedQueue.consume_remaining _ _
  constructor
  · intro same
    by_contra more
    have left : (state.acknowledge ack).consumedBy ack = 0 - 1 := by
      change ack - (state.acknowledge ack).acknowledgedFrom = _
      have all : UInt32.ofNat (min (state.consumedBy ack).toNat state.buffer.remaining) =
          state.consumedBy ack := by
        rw [Nat.min_eq_left (by omega)]
        exact UInt32.ofNat_toNat
      have moved : (state.acknowledge ack).unack =
          state.acknowledgedFrom + state.consumedBy ack + 1 := by
        change _ + UInt32.ofNat _ + (if state.acknowledgesFIN ack then 1 else 0) = _
        rw [finished, all]
        rfl
      rw [acknowledge_from, moved, consumedBy]
      grind
    have emptied := congrArg (fun after => after.buffer.remaining) same
    change ((state.acknowledge ack).buffer.consume
      ((state.acknowledge ack).consumedBy ack).toNat).remaining = _ at emptied
    have wrapped : (0 - 1 : UInt32).toNat = 2 ^ 32 - 1 := rfl
    rw [BoundedQueue.consume_remaining, left, wrapped, remaining] at emptied
    omega
  · intro all
    have empty : (state.acknowledge ack).buffer.remaining = 0 := by omega
    have none : (state.acknowledge ack).buffer.items = [] := List.length_eq_zero_iff.mp empty
    have buffer : ((state.acknowledge ack).acknowledge ack).buffer =
        (state.acknowledge ack).buffer := by
      apply BoundedQueue.ext
      change (state.acknowledge ack).buffer.items.drop _ = _
      rw [none, List.drop_nil]
    have unack : ((state.acknowledge ack).acknowledge ack).unack = (state.acknowledge ack).unack := by
      change (state.acknowledge ack).acknowledgedFrom + UInt32.ofNat (min _ _) +
        (if (state.acknowledge ack).acknowledgesFIN ack then 1 else 0) = _
      rw [closed, empty, Nat.min_zero, acknowledge_from]
      simp
    have fin : ((state.acknowledge ack).acknowledge ack).fin = (state.acknowledge ack).fin := by
      change (if (state.acknowledge ack).acknowledgesFIN ack then CtlState.acked
        else (state.acknowledge ack).fin) = _
      rw [closed]
      rfl
    have same := acknowledge_syn state ack ack
    rw [mk.injEq]
    exact ⟨rfl, unack, rfl, buffer, same, fin⟩

/-- Two acknowledgments act as the later one alone, and a repeated one as one, unless bytes are
left when the FIN is covered. -/
theorem cumulative_iff (ordered : state.consumedBy first ≤ state.consumedBy second)
    (upTo : state.consumedBy second ≤ state.next - state.acknowledgedFrom) :
    ((state.acknowledge first).acknowledge second = state.acknowledge second ∧
      (state.acknowledge second).acknowledge second = state.acknowledge second) ↔
    ¬state.Overfull second := by
  cases finished : state.acknowledgesFIN second with
  | false =>
      have firstOpen : state.acknowledgesFIN first = false := by
        by_contra closed
        have whole := acknowledgesFIN_next (Bool.not_eq_false _ ▸ closed)
        rw [whole] at ordered
        have same : second = state.next := by
          have equal := UInt32.le_antisymm upTo ordered
          rw [consumedBy] at equal
          grind
        rw [whole, ← same] at closed
        exact closed finished
      refine iff_of_true ⟨acknowledge_absorbed ordered firstOpen,
        acknowledge_absorbed (UInt32.le_refl _) finished⟩ ?_
      rintro ⟨closed, _⟩
      rw [finished] at closed
      exact Bool.noConfusion closed
  | true =>
      have repeated := acknowledge_finished finished
      rw [Overfull, finished]
      simp only [true_and, not_lt]
      rw [← repeated]
      refine ⟨fun both => both.2, fun same => ⟨?_, same⟩⟩
      cases firstFinished : state.acknowledgesFIN first with
      | false => exact acknowledge_absorbed ordered firstFinished
      | true =>
          rw [acknowledgesFIN_next firstFinished, ← acknowledgesFIN_next finished]
          exact same

end StreamState

namespace SendBuffer

def streamState (self : SendBuffer) : StreamState :=
  { initial := self.tcb.send.initial
    unack := self.tcb.send.unack
    next := self.tcb.send.next
    buffer := self.buffer
    syn := self.syn
    fin := self.fin }

theorem acknowledge_streamState (env : Surroundings) (self : SendBuffer) (ack : SequenceNumber)
    (now : TimeBase) :
    (self.acknowledge env ack now).streamState = self.streamState.acknowledge ack := by
  have tcb : (self.acknowledge env ack now).tcb = _ := step_tcb env self (.acknowledge ack now)
  have buffer : (self.acknowledge env ack now).buffer = _ :=
    step_buffer env self (.acknowledge ack now)
  have syn : (self.acknowledge env ack now).syn = _ := step_syn env self (.acknowledge ack now)
  have fin : (self.acknowledge env ack now).fin = _ := step_fin env self (.acknowledge ack now)
  simp only [streamState, tcb, buffer, syn, fin]
  rfl

/-- The ring buffer behind the stream: its `consume` returns what `unack` moves by, and keeps
standing for the bytes that are left. -/
theorem acknowledge_stored (build : Build) {self : SendBuffer} {ring : RingBuffer}
    (stored : ring.Represents self.buffer) (ack : SequenceNumber) :
    ∃ count after, ring.consume build (self.consumedBy ack).toUInt64 = .done (count, after) ∧
      count.toNat = min (self.consumedBy ack).toNat self.buffer.remaining ∧
      after.Represents (self.streamState.acknowledge ack).buffer := by
  have consumed : (self.consumedBy ack).toUInt64.toNat = (self.consumedBy ack).toNat :=
    UInt32.toNat_toUInt64 _
  refine ⟨_, _, RingBuffer.consume_spec build stored.valid _, ?_, ?_⟩
  · rw [stored.valid.min_remaining, stored.queued, consumed]
  · have advanced := stored.advance_clipped (self.consumedBy ack).toUInt64
    rw [consumed] at advanced
    exact advanced

/-- The state after `sendSYN` and a lawful run. -/
def Reached (env : Surroundings) (self : SendBuffer) : Prop :=
  ∃ opening events, LawfulRun env (opened env opening) events ∧
    (opened env opening).run env events = self

theorem Reached.not_overfull {env : Surroundings} {self : SendBuffer} (reached : self.Reached env)
    (ack : SequenceNumber) : ¬self.streamState.Overfull ack := by
  obtain ⟨opening, events, lawful, rfl⟩ := reached
  rintro ⟨finished, more⟩
  have consumed := (((run_accounted lawful).1.acknowledgesFIN_iff ack).mp finished).2
  change (consumedBy _ ack).toNat < ((opened env opening).run env events).buffer.remaining at more
  omega

/-- Acknowledgments are cumulative unless bytes are left when the FIN is covered, and none are
left in the states of a lawful run. -/
theorem acknowledge_cumulative_iff (env : Surroundings) (self : SendBuffer)
    (first second : SequenceNumber) (early late again : TimeBase)
    (inRange : self.ackInRange second = true)
    (ordered : self.consumedBy first ≤ self.consumedBy second) :
    (((self.acknowledge env first early).acknowledge env second late).streamState =
        (self.acknowledge env second late).streamState ∧
      ((self.acknowledge env second late).acknowledge env second again).streamState =
        (self.acknowledge env second late).streamState ↔
      ¬self.streamState.Overfull second) ∧
    (self.Reached env → ¬self.streamState.Overfull second) := by
  have upTo := ((ackInRange_iff self second).mp inRange).2
  refine ⟨?_, fun reached => reached.not_overfull second⟩
  simp only [acknowledge_streamState]
  exact StreamState.cumulative_iff ordered upTo

theorem closingRun_cumulative :
    let state := (opened quietHost sampleOpening).run quietHost closingRun
    state.buffer.items = [84] ∧ state.fin = .sent ∧
      ((state.acknowledge quietHost 3 40).acknowledge quietHost 4 50).streamState =
        (state.acknowledge quietHost 4 50).streamState := by
  intro state
  have lawful : LawfulRun quietHost (opened quietHost sampleOpening) closingRun :=
    ⟨rfl, rfl, rfl, rfl, rfl, trivial⟩
  have facts := acknowledge_cumulative_iff quietHost state 3 4 40 50 60 (by decide) (by decide)
  exact ⟨rfl, rfl, (facts.1.mpr (facts.2 ⟨sampleOpening, closingRun, lawful, rfl⟩)).1⟩

/-! Bytes that are queued before the SYN are not counted by `next`. -/

def earlyClose : SendBuffer :=
  let self := create sampleOpening.factory sampleOpening.tcb 0
  let self := (self.sendData quietHost sampleBytes).2
  let self := self.sendSYN quietHost 100
  self.sendFIN quietHost

theorem earlyClose_not_cumulative :
    earlyClose.failedChecks = [] ∧ earlyClose.ackInRange 102 = true ∧
      (earlyClose.acknowledge quietHost 102 10).buffer.items = [69, 84] ∧
      ((earlyClose.acknowledge quietHost 102 10).acknowledge quietHost 102 20).buffer.items = [] := by
  decide +kernel

end SendBuffer

end LabNetstack
