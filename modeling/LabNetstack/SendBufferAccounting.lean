import LabNetstack.SendBuffer

/-! Sequence numbers and bytes of a send buffer over whole runs. -/

namespace LabNetstack

namespace SendBuffer

def pending (state : CtlState) : SequenceNumber := if state = .sent then 1 else 0

def ackInRange (self : SendBuffer) (ack : SequenceNumber) : Bool :=
  if self.syn == .sent then
    decide (0 < ack - self.tcb.send.initial) &&
      decide (ack - self.tcb.send.initial ≤ self.tcb.send.next - self.tcb.send.initial)
  else decide (ack - self.tcb.send.unack ≤ self.tcb.send.next - self.tcb.send.unack)

-- at most one `sendFIN`, no `sendData` after it, and acknowledgments in range
def lawful (self : SendBuffer) : SendEvent → Bool
  | .sendData _ => self.fin == .none
  | .sendFIN => self.fin == .none
  | .acknowledge ack _ => self.ackInRange ack
  | _ => true

structure Accounted (sender : SendBuffer) : Prop where
  started : sender.syn ≠ .none
  synPending : sender.syn = .sent →
    sender.tcb.send.unack = sender.tcb.send.initial ∧ sender.fin ≠ .acked
  balance : sender.tcb.send.next = sender.tcb.send.unack +
    UInt32.ofNat sender.buffer.remaining + pending sender.syn + pending sender.fin

theorem pending_le (state : CtlState) : (pending state).toNat ≤ 1 := by
  unfold pending
  split <;> decide

theorem remaining_lt (self : SendBuffer) : self.buffer.remaining ≤ 262144 := self.buffer.bounded

theorem Accounted.next_from {self : SendBuffer} (accounted : self.Accounted) :
    self.tcb.send.next =
      self.acknowledgedFrom + UInt32.ofNat self.buffer.remaining + pending self.fin := by
  have balance := accounted.balance
  unfold acknowledgedFrom
  cases phase : self.syn with
  | none => exact absurd phase accounted.started
  | sent =>
      rw [balance, (accounted.synPending phase).1]
      simp only [pending, phase, ↓reduceIte, beq_self_eq_true]
      grind
  | acked =>
      rw [balance]
      simp [pending, phase]

-- while the SYN is pending nothing is in range unless it was counted
theorem ackInRange_iff (self : SendBuffer) (ack : SequenceNumber) : self.ackInRange ack = true ↔
    (self.syn = .sent → self.tcb.send.next ≠ self.tcb.send.initial) ∧
      self.consumedBy ack ≤ self.tcb.send.next - self.acknowledgedFrom := by
  have initialBound := self.tcb.send.initial.toNat_lt
  have nextBound := self.tcb.send.next.toNat_lt
  have ackBound := ack.toNat_lt
  unfold ackInRange consumedBy acknowledgedFrom
  by_cases phase : self.syn = .sent
  · simp only [phase, beq_self_eq_true, ↓reduceIte, Bool.and_eq_true, decide_eq_true_eq, ne_eq,
      ← UInt32.toNat_inj, UInt32.lt_iff_toNat_lt, UInt32.le_iff_toNat_le, UInt32.toNat_sub,
      UInt32.toNat_add, UInt32.toNat_zero, UInt32.toNat_one, true_implies]
    omega
  · simp [phase]

/-- The acknowledgments in range are those of the buffered bytes and a pending FIN. -/
theorem Accounted.inRange_iff {self : SendBuffer} (accounted : self.Accounted)
    (ack : SequenceNumber) : self.ackInRange ack = true ↔
      (self.consumedBy ack).toNat ≤ self.buffer.remaining + (pending self.fin).toNat := by
  have next := accounted.next_from
  have bound := self.remaining_lt
  have pendingBound := pending_le self.fin
  have whole : (self.tcb.send.next - self.acknowledgedFrom).toNat =
      self.buffer.remaining + (pending self.fin).toNat := by
    have distance : self.tcb.send.next - self.acknowledgedFrom =
        UInt32.ofNat self.buffer.remaining + pending self.fin := by grind
    rw [distance, UInt32.toNat_add, UInt32.toNat_ofNat']
    omega
  have counted : self.syn = .sent → self.tcb.send.next ≠ self.tcb.send.initial := by
    intro phase same
    have last : self.tcb.send.next - self.acknowledgedFrom = 0 - 1 := by
      simp only [acknowledgedFrom, phase, beq_self_eq_true, ↓reduceIte, same]
      grind
    rw [last] at whole
    have small : (0 - 1 : UInt32).toNat = 2 ^ 32 - 1 := rfl
    omega
  rw [ackInRange_iff, and_iff_right counted, UInt32.le_iff_toNat_le, whole]

theorem Accounted.acknowledgesFIN_iff {self : SendBuffer} (accounted : self.Accounted)
    (ack : SequenceNumber) : self.acknowledgesFIN ack = true ↔
      self.fin = .sent ∧ (self.consumedBy ack).toNat = self.buffer.remaining + 1 := by
  have bound := self.remaining_lt
  have next := accounted.next_from
  have small : (UInt32.ofNat self.buffer.remaining + 1).toNat = self.buffer.remaining + 1 := by
    simp only [UInt32.toNat_add, UInt32.toNat_ofNat', UInt32.toNat_one]
    omega
  simp only [acknowledgesFIN, Bool.and_eq_true, beq_iff_eq]
  refine and_congr_right fun sent => ?_
  simp only [pending, sent, ↓reduceIte] at next
  rw [← small, UInt32.toNat_inj, next, consumedBy]
  constructor
  · intro same
    rw [same]
    grind
  · intro same
    grind

theorem Accounted.consumed_le_remaining {self : SendBuffer} (accounted : self.Accounted)
    {ack : SequenceNumber} (inRange : self.ackInRange ack = true)
    (noFIN : self.acknowledgesFIN ack = false) :
    (self.consumedBy ack).toNat ≤ self.buffer.remaining := by
  have covered := (accounted.inRange_iff ack).mp inRange
  by_cases sent : self.fin = .sent
  · have notAll : (self.consumedBy ack).toNat ≠ self.buffer.remaining + 1 := by
      intro all
      rw [(accounted.acknowledgesFIN_iff ack).mpr ⟨sent, all⟩] at noFIN
      exact Bool.noConfusion noFIN
    simp only [pending, sent, ↓reduceIte, UInt32.toNat_one] at covered
    omega
  · simp only [pending, sent, ↓reduceIte, UInt32.toNat_zero] at covered
    exact covered

/-- What an acknowledgment in range moves: the bytes it removes, and a FIN. -/
theorem Accounted.moved {self : SendBuffer} (accounted : self.Accounted) {ack : SequenceNumber}
    (inRange : self.ackInRange ack = true) :
    UInt32.ofNat (min (self.consumedBy ack).toNat self.buffer.remaining) +
      (if self.acknowledgesFIN ack then 1 else 0) = self.consumedBy ack := by
  have bound := self.remaining_lt
  rw [← UInt32.toNat_inj]
  cases fin : self.acknowledgesFIN ack with
  | true =>
      have consumed := ((accounted.acknowledgesFIN_iff ack).mp fin).2
      simp only [↓reduceIte, UInt32.toNat_add, UInt32.toNat_ofNat', UInt32.toNat_one]
      omega
  | false =>
      have le := accounted.consumed_le_remaining inRange fin
      simp only [Bool.false_eq_true, ↓reduceIte, UInt32.toNat_add, UInt32.toNat_ofNat',
        UInt32.toNat_zero]
      omega

theorem Accounted.acknowledge_unack {self : SendBuffer} (accounted : self.Accounted)
    {ack : SequenceNumber} (inRange : self.ackInRange ack = true) (now : TimeBase) :
    (self.booked (.acknowledge ack now)).tcb.send.unack = ack := by
  have moved := accounted.moved inRange
  change self.acknowledgedFrom + _ + _ = ack
  rw [UInt32.add_assoc, moved, consumedBy]
  grind

theorem Accounted.acknowledge_balance {self : SendBuffer} (accounted : self.Accounted)
    {ack : SequenceNumber} (inRange : self.ackInRange ack = true) :
    self.tcb.send.next = ack + UInt32.ofNat (self.buffer.remaining - (self.consumedBy ack).toNat) +
      pending (if self.acknowledgesFIN ack then .acked else self.fin) := by
  have bound := self.remaining_lt
  have next := accounted.next_from
  have whole : ack = self.acknowledgedFrom + self.consumedBy ack := by
    rw [consumedBy]
    grind
  have split : (self.consumedBy ack).toNat ≤ self.buffer.remaining →
      UInt32.ofNat self.buffer.remaining = self.consumedBy ack +
        UInt32.ofNat (self.buffer.remaining - (self.consumedBy ack).toNat) := by
    intro le
    rw [← UInt32.toNat_inj]
    simp only [UInt32.toNat_add, UInt32.toNat_ofNat']
    omega
  cases fin : self.acknowledgesFIN ack with
  | true =>
      have all : self.tcb.send.next = ack := by
        simp only [acknowledgesFIN, Bool.and_eq_true, beq_iff_eq] at fin
        exact fin.2.symm
      have none : self.buffer.remaining - (self.consumedBy ack).toNat = 0 := by
        have := ((accounted.acknowledgesFIN_iff ack).mp fin).2
        omega
      simp [all, none, pending]
  | false =>
      have le := accounted.consumed_le_remaining inRange fin
      simp only [Bool.false_eq_true, ↓reduceIte]
      rw [next, split le, whole]
      grind

theorem Accounted.of_same {before after : SendBuffer} (accounted : before.Accounted)
    (buffer : after.buffer = before.buffer) (tcb : after.tcb.send = before.tcb.send)
    (syn : after.syn = before.syn) (fin : after.fin = before.fin) : after.Accounted := by
  obtain ⟨started, synPending, balance⟩ := accounted
  constructor
  · rwa [syn]
  · rwa [syn, fin, tcb]
  · rwa [syn, fin, tcb, buffer]

theorem Accounted.settled {self : SendBuffer} (accounted : self.Accounted) (ack : SequenceNumber)
    (now : TimeBase) : (self.booked (.acknowledge ack now)).syn = .acked := by
  change (if (self.syn == .sent) = true then .acked else self.syn) = CtlState.acked
  cases phase : self.syn with
  | none => exact absurd phase accounted.started
  | sent => rfl
  | acked => rfl

theorem Accounted.booked {self : SendBuffer} (accounted : self.Accounted) (event : SendEvent)
    (allowed : self.lawful event = true) : (self.booked event).Accounted := by
  obtain ⟨started, synPending, balance⟩ := accounted
  cases event with
  | sendData data =>
      refine ⟨started, synPending, ?_⟩
      change self.tcb.send.next + UInt32.ofNat _ =
        self.tcb.send.unack + UInt32.ofNat (self.buffer.write data.bytes).remaining + _ + _
      rw [BoundedQueue.write_remaining, UInt32.ofNat_add, balance]
      change _ = _ + pending self.syn + pending self.fin
      grind
  | sendFIN =>
      have unsent : self.fin = .none := by simpa [lawful] using allowed
      refine ⟨started, ?_, ?_⟩
      · intro pendingSYN
        exact ⟨(synPending pendingSYN).1, by simp [SendBuffer.booked]⟩
      · change self.tcb.send.next + 1 = self.tcb.send.unack + UInt32.ofNat self.buffer.remaining +
          pending self.syn + pending .sent
        rw [balance, unsent]
        simp only [pending, reduceCtorEq, ↓reduceIte]
        grind
  | acknowledge ack now =>
      have inRange : self.ackInRange ack = true := allowed
      have settled := Accounted.settled ⟨started, synPending, balance⟩ ack now
      refine ⟨?_, ?_, ?_⟩
      · rw [settled]
        decide
      · intro pendingSYN
        rw [settled] at pendingSYN
        exact absurd pendingSYN (by decide)
      · rw [settled, acknowledge_unack ⟨started, synPending, balance⟩ inRange now]
        change self.tcb.send.next = ack + UInt32.ofNat (self.buffer.consume _).remaining + _ + _
        rw [BoundedQueue.consume_remaining,
          acknowledge_balance ⟨started, synPending, balance⟩ inRange]
        change _ = _ + pending .acked + pending (if self.acknowledgesFIN ack then .acked else self.fin)
        simp only [pending, reduceCtorEq, ↓reduceIte]
        grind
  | transmit => exact ⟨started, synPending, balance⟩
  | retransmit now => exact ⟨started, synPending, balance⟩
  | receive space => exact ⟨started, synPending, balance⟩

theorem Accounted.step {self : SendBuffer} (accounted : self.Accounted) (env : Surroundings)
    (event : SendEvent) (allowed : self.lawful event = true) : (self.step env event).Accounted :=
  (accounted.booked event allowed).of_same (step_buffer env self event)
    (congrArg ControlBlock.send (step_tcb env self event)) (step_syn env self event)
    (step_fin env self event)

theorem Accounted.empty_checked {self : SendBuffer} (accounted : self.Accounted)
    (event : SendEvent) : SendCheck.acknowledgeEmpty ∉ self.failedAt event := by
  cases event with
  | acknowledge ack now =>
      have emptied : (self.acknowledgesFIN ack &&
          !(self.booked (.acknowledge ack 0)).buffer.isEmpty) = false := by
        cases fin : self.acknowledgesFIN ack with
        | false => rfl
        | true =>
            have consumed := ((accounted.acknowledgesFIN_iff ack).mp fin).2
            have empty : (self.buffer.consume (self.consumedBy ack).toNat).remaining = 0 := by
              rw [BoundedQueue.consume_remaining]
              omega
            simp [SendBuffer.booked, BoundedQueue.isEmpty, empty]
      simp only [failedAt, emptied, Bool.false_eq_true, ↓reduceIte, List.append_nil]
      split <;> split <;> simp
  | sendData data =>
      simp only [failedAt]
      split <;> simp
  | retransmit now =>
      simp only [failedAt]
      split <;> split <;> simp
  | sendFIN => simp [failedAt]
  | transmit => simp [failedAt]
  | receive space => simp [failedAt]

theorem opened_accounted (env : Surroundings) (opening : Opening) :
    (opened env opening).Accounted := by
  have frame := opened_frame env opening
  have start : (ready opening).Accounted := by
    refine ⟨by simp [ready], fun _ => ⟨rfl, by simp [ready]⟩, ?_⟩
    simp [ready, pending, BoundedQueue.remaining]
  exact start.of_same frame.buffer (congrArg ControlBlock.send frame.tcb) frame.syn frame.fin

def LawfulRun (env : Surroundings) (self : SendBuffer) (events : List SendEvent) : Prop :=
  Permitted (step env) (fun state event => state.lawful event = true) self events

theorem run_accounted {env : Surroundings} {opening : Opening} {events : List SendEvent}
    (lawful : LawfulRun env (opened env opening) events) :
    ((opened env opening).run env events).Accounted ∧
      SendCheck.acknowledgeEmpty ∉ ((opened env opening).run env events).failedChecks := by
  apply runEvents_invariant (motive := fun state : SendBuffer =>
    state.Accounted ∧ SendCheck.acknowledgeEmpty ∉ state.failedChecks) _ _ lawful
  · intro state event holds allowed
    refine ⟨holds.1.step env event allowed, ?_⟩
    rw [step_failedChecks, List.mem_append]
    rintro (earlier | now)
    · exact holds.2 earlier
    · exact holds.1.empty_checked event now
  · refine ⟨opened_accounted env opening, ?_⟩
    rw [(opened_frame env opening).failedChecks]
    simp only [ready]
    split <;> simp

/-- Over every lawful run the books balance modulo 2^32, and an acknowledgment in
range removes what it covers. -/
theorem sequenceSpace_accounted (env : Surroundings) (opening : Opening) (events : List SendEvent)
    (lawful : LawfulRun env (opened env opening) events) :
    let state := (opened env opening).run env events
    state.tcb.send.next = state.tcb.send.unack + UInt32.ofNat state.buffer.remaining +
        (if state.synAcked then 0 else 1) + (if state.fin = .sent then 1 else 0) ∧
      SendCheck.acknowledgeEmpty ∉ state.failedChecks ∧
      ∀ ack now, state.ackInRange ack = true →
        let after := state.acknowledge env ack now
        after.tcb.send.unack = ack ∧
        after.buffer.items = state.buffer.items.drop (ack - state.acknowledgedFrom).toNat ∧
        (state.fin = .sent → (after.fin = .acked ↔ ack = state.tcb.send.next)) ∧
        (state.fin ≠ .sent → after.fin = state.fin) ∧
        SendCheck.acknowledgeEmpty ∉ after.failedChecks := by
  intro state
  obtain ⟨accounted, checked⟩ := run_accounted lawful
  refine ⟨?_, checked, ?_⟩
  · rw [accounted.balance]
    cases phase : state.syn with
    | none => exact absurd phase accounted.started
    | sent => simp [pending, SendBufferOver.synAcked, state, phase]
    | acked => simp [pending, SendBufferOver.synAcked, state, phase]
  · intro ack now inRange after
    have finAfter : after.fin = if state.acknowledgesFIN ack then .acked else state.fin :=
      step_fin env state (.acknowledge ack now)
    refine ⟨?_, ?_, ?_, ?_, ?_⟩
    · exact (congrArg (fun tcb => tcb.send.unack) (step_tcb env state (.acknowledge ack now))).trans
        (accounted.acknowledge_unack inRange now)
    · exact congrArg BoundedQueue.items (step_buffer env state (.acknowledge ack now))
    · intro sent
      rw [finAfter, acknowledgesFIN, sent]
      by_cases all : ack = state.tcb.send.next <;> simp [all]
    · intro unsent
      have noFIN : state.acknowledgesFIN ack = false := by simp [acknowledgesFIN, unsent]
      rw [finAfter, noFIN]
      rfl
    · have failed := step_failedChecks env state (.acknowledge ack now)
      intro member
      rw [show after.failedChecks = _ from failed, List.mem_append] at member
      rcases member with earlier | later
      · exact checked earlier
      · exact accounted.empty_checked _ later

def quietHost : Surroundings := ⟨fun _ => true, fun _ => []⟩

def sampleOpening : Opening :=
  { factory := ⟨⟨IPAddress.ofInAddr ⟨10, 0, 0, 1⟩, 5000⟩, ⟨IPAddress.ofInAddr ⟨10, 0, 0, 2⟩, 80⟩⟩
    tcb := ⟨⟨0, 0, 0⟩, ⟨0, 0, false⟩⟩
    now := 0
    source := IPAddress.ofInAddr ⟨10, 0, 0, 1⟩
    destination := IPAddress.ofInAddr ⟨10, 0, 0, 2⟩
    initial := 4294967295 }

def sampleBytes : Buffer := ⟨[71, 69, 84], by decide⟩

def closingRun : List SendEvent :=
  [.sendData sampleBytes, .acknowledge 0 10, .sendFIN, .retransmit 20, .acknowledge 2 30]

theorem closingRun_accounted :
    let state := (opened quietHost sampleOpening).run quietHost closingRun
    LawfulRun quietHost (opened quietHost sampleOpening) closingRun ∧
      state.ackInRange 4 = true ∧
      (state.acknowledge quietHost 4 40).tcb.send.unack = 4 ∧
      ((state.acknowledge quietHost 4 40).fin = .acked ↔ (4 : SequenceNumber) = state.tcb.send.next) := by
  have lawful : LawfulRun quietHost (opened quietHost sampleOpening) closingRun :=
    ⟨rfl, rfl, rfl, rfl, rfl, trivial⟩
  have inRange : ((opened quietHost sampleOpening).run quietHost closingRun).ackInRange 4 = true := rfl
  have facts := (sequenceSpace_accounted quietHost sampleOpening closingRun lawful).2.2 4 40 inRange
  exact ⟨lawful, inRange, facts.1, facts.2.2.1 rfl⟩

end SendBuffer

end LabNetstack
