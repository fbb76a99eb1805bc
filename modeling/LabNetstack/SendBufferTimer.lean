import LabNetstack.SendBufferAccounting
import LabNetstack.SendBufferPhases

/-! The retransmission timer over whole runs, from the constructor on. -/

namespace LabNetstack

namespace SendBuffer

/-! How many sequence numbers past the acknowledged ones a segment reaches. -/

def extent (from_ : SequenceNumber) (segment : Segment) : Nat :=
  if segment.isSYN then 0
  else (segment.sequence - from_).toNat + segment.payload.length + segment.isFIN.toNat

def furthest (from_ : SequenceNumber) (calls : List PacketCall) (reach : Nat) : Nat :=
  (calls.map fun call => extent from_ call.segment).foldr max reach

theorem furthest_nil (from_ : SequenceNumber) (reach : Nat) : furthest from_ [] reach = reach := rfl

theorem furthest_le {from_ : SequenceNumber} {calls : List PacketCall} {reach bound : Nat}
    (start : reach ≤ bound) (each : ∀ call ∈ calls, extent from_ call.segment ≤ bound) :
    furthest from_ calls reach ≤ bound := by
  induction calls with
  | nil => exact start
  | cons call calls ih =>
      have later := ih fun other member => each other (List.mem_cons_of_mem call member)
      exact Nat.max_le.mpr ⟨each call List.mem_cons_self, later⟩

/-! A sender that its timer drives. `reach` counts the numbers that were transmitted and are not
acknowledged. -/

inductive TimerEvent where
  | sendSYN (initial : SequenceNumber)
  | call (event : SendEvent)
  | fire (now : TimeBase)
deriving DecidableEq, Repr

structure Timed where
  sender : SendBuffer
  reach : Nat

namespace Timed

def start (factory : SegmentFactory) (tcb : ControlBlock) (now : TimeBase) : Timed :=
  ⟨SendBuffer.create factory tcb now, 0⟩

def moved (timed : Timed) (sender : SendBuffer) : Timed :=
  ⟨sender, furthest sender.acknowledgedFrom (sender.calls.drop timed.sender.calls.length)
    (timed.reach - (sender.acknowledgedFrom - timed.sender.acknowledgedFrom).toNat)⟩

def step (env : Surroundings) (timed : Timed) : TimerEvent → Timed
  | .sendSYN initial => timed.moved (timed.sender.sendSYN env initial)
  | .call event => timed.moved (timed.sender.step env event)
  | .fire now => timed.moved (timed.sender.fire env now)

def run (env : Surroundings) (timed : Timed) (events : List TimerEvent) : Timed :=
  runEvents (step env) timed events

-- one `sendSYN`, at most one `sendFIN` and no `sendData` after it, a clock that is not negative,
-- and a peer that acknowledges only what was transmitted; `retransmit` is the timer's
def interleaved (timed : Timed) : TimerEvent → Bool
  | .sendSYN _ => timed.sender.syn == .none
  | .call (.sendData _) => timed.sender.fin == .none
  | .call .sendFIN => timed.sender.fin == .none
  | .call (.acknowledge ack now) =>
      decide (0 ≤ now) && decide ((timed.sender.consumedBy ack).toNat ≤ timed.reach)
  | .call (.retransmit _) => false
  | .call _ => true
  | .fire now => decide (0 ≤ now)

-- data and FIN are queued after the SYN, whose sequence numbers they follow
def ordered (timed : Timed) : TimerEvent → Bool
  | .call (.sendData _) => timed.sender.syn != .none
  | .call .sendFIN => timed.sender.syn != .none
  | _ => true

end Timed

def consumedAt (self : SendBuffer) : SendEvent → Nat
  | .acknowledge ack _ => (self.consumedBy ack).toNat
  | _ => 0

/-! The books of a sender whose SYN was sent. The counter of bytes in flight points into the queue,
or it has wrapped, by no more than the numbers that were ever outstanding at once. -/

structure Ledger (sender : SendBuffer) (reach : Nat) : Prop where
  accounted : sender.Accounted
  synPending : sender.syn = .sent → sender.bytesInFlight = 0 ∧ reach = 0
  reached : reach ≤ sender.buffer.remaining + (pending sender.fin).toNat
  flight : sender.bytesInFlight.toNat ≤ sender.buffer.remaining ∨
    2 ^ 64 + reach ≤ sender.bytesInFlight.toNat + 262145
  finished : sender.fin = .acked →
    reach = 0 ∧ sender.buffer.remaining < sender.bytesInFlight.toNat

-- what the timer of a sender in this state may see next
def admits (self : SendBuffer) (reach : Nat) : SendEvent → Prop
  | .sendData _ => self.fin = .none
  | .sendFIN => self.fin = .none
  | .acknowledge ack _ => (self.consumedBy ack).toNat ≤ reach
  | .retransmit _ => self.fin ≠ .acked
  | _ => True

section Ledgers

variable {sender : SendBuffer} {reach : Nat} {event : SendEvent}

theorem Ledger.ackInRange (ledger : Ledger sender reach) {ack : SequenceNumber}
    (covered : (sender.consumedBy ack).toNat ≤ reach) : sender.ackInRange ack = true :=
  (ledger.accounted.inRange_iff ack).mpr (covered.trans ledger.reached)

theorem Ledger.lawful (ledger : Ledger sender reach) {event : SendEvent}
    (admitted : sender.admits reach event) : sender.lawful event = true := by
  cases event with
  | sendData data => exact beq_iff_eq.mpr admitted
  | sendFIN => exact beq_iff_eq.mpr admitted
  | acknowledge ack now => exact ledger.ackInRange admitted
  | transmit => rfl
  | retransmit now => rfl
  | receive space => rfl

/-- An acknowledgment of what was transmitted lowers the counter and the reach alike. When it
covers the FIN, it covers one number more than the counter can hold. -/
theorem Ledger.acknowledge (ledger : Ledger sender reach) {ack : SequenceNumber} (now : TimeBase)
    (covered : (sender.consumedBy ack).toNat ≤ reach) :
    Ledger (sender.booked (.acknowledge ack now)) (reach - (sender.consumedBy ack).toNat) := by
  have inRange := ledger.ackInRange covered
  have settled := ledger.accounted.settled ack now
  have bound := sender.remaining_lt
  have pendingBound := pending_le sender.fin
  have flightBound := sender.bytesInFlight.toNat_lt
  have reached := ledger.reached
  have remaining : (sender.booked (.acknowledge ack now)).buffer.remaining =
      sender.buffer.remaining - (sender.consumedBy ack).toNat :=
    BoundedQueue.consume_remaining _ _
  have fin : (sender.booked (.acknowledge ack now)).fin =
      if sender.acknowledgesFIN ack then .acked else sender.fin := rfl
  have lowered : (sender.booked (.acknowledge ack now)).bytesInFlight.toNat =
      (2 ^ 64 - (sender.consumedBy ack).toNat + sender.bytesInFlight.toNat) % 2 ^ 64 := by
    change (sender.bytesInFlight - (sender.consumedBy ack).toUInt64).toNat = _
    rw [UInt64.toNat_sub, UInt32.toNat_toUInt64]
  refine ⟨ledger.accounted.booked _ inRange, ?_, ?_, ?_, ?_⟩
  · intro sent
    rw [settled] at sent
    cases sent
  · rw [remaining, fin]
    cases covers : sender.acknowledgesFIN ack with
    | true =>
        have all := ((ledger.accounted.acknowledgesFIN_iff ack).mp covers).2
        omega
    | false =>
        have within := ledger.accounted.consumed_le_remaining inRange covers
        simp only [Bool.false_eq_true, ↓reduceIte]
        omega
  · rw [remaining, lowered]
    rcases ledger.flight with inside | wrapped
    · by_cases less : (sender.consumedBy ack).toNat ≤ sender.bytesInFlight.toNat
      · left
        omega
      · right
        omega
    · right
      omega
  · intro acked
    rw [remaining, lowered]
    cases covers : sender.acknowledgesFIN ack with
    | true =>
        have all := ((ledger.accounted.acknowledgesFIN_iff ack).mp covers).2
        rcases ledger.flight with inside | wrapped <;> omega
    | false =>
        rw [fin, covers] at acked
        obtain ⟨none, above⟩ := ledger.finished acked
        omega

theorem Ledger.booked (ledger : Ledger sender reach) (event : SendEvent)
    (admitted : sender.admits reach event) :
    Ledger (sender.booked event) (reach - sender.consumedAt event) := by
  have accounted := ledger.accounted.booked event (ledger.lawful admitted)
  cases event with
  | sendData data =>
      have room : sender.buffer.remaining ≤ (sender.buffer.write data.bytes).remaining := by
        rw [BoundedQueue.write_remaining]
        exact Nat.le_add_right _ _
      refine ⟨accounted, ledger.synPending, ?_, ?_, ?_⟩
      · exact Nat.le_trans ledger.reached (Nat.add_le_add_right room _)
      · exact ledger.flight.imp_left fun inside => Nat.le_trans inside room
      · intro acked
        have unsent : sender.fin = .none := admitted
        cases unsent.symm.trans acked
  | sendFIN =>
      refine ⟨accounted, ledger.synPending, ?_, ledger.flight, ?_⟩
      · have unsent : sender.fin = .none := admitted
        have reached := ledger.reached
        rw [unsent] at reached
        exact Nat.le_trans reached (Nat.le_add_right _ _)
      · intro acked
        cases acked
  | acknowledge ack now => exact ledger.acknowledge now admitted
  | transmit =>
      exact ⟨accounted, ledger.synPending, ledger.reached, ledger.flight, ledger.finished⟩
  | retransmit now =>
      refine ⟨accounted, ?_, ledger.reached, Or.inl (Nat.zero_le _), ?_⟩
      · exact fun sent => ⟨rfl, (ledger.synPending sent).2⟩
      · exact fun acked => absurd acked admitted
  | receive space =>
      exact ⟨accounted, ledger.synPending, ledger.reached, ledger.flight, ledger.finished⟩

theorem Ledger.from_moved (ledger : Ledger sender reach) (env : Surroundings) (event : SendEvent)
    (admitted : sender.admits reach event) :
    ((sender.step env event).acknowledgedFrom - sender.acknowledgedFrom).toNat =
      sender.consumedAt event := by
  have same : (sender.step env event).acknowledgedFrom = (sender.booked event).acknowledgedFrom := by
    simp only [acknowledgedFrom, step_syn, step_tcb]
  rw [same]
  cases event with
  | acknowledge ack now =>
      have inRange := ledger.ackInRange admitted
      have to_ : (sender.booked (.acknowledge ack now)).acknowledgedFrom = ack := by
        rw [acknowledgedFrom, ledger.accounted.settled ack now,
          ledger.accounted.acknowledge_unack inRange now]
        rfl
      rw [to_]
      rfl
  | _ => exact congrArg UInt32.toNat (UInt32.sub_self sender.acknowledgedFrom)

/-- A segment of an open connection ends inside the queue, or with the FIN behind it. -/
theorem Carries.extent_le {offset : Nat} {call : PacketCall}
    (carries : sender.Carries offset call) : extent sender.tcb.send.unack call.segment ≤
      sender.buffer.remaining + (pending sender.fin).toNat := by
  have bound := sender.remaining_lt
  have within := carries.within
  have offsetNat : (call.segment.sequence - sender.tcb.send.unack).toNat = offset := by
    rw [carries.sequence, UInt32.add_comm, UInt32.add_sub_cancel, UInt32.toNat_ofNat']
    omega
  have length : call.segment.payload.length ≤ sender.buffer.remaining - offset := by
    rw [carries.payload, BoundedQueue.peek_length]
    omega
  unfold extent
  split
  · exact Nat.zero_le _
  · rw [offsetNat]
    cases isFIN : call.segment.isFIN with
    | false =>
        simp only [Bool.toNat_false]
        omega
    | true =>
        have sent := (carries.fin isFIN).1
        simp only [Bool.toNat_true, pending, sent, ↓reduceIte, UInt32.toNat_one]
        omega

/-- Sending moves the counter inside the queue only, and reaches no further than the queue. -/
theorem Ledger.sent (ledger : Ledger (sender.booked event) reach) (env : Surroundings) :
    Ledger (sender.step env event)
      (furthest (sender.step env event).acknowledgedFrom (sender.emitted env event) reach) := by
  have accounted : (sender.step env event).Accounted :=
    ledger.accounted.of_same (step_buffer env sender event)
      (congrArg ControlBlock.send (step_tcb env sender event)) (step_syn env sender event)
      (step_fin env sender event)
  cases phase : (sender.booked event).syn with
  | none => exact absurd phase ledger.accounted.started
  | sent =>
      obtain ⟨still, unreached⟩ := ledger.synPending phase
      have flight := (step_pending env sender event phase).trans still
      have onlySYN : ∀ call ∈ sender.emitted env event,
          extent (sender.step env event).acknowledgedFrom call.segment ≤ 0 := by
        intro call member
        rw [extent, ((emitted_phase env sender event call member).1 phase).isSYN, if_pos rfl]
      rw [Nat.le_zero.mp (furthest_le (Nat.le_of_eq unreached) onlySYN)]
      refine ⟨accounted, fun _ => ⟨flight, rfl⟩, Nat.zero_le _, Or.inl ?_, ?_⟩
      · rw [flight]
        exact Nat.zero_le _
      · intro acked
        rw [step_fin] at acked
        exact absurd acked (ledger.accounted.synPending phase).2
  | acked =>
      have notSent : (sender.step env event).syn ≠ .sent := by
        rw [step_syn, phase]
        decide
      rcases ledger.flight with inside | wrapped
      · have from_ : (sender.step env event).acknowledgedFrom =
            (sender.booked event).tcb.send.unack := by
          simp only [acknowledgedFrom, step_syn, step_tcb, phase]
          rfl
        refine ⟨accounted, fun sent => absurd sent notSent, ?_,
          Or.inl (step_within env sender event inside), ?_⟩
        · rw [step_buffer, step_fin, from_]
          refine furthest_le ledger.reached fun call member => ?_
          obtain ⟨_, carries⟩ := emitted_carries env sender event phase inside call member
          exact carries.extent_le
        · intro acked
          rw [step_fin] at acked
          exact absurd (ledger.finished acked).2 (Nat.not_lt.mpr inside)
      · have closed : ¬(sender.booked event).bytesInFlight < kMaxBytesInFlight := by
          rw [UInt64.lt_iff_toNat_lt, kMaxBytesInFlight_toNat]
          omega
        rw [emitted_closed env sender event phase closed, furthest_nil]
        refine ⟨accounted, fun sent => absurd sent notSent, ?_, Or.inr ?_, ?_⟩
        · rw [step_buffer, step_fin]
          exact ledger.reached
        · rw [step_closed env sender event closed]
          exact wrapped
        · rw [step_fin, step_buffer, step_closed env sender event closed]
          exact ledger.finished

theorem Ledger.step (ledger : Ledger sender reach) (env : Surroundings)
    (admitted : sender.admits reach event) :
    Ledger (sender.step env event)
      (furthest (sender.step env event).acknowledgedFrom (sender.emitted env event)
        (reach - ((sender.step env event).acknowledgedFrom - sender.acknowledgedFrom).toNat)) := by
  rw [ledger.from_moved env event admitted]
  exact (ledger.booked event admitted).sent env

end Ledgers

/-! Before the SYN there is nothing to count. -/

structure Fresh (sender : SendBuffer) (reach : Nat) : Prop where
  syn : sender.syn = .none
  empty : sender.buffer.remaining = 0
  fin : sender.fin = .none
  flight : sender.bytesInFlight = 0
  reach : reach = 0

theorem Ledger.withNotes {sender : SendBuffer} {reach : Nat} (ledger : Ledger sender reach)
    (alarm : Alarm) (failedChecks : List SendCheck) :
    Ledger (sender.withNotes alarm failedChecks) reach :=
  ⟨ledger.accounted.of_same rfl rfl rfl rfl, ledger.synPending, ledger.reached, ledger.flight,
    ledger.finished⟩

theorem transmit_silent (env : Surroundings) (self : SendBuffer) (none : self.syn = .none) :
    self.transmit env = self := by
  simp only [transmit_eq, none]

theorem step_silent (env : Surroundings) (self : SendBuffer) (event : SendEvent)
    (none : (self.booked event).syn = .none) : self.step env event =
      (self.booked event).withNotes (self.alarmAfter event)
        (self.failedChecks ++ self.failedAt event) := by
  rw [step_eq, transmit_silent env _ none, ite_self]

theorem fire_step (env : Surroundings) (self : SendBuffer) (now : TimeBase)
    (isSet : self.alarm.isSet = true) : self.fire env now =
      (self.step env (.retransmit now)).withNotes ⟨now + fromSeconds 1⟩
        (self.failedChecks ++ if now + fromSeconds 1 == 0 then [.alarmDeadline] else []) := by
  rw [fire_eq, if_pos isSet, step_eq]
  rfl

theorem Fresh.synchronized {sender : SendBuffer} {reach : Nat} (fresh : Fresh sender reach)
    (initial : SequenceNumber) : Ledger (sender.synchronized initial) 0 := by
  have remaining : (sender.synchronized initial).buffer.remaining = 0 := fresh.empty
  have flight : (sender.synchronized initial).bytesInFlight = 0 := fresh.flight
  have fin : (sender.synchronized initial).fin = .none := fresh.fin
  refine ⟨⟨?_, ?_, ?_⟩, ?_, Nat.zero_le _, Or.inl ?_, ?_⟩
  · intro none
    cases none
  · intro _
    rw [fin]
    exact ⟨rfl, by decide⟩
  · rw [remaining, fin]
    change initial + 1 = initial + UInt32.ofNat 0 + 1 + 0
    simp
  · exact fun _ => ⟨flight, rfl⟩
  · rw [flight]
    exact Nat.zero_le _
  · intro acked
    rw [fin] at acked
    cases acked

theorem update_isSet (alarm : Alarm) (now : Int) (clock : 0 ≤ now) (isSet : alarm.isSet = true) :
    (alarm.update (now + fromSeconds 1)).isSet = true := by
  have later := deadline_isSet now clock
  unfold Alarm.update
  split
  next zero =>
    rw [beq_iff_eq] at zero
    rw [zero] at later
    cases later
  next nonzero =>
    split
    · exact isSet
    · exact later

theorem cancel_isSet (alarm : Alarm) : alarm.cancel.isSet = false := by
  unfold Alarm.cancel
  cases isSet : alarm.isSet with
  | true => rfl
  | false => exact isSet

namespace Timed

structure Covered (timed : Timed) : Prop where
  books : Fresh timed.sender timed.reach ∨ Ledger timed.sender timed.reach
  alarm : timed.sender.alarm.isSet = true ↔ timed.sender.fin ≠ .acked
  checked : SendCheck.alarmUnset ∉ timed.sender.failedChecks

variable {timed : Timed} {env : Surroundings}

theorem Covered.sendSYN (covered : timed.Covered) (env : Surroundings) (initial : SequenceNumber)
    (first : timed.sender.syn = .none) : (timed.step env (.sendSYN initial)).Covered := by
  have fresh : Fresh timed.sender timed.reach := by
    rcases covered.books with fresh | ledger
    · exact fresh
    · exact absurd first ledger.accounted.started
  have frame := transmit_frame env (timed.sender.synchronized initial)
  have start : Ledger ((timed.sender.synchronized initial).booked .transmit) 0 :=
    fresh.synchronized initial
  refine ⟨Or.inr ?_, ?_, ?_⟩
  · simp only [step, moved, fresh.reach, Nat.zero_sub, sendSYN_eq]
    exact start.sent env
  · simp only [step, moved, sendSYN_eq, frame.alarm, frame.fin]
    exact covered.alarm
  · simp only [step, moved, sendSYN_eq, frame.failedChecks]
    have started : (timed.sender.synchronized initial).failedChecks =
        timed.sender.failedChecks := by
      simp [synchronized, SendBuffer.withNotes, fresh.fin]
    rw [started]
    exact covered.checked

theorem moved_self (timed : Timed) : timed.moved timed.sender = timed := by
  simp [moved, furthest_nil]

theorem admits_of_interleaved {event : SendEvent}
    (interleaved : timed.interleaved (.call event) = true) :
    timed.sender.admits timed.reach event := by
  cases event with
  | sendData data => exact beq_iff_eq.mp interleaved
  | sendFIN => exact beq_iff_eq.mp interleaved
  | acknowledge ack now =>
      have covered : (timed.sender.consumedBy ack).toNat ≤ timed.reach :=
        of_decide_eq_true (Bool.and_eq_true_iff.mp interleaved).2
      exact covered
  | transmit => trivial
  | retransmit now => cases interleaved
  | receive space => trivial

/-- Before the SYN an event changes nothing that counts. -/
theorem Fresh.call {event : SendEvent} (fresh : Fresh timed.sender timed.reach)
    (interleaved : timed.interleaved (.call event) = true)
    (ordered : timed.ordered (.call event) = true) :
    Fresh (timed.moved (timed.sender.step env event)).sender
      (timed.moved (timed.sender.step env event)).reach := by
  have unsent : timed.sender.syn ≠ .sent := by
    rw [fresh.syn]
    decide
  have booked : Fresh (timed.sender.booked event) 0 ∧
      (timed.sender.booked event).calls = timed.sender.calls := by
    cases event with
    | sendData data => simp [Timed.ordered, fresh.syn] at ordered
    | sendFIN => simp [Timed.ordered, fresh.syn] at ordered
    | acknowledge ack now =>
        have nothing : timed.sender.consumedBy ack = 0 := by
          have covered := admits_of_interleaved interleaved
          simp only [admits, fresh.reach, Nat.le_zero] at covered
          exact UInt32.toNat_inj.mp covered
        refine ⟨⟨?_, ?_, ?_, ?_, rfl⟩, rfl⟩
        · simp [SendBuffer.booked, fresh.syn]
        · simp [SendBuffer.booked, fresh.empty]
        · simp [SendBuffer.booked, acknowledgesFIN, fresh.fin]
        · simp [SendBuffer.booked, fresh.flight, nothing]
    | transmit => exact ⟨⟨fresh.syn, fresh.empty, fresh.fin, fresh.flight, rfl⟩, rfl⟩
    | retransmit now => cases interleaved
    | receive space => exact ⟨⟨fresh.syn, fresh.empty, fresh.fin, fresh.flight, rfl⟩, rfl⟩
  obtain ⟨still, calls⟩ := booked
  rw [step_silent env timed.sender event still.syn]
  refine ⟨still.syn, still.empty, still.fin, still.flight, ?_⟩
  simp only [moved, SendBuffer.withNotes, calls, List.drop_length, furthest_nil, fresh.reach,
    Nat.zero_sub]

/-- While the FIN is not acknowledged an acknowledgment leaves the alarm set, unless it is the one
of the FIN; after it the counter is never zero again, so the alarm is not touched. -/
theorem Covered.acknowledge_alarm (covered : timed.Covered) {ack : SequenceNumber} {now : TimeBase}
    (interleaved : timed.interleaved (.call (.acknowledge ack now)) = true) :
    (timed.sender.alarmAfter (.acknowledge ack now)).isSet = true ↔
      (timed.sender.booked (.acknowledge ack now)).fin ≠ .acked := by
  have clock : 0 ≤ now := of_decide_eq_true (Bool.and_eq_true_iff.mp interleaved).1
  have finAfter : (timed.sender.booked (.acknowledge ack now)).fin =
      if timed.sender.acknowledgesFIN ack then .acked else timed.sender.fin := rfl
  rw [finAfter]
  by_cases finished : timed.sender.fin = .acked
  · have ledger : Ledger timed.sender timed.reach := by
      rcases covered.books with fresh | ledger
      · cases fresh.fin.symm.trans finished
      · exact ledger
    have noFIN : timed.sender.acknowledgesFIN ack = false := by
      simp [acknowledgesFIN, finished]
    have nonzero : (timed.sender.bytesInFlight - (timed.sender.consumedBy ack).toUInt64 == 0) =
        false := by
      have after := ledger.acknowledge now (admits_of_interleaved interleaved)
      have above := (after.finished (by rw [finAfter, noFIN]; exact finished)).2
      rw [beq_eq_false_iff_ne]
      intro zero
      have none : (timed.sender.booked (.acknowledge ack now)).bytesInFlight = 0 := zero
      rw [none] at above
      exact absurd above (Nat.not_lt_zero _)
    simp only [alarmAfter, nonzero, noFIN, Bool.false_eq_true, ↓reduceIte]
    exact covered.alarm
  · have isSet := covered.alarm.mpr finished
    have updated := update_isSet timed.sender.alarm now clock isSet
    cases covers : timed.sender.acknowledgesFIN ack with
    | true =>
        simp only [alarmAfter, covers, ↓reduceIte, cancel_isSet]
        simp
    | false =>
        simp only [alarmAfter, covers, Bool.false_eq_true, ↓reduceIte]
        refine iff_of_true ?_ finished
        split
        · exact updated
        · exact isSet

theorem Covered.call {event : SendEvent} (covered : timed.Covered) (env : Surroundings)
    (interleaved : timed.interleaved (.call event) = true)
    (ordered : timed.ordered (.call event) = true) : (timed.step env (.call event)).Covered := by
  refine ⟨?_, ?_, ?_⟩
  · rcases covered.books with fresh | ledger
    · exact Or.inl (Fresh.call fresh interleaved ordered)
    · exact Or.inr (ledger.step env (admits_of_interleaved interleaved))
  · change (timed.sender.step env event).alarm.isSet = true ↔
      (timed.sender.step env event).fin ≠ .acked
    rw [step_alarm, step_fin]
    cases event with
    | acknowledge ack now => exact covered.acknowledge_alarm interleaved
    | sendFIN =>
        have unsent : timed.sender.fin = .none := beq_iff_eq.mp interleaved
        refine iff_of_true (covered.alarm.mpr ?_) ?_
        · rw [unsent]
          decide
        · intro acked
          cases acked
    | retransmit now => cases interleaved
    | sendData data => exact covered.alarm
    | transmit => exact covered.alarm
    | receive space => exact covered.alarm
  · change SendCheck.alarmUnset ∉ (timed.sender.step env event).failedChecks
    rw [step_failedChecks, List.mem_append]
    rintro (earlier | now)
    · exact covered.checked earlier
    · cases event with
      | acknowledge ack now =>
          simp only [failedAt, List.mem_append] at now
          rcases now with (now | now) | now <;> split at now <;> simp at now
      | sendData data =>
          simp only [failedAt] at now
          split at now <;> simp at now
      | retransmit now => cases interleaved
      | sendFIN => simp [failedAt] at now
      | transmit => simp [failedAt] at now
      | receive space => simp [failedAt] at now

theorem Covered.fire (covered : timed.Covered) (env : Surroundings) {now : TimeBase}
    (clock : 0 ≤ now) : (timed.step env (.fire now)).Covered := by
  by_cases isSet : timed.sender.alarm.isSet = true
  · have unfinished := covered.alarm.mp isSet
    have fired := fire_step env timed.sender now isSet
    refine ⟨?_, ?_, ?_⟩
    · simp only [step, fired]
      rcases covered.books with fresh | ledger
      · left
        have silent := step_silent env timed.sender (.retransmit now) fresh.syn
        rw [silent]
        refine ⟨fresh.syn, fresh.empty, fresh.fin, rfl, ?_⟩
        simp only [moved, SendBuffer.withNotes, fresh.reach, Nat.zero_sub]
        exact congrArg (fun calls => furthest _ calls 0) List.drop_length
      · right
        have admitted : timed.sender.admits timed.reach (.retransmit now) := unfinished
        exact (ledger.step env admitted).withNotes _ _
    · simp only [step, moved, fired]
      refine iff_of_true (deadline_isSet now clock) ?_
      change (timed.sender.step env (.retransmit now)).fin ≠ .acked
      rw [step_fin]
      exact unfinished
    · simp only [step, moved, fired, SendBuffer.withNotes, List.mem_append]
      rintro (earlier | now)
      · exact covered.checked earlier
      · split at now <;> simp at now
  · have idle : timed.step env (.fire now) = timed := by
      simp only [step, fire_eq, isSet, Bool.false_eq_true, ↓reduceIte, moved_self]
    rw [idle]
    exact covered

theorem Covered.step {event : TimerEvent} (covered : timed.Covered) (env : Surroundings)
    (interleaved : timed.interleaved event = true) (ordered : timed.ordered event = true) :
    (timed.step env event).Covered := by
  cases event with
  | sendSYN initial => exact covered.sendSYN env initial (beq_iff_eq.mp interleaved)
  | call event => exact covered.call env interleaved ordered
  | fire now => exact covered.fire env (of_decide_eq_true interleaved)

theorem start_covered (factory : SegmentFactory) (tcb : ControlBlock) {now : TimeBase}
    (clock : 0 ≤ now) : (start factory tcb now).Covered := by
  have created : SendBuffer.create factory tcb now = _ := setAlarm_eq _ _
  have alarm := deadline_isSet now clock
  refine ⟨Or.inl ?_, ?_, ?_⟩
  · simp only [start, created]
    exact ⟨rfl, rfl, rfl, rfl, rfl⟩
  · simp only [start, created]
    refine iff_of_true alarm fun acked => ?_
    cases acked
  · simp only [start, created, SendBuffer.withNotes, List.nil_append, List.mem_append]
    rintro (failed | failed)
    · simp [Alarm.isSet] at failed
    · split at failed <;> simp at failed

/-- The events of a run come in an order that the timer is made for. -/
def OrderedRun (env : Surroundings) (timed : Timed) (events : List TimerEvent) : Prop :=
  Permitted (step env)
    (fun state event => state.interleaved event = true ∧ state.ordered event = true) timed events

theorem Covered.run {events : List TimerEvent} (covered : timed.Covered)
    (permitted : OrderedRun env timed events) : (timed.run env events).Covered :=
  runEvents_invariant (fun _ _ covered allowed => covered.step env allowed.1 allowed.2) covered
    permitted

theorem step_finished {event : TimerEvent} (env : Surroundings)
    (interleaved : timed.interleaved event = true) (finished : timed.sender.fin = .acked) :
    (timed.step env event).sender.fin = .acked := by
  cases event with
  | sendSYN initial =>
      simp only [step, moved, sendSYN_eq, (transmit_frame env _).fin]
      exact finished
  | call event =>
      simp only [step, moved, step_fin]
      cases event with
      | sendFIN => simp [Timed.interleaved, finished] at interleaved
      | acknowledge ack now => simp [SendBuffer.booked, finished]
      | _ => exact finished
  | fire now =>
      simp only [step, moved, fire_eq]
      split
      · exact (transmit_frame env { timed.sender with bytesInFlight := 0 }).fin.trans finished
      · exact finished

/-- The alarm is set exactly until the FIN is acknowledged. It is never set twice, and once the FIN
is acknowledged it stays as it is and sends nothing. -/
theorem timer_covers_run (env : Surroundings) (factory : SegmentFactory) (tcb : ControlBlock)
    (now : TimeBase) (clock : 0 ≤ now) (events : List TimerEvent)
    (permitted : OrderedRun env (start factory tcb now) events) :
    let timed := (start factory tcb now).run env events
    (timed.sender.alarm.isSet = true ↔ timed.sender.fin ≠ .acked) ∧
    SendCheck.alarmUnset ∉ timed.sender.failedChecks ∧
    (timed.sender.fin = .acked → ∀ later, OrderedRun env timed later →
      (timed.run env later).sender.fin = .acked ∧
      (timed.run env later).sender.alarm.isSet = false ∧
      ∀ at_, ((timed.run env later).sender.fire env at_).calls =
        (timed.run env later).sender.calls) := by
  intro timed
  have covered : timed.Covered := (start_covered factory tcb clock).run permitted
  refine ⟨covered.alarm, covered.checked, ?_⟩
  intro finished later further
  have end_ : (timed.run env later).Covered ∧ (timed.run env later).sender.fin = .acked := by
    refine runEvents_invariant (motive := fun state : Timed =>
      state.Covered ∧ state.sender.fin = .acked) ?_ ⟨covered, finished⟩ further
    intro state event holds allowed
    exact ⟨holds.1.step env allowed.1 allowed.2, step_finished env allowed.1 holds.2⟩
  have unset : (timed.run env later).sender.alarm.isSet = false := by
    rw [Bool.eq_false_iff]
    intro isSet
    exact end_.1.alarm.mp isSet end_.2
  refine ⟨end_.2, unset, fun at_ => ?_⟩
  rw [fire_eq, unset]
  rfl

def closingTimer : List TimerEvent :=
  [.fire 1000000, .sendSYN 4294967295, .call (.sendData sampleBytes), .call (.acknowledge 0 1000010),
    .fire 2000000, .call .sendFIN, .call (.acknowledge 3 2000010), .call (.acknowledge 4 2000020)]

theorem closingTimer_covered :
    let timed := (start sampleOpening.factory sampleOpening.tcb 0).run quietHost closingTimer
    timed.sender.fin = .acked ∧ timed.sender.alarm.isSet = false ∧
      ∀ at_, (timed.sender.fire quietHost at_).calls = timed.sender.calls := by
  have permitted : OrderedRun quietHost (start sampleOpening.factory sampleOpening.tcb 0)
      closingTimer := by
    unfold OrderedRun
    decide
  have finished : ((start sampleOpening.factory sampleOpening.tcb 0).run quietHost
      closingTimer).sender.fin = .acked := by decide
  have facts := timer_covers_run quietHost sampleOpening.factory sampleOpening.tcb 0 (by decide)
    closingTimer permitted
  generalize (start sampleOpening.factory sampleOpening.tcb 0).run quietHost closingTimer = timed
    at finished facts ⊢
  exact facts.2.2 finished [] trivial

/-! Data that is queued before the SYN is not counted by `next`, so an acknowledgment of data is
taken for that of the FIN. -/

def refusingThird : Surroundings := ⟨fun count => count != 3, fun _ => []⟩

def earlyBytes : Buffer := ⟨List.replicate 1462 0, by rw [List.length_replicate]; decide⟩

def earlyData : List TimerEvent :=
  [.call (.sendData earlyBytes), .sendSYN 0, .call (.acknowledge 1 10), .fire 1000000, .fire 2000000,
    .call .sendFIN, .call (.acknowledge 2 2000010), .call (.acknowledge 1464 2000020)]

theorem earlyData_rearms :
    Permitted (step refusingThird) (fun state event => state.interleaved event = true)
        (start sampleOpening.factory sampleOpening.tcb 0) earlyData ∧
      let timed := (start sampleOpening.factory sampleOpening.tcb 0).run refusingThird earlyData
      timed.sender.fin = .acked ∧ timed.sender.alarm.isSet = true := by
  decide +kernel

end Timed

end SendBuffer

end LabNetstack
