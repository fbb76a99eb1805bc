import LabNetstack.SendBufferCore

/-! What the operations of `SendBuffer` leave alone, and what one pass of
`transmit` hands to the IP layer. -/

namespace LabNetstack

theorem CtlState.acknowledged_settled (state : CtlState) :
    (if state == .sent then .acked else state) ≠ .sent := by
  cases state <;> decide

namespace SendBuffer

/-! Sending changes the counter of bytes in flight and the calls, and nothing else. -/

structure Frame (before after : SendBuffer) : Prop where
  buffer : after.buffer = before.buffer
  tcb : after.tcb = before.tcb
  syn : after.syn = before.syn
  fin : after.fin = before.fin
  source : after.source = before.source
  destination : after.destination = before.destination
  factory : after.factory = before.factory
  alarm : after.alarm = before.alarm
  failedChecks : after.failedChecks = before.failedChecks
  calls : ∃ added, after.calls = before.calls ++ added

theorem Frame.refl (self : SendBuffer) : Frame self self :=
  ⟨rfl, rfl, rfl, rfl, rfl, rfl, rfl, rfl, rfl, [], by simp⟩

theorem Frame.trans {first second third : SendBuffer} (left : Frame first second)
    (right : Frame second third) : Frame first third := by
  obtain ⟨leftAdded, leftCalls⟩ := left.calls
  obtain ⟨rightAdded, rightCalls⟩ := right.calls
  refine ⟨right.buffer.trans left.buffer, right.tcb.trans left.tcb, right.syn.trans left.syn,
    right.fin.trans left.fin, right.source.trans left.source,
    right.destination.trans left.destination, right.factory.trans left.factory,
    right.alarm.trans left.alarm, right.failedChecks.trans left.failedChecks,
    leftAdded ++ rightAdded, ?_⟩
  rw [rightCalls, leftCalls, List.append_assoc]

/-! One round of the loop. -/

def nextPayload (env : Surroundings) (self : SendBuffer) : List UInt8 :=
  readOffset env self.buffer self.bytesInFlight kMaxSegmentSize

def nextSequence (self : SendBuffer) : SequenceNumber :=
  self.tcb.send.unack + self.bytesInFlight.toUInt32

def piggybacks (env : Surroundings) (self : SendBuffer) : Bool :=
  self.fin == .sent &&
    (self.nextSequence + UInt32.ofNat (self.nextPayload env).length + 1 == self.tcb.send.next)

def nextSegment (env : Surroundings) (self : SendBuffer) : Segment :=
  self.factory.createSegment self.nextSequence self.tcb.receive.next
    (if self.piggybacks env then Segment.ACK ||| Segment.FIN else Segment.ACK)
    ⟨self.nextPayload env, 0⟩ (UInt64.ofNat (self.nextPayload env).length)

def nextCall (env : Surroundings) (self : SendBuffer) : PacketCall :=
  ⟨self.source, self.destination, self.nextSegment env, env.accepts self.calls.length⟩

def afterRound (env : Surroundings) (self : SendBuffer) : SendBuffer :=
  { self with
    bytesInFlight := self.bytesInFlight + UInt64.ofNat (self.nextPayload env).length
    calls := self.calls ++ [self.nextCall env] }

theorem readOffset_length_le (env : Surroundings) (buffer : BoundedQueue UInt8 kSendBufferSize)
    (offset length : UInt64) : (readOffset env buffer offset length).length ≤ length.toNat := by
  unfold readOffset
  split
  · rw [BoundedQueue.peek_length]
    omega
  · simp only [List.length_take]
    omega

theorem nextPayload_length_le (env : Surroundings) (self : SendBuffer) :
    (self.nextPayload env).length ≤ 1460 :=
  readOffset_length_le env self.buffer self.bytesInFlight kMaxSegmentSize

theorem nextLength_toNat (env : Surroundings) (self : SendBuffer) :
    (UInt64.ofNat (self.nextPayload env).length).toNat = (self.nextPayload env).length := by
  have := self.nextPayload_length_le env
  exact UInt64.toNat_ofNat_of_lt' (by simp only [UInt64.size]; omega)

theorem nextLength_eq_zero (env : Surroundings) (self : SendBuffer) :
    UInt64.ofNat (self.nextPayload env).length = 0 ↔ self.nextPayload env = [] := by
  rw [← UInt64.toNat_inj, nextLength_toNat]
  simp

theorem transmitRound_eq (env : Surroundings) (self : SendBuffer) :
    self.transmitRound env =
      if self.piggybacks env = false ∧ self.nextPayload env = [] then (false, self)
      else (env.accepts self.calls.length && !(self.nextPayload env).isEmpty, self.afterRound env) := by
  have payload : readOffset env self.buffer self.bytesInFlight kMaxSegmentSize =
      self.nextPayload env := rfl
  have sequence : (self.tcb.send.unack.toUInt64 + self.bytesInFlight).toUInt32 =
      self.nextSequence := by
    simp [nextSequence]
  have successor : (self.nextSequence.toUInt64 + UInt64.ofNat (self.nextPayload env).length +
      1).toUInt32 = self.nextSequence + UInt32.ofNat (self.nextPayload env).length + 1 := by
    simp
  have piggyback : (self.fin == .sent && (self.nextSequence +
      UInt32.ofNat (self.nextPayload env).length + 1 == self.tcb.send.next)) =
      self.piggybacks env := rfl
  simp only [transmitRound, SendBufferOver.transmitRound, operations, queue, Id.run_bind,
    Id.run_pure, payload, sequence, successor, SendSpace.equal_eq, piggyback,
    SendBufferOver.sendSegment]
  by_cases empty : self.nextPayload env = []
  · cases piggy : self.piggybacks env with
    | false => simp [empty]
    | true =>
        have sent : (self.fin == .sent) = true := by
          simp only [piggybacks, Bool.and_eq_true] at piggy
          exact piggy.1
        cases accepted : env.accepts self.calls.length <;>
          simp [empty, sent, afterRound, nextCall, nextSegment, piggy, check, accepted]
  · have nonzero : (UInt64.ofNat (self.nextPayload env).length == 0) = false := by
      rw [beq_eq_false_iff_ne, ne_eq, nextLength_eq_zero]
      exact empty
    cases accepted : env.accepts self.calls.length <;>
      simp [empty, nonzero, afterRound, nextCall, nextSegment, accepted]

theorem afterRound_frame (env : Surroundings) (self : SendBuffer) :
    Frame self (self.afterRound env) :=
  ⟨rfl, rfl, rfl, rfl, rfl, rfl, rfl, rfl, rfl, [self.nextCall env], rfl⟩

/-! The loop. -/

theorem transmitLoop_succ (env : Surroundings) (fuel : Nat) (self : SendBuffer) :
    transmitLoop env (fuel + 1) self =
      if self.bytesInFlight < kMaxBytesInFlight then
        if (self.transmitRound env).1 then transmitLoop env fuel (self.transmitRound env).2
        else (self.transmitRound env).2
      else self := rfl

theorem transmit_eq (env : Surroundings) (self : SendBuffer) :
    self.transmit env =
      match self.syn with
      | .none => self
      | .sent => self.transmitSYN env
      | .acked => transmitLoop env kMaxBytesInFlight.toNat self := rfl

theorem transmitLoop_rule {env : Surroundings} {motive : SendBuffer → SendBuffer → Prop}
    (stop : ∀ self, motive self self)
    (send : ∀ self after, self.bytesInFlight < kMaxBytesInFlight →
      (self.nextPayload env ≠ [] ∨ self.piggybacks env = true) →
      motive (self.afterRound env) after → motive self after) :
    ∀ fuel self, motive self (transmitLoop env fuel self) := by
  intro fuel
  induction fuel with
  | zero => exact stop
  | succ fuel ih =>
      intro self
      rw [transmitLoop_succ]
      by_cases open_ : self.bytesInFlight < kMaxBytesInFlight
      · simp only [open_, ↓reduceIte, transmitRound_eq]
        by_cases idle : self.piggybacks env = false ∧ self.nextPayload env = []
        · simp only [idle, and_self, ↓reduceIte, Bool.false_eq_true]
          exact stop self
        · have busy : self.nextPayload env ≠ [] ∨ self.piggybacks env = true := by
            by_cases empty : self.nextPayload env = []
            · right
              cases piggy : self.piggybacks env with
              | true => rfl
              | false => exact absurd ⟨piggy, empty⟩ idle
            · exact Or.inl empty
          simp only [idle, ↓reduceIte]
          split
          · exact send self _ open_ busy (ih _)
          · exact send self _ open_ busy (stop _)
      · simp only [open_, ↓reduceIte]
        exact stop self

theorem transmitLoop_closed (env : Surroundings) (fuel : Nat) (self : SendBuffer)
    (closed : ¬self.bytesInFlight < kMaxBytesInFlight) : transmitLoop env fuel self = self := by
  cases fuel with
  | zero => rfl
  | succ fuel => simp only [transmitLoop_succ, closed, ↓reduceIte]

theorem kMaxBytesInFlight_toNat : kMaxBytesInFlight.toNat = 14600 := rfl

theorem afterRound_toNat (env : Surroundings) (self : SendBuffer)
    (open_ : self.bytesInFlight < kMaxBytesInFlight) :
    (self.afterRound env).bytesInFlight.toNat =
      self.bytesInFlight.toNat + (self.nextPayload env).length := by
  have bound := self.nextPayload_length_le env
  have below := UInt64.lt_iff_toNat_lt.mp open_
  rw [kMaxBytesInFlight_toNat] at below
  simp only [afterRound, UInt64.toNat_add, nextLength_toNat]
  omega

/-- The loop stops by itself: fuel for each byte the window has left is enough. -/
theorem transmitLoop_enough (env : Surroundings) (fuel extra : Nat) (self : SendBuffer)
    (enough : kMaxBytesInFlight.toNat - self.bytesInFlight.toNat ≤ fuel) :
    transmitLoop env (fuel + extra) self = transmitLoop env fuel self := by
  induction fuel generalizing self with
  | zero =>
      have closed : ¬self.bytesInFlight < kMaxBytesInFlight := by
        rw [UInt64.lt_iff_toNat_lt]
        omega
      rw [transmitLoop_closed env _ self closed, transmitLoop_closed env _ self closed]
  | succ fuel ih =>
      rw [Nat.succ_add, transmitLoop_succ, transmitLoop_succ]
      by_cases open_ : self.bytesInFlight < kMaxBytesInFlight
      · simp only [open_, ↓reduceIte, transmitRound_eq]
        by_cases idle : self.piggybacks env = false ∧ self.nextPayload env = []
        · simp only [idle, and_self, ↓reduceIte, Bool.false_eq_true]
        · simp only [idle, ↓reduceIte]
          split
          · rename_i again
            have nonempty : 0 < (self.nextPayload env).length := by
              simp only [Bool.and_eq_true, Bool.not_eq_true', List.isEmpty_eq_false_iff] at again
              exact List.length_pos_iff.mpr again.2
            apply ih
            rw [afterRound_toNat env self open_]
            omega
          · rfl
      · simp only [open_, ↓reduceIte]

theorem transmitLoop_frame (env : Surroundings) (fuel : Nat) (self : SendBuffer) :
    Frame self (transmitLoop env fuel self) := by
  apply transmitLoop_rule Frame.refl
  intro self after _ _ later
  exact (afterRound_frame env self).trans later

theorem transmitSYN_frame (env : Surroundings) (self : SendBuffer) :
    Frame self (self.transmitSYN env) := by
  unfold transmitSYN SendBufferOver.transmitSYN
  split <;> exact ⟨rfl, rfl, rfl, rfl, rfl, rfl, rfl, rfl, rfl, _, rfl⟩

theorem transmit_frame (env : Surroundings) (self : SendBuffer) :
    Frame self (self.transmit env) := by
  rw [transmit_eq]
  split
  · exact Frame.refl self
  · exact transmitSYN_frame env self
  · exact transmitLoop_frame env _ self

/-! What the loop hands to the IP layer: slices of the queue, in order. -/

def payloadBytes (calls : List PacketCall) : Nat :=
  (calls.map fun call => call.segment.payload.length).sum

structure Carries (sender : SendBuffer) (offset : Nat) (call : PacketCall) : Prop where
  within : offset ≤ sender.buffer.remaining
  sequence : call.segment.sequence = sender.tcb.send.unack + UInt32.ofNat offset
  payload : call.segment.payload = sender.buffer.peek offset 1460
  busy : call.segment.payload ≠ [] ∨ sender.fin = .sent
  fin : call.segment.isFIN = true → sender.fin = .sent ∧
    call.segment.sequence + UInt32.ofNat call.segment.payload.length + 1 = sender.tcb.send.next

theorem nextSegment_payload (env : Surroundings) (self : SendBuffer) :
    (self.nextSegment env).payload = self.nextPayload env := by
  simp only [nextSegment, SegmentFactory.createSegment, Segment.payload, Pointer.target,
    nextLength_toNat, List.drop_zero, List.take_length]

theorem nextSegment_isFIN (env : Surroundings) (self : SendBuffer) :
    (self.nextSegment env).isFIN = self.piggybacks env := by
  simp only [nextSegment, SegmentFactory.createSegment, Segment.isFIN, Segment.hasFlag]
  cases self.piggybacks env <;> decide

theorem nextCall_carries (env : Surroundings) (self : SendBuffer)
    (within : self.bytesInFlight.toNat ≤ self.buffer.remaining)
    (busy : self.nextPayload env ≠ [] ∨ self.piggybacks env = true) :
    self.Carries self.bytesInFlight.toNat (self.nextCall env) := by
  have payload : (self.nextCall env).segment.payload = self.nextPayload env :=
    nextSegment_payload env self
  refine ⟨within, ?_, ?_, ?_, ?_⟩
  · change self.nextSequence = _
    simp [nextSequence]
  · rw [payload, nextPayload, readOffset]
    simp only [within, ↓reduceIte]
    rfl
  · rw [payload]
    refine busy.imp_right fun piggy => ?_
    simp only [piggybacks, Bool.and_eq_true, beq_iff_eq] at piggy
    exact piggy.1
  · intro isFIN
    have piggy : self.piggybacks env = true := by
      rw [← nextSegment_isFIN]
      exact isFIN
    simp only [piggybacks, Bool.and_eq_true, beq_iff_eq] at piggy
    rw [payload]
    exact piggy

/-- Started inside the queue, the loop stays inside it, and so does all it sends. -/
theorem transmitLoop_carries (env : Surroundings) (fuel : Nat) (self : SendBuffer)
    (within : self.bytesInFlight.toNat ≤ self.buffer.remaining) :
    (transmitLoop env fuel self).bytesInFlight.toNat ≤ self.buffer.remaining ∧
      ∃ added, (transmitLoop env fuel self).calls = self.calls ++ added ∧
        ∀ call ∈ added, ∃ offset, self.Carries offset call := by
  revert within
  apply transmitLoop_rule (motive := fun self after =>
    self.bytesInFlight.toNat ≤ self.buffer.remaining →
    after.bytesInFlight.toNat ≤ self.buffer.remaining ∧
      ∃ added, after.calls = self.calls ++ added ∧
        ∀ call ∈ added, ∃ offset, self.Carries offset call)
  · intro self within
    exact ⟨within, [], by simp, by simp⟩
  · intro self after open_ busy later within
    have first := nextCall_carries env self within busy
    have length : (self.nextPayload env).length ≤ self.buffer.remaining - self.bytesInFlight.toNat := by
      have slice := first.payload
      have payload : (self.nextCall env).segment.payload = self.nextPayload env :=
        nextSegment_payload env self
      rw [← payload, slice, BoundedQueue.peek_length]
      omega
    have advanced : (self.afterRound env).bytesInFlight.toNat ≤ self.buffer.remaining := by
      rw [afterRound_toNat env self open_]
      omega
    obtain ⟨bound, added, calls, carried⟩ := later advanced
    refine ⟨bound, self.nextCall env :: added, ?_, ?_⟩
    · rw [calls]
      simp [afterRound]
    · intro call member
      rcases List.mem_cons.mp member with rfl | member
      · exact ⟨_, first⟩
      · obtain ⟨offset, carries⟩ := carried call member
        exact ⟨offset, carries.within, carries.sequence, carries.payload, carries.busy, carries.fin⟩

/-! What each event does to the books before anything is sent. -/

-- the first sequence number of a data byte that is not acknowledged
def acknowledgedFrom (self : SendBuffer) : SequenceNumber :=
  if self.syn == .sent then self.tcb.send.initial + 1 else self.tcb.send.unack

def consumedBy (self : SendBuffer) (ack : SequenceNumber) : SequenceNumber :=
  ack - self.acknowledgedFrom

def acknowledgesFIN (self : SendBuffer) (ack : SequenceNumber) : Bool :=
  self.fin == .sent && ack == self.tcb.send.next

def booked (self : SendBuffer) : SendEvent → SendBuffer
  | .sendData data => { self with
      buffer := self.buffer.write data.bytes
      tcb.send.next := self.tcb.send.next + UInt32.ofNat (self.buffer.accepted data.bytes).length }
  | .sendFIN => { self with fin := .sent, tcb.send.next := self.tcb.send.next + 1 }
  | .acknowledge ack _ => { self with
      buffer := self.buffer.consume (self.consumedBy ack).toNat
      tcb.send.unack := self.acknowledgedFrom +
        UInt32.ofNat (min (self.consumedBy ack).toNat self.buffer.remaining) +
        (if self.acknowledgesFIN ack then 1 else 0)
      syn := if self.syn == .sent then .acked else self.syn
      fin := if self.acknowledgesFIN ack then .acked else self.fin
      bytesInFlight := self.bytesInFlight - (self.consumedBy ack).toUInt64 }
  | .transmit => self
  | .retransmit _ => { self with bytesInFlight := 0 }
  | .receive space => { self with tcb.receive := space }

def sends (self : SendBuffer) : SendEvent → Bool
  | .sendData _ => !self.buffer.isFull && self.synAcked
  | .sendFIN => self.buffer.isEmpty
  | .acknowledge ack _ => decide ((self.consumedBy ack).toUInt64 > 0)
  | .transmit => true
  | .retransmit _ => true
  | .receive _ => false

def failedAt (self : SendBuffer) : SendEvent → List SendCheck
  | .sendData _ => if self.fin == .none then [] else [.sendDataBeforeFIN]
  | .acknowledge ack _ =>
      (if self.syn == .sent && !self.tcb.send.greaterThan ack self.tcb.send.initial then
        [.acknowledgeSYN] else []) ++
      (if self.tcb.send.greaterOrEqual ack self.acknowledgedFrom then [] else [.acknowledgeOrder]) ++
      (if self.acknowledgesFIN ack && !(self.booked (.acknowledge ack 0)).buffer.isEmpty then
        [.acknowledgeEmpty] else [])
  | .retransmit now =>
      (if self.alarm.isSet then [.alarmUnset] else []) ++
      (if now + fromSeconds 1 == 0 then [.alarmDeadline] else [])
  | _ => []

def alarmAfter (self : SendBuffer) : SendEvent → Alarm
  | .acknowledge ack now =>
      let alarm := if self.bytesInFlight - (self.consumedBy ack).toUInt64 == 0 then
        self.alarm.update (now + fromSeconds 1) else self.alarm
      if self.acknowledgesFIN ack then alarm.cancel else alarm
  | .retransmit now => self.alarm.set (now + fromSeconds 1)
  | _ => self.alarm

def withNotes (self : SendBuffer) (alarm : Alarm) (failedChecks : List SendCheck) : SendBuffer :=
  { self with alarm := alarm, failedChecks := failedChecks }

theorem transmitRound_withNotes (env : Surroundings) (self : SendBuffer) (alarm : Alarm)
    (failedChecks : List SendCheck) :
    (self.withNotes alarm failedChecks).transmitRound env =
      ((self.transmitRound env).1, (self.transmitRound env).2.withNotes alarm failedChecks) := by
  rw [transmitRound_eq, transmitRound_eq]
  have piggyback : (self.withNotes alarm failedChecks).piggybacks env = self.piggybacks env := rfl
  have payload : (self.withNotes alarm failedChecks).nextPayload env = self.nextPayload env := rfl
  rw [piggyback, payload]
  split <;> rfl

theorem transmitLoop_withNotes (env : Surroundings) (fuel : Nat) (self : SendBuffer) (alarm : Alarm)
    (failedChecks : List SendCheck) :
    transmitLoop env fuel (self.withNotes alarm failedChecks) =
      (transmitLoop env fuel self).withNotes alarm failedChecks := by
  induction fuel generalizing self with
  | zero => rfl
  | succ fuel ih =>
      have flight : (self.withNotes alarm failedChecks).bytesInFlight = self.bytesInFlight := rfl
      rw [transmitLoop_succ, transmitLoop_succ, transmitRound_withNotes, flight]
      by_cases open_ : self.bytesInFlight < kMaxBytesInFlight
      · simp only [open_, ↓reduceIte, ih]
        split <;> rfl
      · simp only [open_, ↓reduceIte]

theorem transmit_withNotes (env : Surroundings) (self : SendBuffer) (alarm : Alarm)
    (failedChecks : List SendCheck) :
    (self.withNotes alarm failedChecks).transmit env =
      (self.transmit env).withNotes alarm failedChecks := by
  have syn : (self.withNotes alarm failedChecks).syn = self.syn := rfl
  cases phase : self.syn with
  | none => simp only [transmit_eq, syn, phase]
  | sent =>
      simp only [transmit_eq, syn, phase, transmitSYN, SendBufferOver.transmitSYN]
      change (if self.tcb.receive.synReceived = true then _ else _) = _
      split <;> rfl
  | acked => simp only [transmit_eq, syn, phase, transmitLoop_withNotes]

theorem accepted_toNat (self : SendBuffer) (data : Buffer) :
    (UInt64.ofNat (self.buffer.accepted data.bytes).length).toNat =
      (self.buffer.accepted data.bytes).length := by
  have bound : (self.buffer.accepted data.bytes).length ≤ kSendBufferSize := by
    rw [BoundedQueue.accepted_length, BoundedQueue.free]
    omega
  have small : kSendBufferSize < UInt64.size := by decide
  exact UInt64.toNat_ofNat_of_lt' (by omega)

theorem check_eq (self : SendBuffer) (site : SendCheck) (condition : Bool) :
    self.check site condition = self.withNotes self.alarm
      (self.failedChecks ++ if condition then [] else [site]) := by
  cases condition <;> simp [check, withNotes]

theorem setAlarm_eq (self : SendBuffer) (deadline : TimeBase) :
    self.setAlarm deadline = self.withNotes (self.alarm.set deadline)
      (self.failedChecks ++ ((if self.alarm.isSet then [.alarmUnset] else []) ++
        (if deadline == 0 then [.alarmDeadline] else []))) := by
  by_cases isSet : self.alarm.isSet = true <;> by_cases zero : deadline = 0 <;>
    simp [setAlarm, SendBufferOver.setAlarm, queue, check_eq, withNotes, isSet, zero]

theorem create_eq (factory : SegmentFactory) (tcb : ControlBlock) (now : TimeBase) :
    create factory tcb now =
      { buffer := BoundedQueue.nil
        tcb := tcb
        syn := .none
        fin := .none
        bytesInFlight := 0
        source := IPAddress.unspecified
        destination := IPAddress.unspecified
        factory := factory
        alarm := ⟨now + fromSeconds 1⟩
        calls := []
        failedChecks := if now + fromSeconds 1 == 0 then [.alarmDeadline] else [] } :=
  setAlarm_eq _ _

theorem Frame.withNotes_eq {before after : SendBuffer} (frame : Frame before after) :
    after.withNotes before.alarm before.failedChecks = after := by
  rw [← frame.alarm, ← frame.failedChecks]
  rfl

theorem sendData_eq (env : Surroundings) (self : SendBuffer) (data : Buffer) :
    (self.sendData env data).1 = UInt64.ofNat (self.buffer.accepted data.bytes).length ∧
    (self.sendData env data).2 = (if self.sends (.sendData data) then
        (self.booked (.sendData data)).transmit env else self.booked (.sendData data)).withNotes
      self.alarm (self.failedChecks ++ self.failedAt (.sendData data)) := by
  have checked : (operations env).check self .sendDataBeforeFIN (self.fin == .none) =
      pure (self.withNotes self.alarm (self.failedChecks ++ self.failedAt (.sendData data))) :=
    check_eq self _ _
  cases full : self.buffer.isFull with
  | true =>
      have none : self.buffer.accepted data.bytes = [] := by
        simp only [BoundedQueue.isFull, beq_iff_eq] at full
        simp [BoundedQueue.accepted, BoundedQueue.free, full]
      have same : self.booked (.sendData data) = self := by
        have unwritten : self.buffer.write data.bytes = self.buffer := by
          apply BoundedQueue.ext
          rw [BoundedQueue.write_items, none, List.append_nil]
        simp only [booked, unwritten, none, List.length_nil]
        simp
      have refused : self.sendData env data = (0, self.withNotes self.alarm
          (self.failedChecks ++ self.failedAt (.sendData data))) := by
        rw [sendData, SendBufferOver.sendData, checked]
        exact if_pos full
      rw [refused, none, sends, full, same]
      exact ⟨rfl, rfl⟩
  | false =>
      have next : (self.tcb.send.next.toUInt64 + UInt64.ofNat
          (self.buffer.accepted data.bytes).length).toUInt32 =
          self.tcb.send.next + UInt32.ofNat (self.buffer.accepted data.bytes).length := by
        simp
      have taken : self.sendData env data = (UInt64.ofNat (self.buffer.accepted data.bytes).length,
          (if self.synAcked then (self.booked (.sendData data)).transmit env
            else self.booked (.sendData data)).withNotes self.alarm
              (self.failedChecks ++ self.failedAt (.sendData data))) := by
        rw [sendData, SendBufferOver.sendData, checked]
        refine (if_neg (Bool.eq_false_iff.mp full)).trans ?_
        rw [booked, ← next]
        cases acked : self.synAcked with
        | true =>
            rw [if_pos rfl, ← transmit_withNotes]
            exact if_pos acked
        | false => exact if_neg (Bool.eq_false_iff.mp acked)
      rw [taken, sends, full]
      exact ⟨rfl, rfl⟩

/-! The state in which `sendSYN` starts to transmit. -/

def synchronized (self : SendBuffer) (initial : SequenceNumber) : SendBuffer :=
  withNotes { self with
    tcb.send := { self.tcb.send with initial := initial, next := initial + 1, unack := initial }
    syn := .sent } self.alarm
      (self.failedChecks ++ if self.fin == .none then [] else [.sendSYNBeforeFIN])

theorem sendSYN_eq (env : Surroundings) (self : SendBuffer) (initial : SequenceNumber) :
    self.sendSYN env initial = (self.synchronized initial).transmit env := by
  have checked : (operations env).check self .sendSYNBeforeFIN (self.fin == .none) =
      pure (self.withNotes self.alarm
        (self.failedChecks ++ if self.fin == .none then [] else [.sendSYNBeforeFIN])) :=
    check_eq self _ _
  rw [sendSYN, SendBufferOver.sendSYN, checked]
  rfl

theorem acknowledgeSYN_eq (self : SendBuffer) (ack : SequenceNumber) :
    self.acknowledgeSYN ack = withNotes { self with
      syn := if self.syn == .sent then .acked else self.syn
      tcb.send.unack := self.acknowledgedFrom } self.alarm
      (self.failedChecks ++
        if self.syn == .sent && !self.tcb.send.greaterThan ack self.tcb.send.initial then
          [.acknowledgeSYN] else []) := by
  unfold acknowledgeSYN SendBufferOver.acknowledgeSYN acknowledgedFrom
  cases phase : self.syn == .sent with
  | true =>
      cases self.tcb.send.greaterThan ack self.tcb.send.initial <;>
        simp [queue, check, withNotes]
  | false => simp [withNotes]

theorem acknowledgeData_eq (self : SendBuffer) (now : TimeBase) (consumed : SequenceNumber) :
    self.acknowledgeData now consumed.toUInt64 = withNotes { self with
      tcb.send.unack := self.tcb.send.unack +
        UInt32.ofNat (min consumed.toNat self.buffer.remaining)
      buffer := self.buffer.consume consumed.toNat
      bytesInFlight := self.bytesInFlight - consumed.toUInt64 }
      (if self.bytesInFlight - consumed.toUInt64 == 0 then
        self.alarm.update (now + fromSeconds 1) else self.alarm) self.failedChecks := by
  unfold acknowledgeData SendBufferOver.acknowledgeData
  simp only [queue, Id.run_bind, Id.run_pure, UInt32.toNat_toUInt64, UInt64.toUInt32_add,
    UInt32.toUInt32_toUInt64, UInt64.toUInt32_ofNat']
  split <;> rfl

theorem acknowledgeFIN_eq (self : SendBuffer) (ack : SequenceNumber) :
    self.acknowledgeFIN ack = withNotes { self with
      fin := if self.acknowledgesFIN ack then .acked else self.fin
      tcb.send.unack := self.tcb.send.unack + if self.acknowledgesFIN ack then 1 else 0 }
      (if self.acknowledgesFIN ack then self.alarm.cancel else self.alarm)
      (self.failedChecks ++
        if self.acknowledgesFIN ack && !self.buffer.isEmpty then [.acknowledgeEmpty] else []) := by
  have test : (self.fin == .sent && self.tcb.send.equal ack self.tcb.send.next) =
      self.acknowledgesFIN ack := by
    rw [SendSpace.equal_eq]
    rfl
  simp only [acknowledgeFIN, SendBufferOver.acknowledgeFIN, test]
  cases self.acknowledgesFIN ack with
  | true => cases empty : self.buffer.isEmpty <;> simp [queue, check, withNotes, empty]
  | false => simp [withNotes]

theorem acknowledge_blocks (env : Surroundings) (self : SendBuffer) (ack : SequenceNumber)
    (now : TimeBase) :
    let ordered := (self.acknowledgeSYN ack).check .acknowledgeOrder
      ((self.acknowledgeSYN ack).tcb.send.greaterOrEqual ack
        (self.acknowledgeSYN ack).tcb.send.unack)
    let consumed := (ack - ordered.tcb.send.unack).toUInt64
    self.acknowledge env ack now =
      if consumed > 0 then
        ((ordered.acknowledgeData now consumed).acknowledgeFIN ack).transmit env
      else (ordered.acknowledgeData now consumed).acknowledgeFIN ack := by
  intro ordered consumed
  rw [acknowledge, SendBufferOver.acknowledge]
  simp only [Id.run_bind]
  rfl

theorem acknowledge_eq (env : Surroundings) (self : SendBuffer) (ack : SequenceNumber)
    (now : TimeBase) :
    self.acknowledge env ack now = (if self.sends (.acknowledge ack now) then
        (self.booked (.acknowledge ack now)).transmit env
        else self.booked (.acknowledge ack now)).withNotes
      (self.alarmAfter (.acknowledge ack now))
      (self.failedChecks ++ self.failedAt (.acknowledge ack now)) := by
  have settled : ((((self.acknowledgeSYN ack).check .acknowledgeOrder
      ((self.acknowledgeSYN ack).tcb.send.greaterOrEqual ack
        (self.acknowledgeSYN ack).tcb.send.unack)).acknowledgeData now
      (self.consumedBy ack).toUInt64).acknowledgeFIN ack) =
      (self.booked (.acknowledge ack now)).withNotes (self.alarmAfter (.acknowledge ack now))
        (self.failedChecks ++ self.failedAt (.acknowledge ack now)) := by
    rw [acknowledgeSYN_eq, check_eq, acknowledgeData_eq, acknowledgeFIN_eq]
    simp only [failedAt, ← List.append_assoc]
    rfl
  have consumed : ack - ((self.acknowledgeSYN ack).check .acknowledgeOrder
      ((self.acknowledgeSYN ack).tcb.send.greaterOrEqual ack
        (self.acknowledgeSYN ack).tcb.send.unack)).tcb.send.unack = self.consumedBy ack := by
    rw [acknowledgeSYN_eq, check_eq]
    rfl
  rw [acknowledge_blocks]
  simp only [consumed, settled, sends, transmit_withNotes, decide_eq_true_eq]
  split <;> rfl

/-- One event is its bookkeeping, then at most one pass of `transmit`. -/
theorem step_eq (env : Surroundings) (self : SendBuffer) (event : SendEvent) :
    self.step env event =
      (if self.sends event then (self.booked event).transmit env else self.booked event).withNotes
        (self.alarmAfter event) (self.failedChecks ++ self.failedAt event) := by
  cases event with
  | sendData data => exact (sendData_eq env self data).2
  | sendFIN =>
      simp only [failedAt, List.append_nil]
      change (if self.buffer.isEmpty = true then (self.booked .sendFIN).transmit env
        else self.booked .sendFIN) = (if self.buffer.isEmpty = true then
          (self.booked .sendFIN).transmit env else self.booked .sendFIN).withNotes _ _
      by_cases empty : self.buffer.isEmpty = true
      · simp only [empty]
        exact ((transmit_frame env (self.booked .sendFIN)).withNotes_eq).symm
      · simp only [empty]
        rfl
  | acknowledge ack now => exact acknowledge_eq env self ack now
  | transmit =>
      simp only [step, sends, booked, alarmAfter, failedAt, List.append_nil, ↓reduceIte]
      exact ((transmit_frame env self).withNotes_eq).symm
  | retransmit now =>
      have frame := transmit_frame env (self.booked (.retransmit now))
      have alarmEq : ((self.booked (.retransmit now)).transmit env).alarm = self.alarm := frame.alarm
      have failedEq : ((self.booked (.retransmit now)).transmit env).failedChecks =
        self.failedChecks := frame.failedChecks
      change ((self.booked (.retransmit now)).transmit env).setAlarm (now + fromSeconds 1) = _
      rw [setAlarm_eq, alarmEq, failedEq]
      rfl
  | receive space =>
      simp only [step, sends, booked, alarmAfter, failedAt, List.append_nil]
      rfl

theorem deadline_isSet (now : Int) (clock : 0 ≤ now) :
    Alarm.isSet ⟨now + fromSeconds 1⟩ = true := by
  have nonzero : now + fromSeconds 1 ≠ 0 := by
    simp only [fromSeconds]
    omega
  exact bne_iff_ne.mpr nonzero

/-- The timer starts the queue again from its front and sets itself once more. -/
theorem fire_eq (env : Surroundings) (self : SendBuffer) (now : TimeBase) :
    self.fire env now = if self.alarm.isSet then
      (transmit env { self with bytesInFlight := 0 }).withNotes
        ⟨now + fromSeconds 1⟩
        (self.failedChecks ++ if now + fromSeconds 1 == 0 then [.alarmDeadline] else [])
      else self := by
  have unset : retransmit env { self with alarm := ⟨0⟩ } now =
      (transmit env { self with bytesInFlight := 0 }).withNotes
        ⟨now + fromSeconds 1⟩
        (self.failedChecks ++ if now + fromSeconds 1 == 0 then [.alarmDeadline] else []) := by
    have start : ({ self with alarm := ⟨0⟩, bytesInFlight := 0 } : SendBuffer) =
        withNotes { self with bytesInFlight := 0 } ⟨0⟩ self.failedChecks := rfl
    change (transmit env { self with alarm := ⟨0⟩, bytesInFlight := 0 }).setAlarm _ = _
    rw [start, transmit_withNotes, setAlarm_eq]
    rfl
  rw [← unset]
  rfl

theorem sent_frame (env : Surroundings) (self : SendBuffer) (event : SendEvent) :
    Frame (self.booked event)
      (if self.sends event then (self.booked event).transmit env else self.booked event) := by
  split
  · exact transmit_frame env (self.booked event)
  · exact Frame.refl (self.booked event)

theorem step_buffer (env : Surroundings) (self : SendBuffer) (event : SendEvent) :
    (self.step env event).buffer = (self.booked event).buffer := by
  rw [step_eq]
  exact (sent_frame env self event).buffer

theorem step_tcb (env : Surroundings) (self : SendBuffer) (event : SendEvent) :
    (self.step env event).tcb = (self.booked event).tcb := by
  rw [step_eq]
  exact (sent_frame env self event).tcb

theorem step_syn (env : Surroundings) (self : SendBuffer) (event : SendEvent) :
    (self.step env event).syn = (self.booked event).syn := by
  rw [step_eq]
  exact (sent_frame env self event).syn

theorem step_fin (env : Surroundings) (self : SendBuffer) (event : SendEvent) :
    (self.step env event).fin = (self.booked event).fin := by
  rw [step_eq]
  exact (sent_frame env self event).fin

theorem step_alarm (env : Surroundings) (self : SendBuffer) (event : SendEvent) :
    (self.step env event).alarm = self.alarmAfter event := by
  rw [step_eq]
  rfl

theorem step_failedChecks (env : Surroundings) (self : SendBuffer) (event : SendEvent) :
    (self.step env event).failedChecks = self.failedChecks ++ self.failedAt event := by
  rw [step_eq]
  rfl

theorem step_bytesInFlight (env : Surroundings) (self : SendBuffer) (event : SendEvent) :
    (self.step env event).bytesInFlight = if self.sends event then
      ((self.booked event).transmit env).bytesInFlight else (self.booked event).bytesInFlight := by
  rw [step_eq]
  simp only [withNotes]
  split <;> rfl

theorem booked_calls (self : SendBuffer) (event : SendEvent) :
    (self.booked event).calls = self.calls := by
  cases event <;> rfl

theorem emitted_eq (env : Surroundings) (self : SendBuffer) (event : SendEvent) :
    self.emitted env event = if self.sends event then
      ((self.booked event).transmit env).calls.drop (self.booked event).calls.length else [] := by
  rw [emitted, step_eq, ← booked_calls self event]
  simp only [withNotes]
  split
  · rfl
  · exact List.drop_length

theorem transmitSYN_bytesInFlight (env : Surroundings) (self : SendBuffer) :
    (self.transmitSYN env).bytesInFlight = self.bytesInFlight := by
  unfold transmitSYN SendBufferOver.transmitSYN
  split <;> rfl

theorem transmit_within (env : Surroundings) (self : SendBuffer)
    (within : self.bytesInFlight.toNat ≤ self.buffer.remaining) :
    (self.transmit env).bytesInFlight.toNat ≤ self.buffer.remaining := by
  rw [transmit_eq]
  split
  · exact within
  · rw [transmitSYN_bytesInFlight]
    exact within
  · exact (transmitLoop_carries env _ self within).1

theorem transmit_closed (env : Surroundings) (self : SendBuffer)
    (closed : ¬self.bytesInFlight < kMaxBytesInFlight) :
    (self.transmit env).bytesInFlight = self.bytesInFlight := by
  rw [transmit_eq]
  split
  · rfl
  · exact transmitSYN_bytesInFlight env self
  · rw [transmitLoop_closed env _ self closed]

theorem step_within (env : Surroundings) (self : SendBuffer) (event : SendEvent)
    (within : (self.booked event).bytesInFlight.toNat ≤ (self.booked event).buffer.remaining) :
    (self.step env event).bytesInFlight.toNat ≤ (self.step env event).buffer.remaining := by
  rw [step_buffer, step_bytesInFlight]
  split
  · exact transmit_within env (self.booked event) within
  · exact within

theorem step_closed (env : Surroundings) (self : SendBuffer) (event : SendEvent)
    (closed : ¬(self.booked event).bytesInFlight < kMaxBytesInFlight) :
    (self.step env event).bytesInFlight = (self.booked event).bytesInFlight := by
  rw [step_bytesInFlight]
  split
  · exact transmit_closed env (self.booked event) closed
  · rfl

theorem step_pending (env : Surroundings) (self : SendBuffer) (event : SendEvent)
    (pendingSYN : (self.booked event).syn = .sent) :
    (self.step env event).bytesInFlight = (self.booked event).bytesInFlight := by
  rw [step_bytesInFlight]
  split
  · simp only [transmit_eq, pendingSYN, transmitSYN_bytesInFlight]
  · rfl

theorem emitted_closed (env : Surroundings) (self : SendBuffer) (event : SendEvent)
    (established : (self.booked event).syn = .acked)
    (closed : ¬(self.booked event).bytesInFlight < kMaxBytesInFlight) :
    self.emitted env event = [] := by
  rw [emitted_eq]
  split
  · simp only [transmit_eq, established]
    rw [transmitLoop_closed env _ _ closed, List.drop_length]
  · rfl

theorem emitted_carries (env : Surroundings) (self : SendBuffer) (event : SendEvent)
    (established : (self.booked event).syn = .acked)
    (within : (self.booked event).bytesInFlight.toNat ≤ (self.booked event).buffer.remaining) :
    ∀ call ∈ self.emitted env event, ∃ offset, (self.booked event).Carries offset call := by
  rw [emitted_eq]
  split
  · simp only [transmit_eq, established]
    obtain ⟨_, added, calls, carried⟩ :=
      transmitLoop_carries env kMaxBytesInFlight.toNat (self.booked event) within
    rw [calls, List.drop_left]
    exact carried
  · simp

/-! The state `sendSYN` starts from, up to the SYN segment itself. -/

def ready (opening : Opening) : SendBuffer :=
  { buffer := BoundedQueue.nil
    tcb := { opening.tcb with send :=
      { opening.tcb.send with
        initial := opening.initial, next := opening.initial + 1, unack := opening.initial } }
    syn := .sent
    fin := .none
    bytesInFlight := 0
    source := opening.source
    destination := opening.destination
    factory := opening.factory
    alarm := Alarm.set ⟨0⟩ (opening.now + fromSeconds 1)
    calls := []
    failedChecks := if opening.now + fromSeconds 1 == 0 then [.alarmDeadline] else [] }

theorem opened_eq (env : Surroundings) (opening : Opening) :
    opened env opening = (ready opening).transmitSYN env := by
  change sendSYN env (SendBufferOver.setDestination (SendBufferOver.setSource
    (create opening.factory opening.tcb opening.now) opening.source) opening.destination)
    opening.initial = _
  rw [create_eq]
  rfl

theorem opened_frame (env : Surroundings) (opening : Opening) :
    Frame (ready opening) (opened env opening) := by
  rw [opened_eq]
  exact transmitSYN_frame env (ready opening)

end SendBuffer

end LabNetstack
