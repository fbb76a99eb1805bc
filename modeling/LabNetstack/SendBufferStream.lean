import LabNetstack.SendBufferAccounting

/-! Every data segment of a sender is a slice of the stream its application wrote. -/

namespace LabNetstack

namespace SendBuffer

-- at most one `sendFIN`, no `sendData` after it, and acknowledgments between unack and next
def streamLawful (self : SendBuffer) : SendEvent → Bool
  | .sendData _ => self.fin == .none
  | .sendFIN => self.fin == .none
  | .acknowledge ack _ =>
      decide (ack - self.tcb.send.unack ≤ self.tcb.send.next - self.tcb.send.unack)
  | _ => true

def finCount (self : SendBuffer) : Nat := if self.fin = .acked then 1 else 0

/-- `acked` bytes of `stream` are acknowledged and the rest is queued. The counter of
bytes in flight points into the queue, or has wrapped by less than 2^33. -/
structure Streamed (initial : SequenceNumber) (stream : List UInt8) (acked : Nat)
    (sender : SendBuffer) : Prop where
  accounted : sender.Accounted
  origin : sender.tcb.send.initial = initial
  taken : acked ≤ stream.length
  items : sender.buffer.items = stream.drop acked
  synPending : sender.syn = .sent → acked = 0 ∧ sender.bytesInFlight = 0
  unack : sender.syn = .acked →
    sender.tcb.send.unack = initial + 1 + UInt32.ofNat (acked + sender.finCount)
  finished : sender.fin = .acked → acked = stream.length
  flight : sender.bytesInFlight.toNat ≤ sender.buffer.remaining ∨
    2 ^ 64 ≤ sender.bytesInFlight.toNat + (acked + sender.finCount) + 2 ^ 32

variable {initial : SequenceNumber} {stream : List UInt8} {acked : Nat} {self : SendBuffer}

theorem Streamed.remaining_eq (streamed : Streamed initial stream acked self) :
    self.buffer.remaining = stream.length - acked := by
  rw [BoundedQueue.remaining, streamed.items, List.length_drop]

theorem finCount_le (self : SendBuffer) : self.finCount ≤ 1 := by
  unfold finCount
  split <;> omega

theorem Streamed.acknowledgedFrom_eq (streamed : Streamed initial stream acked self) :
    self.acknowledgedFrom = initial + 1 + UInt32.ofNat (acked + self.finCount) := by
  unfold acknowledgedFrom
  cases phase : self.syn with
  | none => exact absurd phase streamed.accounted.started
  | sent =>
      have unfinished : self.finCount = 0 := by
        simp [finCount, (streamed.accounted.synPending phase).2]
      simp [streamed.origin, (streamed.synPending phase).1, unfinished]
  | acked => exact streamed.unack phase

/-- The one acknowledgment between unack and next that covers nothing of the SYN. -/
theorem Streamed.ackInRange_or (streamed : Streamed initial stream acked self)
    {ack : SequenceNumber} {now : TimeBase}
    (allowed : self.streamLawful (.acknowledge ack now) = true) :
    self.ackInRange ack = true ∨ (self.syn = .sent ∧ ack = initial) := by
  have between : ack - self.tcb.send.unack ≤ self.tcb.send.next - self.tcb.send.unack := by
    simpa [streamLawful] using allowed
  unfold ackInRange
  cases phase : self.syn == .sent with
  | false =>
      left
      simp only [Bool.false_eq_true, ↓reduceIte, decide_eq_true_eq]
      exact between
  | true =>
      have sent : self.syn = .sent := by simpa using phase
      rw [(streamed.accounted.synPending sent).1] at between
      by_cases nothing : ack = initial
      · exact Or.inr ⟨sent, nothing⟩
      · left
        simp only [↓reduceIte, Bool.and_eq_true, decide_eq_true_eq]
        refine ⟨?_, between⟩
        rw [streamed.origin, UInt32.pos_iff_ne_zero]
        intro zero
        exact nothing (by grind)

/-! An acknowledgment. -/

theorem Streamed.acknowledge_items (streamed : Streamed initial stream acked self)
    (count : Nat) : (self.buffer.consume count).items =
      stream.drop (acked + min count self.buffer.remaining) := by
  have remaining := streamed.remaining_eq
  rw [BoundedQueue.consume_items, streamed.items, List.drop_drop]
  by_cases all : count ≤ self.buffer.remaining
  · rw [Nat.min_eq_left all]
  · rw [List.drop_eq_nil_of_le (by omega), List.drop_eq_nil_of_le (by omega)]

theorem finCount_acknowledge (self : SendBuffer) (ack : SequenceNumber) (now : TimeBase) :
    (self.booked (.acknowledge ack now)).finCount =
      self.finCount + if self.acknowledgesFIN ack then 1 else 0 := by
  unfold finCount
  change (if (if self.acknowledgesFIN ack then .acked else self.fin) = CtlState.acked then 1 else 0) = _
  cases fin : self.acknowledgesFIN ack with
  | true =>
      have sent : self.fin = .sent := by
        simp only [acknowledgesFIN, Bool.and_eq_true, beq_iff_eq] at fin
        exact fin.1
      simp [sent]
  | false => simp

theorem Streamed.acknowledge_unack (streamed : Streamed initial stream acked self)
    (ack : SequenceNumber) (now : TimeBase) :
    (self.booked (.acknowledge ack now)).tcb.send.unack = initial + 1 + UInt32.ofNat
      (acked + min (self.consumedBy ack).toNat self.buffer.remaining +
        (self.booked (.acknowledge ack now)).finCount) := by
  rw [finCount_acknowledge]
  change self.acknowledgedFrom + _ + _ = _
  rw [streamed.acknowledgedFrom_eq]
  cases self.acknowledgesFIN ack with
  | true =>
      simp only [↓reduceIte, UInt32.ofNat_add, UInt32.ofNat_one]
      grind
  | false =>
      simp only [Bool.false_eq_true, ↓reduceIte, UInt32.ofNat_add, Nat.add_zero]
      grind

theorem Streamed.finished_acknowledge (streamed : Streamed initial stream acked self)
    (ack : SequenceNumber) (now : TimeBase)
    (fin : (self.booked (.acknowledge ack now)).fin = .acked) :
    acked + min (self.consumedBy ack).toNat self.buffer.remaining = stream.length := by
  have remaining := streamed.remaining_eq
  have taken := streamed.taken
  change (if self.acknowledgesFIN ack then .acked else self.fin) = CtlState.acked at fin
  cases covers : self.acknowledgesFIN ack with
  | true =>
      have consumed := ((streamed.accounted.acknowledgesFIN_iff ack).mp covers).2
      omega
  | false =>
      rw [covers] at fin
      have all := streamed.finished fin
      omega

/-- The counter after an acknowledgment in range: lowered within the queue, or wrapped. -/
theorem Streamed.flight_acknowledge (streamed : Streamed initial stream acked self)
    (small : stream.length < 2 ^ 32 - 2) {ack : SequenceNumber} (now : TimeBase)
    (inRange : self.ackInRange ack = true) :
    (self.booked (.acknowledge ack now)).bytesInFlight.toNat ≤
        (self.booked (.acknowledge ack now)).buffer.remaining ∨
      2 ^ 64 ≤ (self.booked (.acknowledge ack now)).bytesInFlight.toNat +
        (acked + min (self.consumedBy ack).toNat self.buffer.remaining +
          (self.booked (.acknowledge ack now)).finCount) + 2 ^ 32 := by
  have taken := streamed.taken
  have fewer := self.finCount_le
  have bound := self.remaining_lt
  have moved : min (self.consumedBy ack).toNat self.buffer.remaining +
      (if self.acknowledgesFIN ack then 1 else 0) = (self.consumedBy ack).toNat := by
    have same := congrArg UInt32.toNat (streamed.accounted.moved inRange)
    cases fin : self.acknowledgesFIN ack <;>
      simp only [fin, ↓reduceIte, Bool.false_eq_true, UInt32.toNat_add, UInt32.toNat_ofNat',
        UInt32.toNat_one, UInt32.toNat_zero] at same ⊢ <;> omega
  have lowered : (self.booked (.acknowledge ack now)).bytesInFlight.toNat =
      (2 ^ 64 - (self.consumedBy ack).toNat + self.bytesInFlight.toNat) % 2 ^ 64 := by
    change (self.bytesInFlight - (self.consumedBy ack).toUInt64).toNat = _
    rw [UInt64.toNat_sub, UInt32.toNat_toUInt64]
  have counterBound := self.bytesInFlight.toNat_lt
  have consumedBound := (self.consumedBy ack).toNat_lt
  change _ ≤ (self.buffer.consume _).remaining ∨ _
  rw [finCount_acknowledge, lowered, BoundedQueue.consume_remaining]
  rcases streamed.flight with inside | wrapped <;> omega

/-! The acknowledgment of `initial` itself while the SYN is pending: `consumed` is
2^32 - 1, so the whole queue goes and the counter wraps. -/

theorem Streamed.consumed_initial (streamed : Streamed initial stream acked self)
    (pendingSYN : self.syn = .sent) : (self.consumedBy initial).toNat = 2 ^ 32 - 1 := by
  have base : self.acknowledgedFrom = initial + 1 := by
    simp [acknowledgedFrom, pendingSYN, streamed.origin]
  have small := initial.toNat_lt
  rw [consumedBy, base]
  simp only [UInt32.toNat_sub, UInt32.toNat_add, UInt32.toNat_one]
  omega

theorem Streamed.accounted_initial (streamed : Streamed initial stream acked self)
    (pendingSYN : self.syn = .sent) (now : TimeBase) :
    (self.booked (.acknowledge initial now)).Accounted := by
  have consumed := streamed.consumed_initial pendingSYN
  have bound := self.remaining_lt
  have settled := streamed.accounted.settled initial now
  have noFIN : self.acknowledgesFIN initial = false := by
    rw [← Bool.not_eq_true, streamed.accounted.acknowledgesFIN_iff]
    omega
  refine ⟨?_, ?_, ?_⟩
  · rw [settled]
    decide
  · intro again
    rw [settled] at again
    exact absurd again (by decide)
  · rw [settled]
    change self.tcb.send.next = self.acknowledgedFrom +
      UInt32.ofNat (min (self.consumedBy initial).toNat self.buffer.remaining) +
      (if self.acknowledgesFIN initial then 1 else 0) +
      UInt32.ofNat (self.buffer.consume (self.consumedBy initial).toNat).remaining +
      pending .acked + pending (if self.acknowledgesFIN initial then .acked else self.fin)
    have emptied : (self.buffer.consume (self.consumedBy initial).toNat).remaining = 0 := by
      rw [BoundedQueue.consume_remaining]
      omega
    rw [noFIN, emptied, Nat.min_eq_right (by omega), streamed.accounted.next_from]
    simp [pending]

theorem Streamed.flight_initial (streamed : Streamed initial stream acked self)
    (pendingSYN : self.syn = .sent) (now : TimeBase) :
    2 ^ 64 ≤ (self.booked (.acknowledge initial now)).bytesInFlight.toNat + 2 ^ 32 := by
  have consumed := streamed.consumed_initial pendingSYN
  change 2 ^ 64 ≤ (self.bytesInFlight - (self.consumedBy initial).toUInt64).toNat + 2 ^ 32
  rw [(streamed.synPending pendingSYN).2, UInt64.toNat_sub, UInt32.toNat_toUInt64, consumed]
  decide

theorem Streamed.acknowledge (streamed : Streamed initial stream acked self)
    (small : stream.length < 2 ^ 32 - 2) {ack : SequenceNumber} {now : TimeBase}
    (allowed : self.streamLawful (.acknowledge ack now) = true) :
    Streamed initial stream (acked + min (self.consumedBy ack).toNat self.buffer.remaining)
      (self.booked (.acknowledge ack now)) := by
  have settled := streamed.accounted.settled ack now
  have remaining := streamed.remaining_eq
  have taken := streamed.taken
  have books : (self.booked (.acknowledge ack now)).Accounted ∧
      ((self.booked (.acknowledge ack now)).bytesInFlight.toNat ≤
        (self.booked (.acknowledge ack now)).buffer.remaining ∨
      2 ^ 64 ≤ (self.booked (.acknowledge ack now)).bytesInFlight.toNat +
        (acked + min (self.consumedBy ack).toNat self.buffer.remaining +
          (self.booked (.acknowledge ack now)).finCount) + 2 ^ 32) := by
    rcases streamed.ackInRange_or allowed with inRange | ⟨pendingSYN, rfl⟩
    · exact ⟨streamed.accounted.booked _ inRange, streamed.flight_acknowledge small now inRange⟩
    · refine ⟨streamed.accounted_initial pendingSYN now, Or.inr ?_⟩
      have wrapped := streamed.flight_initial pendingSYN now
      omega
  exact
    { accounted := books.1
      origin := streamed.origin
      taken := by omega
      items := streamed.acknowledge_items _
      synPending := fun again => by
        rw [settled] at again
        exact absurd again (by decide)
      unack := fun _ => streamed.acknowledge_unack ack now
      finished := streamed.finished_acknowledge ack now
      flight := books.2 }

/-! The other events, and the sends that follow them. -/

theorem accepted_sendData (env : Surroundings) (self : SendBuffer) (data : Buffer) :
    self.accepted env (.sendData data) = self.buffer.accepted data.bytes := by
  simp only [accepted, (sendData_eq env self data).1, accepted_toNat]
  rw [BoundedQueue.accepted_length, BoundedQueue.accepted]
  by_cases fits : data.bytes.length ≤ self.buffer.free
  · rw [Nat.min_eq_left fits, List.take_length, List.take_of_length_le fits]
  · rw [Nat.min_eq_right (by omega)]

theorem Streamed.sendData (streamed : Streamed initial stream acked self) (data : Buffer)
    (allowed : self.streamLawful (.sendData data) = true) :
    Streamed initial (stream ++ self.buffer.accepted data.bytes) acked
      (self.booked (.sendData data)) := by
  have unsent : self.fin = .none := by simpa [streamLawful] using allowed
  have taken := streamed.taken
  exact
    { accounted := streamed.accounted.booked _ allowed
      origin := streamed.origin
      taken := by
        rw [List.length_append]
        omega
      items := by
        rw [List.drop_append_of_le_length taken, ← streamed.items]
        rfl
      synPending := streamed.synPending
      unack := streamed.unack
      finished := fun fin => by
        change self.fin = .acked at fin
        rw [unsent] at fin
        exact absurd fin (by decide)
      flight := by
        refine streamed.flight.imp_left fun inside => ?_
        change self.bytesInFlight.toNat ≤ (self.buffer.write data.bytes).remaining
        rw [BoundedQueue.write_remaining]
        omega }

theorem Streamed.sendFIN (streamed : Streamed initial stream acked self)
    (allowed : self.streamLawful .sendFIN = true) :
    Streamed initial stream acked (self.booked .sendFIN) := by
  have unsent : self.fin = .none := by simpa [streamLawful] using allowed
  have count : (self.booked .sendFIN).finCount = self.finCount := by
    simp [finCount, booked, unsent]
  exact
    { accounted := streamed.accounted.booked _ allowed
      origin := streamed.origin
      taken := streamed.taken
      items := streamed.items
      synPending := streamed.synPending
      unack := by
        rw [count]
        exact streamed.unack
      finished := fun fin => absurd fin (by simp [booked])
      flight := by
        rw [count]
        exact streamed.flight }

theorem Streamed.booked (streamed : Streamed initial stream acked self) (env : Surroundings)
    (small : stream.length < 2 ^ 32 - 2) (event : SendEvent)
    (allowed : self.streamLawful event = true) :
    ∃ acked, Streamed initial (stream ++ self.accepted env event) acked (self.booked event) := by
  cases event with
  | sendData data =>
      rw [accepted_sendData]
      exact ⟨acked, streamed.sendData data allowed⟩
  | sendFIN =>
      simp only [accepted, List.append_nil]
      exact ⟨acked, streamed.sendFIN allowed⟩
  | acknowledge ack now =>
      simp only [accepted, List.append_nil]
      exact ⟨_, streamed.acknowledge small allowed⟩
  | transmit =>
      simp only [accepted, List.append_nil]
      exact ⟨acked, streamed⟩
  | retransmit now =>
      simp only [accepted, List.append_nil]
      exact ⟨acked,
        { streamed with
          accounted := streamed.accounted.booked _ rfl
          synPending := fun pendingSYN => ⟨(streamed.synPending pendingSYN).1, rfl⟩
          flight := Or.inl (Nat.zero_le _) }⟩
  | receive space =>
      simp only [accepted, List.append_nil]
      exact ⟨acked, { streamed with accounted := streamed.accounted.booked _ rfl }⟩

/-- A wrapped counter keeps the loop of `transmit` from starting. -/
theorem Streamed.closed (streamed : Streamed initial stream acked self)
    (small : stream.length < 2 ^ 32 - 2)
    (wrapped : 2 ^ 64 ≤ self.bytesInFlight.toNat + (acked + self.finCount) + 2 ^ 32) :
    ¬self.bytesInFlight < kMaxBytesInFlight := by
  have taken := streamed.taken
  have fewer := self.finCount_le
  rw [UInt64.lt_iff_toNat_lt, kMaxBytesInFlight_toNat]
  omega

theorem Streamed.sent {event : SendEvent}
    (streamed : Streamed initial stream acked (self.booked event))
    (small : stream.length < 2 ^ 32 - 2) (env : Surroundings) :
    Streamed initial stream acked (self.step env event) := by
  have buffer := step_buffer env self event
  have tcb := step_tcb env self event
  have syn := step_syn env self event
  have fin := step_fin env self event
  have count : (self.step env event).finCount = (self.booked event).finCount := by
    unfold finCount
    rw [fin]
  refine ⟨streamed.accounted.of_same buffer (congrArg ControlBlock.send tcb) syn fin, ?_,
    streamed.taken, ?_, ?_, ?_, ?_, ?_⟩
  · rw [tcb]
    exact streamed.origin
  · rw [buffer]
    exact streamed.items
  · intro pendingSYN
    rw [syn] at pendingSYN
    rw [step_pending env self event pendingSYN]
    exact streamed.synPending pendingSYN
  · rw [syn, tcb, count]
    exact streamed.unack
  · rw [fin]
    exact streamed.finished
  · rcases streamed.flight with inside | wrapped
    · exact Or.inl (step_within env self event inside)
    · rw [step_closed env self event (streamed.closed small wrapped), count]
      exact Or.inr wrapped

theorem opened_streamed (env : Surroundings) (opening : Opening) :
    Streamed opening.initial [] 0 (opened env opening) := by
  have frame := opened_frame env opening
  have flight : (opened env opening).bytesInFlight = 0 := by
    rw [opened_eq, transmitSYN_bytesInFlight]
    rfl
  exact
    { accounted := opened_accounted env opening
      origin := by
        rw [frame.tcb]
        rfl
      taken := Nat.le_refl _
      items := by
        rw [frame.buffer]
        rfl
      synPending := fun _ => ⟨rfl, flight⟩
      unack := by
        rw [frame.syn]
        simp [ready]
      finished := fun _ => rfl
      flight := by
        left
        rw [flight]
        exact Nat.zero_le _ }

/-! Runs. -/

def StreamLawfulRun (env : Surroundings) (self : SendBuffer) (events : List SendEvent) : Prop :=
  Permitted (step env) (fun state event => state.streamLawful event = true) self events

theorem stream_append (env : Surroundings) (self : SendBuffer) (first second : List SendEvent) :
    self.stream env (first ++ second) =
      self.stream env first ++ (self.run env first).stream env second := by
  induction first generalizing self with
  | nil => rfl
  | cons event events ih =>
      simp only [List.cons_append, SendBuffer.stream, ih, List.append_assoc]
      rfl

theorem Streamed.run (streamed : Streamed initial stream acked self) (env : Surroundings)
    (events : List SendEvent) (lawful : StreamLawfulRun env self events)
    (small : (stream ++ self.stream env events).length < 2 ^ 32 - 2) :
    ∃ acked, Streamed initial (stream ++ self.stream env events) acked (self.run env events) := by
  induction events generalizing self stream acked with
  | nil =>
      simp only [SendBuffer.stream, List.append_nil]
      exact ⟨acked, streamed⟩
  | cons event events ih =>
      obtain ⟨allowed, later⟩ := lawful
      simp only [SendBuffer.stream, ← List.append_assoc] at small ⊢
      have bounds : stream.length < 2 ^ 32 - 2 ∧
          (stream ++ self.accepted env event).length < 2 ^ 32 - 2 := by
        simp only [List.length_append] at small ⊢
        omega
      obtain ⟨moved, booked⟩ := streamed.booked env bounds.1 event allowed
      exact ih (booked.sent bounds.2 env) later small

/-- Nothing joins the stream once a FIN is sent. -/
theorem stream_closed (env : Surroundings) (self : SendBuffer) (events : List SendEvent)
    (lawful : StreamLawfulRun env self events) (closed : self.fin ≠ .none) :
    self.stream env events = [] := by
  induction events generalizing self with
  | nil => rfl
  | cons event events ih =>
      obtain ⟨allowed, later⟩ := lawful
      have nothing : self.accepted env event = [] := by
        cases event with
        | sendData data => exact absurd (by simpa [streamLawful] using allowed) closed
        | sendFIN => rfl
        | acknowledge ack now => rfl
        | transmit => rfl
        | retransmit now => rfl
        | receive space => rfl
      have still : (self.step env event).fin ≠ .none := by
        rw [step_fin]
        cases event with
        | sendFIN => simp [booked]
        | acknowledge ack now =>
            simp only [booked]
            split
            · decide
            · exact closed
        | sendData data => exact closed
        | transmit => exact closed
        | retransmit now => exact closed
        | receive space => exact closed
      rw [SendBuffer.stream, nothing, ih _ later still]
      rfl

theorem sendFIN_mem (env : Surroundings) (self : SendBuffer) (events : List SendEvent)
    (open_ : self.fin = .none) (closed : (self.run env events).fin ≠ .none) :
    SendEvent.sendFIN ∈ events := by
  induction events generalizing self with
  | nil => exact absurd open_ closed
  | cons event events ih =>
      by_cases last : event = .sendFIN
      · rw [last]
        exact List.mem_cons_self
      · have still : (self.step env event).fin = .none := by
          rw [step_fin]
          cases event with
          | sendFIN => exact absurd rfl last
          | acknowledge ack now => simp [booked, acknowledgesFIN, open_]
          | sendData data => exact open_
          | transmit => exact open_
          | retransmit now => exact open_
          | receive space => exact open_
        exact List.mem_cons_of_mem event (ih _ still closed)

/-! What the calls of an established sender carry. -/

theorem Streamed.carries (streamed : Streamed initial stream acked self)
    (small : stream.length < 2 ^ 32 - 2) (established : self.syn = .acked) {offset : Nat}
    {call : PacketCall} (carries : self.Carries offset call) :
    (call.segment.sequence - initial - 1).toNat = acked + offset ∧
      acked + offset ≤ stream.length ∧
      call.segment.payload = (stream.drop (acked + offset)).take 1460 ∧
      (call.segment.isFIN = true →
        self.fin = .sent ∧ acked + offset + call.segment.payload.length = stream.length) := by
  have remaining := streamed.remaining_eq
  have within := carries.within
  have taken := streamed.taken
  have slice : call.segment.payload = (stream.drop (acked + offset)).take 1460 := by
    rw [carries.payload, BoundedQueue.peek, streamed.items, List.drop_drop]
  have unfinished : self.fin ≠ .acked := by
    intro fin
    have all := streamed.finished fin
    rcases carries.busy with payload | sent
    · refine payload ?_
      rw [slice, List.drop_eq_nil_of_le (by omega)]
      rfl
    · rw [fin] at sent
      exact absurd sent (by decide)
  have count : self.finCount = 0 := by simp [finCount, unfinished]
  have sequence : call.segment.sequence = initial + 1 + UInt32.ofNat (acked + offset) := by
    rw [carries.sequence, streamed.unack established, count, Nat.add_zero, UInt32.ofNat_add]
    grind
  refine ⟨?_, by omega, slice, ?_⟩
  · have distance : call.segment.sequence - initial - 1 = UInt32.ofNat (acked + offset) := by
      rw [sequence]
      grind
    rw [distance, UInt32.toNat_ofNat']
    omega
  · intro isFIN
    obtain ⟨sent, last⟩ := carries.fin isFIN
    refine ⟨sent, ?_⟩
    have fits : call.segment.payload.length ≤ stream.length - (acked + offset) := by
      rw [slice, List.length_take, List.length_drop]
      omega
    have next := streamed.accounted.next_from
    rw [streamed.acknowledgedFrom_eq, count, sent] at next
    have ends : UInt32.ofNat (acked + offset + call.segment.payload.length) =
        UInt32.ofNat stream.length := by
      have whole : stream.length = acked + self.buffer.remaining := by omega
      rw [sequence, next] at last
      rw [whole]
      simp only [pending, ↓reduceIte, UInt32.ofNat_add, Nat.add_zero] at last ⊢
      grind
    have endsNat := congrArg UInt32.toNat ends
    simp only [UInt32.toNat_ofNat'] at endsNat
    omega

theorem slice_extends {stream later payload : List UInt8} {index limit : Nat}
    (bound : index ≤ stream.length) (slice : payload = (stream.drop index).take limit) :
    payload = ((stream ++ later).drop index).take payload.length ∧
      index + payload.length ≤ stream.length ∧ payload.length ≤ limit := by
  have length := congrArg List.length slice
  rw [List.length_take, List.length_drop] at length
  refine ⟨?_, by omega, by omega⟩
  rw [List.drop_append_of_le_length bound,
    List.take_append_of_le_length (by rw [List.length_drop]; omega)]
  rw [slice, List.length_take, ← List.take_eq_take_min]

/-- Each segment sent once the SYN is acknowledged holds the stream's bytes at its own
sequence number, and a FIN only stands at the end of the stream. -/
theorem stream_integrity (env : Surroundings) (opening : Opening) (events : List SendEvent)
    (lawful : StreamLawfulRun env (opened env opening) events)
    (small : ((opened env opening).stream env events).length < 2 ^ 32 - 2) :
    let stream := (opened env opening).stream env events
    ∀ before event after, events = before ++ event :: after →
      let state := (opened env opening).run env before
      (state.step env event).syn = .acked →
      ∀ call ∈ state.emitted env event,
        let index := (call.segment.sequence - opening.initial - 1).toNat
        let payload := call.segment.payload
        payload = (stream.drop index).take payload.length ∧
        index + payload.length ≤ stream.length ∧
        payload.length ≤ 1460 ∧
        (call.segment.isFIN = true →
          index + payload.length = stream.length ∧ SendEvent.sendFIN ∈ before ++ [event]) := by
  intro stream before event after split state established call member index payload
  subst split
  change stream.length < 2 ^ 32 - 2 at small
  obtain ⟨lawfulBefore, allowed, lawfulAfter⟩ := permitted_append.mp lawful
  have whole : stream = ((opened env opening).stream env before ++ state.accepted env event) ++
      (state.step env event).stream env after := by
    simp only [stream, stream_append, SendBuffer.stream, List.append_assoc]
    rfl
  have smallBooked : ((opened env opening).stream env before ++
      state.accepted env event).length < 2 ^ 32 - 2 := by
    have length := congrArg List.length whole
    rw [List.length_append] at length
    omega
  have smallBefore : ([] ++ (opened env opening).stream env before).length < 2 ^ 32 - 2 := by
    rw [List.length_append] at smallBooked
    simp only [List.nil_append]
    omega
  obtain ⟨_, streamedBefore⟩ :=
    (opened_streamed env opening).run env before lawfulBefore smallBefore
  obtain ⟨acked, streamed⟩ := streamedBefore.booked env smallBefore event allowed
  rw [List.nil_append] at streamed
  change Streamed _ (_ ++ state.accepted env event) acked (state.booked event) at streamed
  rw [step_syn] at established
  rcases streamed.flight with inside | wrapped
  · obtain ⟨offset, carried⟩ := emitted_carries env state event established inside call member
    obtain ⟨position, bound, slice, fin⟩ := streamed.carries smallBooked established carried
    rw [← position] at bound slice fin
    change index ≤ _ at bound
    change payload = List.take 1460 (List.drop index _) at slice
    obtain ⟨found, fits, limit⟩ := slice_extends bound slice
    refine ⟨?_, ?_, limit, ?_⟩
    · rw [whole]
      exact found
    · rw [whole, List.length_append]
      omega
    · intro isFIN
      obtain ⟨sent, ends⟩ := fin isFIN
      have closed : (state.step env event).fin ≠ .none := by
        rw [step_fin, sent]
        decide
      have nothing : (state.step env event).stream env after = [] :=
        stream_closed env _ after lawfulAfter closed
      refine ⟨?_, ?_⟩
      · rw [whole, nothing, List.append_nil]
        exact ends
      · refine sendFIN_mem env (opened env opening) (before ++ [event])
          (opened_frame env opening).fin ?_
        rw [SendBuffer.run, runEvents_append]
        exact closed
  · have none := emitted_closed env state event established (streamed.closed smallBooked wrapped)
    rw [none] at member
    exact absurd member List.not_mem_nil

def closingCall : PacketCall :=
  { source := sampleOpening.source
    destination := sampleOpening.destination
    segment := sampleOpening.factory.createSegment 0 0 (Segment.ACK ||| Segment.FIN)
      ⟨sampleBytes.bytes, 0⟩ 3
    accepted := true }

theorem closingCall_integrity :
    let before : List SendEvent := [.sendData sampleBytes, .acknowledge 0 10, .sendFIN]
    let state := (opened quietHost sampleOpening).run quietHost before
    let stream := (opened quietHost sampleOpening).stream quietHost closingRun
    StreamLawfulRun quietHost (opened quietHost sampleOpening) closingRun ∧
      stream.length < 2 ^ 32 - 2 ∧ (state.step quietHost (.retransmit 20)).syn = .acked ∧
      closingCall ∈ state.emitted quietHost (.retransmit 20) ∧
      closingCall.segment.payload = (stream.drop 0).take 3 ∧
      0 + closingCall.segment.payload.length = stream.length := by
  intro before state stream
  have lawful : StreamLawfulRun quietHost (opened quietHost sampleOpening) closingRun :=
    ⟨rfl, rfl, rfl, rfl, rfl, trivial⟩
  have small : stream.length < 2 ^ 32 - 2 := by decide
  have established : (state.step quietHost (.retransmit 20)).syn = .acked := by decide
  have member : closingCall ∈ state.emitted quietHost (.retransmit 20) := by decide
  have facts := stream_integrity quietHost sampleOpening closingRun lawful small before
    (.retransmit 20) [.acknowledge 2 30] rfl established closingCall member
  exact ⟨lawful, small, established, member, facts.1, (facts.2.2.2 rfl).1⟩

end SendBuffer

end LabNetstack
