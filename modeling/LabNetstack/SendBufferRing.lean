import LabNetstack.RingBuffer
import LabNetstack.SendBuffer
import LabNetstack.SendBufferRingCore

/-! `SendBuffer` over the ring buffer against `SendBuffer` over the byte queue, operation by
operation. The two may differ in `send.next` and in the state of the FIN, as they do after bytes
were lost, as long as both see the end of the stream at the same places. -/

namespace LabNetstack

namespace RingBuffer

variable {capacity : Nat} {ring : RingBuffer} {queue : BoundedQueue UInt8 capacity}

theorem Represents.empty_eq (represents : ring.Represents queue) : ring.empty = queue.isEmpty := by
  rw [Bool.eq_iff_iff, represents.valid.empty_iff, BoundedQueue.isEmpty, beq_iff_eq,
    represents.queued]

theorem Represents.full_eq (represents : ring.Represents queue) : ring.full = queue.isFull := by
  rw [Bool.eq_iff_iff, represents.valid.full_iff, BoundedQueue.isFull, beq_iff_eq,
    represents.queued, represents.size]

theorem Represents.readOffset_eq (represents : ring.Represents queue) (build : Build)
    {offset : UInt64} (within : offset.toNat ≤ queue.remaining) (length : UInt64) :
    ring.readOffset build offset length =
      .done (UInt64.ofNat (queue.peek offset.toNat length.toNat).length,
        queue.peek offset.toNat length.toNat) := by
  have queued := represents.queued
  obtain ⟨count, counted, read⟩ :=
    readOffset_spec build represents.valid offset length (by omega)
  have same : count = UInt64.ofNat (queue.peek offset.toNat length.toNat).length := by
    rw [← UInt64.toNat_inj, BoundedQueue.peek_length, UInt64.toNat_ofNat_of_lt', counted, queued]
    have bound := length.toNat_lt
    simp only [UInt64.size]
    omega
  rw [read, same, represents.contents]
  rfl

theorem Represents.consume_eq (represents : ring.Represents queue) (build : Build)
    (length : UInt64) : ring.consume build length =
      .done (UInt64.ofNat (min length.toNat queue.remaining),
        ring.advance (min length ring.remaining)) := by
  have removed : min length ring.remaining = UInt64.ofNat (min length.toNat queue.remaining) := by
    have bound := length.toNat_lt
    rw [← UInt64.toNat_inj, represents.valid.min_remaining, represents.queued,
      UInt64.toNat_ofNat_of_lt']
    simp only [UInt64.size]
    omega
  rw [consume_spec build represents.valid, removed]

theorem Represents.write_stored (represents : ring.Represents queue) (build : Build)
    {data : Buffer} (open_ : ring.writable (.write data) = true) : ∃ next,
      ring.write build data = .done (UInt64.ofNat (queue.accepted data.bytes).length, next) ∧
      next.Represents (queue.write data.bytes) := by
  obtain ⟨next, performed, represented⟩ := perform_write build represents data open_
  obtain ⟨⟨count, after⟩, written, seen⟩ := Outcome.bind_eq_done.mp performed
  simp only [Outcome.pure_eq, Outcome.done.injEq, Prod.mk.injEq] at seen
  obtain ⟨observed, rfl⟩ := seen
  have counted : count.toNat = (queue.accepted data.bytes).length :=
    congrArg Observation.count observed
  refine ⟨after, ?_, represented⟩
  rw [written, ← counted, UInt64.ofNat_toNat]

/-- A write that is lost leaves the queued bytes as they are. -/
theorem Represents.write_lost (represents : ring.Represents queue) (build : Build) {data : Buffer}
    (closed : ring.writable (.write data) = false) :
    ring.full = false ∧ 0 < (queue.accepted data.bytes).length ∧ ∃ next,
      ring.write build data = .done (UInt64.ofNat (queue.accepted data.bytes).length, next) ∧
      next.Represents queue := by
  have valid := represents.valid
  have queued := represents.queued
  have size := represents.size
  simp only [writable, Bool.or_eq_false_iff, beq_eq_false_iff_ne, decide_eq_false_iff_not] at closed
  obtain ⟨⟨some, notFull⟩, late⟩ := closed
  have room : ring.queued < ring.size.toNat := by
    have bound := valid.queued_le
    have notAll : ¬ring.queued = ring.size.toNat := by
      rw [← valid.full_iff, notFull]
      exact Bool.false_ne_true
    omega
  have endsLate : ring.size.toNat ≤ ring.end_.toNat := by
    simpa [UInt64.lt_iff_toNat_lt] using late
  have positive : 0 < data.bytes.length := by
    rw [← Buffer.length_toNat]
    exact Nat.pos_of_ne_zero fun zero => some (UInt64.toNat_inj.mp zero)
  have counted : (min data.length ring.free).toNat = (queue.accepted data.bytes).length := by
    rw [valid.min_free, BoundedQueue.accepted_length, BoundedQueue.free, size, queued]
  have count : min data.length ring.free = UInt64.ofNat (queue.accepted data.bytes).length := by
    rw [← counted, UInt64.ofNat_toNat]
  have written := write_stuck build valid data room endsLate
  rw [count] at written
  refine ⟨notFull, ?_, _, written, ?_⟩
  · rw [BoundedQueue.accepted_length, BoundedQueue.free]
    omega
  · obtain ⟨sizeBound, storage, beginBound, ordered, window⟩ := valid
    have stop : ring.begin_.toNat + ring.queued = ring.end_.toNat := by
      simp only [RingBuffer.queued]
      omega
    have block : (data.bytes.take (ring.size.toNat - ring.queued)).length ≤
        ring.size.toNat - ring.queued := by
      rw [List.length_take]
      exact Nat.min_le_left _ _
    have fits : ring.end_.toNat - ring.size.toNat +
        (data.bytes.take (ring.size.toNat - ring.queued)).length ≤ ring.buffer.length := by
      omega
    have kept : ringSlice (splice ring.buffer (ring.end_.toNat - ring.size.toNat)
        (data.bytes.take (ring.size.toNat - ring.queued))) ring.begin_.toNat ring.queued =
        ring.contents :=
      ringSlice_splice_clear (by omega) fits (Or.inr ⟨by omega, by omega⟩)
    exact ⟨⟨sizeBound, (splice_length fits).trans storage, beginBound, ordered, window⟩, size,
      kept.trans represents.contents⟩

/-! How far the queued bytes reach into the storage. -/

theorem Valid.write_end (valid : ring.Valid) {build : Build} {data : Buffer} {count : UInt64}
    {next : RingBuffer} (written : ring.write build data = .done (count, next)) :
    next.end_.toNat ≤ ring.end_.toNat + data.bytes.length := by
  by_cases isFull : ring.queued = ring.size.toNat
  · rw [write, if_pos (valid.full_iff.mpr isFull)] at written
    cases written
    exact Nat.le_add_right _ _
  have room : ring.queued < ring.size.toNat := Nat.lt_of_le_of_ne valid.queued_le isFull
  by_cases early : ring.end_.toNat < ring.size.toNat
  · rw [write_eq build valid data room early] at written
    cases written
    have taken := valid.min_free data
    have bound := UInt64.toNat_add ring.end_ (min data.length ring.free)
    have clipped := Nat.mod_le (ring.end_.toNat + (min data.length ring.free).toNat) (2 ^ 64)
    change (ring.end_ + min data.length ring.free).toNat ≤ _
    omega
  · rw [write_stuck build valid data room (Nat.le_of_not_lt early)] at written
    cases written
    exact Nat.le_add_right _ _

theorem Valid.advance_end (valid : ring.Valid) {count : UInt64} (bound : count.toNat ≤ ring.queued) :
    (ring.advance count).end_.toNat ≤ ring.end_.toNat := by
  have ordered := valid.ordered
  have sum := valid.add_begin (Nat.le_trans bound valid.queued_le)
  simp only [queued] at bound
  unfold RingBuffer.advance
  split
  next past =>
    have reached : ring.size.toNat ≤ ring.begin_.toNat + count.toNat := by
      rw [← sum]
      exact UInt64.le_iff_toNat_le.mp past
    change (ring.end_ - ring.size).toNat ≤ _
    rw [UInt64.toNat_sub_of_le _ _ (UInt64.le_iff_toNat_le.mpr (by omega))]
    exact Nat.sub_le _ _
  next => exact Nat.le_refl _

end RingBuffer

namespace SendBuffer

theorem failedAt_acknowledge {self : SendBuffer} {ack : SequenceNumber} {now : TimeBase}
    (clean : self.failedAt (.acknowledge ack now) = []) :
    (self.syn = .sent → self.tcb.send.greaterThan ack self.tcb.send.initial = true) ∧
      self.tcb.send.greaterOrEqual ack self.acknowledgedFrom = true ∧
      (self.acknowledgesFIN ack = true →
        (self.buffer.consume (self.consumedBy ack).toNat).isEmpty = true) := by
  simp only [failedAt, List.append_eq_nil_iff, ite_eq_right_iff, ite_eq_left_iff, reduceCtorEq,
    imp_false, Bool.and_eq_true, beq_iff_eq, Bool.not_eq_true', not_and, Bool.not_eq_false,
    Bool.not_eq_true] at clean
  exact ⟨clean.1.1, clean.1.2, clean.2⟩

end SendBuffer

namespace RingSendBuffer

def sent (self : RingSendBuffer) (flight : UInt64) (calls : List PacketCall) : RingSendBuffer :=
  { self with bytesInFlight := flight, calls := calls }

def mirror (self : RingSendBuffer) (queue : BoundedQueue UInt8 kSendBufferSize)
    (next : SequenceNumber) (fin : CtlState) : SendBuffer where
  buffer := queue
  tcb := { self.tcb with send.next := next }
  syn := self.syn
  fin := fin
  bytesInFlight := self.bytesInFlight
  source := self.source
  destination := self.destination
  factory := self.factory
  alarm := self.alarm
  calls := self.calls
  failedChecks := []

structure Agrees (actual : RingSendBuffer) (queue : BoundedQueue UInt8 kSendBufferSize)
    (next : SequenceNumber) (fin : CtlState) : Prop where
  buffer : actual.buffer.Represents queue
  ends : ∀ offset, offset ≤ queue.remaining →
    (actual.fin == .sent && actual.tcb.send.unack + UInt32.ofNat offset + 1 == actual.tcb.send.next) =
      (fin == .sent && actual.tcb.send.unack + UInt32.ofNat offset + 1 == next)

variable {actual : RingSendBuffer} {queue : BoundedQueue UInt8 kSendBufferSize}
  {next : SequenceNumber} {fin : CtlState} {env : Surroundings} {build : Build}

theorem check_done {site : SendCheck} {condition : Bool} (holds : condition = true) :
    (ring build).check actual site condition = .done actual :=
  Outcome.bind_of_done (dcheck_done holds) rfl

/-! One round of the loop, and the loop. -/

theorem Agrees.nextPayload_eq (agrees : actual.Agrees queue next fin) (build : Build)
    (within : actual.bytesInFlight.toNat ≤ queue.remaining) :
    (actual.mirror queue next fin).nextPayload env = queue.peek actual.bytesInFlight.toNat 1460 ∧
    actual.buffer.readOffset build actual.bytesInFlight kMaxSegmentSize =
      .done (UInt64.ofNat ((actual.mirror queue next fin).nextPayload env).length,
        (actual.mirror queue next fin).nextPayload env) := by
  have payload : (actual.mirror queue next fin).nextPayload env =
      queue.peek actual.bytesInFlight.toNat 1460 := by
    rw [SendBuffer.nextPayload, SendBuffer.readOffset]
    exact if_pos within
  refine ⟨payload, ?_⟩
  rw [payload]
  exact agrees.buffer.readOffset_eq build within kMaxSegmentSize

theorem nextSequence_mirror (actual : RingSendBuffer) (queue : BoundedQueue UInt8 kSendBufferSize)
    (next : SequenceNumber) (fin : CtlState) :
    (actual.tcb.send.unack.toUInt64 + actual.bytesInFlight).toUInt32 =
      (actual.mirror queue next fin).nextSequence := by
  rw [UInt64.toUInt32_add, UInt32.toUInt32_toUInt64]
  rfl

theorem Agrees.piggybacks_eq (agrees : actual.Agrees queue next fin)
    (within : actual.bytesInFlight.toNat ≤ queue.remaining) :
    (actual.fin == .sent && actual.tcb.send.equal
      ((actual.mirror queue next fin).nextSequence.toUInt64 +
        UInt64.ofNat ((actual.mirror queue next fin).nextPayload env).length + 1).toUInt32
      actual.tcb.send.next) = (actual.mirror queue next fin).piggybacks env := by
  obtain ⟨payload, _⟩ := @Agrees.nextPayload_eq _ _ _ _ env agrees .release within
  have reach : actual.bytesInFlight.toNat +
      ((actual.mirror queue next fin).nextPayload env).length ≤ queue.remaining := by
    rw [payload, BoundedQueue.peek_length]
    omega
  have number : actual.tcb.send.unack + UInt32.ofNat (actual.bytesInFlight.toNat +
      ((actual.mirror queue next fin).nextPayload env).length) + 1 =
      (actual.mirror queue next fin).nextSequence +
        UInt32.ofNat ((actual.mirror queue next fin).nextPayload env).length + 1 := by
    rw [UInt32.ofNat_add, ← UInt32.add_assoc]
    simp [SendBuffer.nextSequence, mirror]
  have same := agrees.ends _ reach
  rw [number] at same
  have successor : ((actual.mirror queue next fin).nextSequence.toUInt64 +
      UInt64.ofNat ((actual.mirror queue next fin).nextPayload env).length + 1).toUInt32 =
      (actual.mirror queue next fin).nextSequence +
        UInt32.ofNat ((actual.mirror queue next fin).nextPayload env).length + 1 := by
    simp
  rw [SendSpace.equal_eq, successor]
  exact same

theorem Agrees.transmitRound_eq (agrees : actual.Agrees queue next fin) (build : Build)
    (within : actual.bytesInFlight.toNat ≤ queue.remaining) :
    ∃ flight calls, flight.toNat ≤ queue.remaining ∧
      SendBufferOver.transmitRound (operations build env.accepts) actual =
        .done (((actual.mirror queue next fin).transmitRound env).1, actual.sent flight calls) ∧
      ((actual.mirror queue next fin).transmitRound env).2 =
        (actual.sent flight calls).mirror queue next fin := by
  obtain ⟨payload, read⟩ := @Agrees.nextPayload_eq _ _ _ _ env agrees build within
  have sequence := nextSequence_mirror actual queue next fin
  have inside : (actual.bytesInFlight +
      UInt64.ofNat ((actual.mirror queue next fin).nextPayload env).length).toNat ≤
      queue.remaining := by
    have bound : queue.remaining ≤ 262144 := queue.remaining_le
    rw [UInt64.toNat_add, SendBuffer.nextLength_toNat, payload, BoundedQueue.peek_length]
    omega
  have piggyback := @Agrees.piggybacks_eq _ _ _ _ env agrees within
  have zero := SendBuffer.nextLength_eq_zero env (actual.mirror queue next fin)
  rw [SendBuffer.transmitRound_eq]
  simp only [SendBufferOver.transmitRound, operations, ring, read, Outcome.done_bind, sequence,
    piggyback, SendBufferOver.sendSegment, Outcome.pure_eq]
  by_cases idle : (actual.mirror queue next fin).piggybacks env = false ∧
      (actual.mirror queue next fin).nextPayload env = []
  · refine ⟨actual.bytesInFlight, actual.calls, within, ?_, ?_⟩
    · simp [idle.1, idle.2, sent]
    · simp only [idle, and_self, ↓reduceIte]
      rfl
  · refine ⟨actual.bytesInFlight +
        UInt64.ofNat ((actual.mirror queue next fin).nextPayload env).length,
      actual.calls ++ [(actual.mirror queue next fin).nextCall env], inside, ?_,
      by rw [if_neg idle]; rfl⟩
    have busy : (!(actual.mirror queue next fin).piggybacks env &&
        UInt64.ofNat ((actual.mirror queue next fin).nextPayload env).length == 0) = false := by
      rw [Bool.eq_false_iff]
      intro both
      rw [Bool.and_eq_true, Bool.not_eq_true', beq_iff_eq, zero] at both
      exact idle both
    simp only [busy, Bool.false_eq_true, ↓reduceIte, idle]
    have call : (⟨actual.source, actual.destination, actual.factory.createSegment
        (actual.mirror queue next fin).nextSequence actual.tcb.receive.next
        (if (actual.mirror queue next fin).piggybacks env = true then Segment.ACK ||| Segment.FIN
          else Segment.ACK) ⟨(actual.mirror queue next fin).nextPayload env, 0⟩
        (UInt64.ofNat ((actual.mirror queue next fin).nextPayload env).length),
        env.accepts actual.calls.length⟩ : PacketCall) =
      (actual.mirror queue next fin).nextCall env := rfl
    have place : (actual.mirror queue next fin).calls.length = actual.calls.length := rfl
    simp only [call, place]
    cases accepted : env.accepts actual.calls.length with
    | false => rfl
    | true =>
        by_cases empty : (actual.mirror queue next fin).nextPayload env = []
        · have sentFIN : (actual.fin == .sent) = true := by
            have piggy : (actual.mirror queue next fin).piggybacks env = true := by
              rw [← Bool.not_eq_false]
              exact fun none => idle ⟨none, empty⟩
            rw [piggy, Bool.and_eq_true] at piggyback
            exact piggyback.1
          simp [empty, sentFIN, sent, dcheck_done]
        · have more : (UInt64.ofNat ((actual.mirror queue next fin).nextPayload env).length == 0) =
              false := by
            rw [beq_eq_false_iff_ne, ne_eq, zero]
            exact empty
          simp [more, empty, sent]

theorem Agrees.sent (agrees : actual.Agrees queue next fin) (flight : UInt64)
    (calls : List PacketCall) : (actual.sent flight calls).Agrees queue next fin :=
  ⟨agrees.buffer, agrees.ends⟩

theorem Agrees.transmitLoop_eq (agrees : actual.Agrees queue next fin) (build : Build) (fuel : Nat)
    (ready : actual.bytesInFlight.toNat ≤ queue.remaining ∨
      ¬actual.bytesInFlight < kMaxBytesInFlight) :
    ∃ flight calls, SendBufferOver.transmitLoop (operations build env.accepts) fuel actual =
        .done (actual.sent flight calls) ∧
      SendBuffer.transmitLoop env fuel (actual.mirror queue next fin) =
        (actual.sent flight calls).mirror queue next fin := by
  induction fuel generalizing actual with
  | zero => exact ⟨actual.bytesInFlight, actual.calls, rfl, rfl⟩
  | succ fuel ih =>
      have counter : (actual.mirror queue next fin).bytesInFlight = actual.bytesInFlight := rfl
      rw [SendBufferOver.transmitLoop, SendBuffer.transmitLoop_succ, counter]
      by_cases open_ : actual.bytesInFlight < kMaxBytesInFlight
      · have within := ready.resolve_right (not_not_intro open_)
        obtain ⟨flight, calls, inside, round, ideal⟩ :=
          @Agrees.transmitRound_eq _ _ _ _ env agrees build within
        simp only [open_, ↓reduceIte, round, Outcome.done_bind, ideal]
        cases ((actual.mirror queue next fin).transmitRound env).1 with
        | false => exact ⟨flight, calls, rfl, rfl⟩
        | true =>
            obtain ⟨last, all, later, same⟩ := ih (agrees.sent flight calls) (Or.inl inside)
            exact ⟨last, all, later, same⟩
      · simp only [open_, ↓reduceIte]
        exact ⟨actual.bytesInFlight, actual.calls, rfl, rfl⟩

theorem transmitSYN_eq (actual : RingSendBuffer) (queue : BoundedQueue UInt8 kSendBufferSize)
    (next : SequenceNumber) (fin : CtlState) :
    ∃ calls, SendBufferOver.transmitSYN env.accepts actual =
        actual.sent actual.bytesInFlight calls ∧
      (actual.mirror queue next fin).transmitSYN env =
        (actual.sent actual.bytesInFlight calls).mirror queue next fin := by
  have received : (actual.mirror queue next fin).tcb.receive = actual.tcb.receive := rfl
  unfold SendBuffer.transmitSYN SendBufferOver.transmitSYN
  rw [received]
  split <;> exact ⟨_, rfl, rfl⟩

/-- One pass of `transmit` sends the same from the ring buffer as from the queue. -/
theorem Agrees.transmit_eq (agrees : actual.Agrees queue next fin) (build : Build)
    (ready : actual.bytesInFlight.toNat ≤ queue.remaining ∨
      ¬actual.bytesInFlight < kMaxBytesInFlight) :
    ∃ flight calls, actual.transmit build env.accepts = .done (actual.sent flight calls) ∧
      (actual.mirror queue next fin).transmit env =
        (actual.sent flight calls).mirror queue next fin := by
  have phase : (actual.mirror queue next fin).syn = actual.syn := rfl
  rw [transmit, SendBufferOver.transmit, SendBuffer.transmit_eq, phase]
  cases actual.syn with
  | none => exact ⟨actual.bytesInFlight, actual.calls, rfl, rfl⟩
  | sent =>
      obtain ⟨calls, made, ideal⟩ := @transmitSYN_eq env actual queue next fin
      exact ⟨actual.bytesInFlight, calls, congrArg Outcome.done made, ideal⟩
  | acked => exact agrees.transmitLoop_eq build _ ready

/-! Events. The books of the ring-backed sender before it sends anything are `booked`. -/

theorem Agrees.passed {booked : RingSendBuffer} (agrees : booked.Agrees queue next fin)
    (build : Build) (sends : Bool)
    (ready : booked.bytesInFlight.toNat ≤ queue.remaining ∨
      ¬booked.bytesInFlight < kMaxBytesInFlight) :
    ∃ flight calls, (if sends then booked.transmit build env.accepts else .done booked) =
        .done (booked.sent flight calls) ∧
      (if sends then (booked.mirror queue next fin).transmit env
        else booked.mirror queue next fin) = (booked.sent flight calls).mirror queue next fin := by
  cases sends with
  | false => exact ⟨booked.bytesInFlight, booked.calls, rfl, rfl⟩
  | true => exact agrees.transmit_eq build ready

/-- If the books of the two agree, so does what they send afterwards. -/
theorem Agrees.stepped {booked : RingSendBuffer} {ideal : SendBuffer} {event : SendEvent}
    (agrees : booked.Agrees queue next fin) (build : Build)
    (ready : booked.bytesInFlight.toNat ≤ queue.remaining ∨
      ¬booked.bytesInFlight < kMaxBytesInFlight)
    (books : (ideal.booked event).withNotes (ideal.alarmAfter event)
      (ideal.failedChecks ++ ideal.failedAt event) = booked.mirror queue next fin) :
    ∃ flight calls,
      (if ideal.sends event then booked.transmit build env.accepts else .done booked) =
        .done (booked.sent flight calls) ∧
      ideal.step env event = (booked.sent flight calls).mirror queue next fin := by
  obtain ⟨flight, calls, made, same⟩ :=
    @Agrees.passed queue next fin env booked agrees build (ideal.sends event) ready
  refine ⟨flight, calls, made, ?_⟩
  rw [SendBuffer.step_eq, apply_ite (fun after : SendBuffer => after.withNotes _ _),
    ← SendBuffer.transmit_withNotes, books]
  exact same

theorem sendData_done {consumed : UInt64} {buffer : RingBuffer} {data : Buffer}
    (accepts : Nat → Bool) (unsent : actual.fin = .none) (room : actual.buffer.full = false)
    (written : actual.buffer.write build data = .done (consumed, buffer)) :
    let booked : RingSendBuffer := { actual with
      buffer := buffer
      tcb.send.next := actual.tcb.send.next + consumed.toUInt32 }
    actual.sendData build accepts data =
      (if actual.syn == .acked then booked.transmit build accepts else .done booked) >>=
        fun after => .done (consumed, after) := by
  have next : (actual.tcb.send.next.toUInt64 + consumed).toUInt32 =
      actual.tcb.send.next + consumed.toUInt32 := by
    simp
  rw [sendData, SendBufferOver.sendData]
  refine Outcome.bind_of_done (check_done (beq_iff_eq.mpr unsent)) ?_
  refine (if_neg (Bool.eq_false_iff.mp room)).trans ?_
  refine Outcome.bind_of_done written ?_
  dsimp only
  rw [next, SendBufferOver.synAcked]
  split <;> rfl

theorem sendData_full {data : Buffer} (build : Build) (accepts : Nat → Bool)
    (unsent : actual.fin = .none) (full : actual.buffer.full = true) :
    actual.sendData build accepts data = .done (0, actual) := by
  rw [sendData, SendBufferOver.sendData]
  exact Outcome.bind_of_done (check_done (beq_iff_eq.mpr unsent)) (if_pos full)

/-! The books of an acknowledgment are those of the ideal sender, except for the FIN. -/

def acknowledged (actual : RingSendBuffer) (ideal : SendBuffer) (buffer : RingBuffer)
    (ack : SequenceNumber) (now : TimeBase) : RingSendBuffer :=
  { actual with
    buffer := buffer
    tcb.send.unack := (ideal.booked (.acknowledge ack now)).tcb.send.unack
    syn := (ideal.booked (.acknowledge ack now)).syn
    fin := if ideal.acknowledgesFIN ack then .acked else actual.fin
    bytesInFlight := (ideal.booked (.acknowledge ack now)).bytesInFlight
    alarm := ideal.alarmAfter (.acknowledge ack now) }

theorem acknowledgeSYN_done {ack : SequenceNumber} {base : SequenceNumber}
    (checked : actual.syn = .sent → actual.tcb.send.greaterThan ack actual.tcb.send.initial = true)
    (from_ : base = if actual.syn == .sent then actual.tcb.send.initial + 1
      else actual.tcb.send.unack) :
    SendBufferOver.acknowledgeSYN (ring build) actual ack = .done { actual with
      syn := if actual.syn == .sent then .acked else actual.syn
      tcb.send.unack := base } := by
  subst from_
  unfold SendBufferOver.acknowledgeSYN
  cases phase : actual.syn == .sent with
  | true =>
      rw [if_pos rfl, check_done (checked (beq_iff_eq.mp phase))]
      rfl
  | false => rfl

theorem acknowledgeData_done {consumed : UInt64} {removed : Nat} {buffer : RingBuffer}
    (now : TimeBase)
    (taken : actual.buffer.consume build consumed = .done (UInt64.ofNat removed, buffer)) :
    SendBufferOver.acknowledgeData (ring build) actual now consumed = .done { actual with
      tcb.send.unack := actual.tcb.send.unack + UInt32.ofNat removed
      buffer := buffer
      bytesInFlight := actual.bytesInFlight - consumed
      alarm := if actual.bytesInFlight - consumed == 0 then
        actual.alarm.update (now + fromSeconds 1) else actual.alarm } := by
  have unack : (actual.tcb.send.unack.toUInt64 + UInt64.ofNat removed).toUInt32 =
      actual.tcb.send.unack + UInt32.ofNat removed := by
    simp
  simp only [SendBufferOver.acknowledgeData, ring, taken, Outcome.done_bind, unack,
    Outcome.pure_eq]
  split <;> rfl

theorem acknowledgeFIN_done {ack : SequenceNumber} {covers : Bool}
    (test : (actual.fin == .sent && ack == actual.tcb.send.next) = covers)
    (checked : covers = true → actual.buffer.empty = true) :
    SendBufferOver.acknowledgeFIN (ring build) actual ack = .done { actual with
      fin := if covers then .acked else actual.fin
      alarm := if covers then actual.alarm.cancel else actual.alarm
      tcb.send.unack := actual.tcb.send.unack + if covers then 1 else 0 } := by
  unfold SendBufferOver.acknowledgeFIN
  rw [SendSpace.equal_eq, test]
  cases covers with
  | true =>
      rw [if_pos rfl]
      exact Outcome.bind_of_done (check_done (checked rfl)) rfl
  | false => simp

theorem acknowledge_done {ack : SequenceNumber} {now : TimeBase} {buffer : RingBuffer}
    (accepts : Nat → Bool)
    (clean : (actual.mirror queue next fin).failedAt (.acknowledge ack now) = [])
    (covers : (actual.fin == .sent && ack == actual.tcb.send.next) =
      (actual.mirror queue next fin).acknowledgesFIN ack)
    (represents : buffer.Represents
      (queue.consume ((actual.mirror queue next fin).consumedBy ack).toNat))
    (consumed : actual.buffer.consume build ((actual.mirror queue next fin).consumedBy ack).toUInt64 =
      .done (UInt64.ofNat (min ((actual.mirror queue next fin).consumedBy ack).toNat
        queue.remaining), buffer)) :
    actual.acknowledge build accepts ack now =
      if (actual.mirror queue next fin).sends (.acknowledge ack now) then
        (actual.acknowledged (actual.mirror queue next fin) buffer ack now).transmit build accepts
      else .done (actual.acknowledged (actual.mirror queue next fin) buffer ack now) := by
  obtain ⟨syn, order, emptied⟩ := SendBuffer.failedAt_acknowledge clean
  have settled := @acknowledgeSYN_done actual build ack
    (actual.mirror queue next fin).acknowledgedFrom syn rfl
  refine Outcome.bind_of_done settled ?_
  refine Outcome.bind_of_done (check_done order) ?_
  refine Outcome.bind_of_done (acknowledgeData_done now consumed) ?_
  refine Outcome.bind_of_done
    (acknowledgeFIN_done covers fun isFIN => represents.empty_eq.trans (emptied isFIN)) ?_
  simp only [SendBuffer.sends, decide_eq_true_eq]
  rfl

/-- The timer starts the ring buffer again from its front. -/
theorem Agrees.fire_eq {now : TimeBase} (agrees : actual.Agrees queue next fin) (build : Build)
    (isSet : actual.alarm.isSet = true) (clock : 0 ≤ now) :
    ∃ flight calls, actual.fire build env.accepts now =
        .done { actual.sent flight calls with alarm := ⟨now + fromSeconds 1⟩ } ∧
      (actual.mirror queue next fin).fire env now =
        mirror { actual.sent flight calls with alarm := ⟨now + fromSeconds 1⟩ } queue next fin := by
  have deadline := SendBuffer.deadline_isSet now clock
  have again : Agrees { actual with alarm := ⟨0⟩, bytesInFlight := 0 } queue next fin :=
    ⟨agrees.buffer, agrees.ends⟩
  obtain ⟨flight, calls, made, ideal⟩ :=
    @Agrees.transmit_eq _ queue next fin env again build (Or.inl (Nat.zero_le _))
  refine ⟨flight, calls, ?_, ?_⟩
  · rw [fire, SendBufferOver.fire, if_pos isSet]
    refine Outcome.bind_of_done made ?_
    refine Outcome.bind_of_done (check_done rfl) ?_
    refine Outcome.bind_of_done (check_done deadline) ?_
    rfl
  · have start : ({ actual.mirror queue next fin with bytesInFlight := 0 } : SendBuffer) =
        (mirror { actual with alarm := ⟨0⟩, bytesInFlight := 0 } queue next fin).withNotes
          actual.alarm [] := rfl
    rw [SendBuffer.fire_eq, if_pos (show (actual.mirror queue next fin).alarm.isSet = true from
      isSet), start, SendBuffer.transmit_withNotes, ideal,
      if_neg (show ¬(now + fromSeconds 1 == 0) = true by simpa [Alarm.isSet] using deadline)]
    rfl

end RingSendBuffer

end LabNetstack
