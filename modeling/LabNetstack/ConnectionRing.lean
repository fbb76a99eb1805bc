import LabNetstack.ConnectionDelivery
import LabNetstack.SendBufferMirror

/-! The connection over the ring buffer. Bytes that a write loses leave no gap in the sequence
numbers: the other end gets the stream without them, and waits for ever for the end of it. -/

namespace LabNetstack

namespace RingConnection

structure Mirrors (lost : Nat) (actual : RingConnection) (ideal : Connection) : Prop where
  sender : actual.sender.Mirrors lost ideal.sender
  receiver : actual.receiver = ideal.receiver
  replies : actual.replies = ideal.replies
  stored : ideal.written.Sublist actual.written
  missing : actual.written.length = ideal.written.length + lost

/-- What one event does to the connection and its ideal, and what it writes into the ring buffer. -/
structure Moved (env : Surroundings) (initial : SequenceNumber) (lost : Nat)
    (actual : RingConnection) (ideal : Connection) (event : ConnectionEvent)
    (after : RingConnection) : Prop where
  coupled : ∃ later lostAfter idealAfter, after.Mirrors lostAfter idealAfter ∧
    Connection.Coupled initial later idealAfter ∧
    (lostAfter = 0 ↔ lost = 0 ∧ actual.stores event = true) ∧
    (lostAfter = 0 → idealAfter = ideal.step env event)
  written : after.written.length ≤ actual.written.length + offeredBy event
  closed : after.sender.fin = .none ↔ actual.sender.fin = .none ∧ event ≠ .sendFIN
  end_ : after.sender.buffer.end_.toNat ≤ actual.sender.buffer.end_.toNat + offeredBy event

variable {lost acked : Nat} {actual : RingConnection} {ideal : Connection} {env : Surroundings}
  {initial : SequenceNumber} {build : Build}

open Connection (Coupled)

theorem take_accepted {capacity : Nat} (queue : BoundedQueue UInt8 capacity) (data : List UInt8) :
    data.take (queue.accepted data).length = queue.accepted data := by
  rw [BoundedQueue.accepted, List.length_take, ← List.take_take, List.take_length]

theorem write_nil {capacity : Nat} (queue : BoundedQueue UInt8 capacity) : queue.write [] = queue := by
  apply BoundedQueue.ext
  simp [BoundedQueue.accepted]

def noBytes : Buffer := ⟨[], by decide⟩

theorem accepted_le {capacity : Nat} (queue : BoundedQueue UInt8 capacity) (data : Buffer) :
    (queue.accepted data.bytes).length ≤ data.bytes.length ∧
      (UInt64.ofNat (queue.accepted data.bytes).length).toNat =
        (queue.accepted data.bytes).length := by
  have bound : (queue.accepted data.bytes).length ≤ data.bytes.length := by
    rw [BoundedQueue.accepted_length]
    exact Nat.min_le_left _ _
  have fits := data.fits
  exact ⟨bound, UInt64.toNat_ofNat_of_lt' (by simp only [UInt64.size]; omega)⟩

/-- A write that is lost: the ideal connection is asked to write nothing. -/
theorem moved_lost (mirrors : actual.Mirrors lost ideal) (coupled : ideal.Coupled initial acked)
    (build : Build) (env : Surroundings) {data : Buffer} (unsent : actual.sender.fin = .none)
    (small : actual.written.length + data.bytes.length < 2 ^ 32 - 2)
    (closed : actual.sender.buffer.writable (.write data) = false) :
    ∃ after, actual.step build env.accepts (.sendData data) = .done after ∧
      Moved env initial lost actual ideal (.sendData data) after := by
  have open_ := mirrors.sender.ideal_fin unsent
  have missing := mirrors.missing
  obtain ⟨bound, count⟩ := accepted_le ideal.sender.buffer data
  obtain ⟨room, some, next, written, represented⟩ :=
    mirrors.sender.buffer.write_lost build closed
  have reach := mirrors.sender.buffer.valid.write_end written
  have nothing : ideal.sender.buffer.accepted noBytes.bytes = [] := List.take_nil
  have total : (ideal.sender.buffer.accepted noBytes.bytes).length +
      (ideal.sender.buffer.accepted data.bytes).length =
      (ideal.sender.buffer.accepted data.bytes).length := by
    rw [nothing, List.length_nil, Nat.zero_add]
  have streamed := coupled.streamed.sendData noBytes (beq_iff_eq.mpr open_)
  rw [nothing, List.append_nil] at streamed
  obtain ⟨flight, calls, made, after⟩ := mirrors.sender.sendData build env unsent coupled.checked
    room (total.symm ▸ written) (by rw [noBytes, write_nil]; exact represented) streamed (by omega)
  rw [total] at made after
  have silent : (ideal.step env (.sendData noBytes)).written = ideal.written := by
    change ideal.written ++ ideal.sender.accepted env (.sendData noBytes) = _
    rw [SendBuffer.accepted_sendData, nothing, List.append_nil]
  refine ⟨_, Outcome.bind_of_done made rfl, ⟨acked,
    lost + (ideal.sender.buffer.accepted data.bytes).length, ideal.step env (.sendData noBytes), ?_,
    coupled.sendData env noBytes open_ (by rw [silent]; omega), ?_, ?_⟩, ?_, ?_, reach⟩
  · refine ⟨after, mirrors.receiver, mirrors.replies, ?_, ?_⟩
    · rw [silent]
      exact mirrors.stored.trans (List.sublist_append_left _ _)
    · rw [silent, List.length_append, count, take_accepted]
      omega
  · simp only [stores, closed, Bool.false_eq_true, and_false, iff_false]
    omega
  · intro none
    omega
  · rw [List.length_append, count, take_accepted]
    exact Nat.add_le_add_left bound _
  · exact iff_of_true unsent ⟨unsent, (by simp)⟩

/-- A write that finds room in the ring buffer, or finds it full. -/
theorem moved_stored (mirrors : actual.Mirrors lost ideal) (coupled : ideal.Coupled initial acked)
    (build : Build) (env : Surroundings) {data : Buffer} (unsent : actual.sender.fin = .none)
    (small : actual.written.length + data.bytes.length < 2 ^ 32 - 2)
    (writable : actual.sender.buffer.writable (.write data) = true) :
    ∃ after, actual.step build env.accepts (.sendData data) = .done after ∧
      Moved env initial lost actual ideal (.sendData data) after := by
  have open_ := mirrors.sender.ideal_fin unsent
  have missing := mirrors.missing
  obtain ⟨bound, count⟩ := accepted_le ideal.sender.buffer data
  have more : (ideal.step env (.sendData data)).written =
      ideal.written ++ ideal.sender.buffer.accepted data.bytes :=
    congrArg (ideal.written ++ ·) (SendBuffer.accepted_sendData env ideal.sender data)
  have stepped := coupled.sendData env data open_ (by
    rw [more, List.length_append]
    omega)
  have kept : lost = 0 ↔ lost = 0 ∧ actual.stores (.sendData data) = true :=
    (and_iff_left writable).symm
  cases full : actual.sender.buffer.full with
  | true =>
      have isFull : ideal.sender.buffer.isFull = true := mirrors.sender.buffer.full_eq ▸ full
      have refused : ideal.sender.buffer.accepted data.bytes = [] := by
        rw [BoundedQueue.isFull, beq_iff_eq] at isFull
        rw [BoundedQueue.accepted, BoundedQueue.free, isFull, Nat.sub_self, List.take_zero]
      have same : ideal.sender.step env (.sendData data) = ideal.sender :=
        SendBuffer.step_full env data open_ isFull
      rw [refused, List.append_nil] at more
      have made := @RingSendBuffer.sendData_full actual.sender data build env.accepts unsent full
      refine ⟨_, Outcome.bind_of_done made rfl, ⟨acked, lost, ideal.step env (.sendData data),
        ⟨?_, mirrors.receiver, mirrors.replies, ?_, ?_⟩, stepped, kept, fun _ => rfl⟩, ?_,
        iff_of_true unsent ⟨unsent, (by simp)⟩, Nat.le_add_right _ _⟩
      · change actual.sender.Mirrors lost (ideal.sender.step env (.sendData data))
        rw [same]
        exact mirrors.sender
      · rw [more]
        exact mirrors.stored.trans (List.sublist_append_left _ _)
      · rw [more]
        simpa using missing
      · simp
  | false =>
      obtain ⟨next, written, represented⟩ := mirrors.sender.buffer.write_stored build writable
      have reach := mirrors.sender.buffer.valid.write_end written
      have whole : actual.sender.buffer.write build data = .done (UInt64.ofNat
        ((ideal.sender.buffer.accepted data.bytes).length + 0), next) := written
      obtain ⟨flight, calls, made, after⟩ := mirrors.sender.sendData build env unsent
        coupled.checked full whole represented
        (coupled.streamed.sendData data (beq_iff_eq.mpr open_)) (by
          rw [List.length_append]
          omega)
      refine ⟨_, Outcome.bind_of_done made rfl, ⟨acked, lost, ideal.step env (.sendData data),
        ⟨after, mirrors.receiver, mirrors.replies, ?_, ?_⟩, stepped, kept, fun _ => rfl⟩, ?_,
        iff_of_true unsent ⟨unsent, (by simp)⟩, reach⟩
      · rw [more, Nat.add_zero, count, take_accepted]
        exact mirrors.stored.append (List.Sublist.refl _)
      · rw [more, Nat.add_zero, count, take_accepted, List.length_append, List.length_append]
        omega
      · rw [Nat.add_zero, count, take_accepted, List.length_append]
        exact Nat.add_le_add_left bound _

/-! The other events. -/

theorem Mirrors.moved (mirrors : actual.Mirrors lost ideal) {event : ConnectionEvent} {later : Nat}
    {sender : RingSendBuffer} {idealSender : SendBuffer} (senders : sender.Mirrors lost idealSender)
    (coupled : Connection.Coupled initial later { ideal with sender := idealSender })
    (keeps : actual.stores event = true)
    (follows : lost = 0 → { ideal with sender := idealSender } = ideal.step env event)
    (closed : sender.fin = .none ↔ actual.sender.fin = .none ∧ event ≠ .sendFIN)
    (end_ : sender.buffer.end_.toNat ≤ actual.sender.buffer.end_.toNat) :
    Moved env initial lost actual ideal event { actual with sender := sender } :=
  ⟨⟨later, lost, { ideal with sender := idealSender },
    ⟨senders, mirrors.receiver, mirrors.replies, mirrors.stored, mirrors.missing⟩, coupled,
    (and_iff_left keeps).symm, follows⟩, Nat.le_add_right _ _, closed,
    Nat.le_add_right_of_le end_⟩

/-- Where the numbers of the two stand once bytes are lost. -/
theorem Mirrors.numbers (mirrors : actual.Mirrors lost ideal)
    (coupled : ideal.Coupled initial acked) (some : lost ≠ 0) :
    actual.sender.tcb.send.next = numberAt initial
        (actual.written.length + (SendBuffer.pending actual.sender.fin).toNat) ∧
      ideal.sender.tcb.send.next = numberAt initial ideal.written.length ∧
      ideal.receiver.count ≤ ideal.written.length := by
  obtain ⟨open_, _, next⟩ := mirrors.sender.hidden some
  have remaining := coupled.streamed.remaining_eq
  have taken := coupled.streamed.taken
  have number := coupled.next_eq.1
  rw [SendBuffer.finCount, open_] at number
  simp only [SendBuffer.pending, reduceCtorEq, ↓reduceIte, UInt32.toNat_zero, Nat.add_zero] at number
  rw [remaining, Nat.add_sub_cancel' taken] at number
  refine ⟨?_, number, ?_⟩
  · rw [next, number, mirrors.missing,
      ← numberAt_add initial _ (SendBuffer.pending actual.sender.fin).toNat, ← numberAt_add,
      UInt32.ofNat_toNat]
  · have unfinished : ideal.receiver.finished = false := by
      rw [← Bool.not_eq_true]
      exact fun finished => (coupled.follows.finished finished).2 open_
    rw [Receiver.count, unfinished]
    exact coupled.follows.taken.length_le

/-- The two judge an acknowledgment of the other end alike. -/
theorem Mirrors.judges (mirrors : actual.Mirrors lost ideal) (coupled : ideal.Coupled initial acked)
    (small : actual.written.length < 2 ^ 32 - 2) {count : Nat}
    (within : count ≤ ideal.receiver.count) :
    Connection.acceptable actual.sender.tcb.send (numberAt initial count) =
        Connection.acceptable ideal.sender.tcb.send (numberAt initial count) ∧
      (actual.sender.fin == .sent && numberAt initial count == actual.sender.tcb.send.next) =
        ideal.sender.acknowledgesFIN (numberAt initial count) := by
  have unack : ideal.sender.tcb.send.unack = actual.sender.tcb.send.unack :=
    congrArg (fun sender : SendBuffer => sender.tcb.send.unack) mirrors.sender.same
  have origin : ideal.sender.tcb.send.initial = actual.sender.tcb.send.initial :=
    congrArg (fun sender : SendBuffer => sender.tcb.send.initial) mirrors.sender.same
  by_cases none : lost = 0
  · obtain ⟨next, fin⟩ := mirrors.sender.whole none
    constructor
    · simp only [Connection.acceptable, SendSpace.lessThan, SendSpace.lessOrEqual, unack, origin,
        next]
    · rw [fin, next]
      rfl
  · obtain ⟨open_, _, _⟩ := mirrors.sender.hidden none
    obtain ⟨next, idealNext, received⟩ := mirrors.numbers coupled none
    have missing := mirrors.missing
    have pendingFIN := SendBuffer.pending_le actual.sender.fin
    constructor
    · have first := coupled.streamed.origin
      rw [origin] at first
      simp only [Connection.acceptable, SendSpace.lessThan, SendSpace.lessOrEqual,
        moduloComparison, unack, origin, next, idealNext, first]
      rw [decide_eq_true ((numberAt_le (by omega) (by omega)).mpr (by omega)),
        decide_eq_true ((numberAt_le (by omega) (by omega)).mpr (by omega))]
    · have uncovered : ideal.sender.acknowledgesFIN (numberAt initial count) = false := by
        rw [SendBuffer.acknowledgesFIN, open_]
        rfl
      rw [uncovered, Bool.and_eq_false_iff, beq_eq_false_iff_ne (a := numberAt initial count)]
      refine Or.inr fun reached => ?_
      rw [next] at reached
      have same := numberAt_inj (by omega) (by omega) reached
      omega

/-- An event that changes neither of the two. -/
theorem Mirrors.still (mirrors : actual.Mirrors lost ideal) (coupled : ideal.Coupled initial acked)
    {event : ConnectionEvent} (keeps : actual.stores event = true)
    (same : ideal.step env event = ideal) (other : event ≠ .sendFIN) :
    Moved env initial lost actual ideal event actual :=
  ⟨⟨acked, lost, ideal, mirrors, coupled, (and_iff_left keeps).symm, fun _ => same.symm⟩,
    Nat.le_add_right _ _, (and_iff_left other).symm, Nat.le_add_right _ _⟩

theorem moved_deliver (mirrors : actual.Mirrors lost ideal) (coupled : ideal.Coupled initial acked)
    (build : Build) (env : Surroundings) (packet : Nat)
    (small : ideal.written.length < 2 ^ 32 - 2) :
    ∃ after, actual.step build env.accepts (.deliver packet) = .done after ∧
      Moved env initial lost actual ideal (.deliver packet) after := by
  have calls : actual.sender.calls = ideal.sender.calls :=
    (congrArg SendBufferOver.calls mirrors.sender.same).symm
  simp only [RingConnection.step, calls]
  cases found : ideal.sender.calls[packet]? with
  | none =>
      exact ⟨actual, rfl, mirrors.still coupled rfl (by simp only [Connection.step, found]) (by simp)⟩
  | some call =>
      dsimp only
      cases accepted : call.accepted with
      | false =>
          refine ⟨actual, rfl, mirrors.still coupled rfl ?_ (by simp)⟩
          simp only [Connection.step, found, accepted, Bool.false_eq_true, ↓reduceIte]
      | true =>
          have after := coupled.deliver small (List.mem_of_getElem? found)
          refine ⟨_, rfl, ⟨acked, lost,
            { ideal with receiver := ideal.receiver.deliver call.segment }, ⟨mirrors.sender, ?_,
              mirrors.replies, mirrors.stored, mirrors.missing⟩, after, (and_iff_left rfl).symm,
            fun _ => ?_⟩, Nat.le_add_right _ _, (and_iff_left (by simp)).symm, Nat.le_add_right _ _⟩
          · rw [mirrors.receiver]
          · simp only [Connection.step, found, accepted, ↓reduceIte]

theorem moved_reply (mirrors : actual.Mirrors lost ideal) (coupled : ideal.Coupled initial acked)
    (build : Build) (env : Surroundings) :
    ∃ after, actual.step build env.accepts .reply = .done after ∧
      Moved env initial lost actual ideal .reply after := by
  simp only [RingConnection.step, mirrors.receiver, mirrors.replies]
  cases opened : ideal.receiver.space.synReceived with
  | false =>
      refine ⟨actual, rfl, mirrors.still coupled rfl ?_ (by simp)⟩
      simp only [Connection.step, opened, Bool.false_eq_true, ↓reduceIte]
  | true =>
      refine ⟨_, rfl, ⟨acked, lost,
        { ideal with replies := ideal.replies ++ [ideal.receiver.space.next] },
        ⟨mirrors.sender, rfl, rfl, mirrors.stored, mirrors.missing⟩, coupled.reply opened,
        (and_iff_left rfl).symm, fun _ => ?_⟩, Nat.le_add_right _ _, (and_iff_left (by simp)).symm,
        Nat.le_add_right _ _⟩
      simp only [Connection.step, opened, ↓reduceIte]

theorem moved_acknowledge (mirrors : actual.Mirrors lost ideal)
    (coupled : ideal.Coupled initial acked) (build : Build) (env : Surroundings) {reply : Nat}
    {now : TimeBase} (clock : 0 ≤ now) (small : actual.written.length < 2 ^ 32 - 2) :
    ∃ after, actual.step build env.accepts (.acknowledge reply now) = .done after ∧
      Moved env initial lost actual ideal (.acknowledge reply now) after := by
  have missing := mirrors.missing
  have quiet : ideal.written.length < 2 ^ 32 - 2 := by omega
  simp only [RingConnection.step]
  cases found : actual.replies[reply]? with
  | none =>
      rw [mirrors.replies] at found
      exact ⟨actual, rfl, mirrors.still coupled rfl (by simp only [Connection.step, found]) (by simp)⟩
  | some ack =>
      rw [mirrors.replies] at found
      obtain ⟨opened, count, within, rfl⟩ := coupled.replied ack (List.mem_of_getElem? found)
      obtain ⟨judged, covers⟩ := mirrors.judges coupled small within
      simp only [judged]
      cases accepts : Connection.acceptable ideal.sender.tcb.send (numberAt initial count) with
      | false =>
          refine ⟨actual, rfl, mirrors.still coupled rfl ?_ (by simp)⟩
          simp only [Connection.step, found, accepts, Bool.false_eq_true, ↓reduceIte]
      | true =>
          have bound := within.trans coupled.follows.count_le
          have ordered := (coupled.acceptable_bounds quiet bound accepts).1
          have lawful := (coupled.acknowledge_inRange quiet now bound accepts).2
          obtain ⟨sender, made, after, buffer, fin⟩ := mirrors.sender.acknowledge build env
            coupled.checked (coupled.failedAt_acknowledge quiet now bound ordered) covers
            (coupled.streamed.acknowledge quiet lawful) (by omega)
          obtain ⟨later, moved, _⟩ := coupled.acknowledge env quiet clock opened within accepts
          refine ⟨_, Outcome.bind_of_done made rfl, mirrors.moved after moved rfl (fun _ => ?_)
            (fin.trans (and_iff_left (by simp)).symm) ?_⟩
          · simp only [Connection.step, found, accepts, ↓reduceIte]
          · rw [buffer]
            have valid := mirrors.sender.buffer.valid
            have taken := valid.min_remaining
              (ideal.sender.consumedBy (numberAt initial count)).toUInt64
            exact valid.advance_end (by omega)

/-- Each event leaves the two connections alike, and never stops the process. -/
theorem Mirrors.step (mirrors : actual.Mirrors lost ideal) (coupled : ideal.Coupled initial acked)
    (build : Build) (env : Surroundings) {closed : Bool} {event : ConnectionEvent}
    (fin : actual.sender.fin = .none ↔ closed = false) (allowed : permitted closed event = true)
    (small : actual.written.length + offeredBy event < 2 ^ 32 - 2) :
    ∃ after, actual.step build env.accepts event = .done after ∧
      Moved env initial lost actual ideal event after := by
  have missing := mirrors.missing
  have streamed := coupled.streamed
  have quiet : ideal.written.length < 2 ^ 32 - 2 := by omega
  cases event with
  | sendData data =>
      have unsent := fin.mpr (Bool.not_eq_true' _ |>.mp allowed)
      cases writable : actual.sender.buffer.writable (.write data) with
      | true => exact moved_stored mirrors coupled build env unsent small writable
      | false => exact moved_lost mirrors coupled build env unsent small writable
  | sendFIN =>
      have unsent := fin.mpr (Bool.not_eq_true' _ |>.mp allowed)
      have open_ := mirrors.sender.ideal_fin unsent
      by_cases none : lost = 0
      · subst none
        obtain ⟨sender, made, after, buffer, sent⟩ := mirrors.sender.sendFIN build env
          coupled.checked (streamed.sendFIN (beq_iff_eq.mpr open_)) quiet
        refine ⟨_, Outcome.bind_of_done made rfl, mirrors.moved after
          (coupled.sendFIN env open_ quiet) rfl (fun _ => rfl) ?_ (by rw [buffer])⟩
        simp [sent]
      · obtain ⟨sender, made, after, buffer, sent⟩ := mirrors.sender.sendFIN_hidden none unsent
          build env coupled.checked streamed (by omega)
        have later : Connection.Coupled initial acked { ideal with
            sender := if ideal.sender.buffer.isEmpty then ideal.sender.step env .transmit
              else ideal.sender } := by
          split
          · exact coupled.quiet env .transmit rfl rfl streamed quiet id coupled.opened coupled.kept
              coupled.alarm
          · exact coupled
        refine ⟨_, Outcome.bind_of_done made rfl, mirrors.moved after later rfl
          (fun zero => absurd zero none) ?_ (by rw [buffer])⟩
        simp [sent]
  | transmit =>
      obtain ⟨sender, made, after, buffer, same⟩ :=
        mirrors.sender.transmit build env streamed (by omega)
      have later := coupled.quiet env .transmit rfl rfl streamed quiet id coupled.opened
        coupled.kept coupled.alarm
      exact ⟨_, Outcome.bind_of_done made rfl, mirrors.moved after later rfl (fun _ => rfl)
        (by simp [same]) (by rw [buffer])⟩
  | fire now =>
      have clock := of_decide_eq_true allowed
      obtain ⟨sender, made, after, buffer, same⟩ :=
        mirrors.sender.fire build env clock streamed (by omega)
      exact ⟨_, Outcome.bind_of_done made rfl, mirrors.moved after
        (coupled.fire env clock quiet) rfl (fun _ => rfl) (by simp [same]) (by rw [buffer])⟩
  | deliver packet => exact moved_deliver mirrors coupled build env packet quiet
  | reply => exact moved_reply mirrors coupled build env
  | acknowledge reply now =>
      exact moved_acknowledge mirrors coupled build env (of_decide_eq_true allowed) small
  | receive space =>
      have after : RingSendBuffer.Mirrors lost { actual.sender with tcb.receive := space }
          (ideal.sender.step env (.receive space)) := by
        obtain ⟨buffer, same, whole, hidden⟩ := mirrors.sender
        refine ⟨buffer, ?_, whole, hidden⟩
        change ({ ideal.sender with tcb.receive := space } : SendBuffer) = _
        rw [same]
        rfl
      exact ⟨_, rfl, mirrors.moved after (coupled.receive env space quiet) rfl (fun _ => rfl)
        (and_iff_left (by simp)).symm (Nat.le_refl _)⟩

/-! Runs. -/

theorem create_fresh (memory : Nat → UInt8) :
    ∃ ring, RingBuffer.create (UInt64.ofNat kSendBufferSize) memory = .done ring ∧
      ring.Represents (BoundedQueue.nil : BoundedQueue UInt8 kSendBufferSize) ∧ ring.end_ = 0 := by
  have size : ¬2 ^ 63 ≤ (UInt64.ofNat kSendBufferSize).toNat := by decide
  have created : RingBuffer.create (UInt64.ofNat kSendBufferSize) memory =
      .done ⟨UInt64.ofNat kSendBufferSize,
        (List.range (UInt64.ofNat kSendBufferSize).toNat).map memory, 0, 0⟩ := if_neg size
  exact ⟨_, created, RingBuffer.create_represents (by decide) created, rfl⟩

theorem start_mirrors (build : Build) (env : Surroundings) (memory : Nat → UInt8)
    (opening : SendBuffer.Opening) (clock : 0 ≤ opening.now) :
    ∃ first, start build env.accepts memory opening = .done first ∧
      first.Mirrors 0 (Connection.start env opening) ∧ first.sender.fin = .none ∧
      first.sender.buffer.end_ = 0 ∧ first.written = [] := by
  have deadline := SendBuffer.deadline_isSet opening.now clock
  obtain ⟨ring, created, represents, fresh⟩ := create_fresh memory
  let sender : RingSendBuffer :=
    { SendBuffer.ready opening with
      buffer := ring
      alarm := ⟨opening.now + fromSeconds 1⟩
      failedChecks := [] }
  have ready : SendBuffer.ready opening =
      sender.mirror BoundedQueue.nil (opening.initial + 1) .none := by
    have clean : (SendBuffer.ready opening).failedChecks = [] :=
      if_neg (by simpa [Alarm.isSet] using deadline)
    change { SendBuffer.ready opening with
      failedChecks := (SendBuffer.ready opening).failedChecks } = _
    rw [clean]
    rfl
  obtain ⟨calls, made, ideal⟩ := @RingSendBuffer.transmitSYN_eq env sender BoundedQueue.nil
    (opening.initial + 1) .none
  have unopened : SendBufferOver.create (RingSendBuffer.ring build) ring opening.factory opening.tcb
      opening.now = .done { sender with
        tcb := opening.tcb
        syn := .none
        source := IPAddress.unspecified
        destination := IPAddress.unspecified } := by
    refine Outcome.bind_of_done (RingSendBuffer.check_done rfl) ?_
    exact Outcome.bind_of_done (RingSendBuffer.check_done deadline) rfl
  have opened : RingSendBuffer.opened build env.accepts memory opening =
      .done (sender.sent sender.bytesInFlight calls) := by
    refine Outcome.bind_of_done created ?_
    refine Outcome.bind_of_done unopened ?_
    exact Outcome.bind_of_done (RingSendBuffer.check_done rfl) (congrArg Outcome.done made)
  refine ⟨⟨sender.sent sender.bytesInFlight calls, .listening, [], []⟩,
    Outcome.bind_of_done opened rfl, ⟨?_, rfl, rfl, List.Sublist.refl _, rfl⟩, rfl, fresh, rfl⟩
  change RingSendBuffer.Mirrors 0 _ (SendBuffer.opened env opening)
  rw [SendBuffer.opened_eq, ready, ideal]
  exact ⟨represents, rfl, fun _ => ⟨rfl, rfl⟩, fun some => absurd rfl some⟩

/-- What holds of the two connections after any run. -/
structure Reached (build : Build) (env : Surroundings) (initial : SequenceNumber) (lost : Nat)
    (actual : RingConnection) (ideal : Connection) (events : List ConnectionEvent)
    (final : RingConnection) : Prop where
  done : execute (step build env.accepts) actual events = .done final
  coupled : ∃ later lostAfter idealAfter, final.Mirrors lostAfter idealAfter ∧
    Connection.Coupled initial later idealAfter ∧
    (lostAfter = 0 ↔ lost = 0 ∧ Attempted (step build env.accepts)
      (fun state event => state.stores event = true) actual events) ∧
    (lostAfter = 0 → idealAfter = ideal.run env events)
  written : final.written.length ≤ actual.written.length + offered events
  closed : final.sender.fin = .none ↔ actual.sender.fin = .none ∧ .sendFIN ∉ events

theorem Mirrors.run (mirrors : actual.Mirrors lost ideal) (coupled : ideal.Coupled initial acked)
    (build : Build) (env : Surroundings) {closed : Bool} {events : List ConnectionEvent}
    (fin : actual.sender.fin = .none ↔ closed = false) (allowed : orderly closed events = true)
    (small : actual.written.length + offered events < 2 ^ 32 - 2) :
    ∃ final, Reached build env initial lost actual ideal events final := by
  induction events generalizing actual ideal lost acked closed with
  | nil =>
      exact ⟨actual, rfl, ⟨acked, lost, ideal, mirrors, coupled, (and_iff_left trivial).symm,
        fun _ => rfl⟩, Nat.le_add_right _ _, (and_iff_left List.not_mem_nil).symm⟩
  | cons event events ih =>
      rw [orderly, Bool.and_eq_true] at allowed
      have total : offered (event :: events) = offeredBy event + offered events := by
        simp [offered]
      obtain ⟨next, taken, moved⟩ := mirrors.step coupled build env fin allowed.1 (by omega)
      obtain ⟨later, lostAfter, idealAfter, mirrored, coupledAfter, stored, same⟩ := moved.coupled
      have finNext : next.sender.fin = .none ↔ (closed || event == .sendFIN) = false := by
        rw [moved.closed, fin, Bool.or_eq_false_iff, beq_eq_false_iff_ne]
      obtain ⟨final, reached⟩ := ih mirrored coupledAfter finNext allowed.2 (by
        have more := moved.written
        omega)
      obtain ⟨last, lostLast, idealLast, mirroredLast, coupledLast, storedLast, sameLast⟩ :=
        reached.coupled
      refine ⟨final, execute_cons.mpr ⟨next, taken, reached.done⟩, ⟨last, lostLast, idealLast,
        mirroredLast, coupledLast, ?_, ?_⟩, ?_, ?_⟩
      · rw [storedLast, stored, and_assoc, attempted_cons taken]
      · intro none
        rw [sameLast none, same (storedLast.mp none).1]
        rfl
      · have more := moved.written
        have rest := reached.written
        omega
      · rw [reached.closed, moved.closed, List.mem_cons, not_or, and_assoc]
        simp only [ne_eq, eq_comm]

/-- The connection over the ring buffer, whatever the network does and wherever the writes fall: no
check fails and no memory outside the buffers is touched. The other end holds a prefix of the bytes
that were stored, which are all that were written exactly when no write met queued bytes that reach
the end of the storage, and it sees the end of the stream only after all that was written. -/
theorem ringConnection_delivers (build : Build) (accepts : Nat → Bool) (memory : Nat → UInt8)
    (opening : SendBuffer.Opening) (events : List ConnectionEvent) (clock : 0 ≤ opening.now)
    (allowed : orderly false events = true) (small : offered events < 2 ^ 32 - 2) :
    ∃ first connection, start build accepts memory opening = .done first ∧
      execute (step build accepts) first events = .done connection ∧
      (∃ stored, stored.Sublist connection.written ∧
        connection.receiver.received <+: stored ∧
        stored.drop connection.receiver.received.length <:+ connection.sender.buffer.contents ∧
        (stored = connection.written ↔ Attempted (step build accepts)
          (fun state event => state.stores event = true) first events)) ∧
      (connection.receiver.finished = true →
        connection.receiver.received = connection.written) := by
  obtain ⟨first, started, mirrors, unsent, _, nothing⟩ :=
    start_mirrors build ⟨accepts, fun _ => []⟩ memory opening clock
  obtain ⟨connection, reached⟩ := mirrors.run
    (Connection.start_coupled ⟨accepts, fun _ => []⟩ opening clock) build ⟨accepts, fun _ => []⟩
    (iff_of_true unsent rfl) allowed (by
      rw [nothing, List.length_nil]
      omega)
  obtain ⟨acked, lost, ideal, mirrored, coupled, stored, _⟩ := reached.coupled
  refine ⟨first, connection, started, reached.done, ⟨ideal.written, mirrored.stored, ?_, ?_, ?_⟩, ?_⟩
  · rw [mirrored.receiver]
    exact coupled.follows.taken
  · rw [mirrored.receiver, mirrored.sender.buffer.contents, coupled.streamed.items,
      ← Nat.add_sub_cancel' coupled.acked_le, ← List.drop_drop]
    exact List.drop_suffix _ _
  · have missing := mirrored.missing
    refine Iff.trans ⟨fun same => ?_, fun none => ?_⟩ (stored.trans (and_iff_right rfl))
    · rw [same] at missing
      omega
    · exact mirrored.stored.eq_of_length (by omega)
  · intro finished
    rw [mirrored.receiver] at finished ⊢
    obtain ⟨all, closed⟩ := coupled.follows.finished finished
    have none : lost = 0 := by
      by_contra some
      exact closed (mirrored.sender.hidden some).1
    have missing := mirrored.missing
    rw [all]
    exact mirrored.stored.eq_of_length (by omega)

-- data is lost on the way and sent again, the stream is closed, and the timer goes off once more
def storedRun : List ConnectionEvent :=
  [.deliver 0, .reply, .acknowledge 0 10, .sendData SendBuffer.sampleBytes, .fire 1000000,
    .deliver 2, .reply, .sendFIN, .acknowledge 1 1000010, .fire 2000000, .deliver 3]

theorem storedRun_delivers :
    ∃ first connection,
      start .debug (fun _ => true) (fun _ => 0) SendBuffer.sampleOpening = .done first ∧
      execute (step .debug fun _ => true) first storedRun = .done connection ∧
      (connection.receiver.finished = true →
        connection.receiver.received = connection.written) := by
  obtain ⟨first, connection, started, run, _, whole⟩ := ringConnection_delivers .debug
    (fun _ => true) (fun _ => 0) SendBuffer.sampleOpening storedRun (by decide) (by decide)
    (by decide)
  exact ⟨first, connection, started, run, whole⟩

/-! What happens after the stream is closed. -/

theorem orderly_true (events : List ConnectionEvent) :
    orderly true events = events.all (permitted true) := by
  induction events with
  | nil => rfl
  | cons event events ih => rw [orderly, Bool.true_or, ih, List.all_cons]

theorem orderly_closed {events : List ConnectionEvent} (allowed : orderly true events = true) :
    offered events = 0 ∧ ∀ event ∈ events, ∀ state : RingConnection, state.stores event = true := by
  rw [orderly_true, List.all_eq_true] at allowed
  have silent : ∀ event ∈ events, offeredBy event = 0 ∧
      ∀ state : RingConnection, state.stores event = true := by
    intro event member
    cases event with
    | sendData data => cases allowed _ member
    | _ => exact ⟨rfl, fun _ => rfl⟩
  refine ⟨List.sum_eq_zero fun count member => ?_, fun event member => (silent event member).2⟩
  obtain ⟨event, found, rfl⟩ := List.mem_map.mp member
  exact (silent event found).1

theorem orderly_roundTrips (env : Surroundings) (times : List TimeBase) (connection : Connection)
    (clocks : ∀ now ∈ times, 0 ≤ now) : orderly true (connection.roundTrips env times) = true := by
  rw [orderly_true]
  induction times generalizing connection with
  | nil => rfl
  | cons now times ih =>
      have first : (connection.roundTrip env now).all (permitted true) = true := by
        have clock := clocks now List.mem_cons_self
        simp [Connection.roundTrip, permitted, clock]
      rw [Connection.roundTrips, List.all_append, first, Bool.true_and]
      exact ih _ fun other member => clocks other (List.mem_cons_of_mem now member)

/-- After `sendFIN` the connection can still be brought to its end exactly when no write was lost:
otherwise the FIN is never sent, however long the two ends go on. -/
theorem ringConnection_closes_iff (build : Build) (accepts : Nat → Bool) (memory : Nat → UInt8)
    (opening : SendBuffer.Opening) (events : List ConnectionEvent) (clock : 0 ≤ opening.now)
    (allowed : orderly false events = true) (closed : .sendFIN ∈ events)
    (small : offered events < 2 ^ 32 - 2) :
    ∃ first connection, start build accepts memory opening = .done first ∧
      execute (step build accepts) first events = .done connection ∧
      ((∀ index, connection.sender.calls.length ≤ index → accepts index = true) →
        ((∃ more last, orderly true more = true ∧
            execute (step build accepts) connection more = .done last ∧
            last.receiver.finished = true ∧ last.sender.fin = .acked) ↔
          Attempted (step build accepts) (fun state event => state.stores event = true) first
            events)) := by
  obtain ⟨first, started, mirrors, unsent, _, nothing⟩ :=
    start_mirrors build ⟨accepts, fun _ => []⟩ memory opening clock
  obtain ⟨connection, reached⟩ := mirrors.run
    (Connection.start_coupled ⟨accepts, fun _ => []⟩ opening clock) build ⟨accepts, fun _ => []⟩
    (iff_of_true unsent rfl) allowed (by
      rw [nothing, List.length_nil]
      omega)
  obtain ⟨acked, lost, ideal, mirrored, coupled, stored, same⟩ := reached.coupled
  have sentFIN : connection.sender.fin = .none ↔ true = false := by
    rw [reached.closed]
    exact iff_of_false (fun both => both.2 closed) Bool.true_eq_false.mp
  have size := reached.written
  rw [nothing, List.length_nil] at size
  refine ⟨first, connection, started, reached.done, fun reliable => ⟨?_, fun whole => ?_⟩⟩
  · rintro ⟨more, last, quiet, run, finished, _⟩
    by_contra missed
    obtain ⟨silent, _⟩ := orderly_closed quiet
    obtain ⟨final, after⟩ := mirrored.run coupled build ⟨accepts, fun _ => []⟩ sentFIN quiet
      (by omega)
    cases run.symm.trans after.done
    obtain ⟨later, lostLater, idealLater, mirroredLater, coupledLater, storedLater, _⟩ :=
      after.coupled
    rw [mirroredLater.receiver] at finished
    have some : lostLater ≠ 0 := fun none =>
      missed ((stored.mp (storedLater.mp none).1).2)
    exact (coupledLater.follows.finished finished).2 (mirroredLater.sender.hidden some).1
  · have none : lost = 0 := stored.mpr ⟨rfl, whole⟩
    have calls : ideal.sender.calls = connection.sender.calls :=
      congrArg SendBufferOver.calls mirrored.sender.same
    have clocks : ∀ now ∈ List.replicate (Connection.roundsLeft ideal.sender) (0 : TimeBase),
        0 ≤ now := fun now member => by rw [(List.mem_replicate.mp member).2]
    have quiet := orderly_roundTrips ⟨accepts, fun _ => []⟩ _ ideal clocks
    obtain ⟨silent, keeps⟩ := orderly_closed quiet
    obtain ⟨final, after⟩ := mirrored.run coupled build ⟨accepts, fun _ => []⟩ sentFIN quiet
      (by omega)
    obtain ⟨_, lostLater, idealLater, mirroredLater, _, storedLater, sameLater⟩ := after.coupled
    have noneLater : lostLater = 0 := storedLater.mpr ⟨none, attempted_of_forall keeps⟩
    have missing := mirrored.missing
    have accepting : ∀ index, ideal.sender.calls.length ≤ index →
        (Surroundings.mk accepts fun _ => []).accepts index = true :=
      fun index above => reliable index (calls ▸ above)
    obtain ⟨_, fin, ⟨_, coupledAfter⟩, rounds⟩ := coupled.roundTrips _ (by omega) clocks accepting
    rw [← sameLater noneLater] at fin coupledAfter rounds
    rw [List.length_replicate, Nat.sub_self] at rounds
    have open_ : idealLater.sender.fin ≠ .none := by
      rw [ne_eq, fin, ← (mirrored.sender.whole none).2, sentFIN]
      exact Bool.true_eq_false.mp
    obtain ⟨finished, acknowledged⟩ := (coupledAfter.complete (Nat.le_zero.mp rounds)).2.2 open_
    refine ⟨_, final, quiet, after.done, ?_, ?_⟩
    · rw [mirroredLater.receiver]
      exact finished
    · rw [(mirroredLater.sender.whole noneLater).2]
      exact acknowledged

theorem storedRun_closes :
    ∃ first connection,
      start .release (fun _ => true) (fun _ => 0) SendBuffer.sampleOpening = .done first ∧
      execute (step .release fun _ => true) first storedRun = .done connection ∧
      ((∃ more last, orderly true more = true ∧
          execute (step .release fun _ => true) connection more = .done last ∧
          last.receiver.finished = true ∧ last.sender.fin = .acked) ↔
        Attempted (step .release fun _ => true) (fun state event => state.stores event = true)
          first storedRun) := by
  obtain ⟨first, connection, started, run, closes⟩ := ringConnection_closes_iff .release
    (fun _ => true) (fun _ => 0) SendBuffer.sampleOpening storedRun (by decide) (by decide)
    (by decide) (by decide)
  exact ⟨first, connection, started, run, closes fun _ _ => rfl⟩

/-! A stream that fits into the storage. -/

theorem Mirrors.stores_run (mirrors : actual.Mirrors lost ideal)
    (coupled : ideal.Coupled initial acked) (build : Build) (env : Surroundings) {closed : Bool}
    {events : List ConnectionEvent} (fin : actual.sender.fin = .none ↔ closed = false)
    (allowed : orderly closed events = true)
    (small : actual.written.length + offered events < 2 ^ 32 - 2)
    (fits : actual.sender.buffer.end_.toNat + offered events ≤ kSendBufferSize) :
    Attempted (RingConnection.step build env.accepts)
      (fun state event => state.stores event = true) actual events := by
  induction events generalizing actual ideal lost acked closed with
  | nil => trivial
  | cons event events ih =>
      rw [orderly, Bool.and_eq_true] at allowed
      have total : offered (event :: events) = offeredBy event + offered events := by
        simp [offered]
      obtain ⟨next, taken, moved⟩ := mirrors.step coupled build env fin allowed.1 (by omega)
      obtain ⟨_, _, _, mirrored, coupledAfter, _⟩ := moved.coupled
      have finNext : next.sender.fin = .none ↔ (closed || event == .sendFIN) = false := by
        rw [moved.closed, fin, Bool.or_eq_false_iff, beq_eq_false_iff_ne]
      rw [attempted_cons taken]
      refine ⟨?_, ih mirrored coupledAfter finNext allowed.2 ?_ ?_⟩
      · cases event with
        | sendData data =>
            have size := mirrors.sender.buffer.size
            change _ + (data.bytes.length + offered events) < _ at small
            rw [total, offeredBy] at fits
            simp only [stores, RingBuffer.writable, Bool.or_eq_true, beq_iff_eq, decide_eq_true_eq]
            by_cases none : data.bytes.length = 0
            · refine Or.inl (Or.inl ?_)
              rw [← UInt64.toNat_inj, Buffer.length_toNat, none]
              rfl
            · refine Or.inr (UInt64.lt_iff_toNat_lt.mpr ?_)
              omega
        | _ => rfl
      · have more := moved.written
        omega
      · have reach := moved.end_
        omega

/-- As long as no more bytes are offered than the ring buffer holds, the connection over it is the
connection over the queue, whatever is acknowledged in between. -/
theorem ringConnection_refines (build : Build) (accepts : Nat → Bool) (memory : Nat → UInt8)
    (opening : SendBuffer.Opening) (events : List ConnectionEvent) (clock : 0 ≤ opening.now)
    (allowed : orderly false events = true) (small : offered events ≤ kSendBufferSize) :
    ∃ first connection, start build accepts memory opening = .done first ∧
      execute (step build accepts) first events = .done connection ∧
      let ideal := (Connection.start ⟨accepts, fun _ => []⟩ opening).run ⟨accepts, fun _ => []⟩ events
      connection.sender.calls = ideal.sender.calls ∧ connection.sender.tcb = ideal.sender.tcb ∧
      connection.sender.buffer.contents = ideal.sender.buffer.items ∧
      connection.receiver = ideal.receiver ∧ connection.written = ideal.written := by
  have bound : kSendBufferSize < 2 ^ 32 - 2 := by decide
  obtain ⟨first, started, mirrors, unsent, empty, nothing⟩ :=
    start_mirrors build ⟨accepts, fun _ => []⟩ memory opening clock
  have coupled := Connection.start_coupled ⟨accepts, fun _ => []⟩ opening clock
  have room : first.written.length + offered events < 2 ^ 32 - 2 := by
    rw [nothing, List.length_nil]
    omega
  have stores := mirrors.stores_run coupled build ⟨accepts, fun _ => []⟩ (iff_of_true unsent rfl)
    allowed room (by
      rw [empty, UInt64.toNat_zero]
      omega)
  obtain ⟨connection, reached⟩ := mirrors.run coupled build ⟨accepts, fun _ => []⟩
    (iff_of_true unsent rfl) allowed room
  obtain ⟨_, lost, ideal, mirrored, _, stored, same⟩ := reached.coupled
  have none : lost = 0 := stored.mpr ⟨rfl, stores⟩
  have missing := mirrored.missing
  rw [← same none]
  refine ⟨first, connection, started, reached.done, ?_, ?_, mirrored.sender.buffer.contents,
    mirrored.receiver, (mirrored.stored.eq_of_length (by omega)).symm⟩
  · exact (congrArg SendBufferOver.calls mirrored.sender.same).symm
  · have tcb := congrArg SendBufferOver.tcb mirrored.sender.same
    rw [tcb]
    change connection.sender.tcb =
      { connection.sender.tcb with send.next := ideal.sender.tcb.send.next }
    rw [← (mirrored.sender.whole none).1]

theorem storedRun_refines :
    ∃ first connection,
      start .debug (fun _ => true) (fun _ => 0) SendBuffer.sampleOpening = .done first ∧
      execute (step .debug fun _ => true) first storedRun = .done connection ∧
      connection.receiver.received = [71, 69, 84] ∧ connection.receiver.finished = true := by
  obtain ⟨first, connection, started, run, _, _, _, receiver, _⟩ := ringConnection_refines .debug
    (fun _ => true) (fun _ => 0) SendBuffer.sampleOpening storedRun (by decide) (by decide)
    (by decide)
  refine ⟨first, connection, started, run, ?_⟩
  rw [receiver]
  decide

end RingConnection

end LabNetstack
