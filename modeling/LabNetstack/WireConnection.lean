import LabNetstack.Connection
import LabNetstack.Executions
import LabNetstack.WireConnectionCore

/-! Over a network that alters packets in a way their sums show, the connection in bytes is the
connection in segments. -/

namespace LabNetstack

namespace Segment

variable {segment : Segment} {packet : Buffer}

/-- The sum that the other end computes over bytes of the length of a written segment. -/
theorem recomputed_totals (leftovers : Leftovers) (bothV4 : segment.BothV4)
    (length : packet.length = segment.dataLength + kTcpHeaderLength) :
    ∃ checksum, recomputed .debug leftovers segment.source.host segment.destination.host packet =
        .done checksum ∧
      checksum.getChecksum.toNat = residue 65535 ((networkWords packet.bytes).sum +
        segment.pseudoTotal .debug leftovers) :=
  ⟨_, recomputed_eq leftovers bothV4 length,
    segment.finalChecksum_totals .debug leftovers packet.bytes⟩

theorem pseudoTotal_pos (leftovers : Leftovers) : 0 < segment.pseudoTotal .debug leftovers := by
  rw [pseudoTotal]
  omega

end Segment

namespace SendBuffer

/-! What a sender hands over can be written and parsed. -/

structure Named (near far : SocketAddress) (sender : SendBuffer) : Prop where
  source : sender.source = near.host
  destination : sender.destination = far.host
  factory : sender.factory = ⟨near, far⟩

structure Sendable (near far : SocketAddress) (call : PacketCall) : Prop where
  source : call.source = near.host
  destination : call.destination = far.host
  nearAddress : call.segment.source = near
  farAddress : call.segment.destination = far
  fits : call.segment.dataLength.toNat ≤ 1460
  readable : call.segment.dataLength.toNat ≤ call.segment.data.target.length

variable {near far : SocketAddress} {self : SendBuffer} {env : Surroundings}

theorem Frame.named {after : SendBuffer} (frame : Frame self after) (named : self.Named near far) :
    after.Named near far :=
  ⟨frame.source.trans named.source, frame.destination.trans named.destination,
    frame.factory.trans named.factory⟩

theorem nextCall_sendable (env : Surroundings) (named : self.Named near far) :
    Sendable near far (self.nextCall env) := by
  have length := self.nextLength_toNat env
  have bound := self.nextPayload_length_le env
  refine ⟨named.source, named.destination, ?_, ?_, ?_, ?_⟩
  · exact congrArg SegmentFactory.localAddress named.factory
  · exact congrArg SegmentFactory.remoteAddress named.factory
  · exact length.le.trans bound
  · exact length.le

theorem transmitLoop_sendable (env : Surroundings) (fuel : Nat) (named : self.Named near far) :
    ∃ added, (transmitLoop env fuel self).calls = self.calls ++ added ∧
      ∀ call ∈ added, Sendable near far call := by
  revert named
  apply transmitLoop_rule (motive := fun self after => self.Named near far →
    ∃ added, after.calls = self.calls ++ added ∧ ∀ call ∈ added, Sendable near far call)
  · intro self _
    exact ⟨[], by simp, by simp⟩
  · intro self after _ _ later named
    obtain ⟨added, calls, sendable⟩ := later ((afterRound_frame env self).named named)
    refine ⟨self.nextCall env :: added, ?_, ?_⟩
    · rw [calls]
      simp [afterRound]
    · intro call member
      rcases List.mem_cons.mp member with rfl | member
      · exact nextCall_sendable env named
      · exact sendable call member

theorem transmitSYN_sendable (env : Surroundings) (named : self.Named near far) :
    ∃ added, (self.transmitSYN env).calls = self.calls ++ added ∧
      ∀ call ∈ added, Sendable near far call := by
  have control : ∀ seq ack ctl accepted, Sendable near far
      ⟨self.source, self.destination, self.factory.createControl seq ack ctl, accepted⟩ := by
    intro seq ack ctl accepted
    refine ⟨named.source, named.destination, ?_, ?_, Nat.zero_le _, Nat.zero_le _⟩
    · exact congrArg SegmentFactory.localAddress named.factory
    · exact congrArg SegmentFactory.remoteAddress named.factory
  unfold transmitSYN SendBufferOver.transmitSYN
  split
  · refine ⟨_, rfl, fun call member => ?_⟩
    rw [List.mem_singleton.mp member]
    exact control _ _ _ _
  · refine ⟨_, rfl, fun call member => ?_⟩
    rw [List.mem_singleton.mp member]
    exact control _ _ _ _

theorem transmit_sendable (env : Surroundings) (named : self.Named near far) :
    ∃ added, (self.transmit env).calls = self.calls ++ added ∧
      ∀ call ∈ added, Sendable near far call := by
  rw [transmit_eq]
  split
  · exact ⟨[], by simp, by simp⟩
  · exact transmitSYN_sendable env named
  · exact transmitLoop_sendable env _ named

/-- A sender after some calls, all of which can be written. -/
structure Extends (near far : SocketAddress) (before after : SendBuffer) : Prop where
  named : after.Named near far
  calls : ∃ added, after.calls = before.calls ++ added ∧ ∀ call ∈ added, Sendable near far call

theorem Extends.refl (named : self.Named near far) : Extends near far self self :=
  ⟨named, [], by simp, by simp⟩

theorem booked_named (named : self.Named near far) (event : SendEvent) :
    (self.booked event).Named near far := by
  cases event <;> exact ⟨named.source, named.destination, named.factory⟩

theorem step_extends (env : Surroundings) (named : self.Named near far) (event : SendEvent) :
    Extends near far self (self.step env event) := by
  have booked := booked_named named event
  rw [step_eq]
  split
  · obtain ⟨added, calls, sendable⟩ := transmit_sendable env booked
    have framed := (transmit_frame env (self.booked event)).named booked
    rw [booked_calls] at calls
    exact ⟨⟨framed.source, framed.destination, framed.factory⟩, added, calls, sendable⟩
  · refine ⟨⟨booked.source, booked.destination, booked.factory⟩, [], ?_, by simp⟩
    rw [List.append_nil]
    exact booked_calls self event

theorem fire_extends (env : Surroundings) (named : self.Named near far) (now : TimeBase) :
    Extends near far self (self.fire env now) := by
  rw [fire_eq]
  split
  · have rewound : Named near far { self with bytesInFlight := 0 } :=
      ⟨named.source, named.destination, named.factory⟩
    obtain ⟨added, calls, sendable⟩ := transmit_sendable env rewound
    have framed := (transmit_frame env { self with bytesInFlight := 0 }).named rewound
    exact ⟨⟨framed.source, framed.destination, framed.factory⟩, added, calls, sendable⟩
  · exact Extends.refl named

/-! One packet. -/

theorem Sendable.bothV4 {call : PacketCall} (sendable : Sendable near far call)
    (nearV4 : near.host.family = .ipV4) (farV4 : far.host.family = .ipV4) :
    call.segment.BothV4 := by
  refine ⟨?_, ?_⟩
  · rw [sendable.nearAddress]
    exact nearV4
  · rw [sendable.farAddress]
    exact farV4

theorem packetOf_done (build : Build) (scratch : Scratch) {segment : Segment}
    (bothV4 : segment.BothV4) (fits : segment.dataLength.toNat ≤ 1460)
    (readable : segment.dataLength.toNat ≤ segment.data.target.length) :
    ∃ packet, packetOf build scratch segment = .done packet ∧
      packet.bytes = segment.encoded build scratch.writing segment.payload := by
  have size := segment.encoded_length build scratch.writing segment.payload
  have length := segment.payload_length readable
  refine ⟨(DataWriter.filled scratch.buf (segment.encoded build scratch.writing segment.payload)
    (Segment.headerCopies ++ [(20, segment.dataLength)])).packet, ?_,
    DataWriter.filled_packet _ (by omega)⟩
  rw [packetOf, Segment.create_filled scratch.allocated,
    Segment.writeSegmentTo_carried build scratch.writing bothV4 scratch.allocated fits readable]
  rfl

end SendBuffer

namespace Receiver

variable {segment : Segment} {packet : Buffer}

theorem deliver_congr (receiver : Receiver) {first second : Segment}
    (sequence : first.sequence = second.sequence) (flags : first.flags = second.flags)
    (payload : first.payload = second.payload) :
    receiver.deliver first = receiver.deliver second := by
  have syn : first.isSYN = second.isSYN := by rw [Segment.isSYN, Segment.hasFlag, flags]; rfl
  have fin : first.isFIN = second.isFIN := by rw [Segment.isFIN, Segment.hasFlag, flags]; rfl
  have fresh : receiver.fresh first = receiver.fresh second := by
    unfold Receiver.fresh
    rw [sequence, payload]
  unfold deliver
  rw [syn, fin, fresh, sequence]

section Arrivals

variable (receiver : Receiver) (leftovers : Leftovers) (bothV4 : segment.BothV4)
  (fits : segment.dataLength.toNat ≤ 1460)
  (readable : segment.dataLength.toNat ≤ segment.data.target.length)

include bothV4 fits readable

/-- What was written arrives as the segment it was written from. -/
theorem arrive_exact {writing : Leftovers}
    (exact_ : packet.bytes = segment.encoded .debug writing segment.payload) :
    receiver.arrive .debug leftovers segment.source.host segment.destination.host packet =
      .done (receiver.deliver segment) := by
  have twenty : kTcpHeaderLength.toNat = 20 := rfl
  have length : packet.length = segment.dataLength + kTcpHeaderLength := by
    rw [← UInt64.toNat_inj, Buffer.length_toNat, exact_, Segment.encoded_length,
      segment.payload_length readable, UInt64.toNat_add, twenty]
    omega
  obtain ⟨checksum, computed, sum⟩ := Segment.recomputed_totals leftovers bothV4 length
  have same : segment.pseudoTotal .debug leftovers = segment.pseudoTotal .debug writing := rfl
  have ones : checksum.getChecksum = 0xffff := by
    rw [← UInt16.toNat_inj, sum, exact_, same, Segment.encoded_sum]
    rfl
  refine Outcome.bind_of_done computed ?_
  rw [ones, if_pos (by decide)]
  refine Outcome.bind_of_done (segment.parse_encoded exact_ readable leftovers) ?_
  exact congrArg Outcome.done (receiver.deliver_congr rfl rfl
    (segment.received_payload exact_ readable))

/-- Bytes of the same length with another sum are dropped. -/
theorem arrive_garbled {writing : Leftovers} {sent : Buffer}
    (exact_ : sent.bytes = segment.encoded .debug writing segment.payload)
    (size : packet.bytes.length = sent.bytes.length)
    (changed : ¬(networkWords packet.bytes).sum ≡ (networkWords sent.bytes).sum [MOD 65535]) :
    receiver.arrive .debug leftovers segment.source.host segment.destination.host packet =
      .done receiver := by
  have top : (0 : Nat) < 65535 := by decide
  have twenty : kTcpHeaderLength.toNat = 20 := rfl
  have length : packet.length = segment.dataLength + kTcpHeaderLength := by
    rw [← UInt64.toNat_inj, Buffer.length_toNat, size, exact_, Segment.encoded_length,
      segment.payload_length readable, UInt64.toNat_add, twenty]
    omega
  obtain ⟨checksum, computed, sum⟩ := Segment.recomputed_totals leftovers bothV4 length
  have pseudo := segment.pseudoTotal_pos leftovers
  have original := Segment.encoded_sum .debug writing segment segment.payload
  have same : segment.pseudoTotal .debug writing = segment.pseudoTotal .debug leftovers := rfl
  rw [← exact_, same] at original
  have other : checksum.getChecksum ≠ 0xffff := by
    intro ones
    have equal : residue 65535 ((networkWords packet.bytes).sum +
        segment.pseudoTotal .debug leftovers) = residue 65535 ((networkWords sent.bytes).sum +
        segment.pseudoTotal .debug leftovers) := by
      rw [← sum, ones, original]
      rfl
    rw [residue_eq_iff top (by omega) (by omega)] at equal
    exact changed (Nat.ModEq.add_right_cancel' _ equal)
  refine Outcome.bind_of_done computed ?_
  rw [if_neg (by simpa using other)]
  rfl

end Arrivals

end Receiver

theorem SendBuffer.fire_failedChecks (env : Surroundings) (self : SendBuffer) (now : TimeBase) :
    self.failedChecks <+: (self.fire env now).failedChecks := by
  rw [SendBuffer.fire_eq]
  split
  · exact List.prefix_append _ _
  · exact List.prefix_refl _

namespace Connection

theorem step_failedChecks (connection : Connection) (env : Surroundings)
    (event : ConnectionEvent) :
    connection.sender.failedChecks <+: (connection.step env event).sender.failedChecks := by
  have recorded (event : SendEvent) :
      connection.sender.failedChecks <+: (connection.sender.step env event).failedChecks := by
    rw [SendBuffer.step_failedChecks]
    exact List.prefix_append _ _
  cases event with
  | sendData data => exact recorded (.sendData data)
  | sendFIN => exact recorded .sendFIN
  | transmit => exact recorded .transmit
  | receive space => exact recorded (.receive space)
  | fire now => exact connection.sender.fire_failedChecks env now
  | deliver packet =>
      simp only [step]
      split <;> try split
      all_goals exact List.prefix_refl _
  | reply =>
      simp only [step]
      split <;> exact List.prefix_refl _
  | acknowledge reply now =>
      simp only [step]
      split
      · split
        · exact recorded (.acknowledge _ now)
        · exact List.prefix_refl _
      · exact List.prefix_refl _

/-- A check that has failed stays on record. -/
theorem run_failedChecks (connection : Connection) (env : Surroundings)
    (events : List ConnectionEvent) :
    connection.sender.failedChecks <+: (connection.run env events).sender.failedChecks := by
  induction events generalizing connection with
  | nil => exact List.prefix_refl _
  | cons event events ih =>
      exact (connection.step_failedChecks env event).trans (ih (connection.step env event))

end Connection

namespace WireConnection

variable {build : Build} {scratch : Nat → Scratch}

theorem packetsOf_append {start : Nat} {first second : List PacketCall}
    {packets later : List Buffer} (written : packetsOf build scratch start first = .done packets)
    (next : packetsOf build scratch (start + first.length) second = .done later) :
    packetsOf build scratch start (first ++ second) = .done (packets ++ later) := by
  induction first generalizing start packets with
  | nil =>
      cases written
      exact next
  | cons call calls ih =>
      obtain ⟨packet, head, written⟩ := Outcome.bind_eq_done.mp written
      obtain ⟨rest, tail, written⟩ := Outcome.bind_eq_done.mp written
      cases written
      have after := ih tail (by rwa [Nat.add_assoc, Nat.add_comm 1])
      exact Outcome.bind_of_done head (Outcome.bind_of_done after rfl)

theorem packetsOf_length {start : Nat} {calls : List PacketCall} {packets : List Buffer}
    (written : packetsOf build scratch start calls = .done packets) :
    packets.length = calls.length := by
  induction calls generalizing start packets with
  | nil =>
      cases written
      rfl
  | cons call calls ih =>
      obtain ⟨packet, _, written⟩ := Outcome.bind_eq_done.mp written
      obtain ⟨rest, tail, written⟩ := Outcome.bind_eq_done.mp written
      cases written
      rw [List.length_cons, List.length_cons, ih tail]

theorem packetsOf_at {start : Nat} {calls : List PacketCall} {packets : List Buffer}
    (written : packetsOf build scratch start calls = .done packets) {index : Nat}
    {call : PacketCall} (found : calls[index]? = some call) :
    ∃ packet, packets[index]? = some packet ∧
      SendBuffer.packetOf build (scratch (start + index)) call.segment = .done packet := by
  induction calls generalizing start packets index with
  | nil => cases found
  | cons first calls ih =>
      obtain ⟨packet, head, written⟩ := Outcome.bind_eq_done.mp written
      obtain ⟨rest, tail, written⟩ := Outcome.bind_eq_done.mp written
      cases written
      cases index with
      | zero =>
          cases found
          exact ⟨packet, rfl, head⟩
      | succ index =>
          obtain ⟨packet, here, made⟩ := ih tail found
          refine ⟨packet, here, ?_⟩
          rwa [Nat.add_right_comm] at made

theorem packetsOf_done {near far : SocketAddress} (nearV4 : near.host.family = .ipV4)
    (farV4 : far.host.family = .ipV4) (build : Build) (scratch : Nat → Scratch) (start : Nat)
    {calls : List PacketCall} (sendable : ∀ call ∈ calls, SendBuffer.Sendable near far call) :
    ∃ packets, packetsOf build scratch start calls = .done packets := by
  induction calls generalizing start with
  | nil => exact ⟨[], rfl⟩
  | cons call calls ih =>
      have first := sendable call List.mem_cons_self
      obtain ⟨packet, head, _⟩ := SendBuffer.packetOf_done build (scratch start)
        (first.bothV4 nearV4 farV4) first.fits first.readable
      obtain ⟨packets, tail⟩ := ih (start + 1) fun other member =>
        sendable other (List.mem_cons_of_mem call member)
      exact ⟨packet :: packets, Outcome.bind_of_done head (Outcome.bind_of_done tail rfl)⟩

/-- No check has failed, and the packets are the calls of the sender, written out, and each of them
can be. -/
structure Writes (scratch : Nat → Scratch) (near far : SocketAddress) (wire : WireConnection) :
    Prop where
  clean : wire.connection.sender.failedChecks = []
  named : wire.connection.sender.Named near far
  sendable : ∀ call ∈ wire.connection.sender.calls, SendBuffer.Sendable near far call
  packets : packetsOf .debug scratch 0 wire.connection.sender.calls = .done wire.packets

/-- What becomes of a connection in bytes: it is the one in segments, or a check of the send buffer
has stopped it. -/
inductive Follows (scratch : Nat → Scratch) (near far : SocketAddress) :
    Connection → Outcome WireConnection → Prop where
  | goes {wire : WireConnection} (writes : wire.Writes scratch near far) :
      Follows scratch near far wire.connection (.done wire)
  | stops {connection : Connection} (failed : connection.sender.failedChecks ≠ []) :
      Follows scratch near far connection .aborted

theorem Follows.writes {near far : SocketAddress} {connection : Connection}
    {wire : WireConnection} (follows : Follows scratch near far connection (.done wire)) :
    wire.connection = connection ∧ wire.Writes scratch near far := by
  cases follows with
  | goes writes => exact ⟨rfl, writes⟩

theorem Follows.outcome {near far : SocketAddress} {connection : Connection}
    {actual : Outcome WireConnection} (follows : Follows scratch near far connection actual) :
    (connection.sender.failedChecks = [] →
      ∃ final, actual = .done final ∧ final.connection = connection) ∧
    (connection.sender.failedChecks ≠ [] → actual = .aborted) := by
  cases follows with
  | goes writes => exact ⟨fun _ => ⟨_, rfl, rfl⟩, fun failed => absurd writes.clean failed⟩
  | stops failed => exact ⟨fun clean => absurd clean failed, fun _ => rfl⟩

section Steps

variable {near far : SocketAddress} {wire : WireConnection} {env : Surroundings}
  (nearV4 : near.host.family = .ipV4) (farV4 : far.host.family = .ipV4)

include nearV4 farV4

theorem Writes.sent (writes : wire.Writes scratch near far) {connection : Connection}
    (extends_ : SendBuffer.Extends near far wire.connection.sender connection.sender) :
    Follows scratch near far connection
      (WireConnection.sent .debug scratch wire.packets connection) := by
  by_cases clean : connection.sender.failedChecks = []
  swap
  · have stopped : WireConnection.sent .debug scratch wire.packets connection = .aborted := by
      rw [WireConnection.sent, dcheck_stops (List.isEmpty_eq_false_iff.mpr clean)]
      rfl
    rw [stopped]
    exact .stops clean
  obtain ⟨added, calls, sendable⟩ := extends_.calls
  have length := packetsOf_length writes.packets
  obtain ⟨packets, written⟩ := packetsOf_done nearV4 farV4 .debug scratch wire.packets.length
    sendable
  have dropped : connection.sender.calls.drop wire.packets.length = added := by
    rw [calls, length, List.drop_left]
  have goes : WireConnection.sent .debug scratch wire.packets connection =
      .done ⟨connection, wire.packets ++ packets⟩ := by
    rw [WireConnection.sent, dcheck_done (List.isEmpty_iff.mpr clean), Outcome.done_bind, dropped]
    exact Outcome.bind_of_done written rfl
  rw [goes]
  suffices kept : (⟨connection, wire.packets ++ packets⟩ : WireConnection).Writes scratch near far
    from .goes kept
  refine ⟨clean, extends_.named, ?_, ?_⟩
  · intro call member
    rw [calls] at member
    rcases List.mem_append.mp member with member | member
    · exact writes.sendable call member
    · exact sendable call member
  · change packetsOf .debug scratch 0 connection.sender.calls = _
    rw [calls]
    refine packetsOf_append writes.packets ?_
    rw [Nat.zero_add, ← length]
    exact written

/-- One event of the connection: what it sends is written, what it delivers is parsed. -/
theorem Writes.plain (writes : wire.Writes scratch near far) (event : ConnectionEvent) :
    Follows scratch near far (wire.connection.step env event)
      (wire.step .debug env scratch (.plain event)) := by
  have named := writes.named
  cases event with
  | deliver packet =>
      cases found : wire.connection.sender.calls[packet]? with
      | none =>
          have missing : wire.packets[packet]? = none := by
            rw [List.getElem?_eq_none_iff, packetsOf_length writes.packets]
            exact List.getElem?_eq_none_iff.mp found
          simp only [WireConnection.step, missing, Connection.step, found]
          exact .goes writes
      | some call =>
          obtain ⟨bytes, here, made⟩ := packetsOf_at writes.packets found
          cases accepted : call.accepted with
          | false =>
              simp only [WireConnection.step, here, arrive, found, accepted, Connection.step,
                Bool.false_eq_true, ↓reduceIte]
              exact .goes writes
          | true =>
              have sendable := writes.sendable call (List.mem_of_getElem? found)
              obtain ⟨packet_, wrote, exact_⟩ := SendBuffer.packetOf_done .debug (scratch (0 + packet))
                (sendable.bothV4 nearV4 farV4) sendable.fits sendable.readable
              cases made.symm.trans wrote
              have arrives := wire.connection.receiver.arrive_exact (scratch packet).reading
                (sendable.bothV4 nearV4 farV4) sendable.fits sendable.readable exact_
              rw [sendable.nearAddress, sendable.farAddress, ← sendable.source,
                ← sendable.destination] at arrives
              simp only [WireConnection.step, here, arrive, found, accepted, Connection.step,
                ↓reduceIte]
              rw [arrives]
              let next : WireConnection := { wire with connection := { wire.connection with
                receiver := wire.connection.receiver.deliver call.segment } }
              have kept : next.Writes scratch near far :=
                ⟨writes.clean, named, writes.sendable, writes.packets⟩
              exact .goes kept
  | sendData data => exact writes.sent nearV4 farV4 (SendBuffer.step_extends env named (.sendData data))
  | sendFIN => exact writes.sent nearV4 farV4 (SendBuffer.step_extends env named .sendFIN)
  | transmit => exact writes.sent nearV4 farV4 (SendBuffer.step_extends env named .transmit)
  | fire now => exact writes.sent nearV4 farV4 (SendBuffer.fire_extends env named now)
  | receive space => exact writes.sent nearV4 farV4 (SendBuffer.step_extends env named (.receive space))
  | reply =>
      refine writes.sent nearV4 farV4 ?_
      simp only [Connection.step]
      split <;> exact SendBuffer.Extends.refl named
  | acknowledge reply now =>
      refine writes.sent nearV4 farV4 ?_
      simp only [Connection.step]
      split
      · split
        · exact SendBuffer.step_extends env named (.acknowledge _ now)
        · exact SendBuffer.Extends.refl named
      · exact SendBuffer.Extends.refl named

/-- Altered bytes whose sum shows it change nothing. -/
theorem Writes.garble (writes : wire.Writes scratch near far) {packet : Nat} {bytes : Buffer}
    (shows_ : wire.detectable (.garble packet bytes)) :
    wire.step .debug env scratch (.garble packet bytes) = .done wire := by
  cases found : wire.connection.sender.calls[packet]? with
  | none => simp only [WireConnection.step, arrive, found]
  | some call =>
      obtain ⟨sent, here, made⟩ := packetsOf_at writes.packets found
      obtain ⟨size, changed⟩ := shows_ sent here
      have sendable := writes.sendable call (List.mem_of_getElem? found)
      obtain ⟨packet_, wrote, exact_⟩ := SendBuffer.packetOf_done .debug (scratch (0 + packet))
        (sendable.bothV4 nearV4 farV4) sendable.fits sendable.readable
      cases made.symm.trans wrote
      have arrives := wire.connection.receiver.arrive_garbled (scratch packet).reading
        (sendable.bothV4 nearV4 farV4) sendable.fits sendable.readable exact_ size changed
      rw [sendable.nearAddress, sendable.farAddress, ← sendable.source,
        ← sendable.destination] at arrives
      cases accepted : call.accepted with
      | false => simp [WireConnection.step, arrive, found, accepted]
      | true =>
          simp only [WireConnection.step, arrive, found, accepted, ↓reduceIte]
          exact Outcome.bind_of_done arrives rfl

theorem Follows.run {connection : Connection} {outcome : Outcome WireConnection}
    (events : List WireEvent) (follows : Follows scratch near far connection outcome)
    (shows_ : ∀ first, outcome = .done first →
      Attempted (step .debug env scratch) detectable first events) :
    Follows scratch near far (connection.run env (events.filterMap WireEvent.undisturbed))
      (outcome >>= fun first => execute (step .debug env scratch) first events) := by
  induction events generalizing connection outcome with
  | nil =>
      cases follows with
      | goes writes => exact .goes writes
      | stops failed => exact .stops failed
  | cons event events ih =>
      cases follows with
      | stops failed =>
          exact .stops fun clean =>
            failed (List.prefix_nil.mp (clean ▸ connection.run_failedChecks env _))
      | @goes wire writes =>
          obtain ⟨shown, later⟩ := shows_ wire rfl
          cases event with
          | plain event => exact ih (writes.plain nearV4 farV4 event) later
          | garble packet bytes =>
              have taken : wire.step .debug env scratch (.garble packet bytes) = .done wire :=
                writes.garble nearV4 farV4 shown
              rw [Outcome.done_bind, execute, taken]
              refine ih (.goes writes) fun first same => ?_
              cases same
              exact later wire taken

theorem start_follows (env : Surroundings) (scratch : Nat → Scratch)
    (opening : SendBuffer.Opening) (source : opening.source = near.host)
    (destination : opening.destination = far.host) (factory : opening.factory = ⟨near, far⟩) :
    Follows scratch near far (Connection.start env opening) (start .debug env scratch opening) := by
  have named : (SendBuffer.ready opening).Named near far := ⟨source, destination, factory⟩
  obtain ⟨added, calls, sendable⟩ := SendBuffer.transmitSYN_sendable env named
  have opened := (SendBuffer.opened_frame env opening).named named
  rw [← SendBuffer.opened_eq] at calls
  have unsent : (⟨⟨{ SendBuffer.opened env opening with calls := [], failedChecks := [] },
      .listening, [], []⟩, []⟩ : WireConnection).Writes scratch near far :=
    ⟨rfl, ⟨opened.source, opened.destination, opened.factory⟩, by simp, rfl⟩
  exact unsent.sent nearV4 farV4 ⟨opened, added, calls, sendable⟩

end Steps

/-- However the network loses, repeats, reorders and alters packets, if the sum of an altered one
shows it: nothing is read or written out of bounds, only a check of the send buffer itself stops the
connection in bytes, and otherwise it is the connection in segments that lacks the altered
packets. -/
theorem wireConnection_refines (env : Surroundings) (scratch : Nat → Scratch)
    (opening : SendBuffer.Opening) (events : List WireEvent)
    (source : opening.source = opening.factory.localAddress.host)
    (destination : opening.destination = opening.factory.remoteAddress.host)
    (sourceV4 : opening.source.family = .ipV4) (destinationV4 : opening.destination.family = .ipV4)
    (shows_ : ∀ first, start .debug env scratch opening = .done first →
      Attempted (step .debug env scratch) detectable first events) :
    let ideal := (Connection.start env opening).run env (events.filterMap WireEvent.undisturbed)
    let actual := start .debug env scratch opening >>= fun first =>
      execute (step .debug env scratch) first events
    (ideal.sender.failedChecks = [] → ∃ final, actual = .done final ∧ final.connection = ideal) ∧
    (ideal.sender.failedChecks ≠ [] → actual = .aborted) := by
  intro ideal actual
  rw [source] at sourceV4
  rw [destination] at destinationV4
  have begins := start_follows sourceV4 destinationV4 env scratch opening source destination rfl
  exact (begins.run sourceV4 destinationV4 events shows_).outcome

/-- A change of one word shows unless it is between 0x0000 and 0xffff. -/
theorem detectable_word {wire : WireConnection} {packet : Nat} {bytes sent : Buffer}
    (found : wire.packets[packet]? = some sent) {front back old new : List UInt8}
    (aligned : front.length % 2 = 0) (oldWord : old.length = 2) (newWord : new.length = 2)
    (before : sent.bytes = front ++ (old ++ back)) (after : bytes.bytes = front ++ (new ++ back))
    (changed : ¬networkValue new ≡ networkValue old [MOD 65535]) :
    wire.detectable (.garble packet bytes) := by
  intro other here
  cases found.symm.trans here
  have sum : ∀ word : List UInt8, word.length = 2 →
      (networkWords (front ++ (word ++ back))).sum =
        networkValue word + ((networkWords front).sum + (networkWords back).sum) := by
    intro word length
    rw [networkWords_append _ _ aligned, networkWords_append _ _ (by omega),
      networkWords_pair length, List.sum_append, List.sum_append, List.sum_singleton]
    omega
  refine ⟨?_, ?_⟩
  · rw [before, after]
    simp only [List.length_append, oldWord, newWord]
  · rw [before, after, sum old oldWord, sum new newWord]
    exact fun same => changed (Nat.ModEq.add_right_cancel' _ same)

def sampleScratch : Scratch where
  buf := List.replicate 1480 0
  allocated := List.length_replicate
  writing := ⟨0, 0, 0, 0, 0⟩
  reading := ⟨1, 2, 3, 4, 5⟩

def garbledSYN : Buffer :=
  ⟨[19, 136, 0, 80, 255, 255, 255, 255, 0, 0, 0, 0, 80, 2, 255, 254, 136, 8, 0, 0], by decide⟩

theorem garbledSYN_detectable {first : WireConnection}
    (started : start .debug SendBuffer.quietHost (fun _ => sampleScratch)
      SendBuffer.sampleOpening = .done first) : first.detectable (.garble 0 garbledSYN) := by
  have nearV4 : SendBuffer.sampleOpening.factory.localAddress.host.family = .ipV4 := rfl
  have farV4 : SendBuffer.sampleOpening.factory.remoteAddress.host.family = .ipV4 := rfl
  have begins := start_follows nearV4 farV4 SendBuffer.quietHost (fun _ => sampleScratch)
    SendBuffer.sampleOpening rfl rfl rfl
  rw [started] at begins
  obtain ⟨same, writes⟩ := begins.writes
  obtain ⟨call, found, segment⟩ : ∃ call, first.connection.sender.calls[0]? = some call ∧
      call.segment = SendBuffer.sampleOpening.factory.createControl 4294967295 0 Segment.SYN := by
    rw [same]
    exact ⟨_, rfl, rfl⟩
  have sendable := writes.sendable call (List.mem_of_getElem? found)
  obtain ⟨sent, here, made⟩ := packetsOf_at writes.packets found
  obtain ⟨packet, wrote, bytes⟩ := SendBuffer.packetOf_done .debug sampleScratch
    (sendable.bothV4 nearV4 farV4) sendable.fits sendable.readable
  cases made.symm.trans wrote
  rw [segment] at bytes
  have before : sent.bytes = garbledSYN.bytes.take 14 ++ ([255, 255] ++ [136, 8, 0, 0]) := by
    rw [bytes]
    decide
  have after : garbledSYN.bytes = garbledSYN.bytes.take 14 ++ ([255, 254] ++ [136, 8, 0, 0]) := by
    decide
  exact detectable_word here (by decide) rfl rfl before after (by decide)

theorem garbledSYN_dropped :
    ∃ final, (start .debug SendBuffer.quietHost (fun _ => sampleScratch)
        SendBuffer.sampleOpening >>= fun first =>
          execute (step .debug SendBuffer.quietHost fun _ => sampleScratch) first
            [.garble 0 garbledSYN, .plain (.deliver 0)]) = .done final ∧
      final.connection.receiver = ⟨⟨0, 4294967295, true⟩, [], false⟩ := by
  have facts := wireConnection_refines SendBuffer.quietHost (fun _ => sampleScratch)
    SendBuffer.sampleOpening [.garble 0 garbledSYN, .plain (.deliver 0)] rfl rfl rfl rfl
    fun first started =>
      ⟨garbledSYN_detectable started, fun _ _ => ⟨trivial, fun _ _ => trivial⟩⟩
  obtain ⟨final, reached, connection⟩ := facts.1 (by decide)
  refine ⟨final, reached, ?_⟩
  rw [connection]
  decide

end WireConnection

end LabNetstack
