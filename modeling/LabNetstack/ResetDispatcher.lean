import LabNetstack.ResetDispatcherCore
import LabNetstack.SegmentCodec

/-! What `ResetDispatcher` writes into its buffer, and what it sends. -/

namespace LabNetstack

namespace ResetDispatcher

open Segment

def Allocated (self : ResetDispatcher) : Prop := self.buffer.length = 1480

/-! The payload of a parsed segment is what its packet holds from the offset on, or, for an
offset past the end, a length that wraps. -/

structure CutFrom (packet : Buffer) (segment : Segment) : Prop where
  bothV4 : segment.BothV4
  dataLength : segment.dataLength.toNat =
    (2 ^ 64 - (parsedOffset packet).toNat + packet.bytes.length) % 2 ^ 64
  target : segment.data.target = packet.bytes.drop (parsedOffset packet).toNat

theorem parsed_cutFrom (build : Build) (source destination : InAddr) (packet : Buffer) :
    CutFrom packet
      (parsed build (IPAddress.ofInAddr source) (IPAddress.ofInAddr destination) packet) := by
  refine ⟨⟨rfl, rfl⟩, ?_, rfl⟩
  change (packet.length - (parsedOffset packet).toUInt64).toNat = _
  rw [UInt64.toNat_sub, UInt8.toNat_toUInt64, Buffer.length_toNat]

structure Encodes (dispatcher : ResetDispatcher) (segment : Segment) (writer : DataWriter) :
    Prop where
  bytes : ∃ checksum body copies, body.length ≤ 1460 ∧
    writer = DataWriter.filled dispatcher.buffer (segment.headerBytes checksum ++ body) copies
  copies : ∀ copy ∈ writer.copies, copy.1.toNat + copy.2.toNat ≤ 1480
  payload : (20, segment.dataLength) ∈ writer.copies ↔ segment.dataLength.toNat ≤ 1480 - 20

theorem headerCopies_within : ∀ copy ∈ headerCopies, copy.1.toNat + copy.2.toNat ≤ 1480 := by
  have every : headerCopies.all (fun copy => copy.1.toNat + copy.2.toNat ≤ 1480) = true := by decide
  intro copy member
  exact of_decide_eq_true (List.all_eq_true.mp every copy member)

theorem headerCopies_header : (20 : UInt64) ∉ headerCopies.map Prod.fst := by
  decide

section Encoding

variable (build : Build) (leftovers : Leftovers) {self : ResetDispatcher}
  (allocated : self.Allocated) {packet : Buffer} {segment : Segment} (cut : CutFrom packet segment)

include allocated

theorem encode_eq {result : Outcome (Bool × DataWriter)}
    (written : segment.writeSegmentTo build leftovers (DataWriter.filled self.buffer [] []) =
      result) : self.encode build leftovers segment = (result >>= fun wrote => .done wrote.2) := by
  rw [encode, create_filled allocated, written]
  rfl

include cut

theorem encode_carried (within : (parsedOffset packet).toNat ≤ packet.bytes.length)
    (fits : packet.bytes.length - (parsedOffset packet).toNat ≤ 1460) :
    ∃ writer, self.encode build leftovers segment = .done writer ∧ self.Encodes segment writer := by
  have dataLength := cut.dataLength
  have packetFits := packet.fits
  have targetLength : segment.data.target.length = segment.dataLength.toNat := by
    rw [cut.target, List.length_drop]
    omega
  have written := writeSegmentTo_carried build leftovers cut.bothV4 allocated (by omega)
    targetLength.ge
  refine ⟨_, encode_eq build leftovers allocated written, ?_, ?_, ?_⟩
  · refine ⟨_, segment.payload, _, ?_, rfl⟩
    rw [payload_length segment targetLength.ge]
    omega
  · intro copy member
    rcases List.mem_append.mp member with header | payload
    · exact headerCopies_within copy header
    · rw [List.mem_singleton.mp payload]
      change 20 + segment.dataLength.toNat ≤ 1480
      omega
  · refine iff_of_true ?_ (by omega)
    exact List.mem_append_right _ List.mem_cons_self

theorem encode_refused (exceeds : 1460 < segment.dataLength.toNat)
    (unwrapped : segment.dataLength.toNat + 20 < 2 ^ 64) :
    ∃ writer, self.encode build leftovers segment = .done writer ∧ self.Encodes segment writer := by
  have written := writeSegmentTo_refused build leftovers cut.bothV4 allocated exceeds unwrapped
  refine ⟨_, encode_eq build leftovers allocated written, ?_, headerCopies_within, ?_⟩
  · exact ⟨_, [], _, Nat.zero_le _, rfl⟩
  · refine iff_of_false ?_ (by omega)
    intro member
    exact headerCopies_header (List.mem_map_of_mem member)

theorem encode_safe (room : packet.bytes.length - (parsedOffset packet).toNat + 20 < 2 ^ 64)
    (safe : ¬(packet.bytes.length < (parsedOffset packet).toNat ∧
      (parsedOffset packet).toNat ≤ packet.bytes.length + 20)) :
    ∃ writer, self.encode build leftovers segment = .done writer ∧ self.Encodes segment writer := by
  have dataLength := cut.dataLength
  have offsetSmall := (parsedOffset packet).toNat_lt
  have packetFits := packet.fits
  by_cases within : (parsedOffset packet).toNat ≤ packet.bytes.length
  · by_cases fits : packet.bytes.length - (parsedOffset packet).toNat ≤ 1460
    · exact encode_carried build leftovers allocated cut within fits
    · exact encode_refused build leftovers allocated cut (by omega) (by omega)
  · exact encode_refused build leftovers allocated cut (by omega) (by omega)

theorem encode_wraps (past : packet.bytes.length < (parsedOffset packet).toNat)
    (close : (parsedOffset packet).toNat ≤ packet.bytes.length + 20) :
    self.encode build leftovers segment = .outOfBounds := by
  have dataLength := cut.dataLength
  have offsetSmall := (parsedOffset packet).toNat_lt
  have wrapped : 2 ^ 64 ≤ segment.dataLength.toNat + 20 := by omega
  exact encode_eq build leftovers allocated
    (writeSegmentTo_wraps build leftovers allocated wrapped)

end Encoding

theorem Encodes.bytesWritten {self : ResetDispatcher} {segment : Segment} {writer : DataWriter}
    (encodes : self.Encodes segment writer) :
    20 ≤ writer.bytesWritten.toNat ∧ writer.bytesWritten.toNat ≤ 1480 := by
  obtain ⟨⟨checksum, body, copies, small, rfl⟩, _⟩ := encodes
  have length := segment.packet_length checksum body
  rw [DataWriter.filled_bytesWritten copies (by omega), length]
  omega

theorem Encodes.packet {self : ResetDispatcher} {segment : Segment} {writer : DataWriter}
    (encodes : self.Encodes segment writer) :
    ∃ checksum body, writer.packet.bytes = segment.headerBytes checksum ++ body := by
  obtain ⟨⟨checksum, body, copies, small, rfl⟩, _, _⟩ := encodes
  have length := segment.packet_length checksum body
  exact ⟨checksum, body, DataWriter.filled_packet copies (by omega)⟩

theorem Encodes.allocated {self : ResetDispatcher} (allocated : self.Allocated) {segment : Segment}
    {writer : DataWriter} (encodes : self.Encodes segment writer) :
    Allocated ⟨writer.buffer⟩ := by
  obtain ⟨⟨checksum, body, copies, small, rfl⟩, _, _⟩ := encodes
  have length := segment.packet_length checksum body
  change (_ ++ self.buffer.drop _).length = 1480
  rw [List.length_append, List.length_drop, length, allocated]
  omega

/-- All copies stay within the 1480 bytes, and 20 to 1480 bytes are written, exactly when the
offset does not end up to 20 bytes past the packet. -/
theorem encode_within_iff (build : Build) (leftovers : Leftovers) (self : ResetDispatcher)
    (allocated : self.Allocated) (source destination : InAddr) (packet : Buffer)
    (header : 20 ≤ packet.bytes.length) (limit : packet.bytes.length ≤ 1480) :
    (∃ segment writer, Segment.parse build leftovers (IPAddress.ofInAddr source)
          (IPAddress.ofInAddr destination) packet = .done segment ∧
        self.encode build leftovers segment = .done writer ∧
        (∀ copy ∈ writer.copies, copy.1.toNat + copy.2.toNat ≤ 1480) ∧
        ((20, segment.dataLength) ∈ writer.copies ↔ segment.dataLength.toNat ≤ 1480 - 20) ∧
        20 ≤ writer.bytesWritten.toNat ∧ writer.bytesWritten.toNat ≤ 1480) ↔
      ¬(packet.bytes.length < (parsedOffset packet).toNat ∧
        (parsedOffset packet).toNat ≤ packet.bytes.length + 20) := by
  have cut := parsed_cutFrom build source destination packet
  rw [parse_eq _ _ _ _ _ (by omega)]
  constructor
  · rintro ⟨segment, writer, found, written, _⟩ ⟨past, close⟩
    rw [← Outcome.done.inj found, encode_wraps build leftovers allocated cut past close] at written
    cases written
  · intro safe
    obtain ⟨writer, written, encodes⟩ :=
      encode_safe build leftovers allocated cut (by omega) safe
    exact ⟨_, writer, rfl, written, encodes.copies, encodes.payload, encodes.bytesWritten⟩

def plainPacket : Buffer :=
  ⟨[19, 136, 0, 80, 0, 0, 0, 7, 0, 0, 0, 0, 80, 2, 255, 255, 0, 0, 0, 0, 71, 69, 84], by decide⟩

theorem plainPacket_within :
    20 ≤ plainPacket.bytes.length ∧ plainPacket.bytes.length ≤ 1480 ∧
      ∃ segment writer, Segment.parse .debug ⟨0, 0, 0, 0, 0⟩ (IPAddress.ofInAddr ⟨10, 0, 0, 1⟩)
          (IPAddress.ofInAddr ⟨10, 0, 0, 2⟩) plainPacket = .done segment ∧
        (ResetDispatcher.mk cleared).encode .debug ⟨0, 0, 0, 0, 0⟩ segment = .done writer ∧
        (∀ copy ∈ writer.copies, copy.1.toNat + copy.2.toNat ≤ 1480) ∧
        ((20, segment.dataLength) ∈ writer.copies ↔ segment.dataLength.toNat ≤ 1480 - 20) ∧
        20 ≤ writer.bytesWritten.toNat ∧ writer.bytesWritten.toNat ≤ 1480 := by
  refine ⟨by decide, by decide, ?_⟩
  exact (encode_within_iff .debug ⟨0, 0, 0, 0, 0⟩ ⟨cleared⟩ List.length_replicate ⟨10, 0, 0, 1⟩
    ⟨10, 0, 0, 2⟩ plainPacket (by decide) (by decide)).mpr (by decide)

-- a header of 20 bytes whose offset announces 24
def missingOption : Buffer :=
  ⟨[19, 136, 0, 80, 0, 0, 0, 7, 0, 0, 0, 0, 96, 2, 255, 255, 0, 0, 0, 0], by decide⟩

theorem missingOption_outOfBounds :
    ∃ segment, Segment.parse .debug ⟨0, 0, 0, 0, 0⟩ (IPAddress.ofInAddr ⟨10, 0, 0, 1⟩)
        (IPAddress.ofInAddr ⟨10, 0, 0, 2⟩) missingOption = .done segment ∧
      segment.dataLength.toNat = 2 ^ 64 - 4 ∧ 20 + segment.dataLength = 16 ∧
      (ResetDispatcher.mk cleared).encode .debug ⟨0, 0, 0, 0, 0⟩ segment = .outOfBounds := by
  refine ⟨_, parse_eq _ _ _ _ _ (by decide), ?_, ?_, ?_⟩
  · decide
  · decide
  · exact encode_wraps .debug ⟨0, 0, 0, 0, 0⟩ List.length_replicate
      (parsed_cutFrom .debug ⟨10, 0, 0, 1⟩ ⟨10, 0, 0, 2⟩ missingOption) (by decide) (by decide)

/-! What a stack without a session is to answer (RFC 793, the case without a TCB). -/

def segmentLength (segment : Segment) : SequenceNumber :=
  segment.dataLength.toUInt32 + (if segment.isSYN then 1 else 0) + (if segment.isFIN then 1 else 0)

structure ResetFor (segment reply : Segment) : Prop where
  source : reply.source = segment.destination
  destination : reply.destination = segment.source
  noPayload : reply.dataLength = 0
  acknowledged : segment.isACK = true →
    reply.flags = RST ∧ reply.sequence = segment.acknowledgment
  unacknowledged : segment.isACK = false → reply.flags = RST ||| ACK ∧ reply.sequence = 0 ∧
    reply.acknowledgment = segment.sequence + segmentLength segment

def Answers (build : Build) (leftovers : Leftovers) (segment : Segment) (sent : List SentPacket) :
    Prop :=
  if segment.isRST then sent = []
  else ∃ packet reply, sent = [packet] ∧ packet.source = segment.destination.host ∧
    packet.destination = segment.source.host ∧
    Segment.parse build leftovers packet.source packet.destination packet.packet = .done reply ∧
    ResetFor segment reply

def WellFormed (packet : Buffer) : Prop :=
  20 ≤ (parsedOffset packet).toNat ∧ (parsedOffset packet).toNat ≤ packet.bytes.length

section Answering

variable (build : Build) (leftovers : Leftovers) {self : ResetDispatcher}
  (allocated : self.Allocated) {packet : Buffer} (wellFormed : WellFormed packet)
  (source destination : InAddr)

include allocated wellFormed

/-- Every well-formed segment is sent back under its own header. -/
theorem onReceivePacket_echoes :
    ∃ segment sent after,
      Segment.parse build leftovers (IPAddress.ofInAddr source) (IPAddress.ofInAddr destination)
        packet = .done segment ∧
      self.onReceivePacket build leftovers packet (IPAddress.ofInAddr source)
        (IPAddress.ofInAddr destination) = .done ([sent], after) ∧
      sent.source = IPAddress.ofInAddr destination ∧
      sent.destination = IPAddress.ofInAddr source ∧
      (∃ checksum body, sent.packet.bytes = segment.headerBytes checksum ++ body) ∧
      after.Allocated := by
  obtain ⟨lower, upper⟩ := wellFormed
  have packetFits := packet.fits
  have cut := parsed_cutFrom build source destination packet
  have found := parse_eq build leftovers (IPAddress.ofInAddr source)
    (IPAddress.ofInAddr destination) packet (by omega)
  obtain ⟨writer, written, encodes⟩ :=
    encode_safe build leftovers allocated cut (by omega) (by omega)
  refine ⟨_, ⟨IPAddress.ofInAddr destination, IPAddress.ofInAddr source, .tcp, writer.packet⟩,
    ⟨writer.buffer⟩, found, ?_, rfl, rfl, encodes.packet, encodes.allocated allocated⟩
  rw [onReceivePacket, found]
  simp only [Outcome.done_bind, written]
  rfl

end Answering

theorem echo_wellFormed {segment : Segment} {echo : Buffer} {checksum : Nat} {body : List UInt8}
    (bytes : echo.bytes = segment.headerBytes checksum ++ body) : WellFormed echo := by
  have length : echo.bytes.length = 20 + body.length := by
    rw [bytes, packet_length]
  have offset : (parsedOffset echo).toNat = 20 := by
    rw [segment.parsedOffset_header bytes]
    rfl
  unfold WellFormed
  omega

theorem echo_flags (build : Build) (leftovers : Leftovers) (source destination : IPAddress)
    {segment reply : Segment} {echo : Buffer} {checksum : Nat} {body : List UInt8}
    (bytes : echo.bytes = segment.headerBytes checksum ++ body)
    (found : Segment.parse build leftovers source destination echo = .done reply) :
    reply.flags = segment.flags := by
  have length : 16 ≤ echo.bytes.length := by
    rw [bytes, packet_length]
    omega
  have flags : echo.field 13 1 = [segment.flags] := segment.field_header bytes 13 1 (by decide)
  rw [parse_eq _ _ _ _ _ length] at found
  rw [← Outcome.done.inj found]
  change UInt8.ofNat (networkValue (echo.field 13 1)) = _
  rw [flags, ofNat_networkValue8]

/-- An echo is no reset: it answers a reset with a packet, and anything else without RST. -/
theorem echo_not_answers (build : Build) (leftovers : Leftovers) {segment : Segment}
    {sent : SentPacket} {checksum : Nat} {body : List UInt8}
    (bytes : sent.packet.bytes = segment.headerBytes checksum ++ body) :
    ¬Answers build leftovers segment [sent] := by
  unfold Answers
  cases reset : segment.isRST with
  | true => simp
  | false =>
      rintro ⟨packet, reply, same, _, _, found, resets⟩
      obtain rfl := List.singleton_inj.mp same
      have flags := echo_flags build leftovers _ _ bytes found
      have unset : reply.isRST = false := by
        rw [isRST, hasFlag, flags]
        exact reset
      have set : reply.isRST = true := by
        cases ack : segment.isACK with
        | true =>
            rw [isRST, hasFlag, (resets.acknowledged ack).1]
            decide
        | false =>
            rw [isRST, hasFlag, (resets.unacknowledged ack).1]
            decide
      rw [set] at unset
      cases unset

theorem exchange_unbounded (build : Build) (leftovers : Nat → Leftovers) (rounds : Nat)
    {here there : ResetDispatcher} (hereAllocated : here.Allocated)
    (thereAllocated : there.Allocated) {arrived : SentPacket} {source destination : InAddr}
    (arrivedSource : arrived.source = IPAddress.ofInAddr source)
    (arrivedDestination : arrived.destination = IPAddress.ofInAddr destination)
    (wellFormed : WellFormed arrived.packet) :
    ∃ replies, exchange build leftovers rounds here there arrived = .done replies ∧
      replies.length = rounds := by
  induction rounds generalizing here there arrived source destination with
  | zero => exact ⟨[], rfl, rfl⟩
  | succ rounds ih =>
      obtain ⟨segment, sent, after, _, answered, sentSource, sentDestination,
        ⟨checksum, body, bytes⟩, allocated⟩ :=
        onReceivePacket_echoes build (leftovers rounds) hereAllocated wellFormed source destination
      obtain ⟨replies, later, count⟩ :=
        ih thereAllocated allocated sentSource sentDestination (echo_wellFormed bytes)
      refine ⟨sent :: replies, ?_, by rw [List.length_cons, count]⟩
      rw [exchange, arrivedSource, arrivedDestination, answered]
      simp only [Outcome.done_bind, later]
      rfl

/-- No well-formed segment gets the answer it is to get, and two stacks never stop answering
each other. -/
theorem reset_never_answers (build : Build) (leftovers : Leftovers) (self : ResetDispatcher)
    (allocated : self.Allocated) (packet : Buffer) (wellFormed : WellFormed packet)
    (source destination : InAddr) :
    (∃ segment sent after,
      Segment.parse build leftovers (IPAddress.ofInAddr source) (IPAddress.ofInAddr destination)
        packet = .done segment ∧
      self.onReceivePacket build leftovers packet (IPAddress.ofInAddr source)
        (IPAddress.ofInAddr destination) = .done (sent, after) ∧
      ∀ later, ¬Answers build later segment sent) ∧
    ∀ other : ResetDispatcher, other.Allocated → ∀ held rounds, ∃ replies,
      exchange build held rounds self other
        ⟨IPAddress.ofInAddr source, IPAddress.ofInAddr destination, .tcp, packet⟩ = .done replies ∧
      replies.length = rounds := by
  constructor
  · obtain ⟨segment, sent, after, found, answered, _, _, ⟨checksum, body, bytes⟩, _⟩ :=
      onReceivePacket_echoes build leftovers allocated wellFormed source destination
    refine ⟨segment, [sent], after, found, answered, ?_⟩
    intro later
    exact echo_not_answers build later bytes
  · intro other otherAllocated held rounds
    exact exchange_unbounded build held rounds allocated otherAllocated rfl rfl wellFormed

theorem plainPacket_never_answered :
    Allocated ⟨cleared⟩ ∧ WellFormed plainPacket ∧
      ∃ replies, exchange .debug (fun _ => ⟨0, 0, 0, 0, 0⟩) 1000 ⟨cleared⟩ ⟨cleared⟩
        ⟨IPAddress.ofInAddr ⟨10, 0, 0, 1⟩, IPAddress.ofInAddr ⟨10, 0, 0, 2⟩, .tcp, plainPacket⟩ =
          .done replies ∧ replies.length = 1000 := by
  have allocated : Allocated ⟨cleared⟩ := List.length_replicate
  have wellFormed : WellFormed plainPacket := by
    unfold WellFormed
    decide
  refine ⟨allocated, wellFormed, ?_⟩
  exact (reset_never_answers .debug ⟨0, 0, 0, 0, 0⟩ ⟨cleared⟩ allocated plainPacket wellFormed
    ⟨10, 0, 0, 1⟩ ⟨10, 0, 0, 2⟩).2 ⟨cleared⟩ allocated _ 1000

/-- `plainPacket` is a SYN to a closed port: it comes back with its ports and flags. -/
theorem plainPacket_echoed :
    ∃ segment sent after reply,
      Segment.parse .debug ⟨0, 0, 0, 0, 0⟩ (IPAddress.ofInAddr ⟨10, 0, 0, 1⟩)
        (IPAddress.ofInAddr ⟨10, 0, 0, 2⟩) plainPacket = .done segment ∧
      onReceivePacket .debug ⟨0, 0, 0, 0, 0⟩ ⟨cleared⟩ plainPacket
        (IPAddress.ofInAddr ⟨10, 0, 0, 1⟩) (IPAddress.ofInAddr ⟨10, 0, 0, 2⟩) =
          .done ([sent], after) ∧
      Segment.parse .debug ⟨0, 0, 0, 0, 0⟩ sent.source sent.destination sent.packet = .done reply ∧
      segment.flags = SYN ∧ reply.flags = SYN ∧
      ¬Answers .debug ⟨0, 0, 0, 0, 0⟩ segment [sent] := by
  have allocated : Allocated ⟨cleared⟩ := List.length_replicate
  have wellFormed : WellFormed plainPacket := by
    unfold WellFormed
    decide
  obtain ⟨segment, sent, after, found, answered, _, _, ⟨checksum, body, bytes⟩, _⟩ :=
    onReceivePacket_echoes .debug ⟨0, 0, 0, 0, 0⟩ allocated wellFormed ⟨10, 0, 0, 1⟩ ⟨10, 0, 0, 2⟩
  have flags : segment.flags = SYN := by
    rw [parse_eq _ _ _ _ _ (by decide)] at found
    rw [← Outcome.done.inj found]
    rfl
  have length : 16 ≤ sent.packet.bytes.length := by
    rw [bytes, packet_length]
    omega
  have again := parse_eq .debug ⟨0, 0, 0, 0, 0⟩ sent.source sent.destination sent.packet length
  refine ⟨segment, sent, after, _, found, answered, again, flags, ?_, ?_⟩
  · rw [echo_flags .debug ⟨0, 0, 0, 0, 0⟩ _ _ bytes again, flags]
  · exact echo_not_answers .debug ⟨0, 0, 0, 0, 0⟩ bytes

end ResetDispatcher

end LabNetstack
