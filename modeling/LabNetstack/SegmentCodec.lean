import LabNetstack.Checksum
import LabNetstack.SegmentParse

/-! The TCP header on the wire, and what `writeSegmentTo` makes of a segment. -/

namespace LabNetstack

namespace Segment

-- the header up to the checksum
def headerFront (segment : Segment) : List UInt8 :=
  networkBytes 2 segment.source.port.toNat ++ networkBytes 2 segment.destination.port.toNat ++
    networkBytes 4 segment.sequence.toNat ++ networkBytes 4 segment.acknowledgment.toNat ++
    [0x50] ++ [segment.flags] ++ networkBytes 2 segment.window.toNat

def headerBytes (segment : Segment) (checksum : Nat) : List UInt8 :=
  segment.headerFront ++ networkBytes 2 checksum ++ networkBytes 2 0

def headerCopies : List (UInt64 × UInt64) :=
  [(0, 2), (2, 2), (4, 4), (8, 4), (12, 1), (13, 1), (14, 2), (16, 2), (18, 2)]

@[simp] theorem headerFront_length (segment : Segment) : segment.headerFront.length = 16 := by
  simp [headerFront]

@[simp] theorem headerBytes_length (segment : Segment) (checksum : Nat) :
    (segment.headerBytes checksum).length = 20 := by
  simp [headerBytes]

theorem packet_length (segment : Segment) (checksum : Nat) (body : List UInt8) :
    (segment.headerBytes checksum ++ body).length = 20 + body.length := by
  rw [List.length_append, headerBytes_length]

/-! After the payload: the checksum over what was written, put in its place. -/

def finish (build : Build) (leftovers : Leftovers) (segment : Segment) (writer : DataWriter) :
    Outcome (Bool × DataWriter) := do
  let tcpLength := (segment.dataLength + kTcpHeaderLength).toUInt16
  let written ← copyOut writer.buffer 0 writer.length.toNat
  let checksum := Checksum.ofRange written
  let checksum ← checksum.addIPAddress build leftovers.sourceWord segment.source.host
  let checksum ← checksum.addIPAddress build leftovers.destinationWord segment.destination.host
  let checksum := checksum.addHostUInt16 ServiceProtocol.tcp.number
  let checksum := checksum.addHostUInt16 tcpLength
  let buffer ← checksum.writeTo writer.buffer 16
  pure (false, { writer with buffer := buffer })

theorem writeSegmentTo_header (build : Build) (leftovers : Leftovers) (segment : Segment)
    {memory : List UInt8} (allocated : memory.length = 1480) :
    segment.writeSegmentTo build leftovers (DataWriter.filled memory [] []) =
      ((DataWriter.filled memory (segment.headerBytes 0) headerCopies).writeBytes
        segment.data.target segment.dataLength >>= fun wrote =>
          segment.finish build leftovers wrote.2) := by
  have small : memory.length < 2 ^ 32 := by omega
  simp (disch := simp [allocated]) only [writeSegmentTo, DataWriter.writeUInt16_filled,
    DataWriter.writeUInt32_filled, DataWriter.writeUInt8_filled, Outcome.done_bind]
  rfl

-- the words that `writeSegmentTo` adds after those it has written
def pseudoTotal (build : Build) (leftovers : Leftovers) (segment : Segment) : Nat :=
  (networkWords (Checksum.addressMemory build leftovers.sourceWord segment.source.host)).sum +
    (networkWords (Checksum.addressMemory build leftovers.destinationWord
      segment.destination.host)).sum +
    6 + (segment.dataLength + kTcpHeaderLength).toUInt16.toNat

def checksumOf (build : Build) (leftovers : Leftovers) (segment : Segment) (front : List UInt8) :
    Nat :=
  65535 - residue 65535 ((networkWords front).sum + segment.pseudoTotal build leftovers)

def finalChecksum (build : Build) (leftovers : Leftovers) (segment : Segment)
    (front : List UInt8) : Checksum :=
  let checksum := (Checksum.ofRange front).addMemory
    (Checksum.addressMemory build leftovers.sourceWord segment.source.host)
  let checksum := checksum.addMemory
    (Checksum.addressMemory build leftovers.destinationWord segment.destination.host)
  let checksum := checksum.addHostUInt16 ServiceProtocol.tcp.number
  checksum.addHostUInt16 (segment.dataLength + kTcpHeaderLength).toUInt16

theorem finalChecksum_totals (build : Build) (leftovers : Leftovers) (segment : Segment)
    (front : List UInt8) : (segment.finalChecksum build leftovers front).Totals
      ((networkWords front).sum + segment.pseudoTotal build leftovers) := by
  have range := Checksum.ofRange_totals front
  have source := range.addMemory
    (Checksum.addressMemory_length build leftovers.sourceWord segment.source.host)
  have destination := source.addMemory
    (Checksum.addressMemory_length build leftovers.destinationWord segment.destination.host)
  have protocol := destination.addHostUInt16 ServiceProtocol.tcp.number
  have length := protocol.addHostUInt16 (segment.dataLength + kTcpHeaderLength).toUInt16
  have six : ServiceProtocol.tcp.number.toNat = 6 := rfl
  rw [six] at length
  rw [pseudoTotal, ← Nat.add_assoc, ← Nat.add_assoc, ← Nat.add_assoc]
  exact length

theorem writeTo_filled {checksum : Checksum} {total : Nat} (totals : checksum.Totals total)
    {memory front : List UInt8} (lower : 18 ≤ front.length) :
    checksum.writeTo (front ++ memory) 16 = .done
      ((front.take 16 ++ networkBytes 2 (65535 - residue 65535 total) ++ front.drop 18) ++
        memory) := by
  have fits : 16 + 2 ≤ (front ++ memory).length := by
    rw [List.length_append]
    omega
  have field : [((~~~checksum.sum) >>> 8).toUInt8, (~~~checksum.sum).toUInt8] =
      networkBytes 2 (65535 - residue 65535 total) := by
    rw [Checksum.complement_bytes, totals]
  have whole : (networkBytes 2 (65535 - residue 65535 total)).take 2 =
      networkBytes 2 (65535 - residue 65535 total) := rfl
  change copyIn (front ++ memory) 16
    [((~~~checksum.sum) >>> 8).toUInt8, (~~~checksum.sum).toUInt8] 2 = _
  rw [field, copyIn_done fits (networkBytes_length 2 _).ge, whole, splice, networkBytes_length,
    List.take_append_of_le_length (by omega), List.drop_append_of_le_length (by omega),
    List.append_assoc, List.append_assoc, List.append_assoc]

structure BothV4 (segment : Segment) : Prop where
  source : segment.source.host.family = .ipV4
  destination : segment.destination.host.family = .ipV4

theorem finish_filled (build : Build) (leftovers : Leftovers) {segment : Segment}
    (bothV4 : segment.BothV4) {memory front : List UInt8} (copies : List (UInt64 × UInt64))
    (small : memory.length < 2 ^ 32) (lower : 18 ≤ front.length)
    (upper : front.length ≤ memory.length) :
    segment.finish build leftovers (DataWriter.filled memory front copies) = .done (false,
      DataWriter.filled memory
        (front.take 16 ++ networkBytes 2 (segment.checksumOf build leftovers front) ++ front.drop 18)
        copies) := by
  have written : copyOut (DataWriter.filled memory front copies).buffer 0
      (DataWriter.filled memory front copies).length.toNat = .done front :=
    DataWriter.filled_written copies (by omega)
  have placed : (segment.finalChecksum build leftovers front).writeTo
      (front ++ memory.drop front.length) 16 = _ :=
    writeTo_filled (segment.finalChecksum_totals build leftovers front) lower
  have same : (front.take 16 ++ networkBytes 2 (segment.checksumOf build leftovers front) ++
      front.drop 18).length = front.length := by
    simp only [List.length_append, List.length_take, List.length_drop, networkBytes_length]
    omega
  simp only [finish, written, Outcome.done_bind,
    Checksum.addIPAddress_eq _ _ _ _ bothV4.source,
    Checksum.addIPAddress_eq _ _ _ _ bothV4.destination]
  change ((segment.finalChecksum build leftovers front).writeTo
    (front ++ memory.drop front.length) 16 >>= _) = _
  rw [placed]
  simp only [Outcome.done_bind, Outcome.pure_eq, DataWriter.filled, same]
  rfl

-- `LOG(FATAL)` in `IPAddress::writeTo`, which only a debug build reaches
theorem finish_aborted (leftovers : Leftovers) {segment : Segment} (other : ¬segment.BothV4)
    {memory front : List UInt8} (copies : List (UInt64 × UInt64))
    (small : front.length < 2 ^ 64) :
    segment.finish .debug leftovers (DataWriter.filled memory front copies) = .aborted := by
  have written : copyOut (DataWriter.filled memory front copies).buffer 0
      (DataWriter.filled memory front copies).length.toNat = .done front :=
    DataWriter.filled_written copies small
  by_cases source : segment.source.host.family = .ipV4
  · have destination : segment.destination.host.family ≠ .ipV4 := fun isV4 => other ⟨source, isV4⟩
    simp only [finish, written, Outcome.done_bind, Outcome.aborted_bind,
      Checksum.addIPAddress_eq _ _ _ _ source, Checksum.addIPAddress_aborted _ _ destination]
  · simp only [finish, written, Outcome.done_bind, Outcome.aborted_bind,
      Checksum.addIPAddress_aborted _ _ source]

/-! The three ways the payload can fare. -/

def encoded (build : Build) (leftovers : Leftovers) (segment : Segment) (body : List UInt8) :
    List UInt8 :=
  segment.headerBytes (segment.checksumOf build leftovers (segment.headerBytes 0 ++ body)) ++ body

@[simp] theorem encoded_length (build : Build) (leftovers : Leftovers) (segment : Segment)
    (body : List UInt8) : (segment.encoded build leftovers body).length = 20 + body.length :=
  segment.packet_length _ body

theorem headerBytes_patched (segment : Segment) (checksum : Nat) (body : List UInt8) :
    (segment.headerBytes 0 ++ body).take 16 ++ networkBytes 2 checksum ++
      (segment.headerBytes 0 ++ body).drop 18 = segment.headerBytes checksum ++ body := by
  have front := segment.headerFront_length
  have before : (segment.headerBytes 0 ++ body).take 16 = segment.headerFront := by
    simp only [headerBytes, List.append_assoc]
    exact List.take_left' front
  have after : (segment.headerBytes 0 ++ body).drop 18 = networkBytes 2 0 ++ body := by
    simp only [headerBytes, List.append_assoc]
    rw [← List.append_assoc segment.headerFront]
    exact List.drop_left' (by rw [List.length_append, front, networkBytes_length])
  rw [before, after, headerBytes, List.append_assoc, List.append_assoc, List.append_assoc]

section Written

variable (build : Build) (leftovers : Leftovers) {segment : Segment} (bothV4 : segment.BothV4)
  {memory : List UInt8} (allocated : memory.length = 1480)

include bothV4 allocated

theorem writeSegmentTo_carried (fits : segment.dataLength.toNat ≤ 1460)
    (enough : segment.dataLength.toNat ≤ segment.data.target.length) :
    segment.writeSegmentTo build leftovers (DataWriter.filled memory [] []) = .done (false,
      DataWriter.filled memory (segment.encoded build leftovers segment.payload)
        (headerCopies ++ [(20, segment.dataLength)])) := by
  have small : memory.length < 2 ^ 32 := by omega
  have header := segment.headerBytes_length 0
  have length : segment.payload.length = segment.dataLength.toNat := by
    rw [payload, List.length_take]
    omega
  rw [writeSegmentTo_header build leftovers segment allocated,
    DataWriter.writeBytes_filled small (by omega) enough, Outcome.done_bind,
    finish_filled build leftovers bothV4 _ small, headerBytes_patched]
  · rw [header]
    rfl
  · rw [List.length_append]
    omega
  · change (segment.headerBytes 0 ++ segment.payload).length ≤ _
    rw [List.length_append]
    omega

theorem writeSegmentTo_refused (exceeds : 1460 < segment.dataLength.toNat)
    (unwrapped : segment.dataLength.toNat + 20 < 2 ^ 64) :
    segment.writeSegmentTo build leftovers (DataWriter.filled memory [] []) = .done (false,
      DataWriter.filled memory (segment.encoded build leftovers []) headerCopies) := by
  have small : memory.length < 2 ^ 32 := by omega
  have header := segment.headerBytes_length 0
  have patched := headerBytes_patched segment
    (segment.checksumOf build leftovers (segment.headerBytes 0)) []
  rw [List.append_nil] at patched
  rw [writeSegmentTo_header build leftovers segment allocated,
    DataWriter.writeBytes_refused small (by omega) (by omega) (by omega), Outcome.done_bind,
    finish_filled build leftovers bothV4 _ small (by omega) (by omega), patched]
  simp only [encoded, List.append_nil]

omit bothV4 in
theorem writeSegmentTo_wraps (wrapped : 2 ^ 64 ≤ segment.dataLength.toNat + 20) :
    segment.writeSegmentTo build leftovers (DataWriter.filled memory [] []) = .outOfBounds := by
  have small : memory.length < 2 ^ 32 := by omega
  have header := segment.headerBytes_length 0
  have bound := segment.dataLength.toNat_lt
  rw [writeSegmentTo_header build leftovers segment allocated,
    DataWriter.writeBytes_wraps small (by omega) (by omega) (by omega), Outcome.outOfBounds_bind]

omit bothV4 in
theorem writeSegmentTo_short (fits : segment.dataLength.toNat ≤ 1460)
    (short : segment.data.target.length < segment.dataLength.toNat) :
    segment.writeSegmentTo build leftovers (DataWriter.filled memory [] []) = .outOfBounds := by
  have small : memory.length < 2 ^ 32 := by omega
  have header := segment.headerBytes_length 0
  rw [writeSegmentTo_header build leftovers segment allocated,
    DataWriter.writeBytes_short small (by omega) short, Outcome.outOfBounds_bind]

end Written

theorem create_filled {memory : List UInt8} (allocated : memory.length = 1480) :
    DataWriter.create memory kMaxTCPPacketLength = DataWriter.filled memory [] [] := by
  have capacity : kMaxTCPPacketLength = UInt64.ofNat memory.length := by
    rw [allocated]
    rfl
  rw [capacity, DataWriter.create_eq]

/-! Reading back what was written. -/

-- what is left of a segment that travels: the data lies in the packet
def received (segment : Segment) (packet : Buffer) : Segment :=
  { segment with data := ⟨packet.bytes, 20⟩, ownData := false }

theorem field_header (segment : Segment) {packet : Buffer} {checksum : Nat} {body : List UInt8}
    (bytes : packet.bytes = segment.headerBytes checksum ++ body) (start count : Nat)
    (within : start + count ≤ 16) :
    packet.field start count = (segment.headerFront.drop start).take count := by
  have front := segment.headerFront_length
  rw [Buffer.field, bytes, headerBytes, List.append_assoc, List.append_assoc,
    List.drop_append_of_le_length (by omega), List.take_append_of_le_length (by
      rw [List.length_drop]
      omega)]

theorem parsedOffset_header (segment : Segment) {packet : Buffer} {checksum : Nat}
    {body : List UInt8} (bytes : packet.bytes = segment.headerBytes checksum ++ body) :
    parsedOffset packet = 20 := by
  have offset : packet.field 12 1 = [0x50] := segment.field_header bytes 12 1 (by decide)
  rw [parsedOffset, offset]
  rfl

theorem parsed_encoded (segment : Segment) {packet : Buffer} {checksum : Nat} {body : List UInt8}
    (bytes : packet.bytes = segment.headerBytes checksum ++ body)
    (length : segment.dataLength.toNat = body.length) :
    parsed .debug segment.source.host segment.destination.host packet =
      segment.received packet := by
  have fieldAt := fun start count => segment.field_header bytes start count
  have sourcePort : packet.field 0 2 = networkBytes 2 segment.source.port.toNat :=
    fieldAt 0 2 (by decide)
  have destinationPort : packet.field 2 2 = networkBytes 2 segment.destination.port.toNat :=
    fieldAt 2 2 (by decide)
  have sequence : packet.field 4 4 = networkBytes 4 segment.sequence.toNat :=
    fieldAt 4 4 (by decide)
  have acknowledgment : packet.field 8 4 = networkBytes 4 segment.acknowledgment.toNat :=
    fieldAt 8 4 (by decide)
  have flags : packet.field 13 1 = [segment.flags] := fieldAt 13 1 (by decide)
  have window : packet.field 14 2 = networkBytes 2 segment.window.toNat :=
    fieldAt 14 2 (by decide)
  have twenty := segment.parsedOffset_header bytes
  have dataLength : packet.length - (20 : UInt8).toUInt64 = segment.dataLength := by
    have total : packet.length.toNat = 20 + body.length := by
      rw [Buffer.length_toNat, bytes, packet_length]
    have header : (20 : UInt8).toUInt64.toNat = 20 := rfl
    rw [← UInt64.toNat_inj, UInt64.toNat_sub_of_le, total, header, length]
    · omega
    · rw [UInt64.le_iff_toNat_le, total, header]
      omega
  simp only [parsed, parsedWindow, sourcePort, destinationPort, sequence, acknowledgment, flags,
    window, twenty, dataLength, ofNat_networkValue16, ofNat_networkValue32, ofNat_networkValue8]
  rfl

theorem received_encoded (leftovers again : Leftovers) (segment : Segment) (packet : Buffer)
    (body : List UInt8) : (segment.received packet).encoded .debug again body =
      segment.encoded .debug leftovers body := rfl

theorem received_bothV4 {segment : Segment} (bothV4 : segment.BothV4) (packet : Buffer) :
    (segment.received packet).BothV4 := ⟨bothV4.source, bothV4.destination⟩

section Received

variable (segment : Segment) {packet : Buffer} {checksum : Nat}
  (bytes : packet.bytes = segment.headerBytes checksum ++ segment.payload)
  (readable : segment.dataLength.toNat ≤ segment.data.target.length)

include readable in
theorem payload_length : segment.payload.length = segment.dataLength.toNat := by
  rw [payload, List.length_take]
  omega

include bytes in
theorem received_target : (segment.received packet).data.target = segment.payload := by
  simp only [received, Pointer.target, bytes]
  exact List.drop_left' (segment.headerBytes_length checksum)

include bytes readable

theorem received_payload : (segment.received packet).payload = segment.payload := by
  have length : (segment.received packet).dataLength.toNat = segment.payload.length :=
    (segment.payload_length readable).symm
  rw [payload, received_target segment bytes, length, List.take_length]

theorem received_readable : (segment.received packet).dataLength.toNat ≤
    (segment.received packet).data.target.length := by
  have length : (segment.received packet).dataLength.toNat = segment.payload.length :=
    (segment.payload_length readable).symm
  rw [received_target segment bytes, length]

theorem parse_encoded (leftovers : Leftovers) :
    parse .debug leftovers segment.source.host segment.destination.host packet =
      .done (segment.received packet) := by
  have enough : 16 ≤ packet.bytes.length := by
    rw [bytes, packet_length]
    omega
  rw [parse_eq _ _ _ _ _ enough,
    parsed_encoded segment bytes (segment.payload_length readable).symm]

end Received

/-- A debug build writes 20 bytes and the payload, reads the same segment back, and writes the
same bytes again. -/
theorem codec_roundTrip (segment : Segment) (bothV4 : segment.BothV4)
    (fits : segment.dataLength.toNat ≤ 1460)
    (readable : segment.dataLength.toNat ≤ segment.data.target.length)
    (leftovers later : Leftovers) (memory elsewhere : List UInt8)
    (allocated : memory.length = 1480) (allocatedElsewhere : elsewhere.length = 1480) :
    ∃ writer, segment.writeSegmentTo .debug leftovers
        (DataWriter.create memory kMaxTCPPacketLength) = .done (false, writer) ∧
      writer.bytesWritten.toNat = 20 + segment.dataLength.toNat ∧
      writer.packet.bytes.length = 20 + segment.dataLength.toNat ∧
      ∃ reply, parse .debug later segment.source.host segment.destination.host
          writer.packet = .done reply ∧
        reply.source = segment.source ∧ reply.destination = segment.destination ∧
        reply.sequence = segment.sequence ∧ reply.acknowledgment = segment.acknowledgment ∧
        reply.flags = segment.flags ∧ reply.window = segment.window ∧
        reply.payload = segment.payload ∧
        ∃ second, reply.writeSegmentTo .debug later
            (DataWriter.create elsewhere kMaxTCPPacketLength) = .done (false, second) ∧
          second.packet.bytes = writer.packet.bytes := by
  have length := segment.payload_length readable
  have size := encoded_length .debug leftovers segment segment.payload
  have written := writeSegmentTo_carried .debug leftovers bothV4 allocated fits readable
  rw [create_filled allocated, create_filled allocatedElsewhere, written]
  refine ⟨_, rfl, ?_, ?_, ?_⟩
  · rw [DataWriter.filled_bytesWritten _ (by omega), size, length]
  · rw [DataWriter.filled_packet _ (by omega), size, length]
  · generalize held : (DataWriter.filled memory
      (segment.encoded .debug leftovers segment.payload)
      (headerCopies ++ [(20, segment.dataLength)])).packet = packet
    have bytes : packet.bytes = segment.encoded .debug leftovers segment.payload := by
      rw [← held]
      exact DataWriter.filled_packet _ (by omega)
    have again := writeSegmentTo_carried .debug later (received_bothV4 bothV4 packet)
      allocatedElsewhere fits (segment.received_readable bytes readable)
    rw [segment.received_payload bytes readable, received_encoded leftovers] at again
    refine ⟨_, segment.parse_encoded bytes readable later, rfl, rfl, rfl, rfl, rfl, rfl,
      segment.received_payload bytes readable, _, again, ?_⟩
    rw [DataWriter.filled_packet _ (by omega), bytes]

def sampleSegment : Segment :=
  { source := ⟨IPAddress.ofInAddr ⟨10, 0, 0, 1⟩, 5000⟩
    destination := ⟨IPAddress.ofInAddr ⟨10, 0, 0, 2⟩, 80⟩
    sequence := 4294967295
    acknowledgment := 7
    flags := ACK
    window := 65535
    data := ⟨[71, 69, 84], 0⟩
    ownData := false
    dataLength := 3 }

def cleared : List UInt8 := List.replicate 1480 0

theorem sampleSegment_roundTrip :
    sampleSegment.BothV4 ∧ sampleSegment.dataLength.toNat ≤ sampleSegment.data.target.length ∧
      cleared.length = 1480 ∧
      ∃ writer, sampleSegment.writeSegmentTo .debug ⟨0, 0, 0, 0, 0⟩
          (DataWriter.create cleared kMaxTCPPacketLength) = .done (false, writer) ∧
        writer.bytesWritten.toNat = 23 := by
  have bothV4 : sampleSegment.BothV4 := ⟨rfl, rfl⟩
  have readable : sampleSegment.dataLength.toNat ≤ sampleSegment.data.target.length := by decide
  have allocated : cleared.length = 1480 := List.length_replicate
  obtain ⟨writer, written, count, _⟩ := codec_roundTrip sampleSegment bothV4 (by decide) readable
    ⟨0, 0, 0, 0, 0⟩ ⟨1, 2, 3, 4, 5⟩ cleared cleared allocated allocated
  exact ⟨bothV4, readable, allocated, writer, written, count⟩

/-! The checksum a receiver verifies. -/

def onesComplementSum (bytes : List UInt8) : Nat := carrySum 65535 0 (networkWords bytes)

def pseudoHeader (source destination : InAddr) (length : Nat) : List UInt8 :=
  source.bytes ++ destination.bytes ++ [0, 6] ++ networkBytes 2 length

def recomputed (build : Build) (leftovers : Leftovers) (source destination : IPAddress)
    (packet : Buffer) : Outcome Checksum := do
  let checksum := Checksum.ofRange packet.bytes
  let checksum ← checksum.addIPAddress build leftovers.sourceWord source
  let checksum ← checksum.addIPAddress build leftovers.destinationWord destination
  let checksum := checksum.addHostUInt16 ServiceProtocol.tcp.number
  pure (checksum.addHostUInt16 packet.length.toUInt16)

theorem networkWords_header (segment : Segment) (checksum : Nat) (small : checksum < 65536)
    (body : List UInt8) : (networkWords (segment.headerBytes checksum ++ body)).sum =
      (networkWords (segment.headerBytes 0 ++ body)).sum + checksum := by
  have split : ∀ field, (networkWords (segment.headerBytes field ++ body)).sum =
      (networkWords segment.headerFront).sum + (networkWords (networkBytes 2 field)).sum +
        (networkWords (networkBytes 2 0 ++ body)).sum := by
    intro field
    have front := segment.headerFront_length
    rw [headerBytes, List.append_assoc, networkWords_append, networkWords_append, List.sum_append,
      List.sum_append]
    · rw [front]
    · rw [List.length_append, front, networkBytes_length]
  have word : ∀ field, (networkWords (networkBytes 2 field)).sum = field % 65536 := by
    intro field
    exact networkValue_networkBytes 2 field
  rw [split checksum, split 0, word, word]
  omega

theorem pseudoHeader_sum (source destination : InAddr) {length : Nat} (small : length < 65536) :
    (networkWords (pseudoHeader source destination length)).sum =
      (networkWords source.bytes).sum + (networkWords destination.bytes).sum + 6 + length := by
  have word : (networkWords (networkBytes 2 length)).sum = length % 65536 :=
    networkValue_networkBytes 2 length
  have protocol : (networkWords [0, 6]).sum = 6 := rfl
  have sourceLength : source.bytes.length = 4 := rfl
  have destinationLength : destination.bytes.length = 4 := rfl
  rw [pseudoHeader, networkWords_append, networkWords_append, networkWords_append, List.sum_append,
    List.sum_append, List.sum_append, word, protocol, Nat.mod_eq_of_lt small]
  · rw [sourceLength]
  · rw [List.length_append, sourceLength, destinationLength]
  · rw [List.length_append, List.length_append, sourceLength, destinationLength]
    rfl

theorem encoded_sum (build : Build) (leftovers : Leftovers) (segment : Segment)
    (body : List UInt8) :
    residue 65535 ((networkWords (segment.encoded build leftovers body)).sum +
      segment.pseudoTotal build leftovers) = 65535 := by
  have top : (0 : Nat) < 65535 := by decide
  have bound : segment.checksumOf build leftovers (segment.headerBytes 0 ++ body) < 65536 := by
    rw [checksumOf]
    omega
  rw [encoded, networkWords_header _ _ bound, Nat.add_right_comm]
  exact residue_complement top _

theorem recomputed_eq (leftovers : Leftovers) {segment : Segment} (bothV4 : segment.BothV4)
    {packet : Buffer} (length : packet.length = segment.dataLength + kTcpHeaderLength) :
    recomputed .debug leftovers segment.source.host segment.destination.host packet =
      .done (segment.finalChecksum .debug leftovers packet.bytes) := by
  simp only [recomputed, Checksum.addIPAddress_eq _ _ _ _ bothV4.source,
    Checksum.addIPAddress_eq _ _ _ _ bothV4.destination, Outcome.done_bind, length]
  rfl

/-- The sum over a written segment and its pseudo header is all ones, by the plain definition of
the sum and by `Checksum` itself. -/
theorem checksum_valid (segment : Segment) (bothV4 : segment.BothV4)
    (fits : segment.dataLength.toNat ≤ 1460)
    (readable : segment.dataLength.toNat ≤ segment.data.target.length)
    (leftovers later : Leftovers) (memory : List UInt8) (allocated : memory.length = 1480) :
    ∃ writer, segment.writeSegmentTo .debug leftovers
        (DataWriter.create memory kMaxTCPPacketLength) = .done (false, writer) ∧
      onesComplementSum (pseudoHeader segment.source.host.v4 segment.destination.host.v4
        (20 + segment.dataLength.toNat) ++ writer.packet.bytes) = 0xffff ∧
      ∃ checksum, recomputed .debug later segment.source.host segment.destination.host
          writer.packet = .done checksum ∧ checksum.getChecksum = 0xffff := by
  have top : (0 : Nat) < 65535 := by decide
  have twenty : kTcpHeaderLength.toNat = 20 := rfl
  have length := segment.payload_length readable
  have size := encoded_length .debug leftovers segment segment.payload
  have written := writeSegmentTo_carried .debug leftovers bothV4 allocated fits readable
  have sum := encoded_sum .debug leftovers segment segment.payload
  rw [create_filled allocated, written]
  generalize held : DataWriter.filled memory (segment.encoded .debug leftovers segment.payload)
    (headerCopies ++ [(20, segment.dataLength)]) = writer
  have bytes : writer.packet.bytes = segment.encoded .debug leftovers segment.payload := by
    rw [← held]
    exact DataWriter.filled_packet _ (by omega)
  refine ⟨writer, rfl, ?_, ?_⟩
  · have tcpLength : (segment.dataLength + kTcpHeaderLength).toUInt16.toNat =
        20 + segment.dataLength.toNat := by
      rw [UInt64.toNat_toUInt16, UInt64.toNat_add, twenty]
      omega
    have pseudo : (networkWords (pseudoHeader segment.source.host.v4 segment.destination.host.v4
        (20 + segment.dataLength.toNat))).sum = segment.pseudoTotal .debug leftovers := by
      rw [pseudoHeader_sum _ _ (by omega), pseudoTotal, tcpLength]
      rfl
    rw [onesComplementSum, carrySum_eq top (Nat.zero_le _) (networkWords_le _), Nat.zero_add,
      networkWords_append _ _ (by simp [pseudoHeader, InAddr.bytes]), List.sum_append, pseudo, bytes,
      Nat.add_comm]
    exact sum
  · have packetLength : writer.packet.length = segment.dataLength + kTcpHeaderLength := by
      rw [← UInt64.toNat_inj, Buffer.length_toNat, bytes, size, length, UInt64.toNat_add, twenty]
      omega
    have totals := segment.finalChecksum_totals .debug later writer.packet.bytes
    have same : segment.pseudoTotal .debug later = segment.pseudoTotal .debug leftovers := rfl
    rw [Checksum.Totals, bytes, same, sum, ← bytes] at totals
    refine ⟨_, recomputed_eq later bothV4 packetLength, ?_⟩
    rw [Checksum.getChecksum, ← UInt16.toNat_inj, totals]
    rfl

theorem sampleSegment_checksum :
    sampleSegment.BothV4 ∧ sampleSegment.dataLength.toNat = 3 ∧ cleared.length = 1480 ∧
      ∃ writer, sampleSegment.writeSegmentTo .debug ⟨0, 0, 0, 0, 0⟩
          (DataWriter.create cleared kMaxTCPPacketLength) = .done (false, writer) ∧
        onesComplementSum (pseudoHeader ⟨10, 0, 0, 1⟩ ⟨10, 0, 0, 2⟩ 23 ++ writer.packet.bytes) =
          0xffff := by
  have bothV4 : sampleSegment.BothV4 := ⟨rfl, rfl⟩
  have allocated : cleared.length = 1480 := List.length_replicate
  obtain ⟨writer, written, sum, _⟩ := checksum_valid sampleSegment bothV4 (by decide) (by decide)
    ⟨0, 0, 0, 0, 0⟩ ⟨1, 2, 3, 4, 5⟩ cleared allocated
  exact ⟨bothV4, rfl, allocated, writer, written, sum⟩

end Segment

end LabNetstack
