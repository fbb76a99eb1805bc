import LabNetstack.SegmentCodecCore
import LabNetstack.Wire

/-! What `Segment::parse` makes of a packet of any length. -/

namespace LabNetstack

namespace Segment

def parsedWindow (build : Build) (buf : Buffer) : WindowSize :=
  match build with
  | .debug => UInt16.ofNat (networkValue (buf.field 14 2))
  | .release => 0

def parsedOffset (buf : Buffer) : UInt8 := UInt8.ofNat (networkValue (buf.field 12 1)) >>> 2

def parsed (build : Build) (source destination : IPAddress) (buf : Buffer) : Segment where
  source := ⟨source, UInt16.ofNat (networkValue (buf.field 0 2))⟩
  destination := ⟨destination, UInt16.ofNat (networkValue (buf.field 2 2))⟩
  sequence := UInt32.ofNat (networkValue (buf.field 4 4))
  acknowledgment := UInt32.ofNat (networkValue (buf.field 8 4))
  flags := UInt8.ofNat (networkValue (buf.field 13 1))
  window := parsedWindow build buf
  data := ⟨buf.bytes, (parsedOffset buf).toNat⟩
  ownData := false
  dataLength := buf.length - (parsedOffset buf).toUInt64

theorem parse_eq (build : Build) (leftovers : Leftovers) (source destination : IPAddress)
    (buf : Buffer) (enough : 16 ≤ buf.bytes.length) :
    parse build leftovers source destination buf = .done (parsed build source destination buf) := by
  cases build <;>
    simp (disch := omega) only [parse, DataReader.create_eq, DataReader.readUInt16_at,
      DataReader.readUInt32_at, DataReader.readUInt8_at, if_pos, Outcome.done_bind, dcheckCall] <;>
    rfl

/-- The two ports are read from the packet as soon as it holds them. -/
theorem parse_addresses {build : Build} {leftovers : Leftovers} {source destination : IPAddress}
    {buf : Buffer} {segment : Segment} (ports : 4 ≤ buf.bytes.length)
    (done : parse build leftovers source destination buf = .done segment) :
    segment.source = ⟨source, UInt16.ofNat (networkValue (buf.field 0 2))⟩ ∧
      segment.destination = ⟨destination, UInt16.ofNat (networkValue (buf.field 2 2))⟩ := by
  simp (disch := omega) only [parse, DataReader.create_eq, DataReader.readUInt16_at, if_pos,
    Outcome.done_bind] at done
  obtain ⟨_, _, done⟩ := Outcome.bind_eq_done.mp done
  obtain ⟨_, _, done⟩ := Outcome.bind_eq_done.mp done
  obtain ⟨_, _, done⟩ := Outcome.bind_eq_done.mp done
  obtain ⟨_, _, done⟩ := Outcome.bind_eq_done.mp done
  obtain ⟨_, _, done⟩ := Outcome.bind_eq_done.mp done
  cases done
  exact ⟨rfl, rfl⟩

/-- A packet of fewer than 16 bytes: the read of the window fails, and the offset is some byte
of the packet or none of it. -/
theorem parse_short (leftovers : Leftovers) (source destination : IPAddress) (buf : Buffer)
    (short : buf.bytes.length < 16) :
    parse .debug leftovers source destination buf = .aborted ∧
      ∃ segment, ∃ offset : UInt8,
        parse .release leftovers source destination buf = .done segment ∧
        segment.data = ⟨buf.bytes, offset.toNat⟩ ∧
        segment.dataLength = buf.length - offset.toUInt64 := by
  have one : (1 : UInt64).toNat = 1 := rfl
  have two : (2 : UInt64).toNat = 2 := rfl
  have four : (4 : UInt64).toNat = 4 := rfl
  obtain ⟨_, sourcePort, afterSource, readSource, movedSource⟩ := DataReader.readWord_moves
    (fun value => ntohs (UInt16.ofNat value)) buf 0 leftovers.sourcePort 2 (by omega)
  obtain ⟨_, destinationPort, afterDestination, readDestination, movedDestination⟩ :=
    DataReader.readWord_moves (fun value => ntohs (UInt16.ofNat value)) buf afterSource
      leftovers.destinationPort 2 (by omega)
  obtain ⟨_, sequence, afterSequence, readSequence, movedSequence⟩ := DataReader.readWord_moves
    (fun value => ntohl (UInt32.ofNat value)) buf afterDestination 0 4 (by omega)
  obtain ⟨_, acknowledgment, afterAck, readAck, movedAck⟩ := DataReader.readWord_moves
    (fun value => ntohl (UInt32.ofNat value)) buf afterSequence 0 4 (by omega)
  obtain ⟨_, offset, afterOffset, readOffset, movedOffset⟩ := DataReader.readWord_moves
    UInt8.ofNat buf afterAck leftovers.offset 1 (by omega)
  obtain ⟨_, flags, afterFlags, readFlags, movedFlags⟩ := DataReader.readWord_moves
    UInt8.ofNat buf afterOffset 0 1 (by omega)
  obtain ⟨readable, window, afterWindow, readWindow, movedWindow⟩ := DataReader.readWord_moves
    (fun value => ntohs (UInt16.ofNat value)) buf afterFlags 0 2 (by omega)
  have failed : readable = false := by
    rcases movedWindow with ⟨fits, _⟩ | ⟨_, _, failed⟩
    · omega
    · exact failed
  constructor
  · simp only [parse, DataReader.create_eq, DataReader.readUInt16, DataReader.readUInt32,
      DataReader.readUInt8, readSource, readDestination, readSequence, readAck, readOffset,
      readFlags, readWindow, Outcome.done_bind, dcheckCall, failed]
    rfl
  · refine ⟨⟨⟨source, sourcePort⟩, ⟨destination, destinationPort⟩, sequence, acknowledgment, flags, 0,
      ⟨buf.bytes, (offset >>> 2).toNat⟩, false, buf.length - (offset >>> 2).toUInt64⟩,
      offset >>> 2, ?_, rfl, rfl⟩
    simp only [parse, DataReader.create_eq, DataReader.readUInt16, DataReader.readUInt32,
      DataReader.readUInt8, readSource, readDestination, readSequence, readAck, readOffset,
      readFlags, Outcome.done_bind, dcheckCall]
    rfl

def PayloadInside (buf : Buffer) (segment : Segment) : Prop :=
  ∃ offset, 20 ≤ offset ∧ offset ≤ buf.bytes.length ∧ segment.data = ⟨buf.bytes, offset⟩ ∧
    segment.dataLength.toNat = buf.bytes.length - offset

theorem payloadInside_iff {buf : Buffer} {segment : Segment} {offset : UInt8}
    (data : segment.data = ⟨buf.bytes, offset.toNat⟩)
    (dataLength : segment.dataLength = buf.length - offset.toUInt64) :
    PayloadInside buf segment ↔ 20 ≤ offset.toNat ∧ offset.toNat ≤ buf.bytes.length := by
  constructor
  · rintro ⟨start, lower, upper, same, _⟩
    have equal : offset.toNat = start := congrArg Pointer.offset (data.symm.trans same)
    omega
  · rintro ⟨lower, upper⟩
    refine ⟨offset.toNat, lower, upper, data, ?_⟩
    rw [dataLength, UInt64.toNat_sub_of_le, Buffer.length_toNat, UInt8.toNat_toUInt64]
    rw [UInt64.le_iff_toNat_le, UInt8.toNat_toUInt64, Buffer.length_toNat]
    exact upper

/-- The payload `parse` returns lies in the packet exactly when the header's own offset does;
a debug build stops at a packet too short for the window. -/
theorem parse_inside_iff (build : Build) (leftovers : Leftovers) (source destination : IPAddress)
    (buf : Buffer) :
    (∀ segment, parse build leftovers source destination buf = .done segment →
      PayloadInside buf segment) ↔
    (20 ≤ (parsedOffset buf).toNat ∧ (parsedOffset buf).toNat ≤ buf.bytes.length) ∨
      (build = .debug ∧ buf.bytes.length < 16) := by
  by_cases short : buf.bytes.length < 16
  · obtain ⟨stopped, segment, offset, found, data, dataLength⟩ :=
      parse_short leftovers source destination buf short
    cases build with
    | debug => simp [stopped, short]
    | release =>
        refine iff_of_false ?_ ?_
        · intro inside
          have bounds := (payloadInside_iff data dataLength).mp (inside segment found)
          omega
        · rintro (bounds | ⟨debug, _⟩)
          · omega
          · exact absurd debug (by decide)
  · have found := parse_eq build leftovers source destination buf (by omega)
    have inside : PayloadInside buf (parsed build source destination buf) ↔ _ :=
      payloadInside_iff rfl rfl
    rw [found]
    simp only [Outcome.done.injEq, forall_eq', short, and_false, or_false]
    exact inside

def longOffset : Buffer :=
  ⟨[0, 80, 31, 144, 0, 0, 0, 1, 0, 0, 0, 0, 240, 16, 255, 255, 0, 0, 0, 0], by decide⟩

theorem longOffset_wraps :
    longOffset.bytes.length = 20 ∧
    ∃ debugged released,
      parse .debug ⟨0, 0, 0, 0, 0⟩ (IPAddress.ofInAddr ⟨10, 0, 0, 1⟩)
        (IPAddress.ofInAddr ⟨10, 0, 0, 2⟩) longOffset = .done debugged ∧
      parse .release ⟨0, 0, 0, 0, 0⟩ (IPAddress.ofInAddr ⟨10, 0, 0, 1⟩)
        (IPAddress.ofInAddr ⟨10, 0, 0, 2⟩) longOffset = .done released ∧
      debugged.data.offset = 60 ∧ debugged.dataLength.toNat = 2 ^ 64 - 40 ∧
      released.data.offset = 60 ∧ released.dataLength.toNat = 2 ^ 64 - 40 := by
  have enough : 16 ≤ longOffset.bytes.length := by decide
  exact ⟨rfl, _, _, parse_eq _ _ _ _ _ enough, parse_eq _ _ _ _ _ enough, rfl, rfl, rfl, rfl⟩

/-! The header as RFC 793 has it: the upper four bits of byte 12 count its words, the lower four
are reserved. -/

def dataOffset (buf : Buffer) : Nat := (buf.bytes.getD 12 0).toNat / 16

def reservedBits (buf : Buffer) : Nat := (buf.bytes.getD 12 0).toNat % 16

def PayloadFrom (buf : Buffer) (start : Nat) (segment : Segment) : Prop :=
  segment.data = ⟨buf.bytes, start⟩ ∧ segment.dataLength.toNat = buf.bytes.length - start ∧
    segment.payload = buf.bytes.drop start

/-- The shift by two keeps two of the reserved bits. -/
theorem parsedOffset_toNat (buf : Buffer) (enough : 16 ≤ buf.bytes.length) :
    (parsedOffset buf).toNat = 4 * dataOffset buf + reservedBits buf / 4 := by
  have bound : 12 < buf.bytes.length := by omega
  have byte : buf.field 12 1 = [buf.bytes.getD 12 0] := by
    rw [Buffer.field, List.take_one, List.head?_drop, List.getD_eq_getElem?_getD,
      List.getElem?_eq_getElem bound]
    rfl
  have value : networkValue [buf.bytes.getD 12 0] = (buf.bytes.getD 12 0).toNat := rfl
  rw [parsedOffset, byte, value, UInt8.ofNat_toNat, UInt8.toNat_shiftRight, dataOffset, reservedBits]
  change _ >>> 2 = _
  rw [Nat.shiftRight_eq_div_pow]
  omega

/-- The payload begins behind the header if the reserved bits that are read are zero. -/
theorem parse_payload_iff (build : Build) (leftovers : Leftovers) (source destination : IPAddress)
    (buf : Buffer) (header : 20 ≤ 4 * dataOffset buf)
    (inside : 4 * dataOffset buf ≤ buf.bytes.length) :
    (∃ segment, parse build leftovers source destination buf = .done segment ∧
      PayloadFrom buf (4 * dataOffset buf) segment) ↔ reservedBits buf < 4 := by
  have offset := parsedOffset_toNat buf (by omega)
  have found := parse_eq build leftovers source destination buf (by omega)
  constructor
  · rintro ⟨segment, parsed, data, _⟩
    cases found.symm.trans parsed
    have same : (parsedOffset buf).toNat = 4 * dataOffset buf := congrArg Pointer.offset data
    omega
  · intro zero
    have start : (parsedOffset buf).toNat = 4 * dataOffset buf := by omega
    have length : (buf.length - (parsedOffset buf).toUInt64).toNat =
        buf.bytes.length - 4 * dataOffset buf := by
      rw [UInt64.toNat_sub_of_le, Buffer.length_toNat, UInt8.toNat_toUInt64, start]
      rw [UInt64.le_iff_toNat_le, UInt8.toNat_toUInt64, Buffer.length_toNat, start]
      exact inside
    refine ⟨_, found, ?_, length, ?_⟩
    · change (⟨buf.bytes, (parsedOffset buf).toNat⟩ : Pointer) = _
      rw [start]
    · change (buf.bytes.drop (parsedOffset buf).toNat).take
        (buf.length - (parsedOffset buf).toUInt64).toNat = _
      rw [start, length, List.take_of_length_le (by rw [List.length_drop])]

-- five words of header, reserved bits zero
def plainHeader : Buffer :=
  ⟨[0, 80, 31, 144, 0, 0, 0, 1, 0, 0, 0, 0, 80, 24, 255, 255, 0, 0, 0, 0, 71, 69, 84], by decide⟩

theorem plainHeader_payload : ∃ segment,
    parse .debug ⟨0, 0, 0, 0, 0⟩ (IPAddress.ofInAddr ⟨10, 0, 0, 1⟩)
      (IPAddress.ofInAddr ⟨10, 0, 0, 2⟩) plainHeader = .done segment ∧
    PayloadFrom plainHeader 20 segment :=
  (parse_payload_iff .debug _ _ _ plainHeader (by decide) (by decide)).mpr (by decide)

-- the same header with a reserved bit set
def reservedHeader : Buffer :=
  ⟨[0, 80, 31, 144, 0, 0, 0, 1, 0, 0, 0, 0, 84, 24, 255, 255, 0, 0, 0, 0, 71, 69, 84], by decide⟩

theorem reservedHeader_cuts_payload :
    dataOffset reservedHeader = 5 ∧ ∃ segment,
      parse .debug ⟨0, 0, 0, 0, 0⟩ (IPAddress.ofInAddr ⟨10, 0, 0, 1⟩)
        (IPAddress.ofInAddr ⟨10, 0, 0, 2⟩) reservedHeader = .done segment ∧
      segment.data.offset = 21 ∧ segment.payload = [69, 84] :=
  ⟨rfl, _, parse_eq _ _ _ _ _ (by decide), rfl, rfl⟩

end Segment

end LabNetstack
