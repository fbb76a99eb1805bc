import LabNetstack.IPLayerCore
import LabNetstack.ResetDispatcher

/-! A `DCHECK` around a call takes the call out of a release build. Where the two builds
still agree. -/

namespace LabNetstack

namespace BuildAgreement

open Segment

/-! `Segment::parse` skips the window. -/

theorem parse_window_iff (leftovers : Leftovers) (source destination : IPAddress) (buf : Buffer)
    (enough : 16 ≤ buf.bytes.length) :
    (parse .debug leftovers source destination buf = parse .release leftovers source destination buf)
      ↔ buf.field 14 2 = [0, 0] := by
  have length : (buf.field 14 2).length = 2 := Buffer.field_length (by omega)
  rw [parse_eq _ _ _ _ _ enough, parse_eq _ _ _ _ _ enough, Outcome.done.injEq]
  constructor
  · intro same
    have window : UInt16.ofNat (networkValue (buf.field 14 2)) = 0 := congrArg Segment.window same
    exact (word16_iff length 0).mp window
  · intro zero
    have window : parsedWindow .debug buf = parsedWindow .release buf := by
      rw [parsedWindow, parsedWindow, zero]
      rfl
    unfold parsed
    rw [window]

theorem parse_enough {leftovers : Leftovers} {source destination : IPAddress} {buf : Buffer}
    (checked : parse .debug leftovers source destination buf ≠ .aborted) :
    16 ≤ buf.bytes.length := by
  by_contra short
  exact checked (parse_short leftovers source destination buf (by omega)).1

/-! `Checksum::addIPAddress` adds whatever its local holds. -/

def addressSum (source destination : List UInt8) : Nat :=
  (networkWords source).sum + (networkWords destination).sum

-- the addresses of a segment, and the two locals, have one sum modulo 2^16 - 1
def SameSum (leftovers : Leftovers) (segment : Segment) : Prop :=
  addressSum segment.source.host.v4.bytes segment.destination.host.v4.bytes ≡
    addressSum (hostBytes 4 leftovers.sourceWord.toNat) (hostBytes 4 leftovers.destinationWord.toNat)
    [MOD 65535]

theorem checksumOf_iff (leftovers : Leftovers) (segment : Segment) (front : List UInt8) :
    segment.checksumOf .debug leftovers front = segment.checksumOf .release leftovers front ↔
      SameSum leftovers segment := by
  have top : (0 : Nat) < 65535 := by decide
  have debugLe := residue_le top ((networkWords front).sum + segment.pseudoTotal .debug leftovers)
  have releaseLe := residue_le top ((networkWords front).sum + segment.pseudoTotal .release leftovers)
  have positive : ∀ build, 0 < (networkWords front).sum + segment.pseudoTotal build leftovers := by
    intro build
    unfold pseudoTotal
    omega
  have residues : segment.checksumOf .debug leftovers front =
      segment.checksumOf .release leftovers front ↔
      residue 65535 ((networkWords front).sum + segment.pseudoTotal .debug leftovers) =
        residue 65535 ((networkWords front).sum + segment.pseudoTotal .release leftovers) := by
    unfold checksumOf
    omega
  rw [residues, residue_eq_iff top (positive .debug) (positive .release)]
  constructor
  · intro same
    have pseudo := Nat.ModEq.add_left_cancel' _ same
    unfold pseudoTotal at pseudo
    exact Nat.ModEq.add_right_cancel' 6 (Nat.ModEq.add_right_cancel' _ pseudo)
  · intro same
    unfold pseudoTotal
    exact (((same.add_right 6).add_right _).add_left _)

theorem encoded_iff (leftovers : Leftovers) (segment : Segment) (body : List UInt8) :
    segment.encoded .debug leftovers body = segment.encoded .release leftovers body ↔
      SameSum leftovers segment := by
  rw [← checksumOf_iff leftovers segment (segment.headerBytes 0 ++ body)]
  constructor
  · intro same
    have headers := List.append_cancel_right same
    have fields : networkBytes 2 _ = networkBytes 2 _ :=
      List.append_cancel_left (List.append_cancel_right headers)
    have values := congrArg networkValue fields
    rw [networkValue_networkBytes, networkValue_networkBytes] at values
    unfold checksumOf at values ⊢
    omega
  · intro same
    unfold encoded
    rw [same]

theorem filled_iff {memory first second : List UInt8} (copies : List (UInt64 × UInt64))
    (firstSmall : first.length < 2 ^ 64) (secondSmall : second.length < 2 ^ 64) :
    DataWriter.filled memory first copies = DataWriter.filled memory second copies ↔
      first = second := by
  constructor
  · intro same
    have packets := congrArg (fun writer => writer.packet.bytes) same
    simpa only [DataWriter.filled_packet copies firstSmall,
      DataWriter.filled_packet copies secondSmall] using packets
  · intro same
    rw [same]

-- the payload is copied within its bounds, or refused
def Encodable (segment : Segment) : Prop :=
  segment.dataLength.toNat + 20 < 2 ^ 64 ∧
    (segment.dataLength.toNat ≤ 1460 → segment.dataLength.toNat ≤ segment.data.target.length)

theorem writeSegmentTo_bothV4 {leftovers : Leftovers} {segment : Segment}
    (encodable : Encodable segment) {memory : List UInt8} (allocated : memory.length = 1480)
    (checked : segment.writeSegmentTo .debug leftovers (DataWriter.filled memory [] []) ≠ .aborted) :
    segment.BothV4 := by
  by_contra other
  have small : memory.length < 2 ^ 32 := by omega
  have header := segment.headerBytes_length 0
  obtain ⟨unwrapped, readable⟩ := encodable
  apply checked
  rw [writeSegmentTo_header .debug leftovers segment allocated]
  by_cases fits : segment.dataLength.toNat ≤ 1460
  · rw [DataWriter.writeBytes_filled small (by omega) (readable fits), Outcome.done_bind]
    apply finish_aborted leftovers other
    rw [List.length_append, List.length_take]
    omega
  · rw [DataWriter.writeBytes_refused small (by omega) (by omega) (by omega), Outcome.done_bind]
    exact finish_aborted leftovers other _ (by omega)

theorem writeSegmentTo_iff (leftovers : Leftovers) (segment : Segment) (memory : List UInt8)
    (allocated : memory.length = 1480)
    (checked : segment.writeSegmentTo .debug leftovers
      (DataWriter.create memory kMaxTCPPacketLength) ≠ .aborted) :
    (segment.writeSegmentTo .debug leftovers (DataWriter.create memory kMaxTCPPacketLength) =
        segment.writeSegmentTo .release leftovers (DataWriter.create memory kMaxTCPPacketLength)) ↔
      (Encodable segment → SameSum leftovers segment) := by
  have bound := segment.dataLength.toNat_lt
  rw [create_filled allocated] at checked ⊢
  by_cases wrapped : 2 ^ 64 ≤ segment.dataLength.toNat + 20
  · rw [writeSegmentTo_wraps _ _ allocated wrapped, writeSegmentTo_wraps _ _ allocated wrapped]
    refine iff_of_true rfl ?_
    rintro ⟨unwrapped, _⟩
    omega
  by_cases exceeds : 1460 < segment.dataLength.toNat
  · have encodable : Encodable segment := ⟨by omega, fun fits => by omega⟩
    have bothV4 := writeSegmentTo_bothV4 encodable allocated checked
    rw [writeSegmentTo_refused _ _ bothV4 allocated exceeds (by omega),
      writeSegmentTo_refused _ _ bothV4 allocated exceeds (by omega)]
    simp only [Outcome.done.injEq, Prod.mk.injEq, true_and, encodable, true_imp_iff]
    rw [filled_iff _ (by simp) (by simp), encoded_iff]
  by_cases readable : segment.dataLength.toNat ≤ segment.data.target.length
  · have encodable : Encodable segment := ⟨by omega, fun _ => readable⟩
    have bothV4 := writeSegmentTo_bothV4 encodable allocated checked
    have length := segment.payload_length readable
    rw [writeSegmentTo_carried _ _ bothV4 allocated (by omega) readable,
      writeSegmentTo_carried _ _ bothV4 allocated (by omega) readable]
    simp only [Outcome.done.injEq, Prod.mk.injEq, true_and, encodable, true_imp_iff]
    rw [filled_iff _ (by rw [encoded_length]; omega) (by rw [encoded_length]; omega), encoded_iff]
  · rw [writeSegmentTo_short _ _ allocated (by omega) (by omega),
      writeSegmentTo_short _ _ allocated (by omega) (by omega)]
    refine iff_of_true rfl ?_
    rintro ⟨_, enough⟩
    exact absurd (enough (by omega)) readable

/-! `IPLayer::onReceive` loses two bytes. -/

theorem ofReader_at (buf : Buffer) (position : Nat) (fits : position + 4 ≤ buf.bytes.length) :
    IPAddress.ofReader (DataReader.at_ buf position) = .done
      (IPAddress.ofInAddr (InAddr.ofBytes (buf.field position 4)),
        DataReader.at_ buf (position + 4)) := by
  have four : kIPv4AddressSize.toNat = 4 := rfl
  have bound := buf.fits
  rw [IPAddress.ofReader, DataReader.readBytes_at _ _ _ (by omega), four, if_pos fits]
  rfl

def headerAt (buf : Buffer) (start : Nat) : PacketHeader :=
  ⟨UInt8.ofNat (networkValue (buf.field start 1)),
    IPAddress.ofInAddr (InAddr.ofBytes (buf.field (start + 3) 4)),
    IPAddress.ofInAddr (InAddr.ofBytes (buf.field (start + 7) 4))⟩

def protocolStart (build : Build) : Nat :=
  match build with
  | .debug => 9
  | .release => 7

theorem readHeader_eq (build : Build) (locals : ReceiveLocals) (version : UInt8) (buf : Buffer)
    (enough : 20 ≤ buf.bytes.length) :
    IPLayer.readHeader build locals version (DataReader.at_ buf 1) =
      .done (headerAt buf (protocolStart build)) := by
  have one : (1 : UInt64).toNat = 1 := rfl
  have two : (2 : UInt64).toNat = 2 := rfl
  have five : (5 : UInt64).toNat = 5 := rfl
  cases build <;>
    simp (disch := omega) only [IPLayer.readHeader, DataReader.skip_at, DataReader.readUInt16_at,
      DataReader.readUInt8_at, ofReader_at, if_pos, Outcome.done_bind, Outcome.pure_eq, Outcome.require_true,
      dcheckCall, one, two, five] <;>
    rfl

theorem field_one_iff {buf : Buffer} {first second : Nat} (firstFits : first + 1 ≤ buf.bytes.length)
    (secondFits : second + 1 ≤ buf.bytes.length) :
    UInt8.ofNat (networkValue (buf.field first 1)) =
        UInt8.ofNat (networkValue (buf.field second 1)) ↔
      buf.field first 1 = buf.field second 1 := by
  obtain ⟨left, leftEq⟩ := List.length_eq_one_iff.mp (Buffer.field_length firstFits)
  obtain ⟨right, rightEq⟩ := List.length_eq_one_iff.mp (Buffer.field_length secondFits)
  rw [leftEq, rightEq, ofNat_networkValue8, ofNat_networkValue8, List.cons.injEq]
  simp

theorem field_four_iff {buf : Buffer} {first second : Nat} (firstFits : first + 4 ≤ buf.bytes.length)
    (secondFits : second + 4 ≤ buf.bytes.length) :
    IPAddress.ofInAddr (InAddr.ofBytes (buf.field first 4)) =
        IPAddress.ofInAddr (InAddr.ofBytes (buf.field second 4)) ↔
      buf.field first 4 = buf.field second 4 := by
  obtain ⟨a, b, c, d, leftEq⟩ := List.length_eq_four.mp (Buffer.field_length firstFits)
  obtain ⟨e, f, g, h, rightEq⟩ := List.length_eq_four.mp (Buffer.field_length secondFits)
  rw [leftEq, rightEq]
  simp [IPAddress.ofInAddr, InAddr.ofBytes]

def versionOf (buf : Buffer) : UInt8 := UInt8.ofNat (networkValue (buf.field 0 1)) >>> 4

theorem length_checked (buf : Buffer) :
    decide (buf.length ≥ kPacketHeaderLength) = decide (20 ≤ buf.bytes.length) := by
  have twenty : kPacketHeaderLength.toNat = 20 := rfl
  rw [decide_eq_decide, ge_iff_le, UInt64.le_iff_toNat_le, Buffer.length_toNat, twenty]

theorem onReceive_enough {locals : ReceiveLocals} {buf : Buffer}
    (checked : IPLayer.onReceive .debug locals buf ≠ .aborted) : 20 ≤ buf.bytes.length := by
  by_contra short
  apply checked
  rw [IPLayer.onReceive, length_checked, decide_eq_false short]
  rfl

theorem onReceive_eq (build : Build) (locals : ReceiveLocals) (buf : Buffer)
    (enough : 20 ≤ buf.bytes.length) :
    IPLayer.onReceive build locals buf =
      if versionOf buf != 4 then .done (.unsupportedVersion (versionOf buf))
      else IPLayer.subtractTTL buf >>= fun forwarded => .done (match forwarded with
        | none => .expired (headerAt buf (protocolStart build))
        | some packet => .passed (headerAt buf (protocolStart build)) packet) := by
  unfold IPLayer.onReceive
  rw [length_checked, dcheck_done (decide_eq_true enough), DataReader.create_eq]
  simp (disch := omega) only [Outcome.done_bind, DataReader.readUInt8_at, if_pos]
  change (if versionOf buf != 4 then _ else _) = _
  split
  · rfl
  · rw [readHeader_eq build locals _ buf enough]
    cases IPLayer.subtractTTL buf with
    | done forwarded => cases forwarded <;> rfl
    | aborted => rfl
    | outOfBounds => rfl

-- the fields a release build reads hold the values of those a debug build reads
def SameFields (buf : Buffer) : Prop :=
  buf.field 9 1 = buf.field 7 1 ∧ buf.field 12 4 = buf.field 10 4 ∧ buf.field 16 4 = buf.field 14 4

theorem headerAt_iff {buf : Buffer} (enough : 20 ≤ buf.bytes.length) :
    headerAt buf 9 = headerAt buf 7 ↔ SameFields buf := by
  unfold headerAt SameFields
  rw [PacketHeader.mk.injEq, field_one_iff (by omega) (by omega), field_four_iff (by omega) (by omega),
    field_four_iff (by omega) (by omega)]

theorem onReceive_iff (locals : ReceiveLocals) (buf : Buffer) (enough : 20 ≤ buf.bytes.length) :
    IPLayer.onReceive .debug locals buf = IPLayer.onReceive .release locals buf ↔
      (versionOf buf = 4 → SameFields buf) := by
  rw [onReceive_eq _ _ _ enough, onReceive_eq _ _ _ enough, ← headerAt_iff enough]
  by_cases version : versionOf buf = 4
  · have bound : kTTLHeaderOffset < buf.bytes.length := by
      change 8 < _
      omega
    have ttl := List.getElem?_eq_getElem bound
    simp only [version, bne_self_eq_false, Bool.false_eq_true, ↓reduceIte, true_imp_iff,
      IPLayer.subtractTTL, ttl, protocolStart]
    split <;> simp
  · simp [version]

/-- Where no `DCHECK` of a debug build fails, both builds parse a packet alike exactly when its
window is zero, write a segment alike exactly when the locals sum to what the addresses do, and
decode an IP packet alike exactly when the bytes two places before its fields repeat them. -/
theorem builds_agree_iff (leftovers : Leftovers) (source destination : IPAddress) (buf : Buffer)
    (segment : Segment) (memory : List UInt8) (allocated : memory.length = 1480)
    (locals : ReceiveLocals) (datagram : Buffer) :
    (Segment.parse .debug leftovers source destination buf ≠ .aborted →
      (Segment.parse .debug leftovers source destination buf =
          Segment.parse .release leftovers source destination buf ↔ buf.field 14 2 = [0, 0])) ∧
    (segment.writeSegmentTo .debug leftovers
          (DataWriter.create memory kMaxTCPPacketLength) ≠ .aborted →
      (segment.writeSegmentTo .debug leftovers (DataWriter.create memory kMaxTCPPacketLength) =
          segment.writeSegmentTo .release leftovers
            (DataWriter.create memory kMaxTCPPacketLength) ↔
        (Encodable segment → SameSum leftovers segment))) ∧
    (IPLayer.onReceive .debug locals datagram ≠ .aborted →
      (IPLayer.onReceive .debug locals datagram = IPLayer.onReceive .release locals datagram ↔
        (versionOf datagram = 4 → SameFields datagram))) := by
  refine ⟨?_, ?_, ?_⟩
  · intro checked
    exact parse_window_iff leftovers source destination buf (parse_enough checked)
  · intro checked
    exact writeSegmentTo_iff leftovers segment memory allocated checked
  · intro checked
    exact onReceive_iff locals datagram (onReceive_enough checked)

def closedWindow : Buffer :=
  ⟨[19, 136, 0, 80, 0, 0, 0, 7, 0, 0, 0, 0, 80, 16, 0, 0, 0, 0, 0, 0], by decide⟩

-- locals that happen to hold the two addresses of `sampleSegment`
def luckyLeftovers : Leftovers := ⟨0, 0, 0, 0x0100000a, 0x0200000a⟩

def version6 : Buffer :=
  ⟨[96, 0, 0, 0, 0, 0, 6, 64, 0, 0, 0, 0, 0, 0, 0, 0, 0, 0, 0, 0], by decide⟩

theorem sampleSegment_checked (leftovers : Leftovers) :
    sampleSegment.writeSegmentTo .debug leftovers
      (DataWriter.create cleared kMaxTCPPacketLength) ≠ .aborted := by
  have allocated : cleared.length = 1480 := List.length_replicate
  rw [create_filled allocated,
    writeSegmentTo_carried .debug leftovers ⟨rfl, rfl⟩ allocated (by decide) (by decide)]
  exact nofun

theorem builds_agree_on_samples :
    (Segment.parse .debug luckyLeftovers (IPAddress.ofInAddr ⟨10, 0, 0, 1⟩)
        (IPAddress.ofInAddr ⟨10, 0, 0, 2⟩) closedWindow =
      Segment.parse .release luckyLeftovers (IPAddress.ofInAddr ⟨10, 0, 0, 1⟩)
        (IPAddress.ofInAddr ⟨10, 0, 0, 2⟩) closedWindow) ∧
    (sampleSegment.writeSegmentTo .debug luckyLeftovers
        (DataWriter.create cleared kMaxTCPPacketLength) =
      sampleSegment.writeSegmentTo .release luckyLeftovers
        (DataWriter.create cleared kMaxTCPPacketLength)) ∧
    IPLayer.onReceive .debug ⟨0, 0⟩ version6 = IPLayer.onReceive .release ⟨0, 0⟩ version6 := by
  obtain ⟨parses, writes, receives⟩ := builds_agree_iff luckyLeftovers
    (IPAddress.ofInAddr ⟨10, 0, 0, 1⟩) (IPAddress.ofInAddr ⟨10, 0, 0, 2⟩) closedWindow
    sampleSegment cleared List.length_replicate ⟨0, 0⟩ version6
  refine ⟨(parses ?_).mpr (by decide), ?_, ?_⟩
  · rw [parse_eq _ _ _ _ _ (by decide)]
    exact nofun
  · refine (writes (sampleSegment_checked _)).mpr ?_
    intro _
    exact Nat.ModEq.refl _
  · refine (receives (by decide)).mpr ?_
    intro version
    exact absurd version (by decide)

def ipPacket : Buffer :=
  ⟨[69, 0, 0, 20, 0, 1, 64, 0, 64, 6, 0, 0, 10, 0, 0, 1, 10, 0, 0, 2], by decide⟩

theorem builds_disagree :
    (∃ debugged released,
      Segment.parse .debug ⟨0, 0, 0, 0, 0⟩ (IPAddress.ofInAddr ⟨10, 0, 0, 1⟩)
        (IPAddress.ofInAddr ⟨10, 0, 0, 2⟩) ResetDispatcher.plainPacket = .done debugged ∧
      Segment.parse .release ⟨0, 0, 0, 0, 0⟩ (IPAddress.ofInAddr ⟨10, 0, 0, 1⟩)
        (IPAddress.ofInAddr ⟨10, 0, 0, 2⟩) ResetDispatcher.plainPacket = .done released ∧
      debugged.window = 65535 ∧ released.window = 0) ∧
    sampleSegment.writeSegmentTo .debug ⟨0, 0, 0, 0, 0⟩
        (DataWriter.create cleared kMaxTCPPacketLength) ≠
      sampleSegment.writeSegmentTo .release ⟨0, 0, 0, 0, 0⟩
        (DataWriter.create cleared kMaxTCPPacketLength) ∧
    ∃ debugged released debugPacket releasePacket,
      IPLayer.onReceive .debug ⟨0, 0⟩ ipPacket = .done (.passed debugged debugPacket) ∧
      IPLayer.onReceive .release ⟨0, 0⟩ ipPacket = .done (.passed released releasePacket) ∧
      debugged = ⟨6, IPAddress.ofInAddr ⟨10, 0, 0, 1⟩, IPAddress.ofInAddr ⟨10, 0, 0, 2⟩⟩ ∧
      released = ⟨0, IPAddress.ofInAddr ⟨0, 0, 10, 0⟩, IPAddress.ofInAddr ⟨0, 1, 10, 0⟩⟩ := by
  refine ⟨⟨_, _, parse_eq _ _ _ _ _ (by decide), parse_eq _ _ _ _ _ (by decide), rfl, rfl⟩, ?_, ?_⟩
  · intro same
    have sums := (writeSegmentTo_iff _ _ _ List.length_replicate (sampleSegment_checked _)).mp same
      ⟨by decide, fun _ => by decide⟩
    unfold SameSum at sums
    exact absurd sums (by decide)
  · exact ⟨_, _, _, _, rfl, rfl, rfl, rfl⟩

end BuildAgreement

end LabNetstack
