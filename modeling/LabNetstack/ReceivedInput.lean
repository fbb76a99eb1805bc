import LabNetstack.BuildAgreement
import LabNetstack.DeviceCore

/-! What received bytes make of the `DCHECK`s on their way: from the frame to the IP layer, in
the parser of segments and in the routing table. -/

namespace LabNetstack

/-! A frame. Reads that fail leave the reader where it is, so the type of a short frame is read
from where the addresses should be. -/

namespace Device

def typeOffset (data : Buffer) : Nat :=
  if data.bytes.length < 6 then 0 else if data.bytes.length < 12 then 6 else 12

def destinationOf (data : Buffer) : List UInt8 :=
  if data.bytes.length < 6 then List.replicate 6 0 else data.field 0 6

def sourceOf (data : Buffer) : List UInt8 :=
  if data.bytes.length < 12 then List.replicate 6 0 else data.field 6 6

/-- The frame is for this device and its type is IP. -/
def Accepts (device : Device) (data : Buffer) : Prop :=
  device.hasCallback = true ∧
    (destinationOf data = List.replicate 6 0xff ∨
      destinationOf data = device.macAddress.address.octets) ∧
    typeOffset data + 2 ≤ data.bytes.length ∧ data.field (typeOffset data) 2 = [8, 0]

end Device

theorem MacAddress.ofReader_at (buf : Buffer) (position : Nat) (small : position < 2 ^ 32) :
    ∃ address : MacAddress, MacAddress.ofReader (DataReader.at_ buf position) = .done
        (address, DataReader.at_ buf
          (if position + 6 ≤ buf.bytes.length then position + 6 else position)) ∧
      address.isSpec = true ∧ address.address.octets =
        if position + 6 ≤ buf.bytes.length then buf.field position 6 else List.replicate 6 0 := by
  have six : kMacAddressLength.toNat = 6 := rfl
  rw [MacAddress.ofReader, DataReader.readBytes_at _ _ _ (by omega), six]
  by_cases fits : position + 6 ≤ buf.bytes.length
  · have length := Buffer.field_length fits
    simp only [fits, if_true, Outcome.done_bind, Outcome.pure_eq, length, dif_pos]
    exact ⟨_, rfl, rfl, rfl⟩
  · simp only [fits, if_false, Outcome.done_bind, Outcome.pure_eq]
    exact ⟨_, rfl, rfl, rfl⟩

theorem MacAddress.isBroadcast_iff {address : MacAddress} :
    address.isBroadcast = true ↔ address.address.octets = List.replicate 6 0xff := by
  rw [isBroadcast, List.all_eq_true, List.eq_replicate_iff]
  simp [address.address.six]

theorem onReceive_aborted_iff (locals : ReceiveLocals) (buf : Buffer) :
    IPLayer.onReceive .debug locals buf = .aborted ↔ buf.bytes.length < 20 := by
  constructor
  · intro stopped
    by_contra long
    rw [BuildAgreement.onReceive_eq _ _ _ (by omega)] at stopped
    split at stopped
    · cases stopped
    · unfold IPLayer.subtractTTL at stopped
      split at stopped
      · cases stopped
      · split at stopped <;> cases stopped
  · intro short
    by_contra passed
    have enough := BuildAgreement.onReceive_enough passed
    omega

theorem DataReader.rest_at (buf : Buffer) (position : Nat) (fits : position ≤ buf.bytes.length) :
    (DataReader.at_ buf position).rest.bytes = buf.bytes.drop position := by
  have bound := buf.fits
  have start : (UInt64.ofNat position).toNat = position :=
    UInt64.toNat_ofNat_of_lt' (by simp only [UInt64.size]; omega)
  have remaining : (buf.length - UInt64.ofNat position).toNat = buf.bytes.length - position := by
    rw [UInt64.toNat_sub_of_le, Buffer.length_toNat, start]
    rw [UInt64.le_iff_toNat_le, Buffer.length_toNat, start]
    exact fits
  change (buf.bytes.drop (UInt64.ofNat position).toNat).take
    (buf.length - UInt64.ofNat position).toNat = _
  rw [start, remaining, List.take_of_length_le (by rw [List.length_drop])]

namespace Device

theorem readAddresses (data : Buffer) : ∃ destination source middle,
    MacAddress.ofReader (DataReader.create data) = .done (destination, DataReader.at_ data middle) ∧
    MacAddress.ofReader (DataReader.at_ data middle) =
      .done (source, DataReader.at_ data (typeOffset data)) ∧
    destination.address.octets = destinationOf data ∧ source.isSpec = true ∧
    source.address.octets = sourceOf data := by
  obtain ⟨destination, readDestination, _, octets⟩ := MacAddress.ofReader_at data 0 (by omega)
  rw [DataReader.create_eq]
  by_cases short : data.bytes.length < 6
  · obtain ⟨source, readSource, specified, sourceOctets⟩ := MacAddress.ofReader_at data 0 (by omega)
    rw [if_neg (by omega)] at readDestination readSource octets sourceOctets
    refine ⟨destination, source, 0, readDestination, ?_, ?_, specified, ?_⟩
    · rw [typeOffset, if_pos short]
      exact readSource
    · rw [destinationOf, if_pos short, octets]
    · rw [sourceOf, if_pos (by omega), sourceOctets]
  · obtain ⟨source, readSource, specified, sourceOctets⟩ := MacAddress.ofReader_at data 6 (by omega)
    rw [if_pos (by omega)] at readDestination octets
    refine ⟨destination, source, 6, readDestination, ?_, ?_, specified, ?_⟩
    · rw [readSource, typeOffset, if_neg short]
      by_cases partial_ : data.bytes.length < 12
      · rw [if_neg (by omega), if_pos partial_]
      · rw [if_pos (by omega), if_neg partial_]
    · rw [destinationOf, if_neg short, octets]
    · rw [sourceOctets, sourceOf]
      by_cases partial_ : data.bytes.length < 12
      · rw [if_neg (by omega), if_pos partial_]
      · rw [if_pos (by omega), if_neg partial_]

/-- The decoder on a frame that reaches it. -/
theorem decodeWith_eq {α : Type} (onReceive : Buffer → Outcome α) {device : Device} (data : Buffer)
    (listening : device.hasCallback = true) : ∃ destination source : MacAddress,
      destination.address.octets = destinationOf data ∧ source.isSpec = true ∧
      source.address.octets = sourceOf data ∧
      device.decodeWith onReceive data =
        if !destination.isBroadcast && !destination.same device.macAddress then .done (none, device)
        else if typeOffset data + 2 ≤ data.bytes.length then
          if UInt16.ofNat (networkValue (data.field (typeOffset data) 2)) != 0x0800 then
            .done (none, device.findPeer source)
          else
            onReceive (DataReader.at_ data (typeOffset data + 2)).rest >>=
              fun received => .done (some received, device.findPeer source)
        else .done (none, device.findPeer source) := by
  obtain ⟨destination, source, middle, readDestination, readSource, octets, specified, learned⟩ :=
    readAddresses data
  have small : typeOffset data < 2 ^ 32 := by
    unfold typeOffset
    split <;> [skip; split] <;> omega
  refine ⟨destination, source, octets, specified, learned, ?_⟩
  simp only [decodeWith, listening, Bool.not_true, Bool.false_eq_true, if_false, readDestination,
    readSource, Outcome.done_bind, Outcome.pure_eq, DataReader.readUInt16_at _ _ _ small]
  split
  · rfl
  · by_cases fits : typeOffset data + 2 ≤ data.bytes.length <;> simp only [fits, if_true, if_false]

theorem mine_iff {destination : MacAddress} {device : Device} :
    ¬(!destination.isBroadcast && !destination.same device.macAddress) = true ↔
      destination.address.octets = List.replicate 6 0xff ∨
        destination.address.octets = device.macAddress.address.octets := by
  rw [← MacAddress.isBroadcast_iff]
  simp only [Bool.and_eq_true, Bool.not_eq_true', MacAddress.same, beq_eq_false_iff_ne, not_and,
    Decidable.not_not]
  constructor
  · intro mine
    by_cases broadcast : destination.isBroadcast = true
    · exact Or.inl broadcast
    · exact Or.inr (mine (by simpa using broadcast))
  · rintro (broadcast | same)
    · rw [broadcast]
      exact nofun
    · exact fun _ => same

theorem isIP_iff {data : Buffer} (fits : typeOffset data + 2 ≤ data.bytes.length) :
    (UInt16.ofNat (networkValue (data.field (typeOffset data) 2)) != 0x0800) = true ↔
      data.field (typeOffset data) 2 ≠ [8, 0] := by
  have typed := word16_iff (Buffer.field_length fits) 0x0800
  have bytes : networkBytes 2 (0x0800 : UInt16).toNat = [8, 0] := rfl
  rw [bytes] at typed
  rw [bne_iff_ne, ne_eq, typed]

theorem decodeFrame_aborted_iff (locals : ReceiveLocals) (device : Device) (data : Buffer) :
    device.decodeFrame .debug locals data = .aborted ↔
      device.Accepts data ∧ data.bytes.length < typeOffset data + 22 := by
  cases listening : device.hasCallback with
  | false => simp [decodeFrame, decodeWith, Accepts, listening]
  | true =>
  obtain ⟨destination, source, octets, _, _, decoded⟩ :=
    decodeWith_eq (IPLayer.onReceive .debug locals) data listening
  rw [decodeFrame, decoded, Accepts, ← octets]
  simp only [listening, true_and]
  split
  · rename_i foreign
    have notMine := (not_congr mine_iff).mp (not_not_intro foreign)
    exact iff_of_false nofun fun accepted => notMine accepted.1.1
  rename_i mine
  simp only [mine_iff.mp mine, true_and]
  split
  · rename_i fits
    simp only [fits, true_and, isIP_iff fits]
    split
    · rename_i other
      simp [other]
    · rename_i isIP
      have length : (DataReader.at_ data (typeOffset data + 2)).rest.bytes.length =
          data.bytes.length - (typeOffset data + 2) := by
        rw [DataReader.rest_at _ _ fits, List.length_drop]
      rw [Outcome.bind_done_aborted, onReceive_aborted_iff, length]
      have isIP := Decidable.not_not.mp isIP
      simp only [isIP, true_and]
      omega
  · rename_i cut
    simp [cut]

end Device

/-! A distance vector. -/

theorem ofReader_moves (buf : Buffer) (position : Nat) (small : position < 2 ^ 32) :
    ∃ address next, IPAddress.ofReader (DataReader.at_ buf position) =
      .done (address, DataReader.at_ buf next) ∧ next ≤ position + 4 := by
  have four : kIPv4AddressSize.toNat = 4 := rfl
  rw [IPAddress.ofReader, DataReader.readBytes_at _ _ _ (by omega), four]
  by_cases fits : position + 4 ≤ buf.bytes.length
  · rw [if_pos fits]
    exact ⟨_, _, rfl, le_refl _⟩
  · rw [if_neg fits]
    exact ⟨_, _, rfl, by omega⟩

namespace RoutingTable

theorem readEntries_done (buf : Buffer) (count : Nat) (metric : UInt8) (position : Nat)
    (small : position + 5 * count < 2 ^ 32) :
    ∃ entries, readEntries count metric (DataReader.at_ buf position) = .done entries ∧
      entries.length = count := by
  induction count generalizing metric position with
  | zero => exact ⟨[], rfl, rfl⟩
  | succ count ih =>
      have one : (1 : UInt64).toNat = 1 := rfl
      obtain ⟨dest, middle, readDest, bound⟩ := ofReader_moves buf position (by omega)
      obtain ⟨_, value, next, readMetric, moved⟩ :=
        DataReader.readWord_moves UInt8.ofNat buf middle metric 1 (by omega)
      obtain ⟨rest, readRest, length⟩ := ih value next (by omega)
      refine ⟨(dest, value) :: rest, ?_, by rw [List.length_cons, length]⟩
      simp only [readEntries, readDest, Outcome.done_bind, DataReader.readUInt8, readMetric, readRest,
        Outcome.pure_eq]

/-- A byte with the number of entries, and five bytes for each. -/
def WellFormed (bytes : List UInt8) : Prop :=
  ∃ count rest, bytes = count :: rest ∧ rest.length = 5 * count.toNat

theorem counted_iff (buf : Buffer) (count : UInt8) :
    (buf.length == 1 + count.toUInt64 * (4 + 1)) = true ↔
      buf.bytes.length = 1 + 5 * count.toNat := by
  have bound := count.toNat_lt
  have size : (1 + count.toUInt64 * (4 + 1)).toNat = 1 + 5 * count.toNat := by
    rw [UInt64.toNat_add, UInt64.toNat_mul, UInt8.toNat_toUInt64]
    change (1 + count.toNat * 5 % 2 ^ 64) % 2 ^ 64 = _
    omega
  rw [beq_iff_eq, ← UInt64.toNat_inj, size, Buffer.length_toNat]

/-- The vector is read once its length is the announced one. -/
theorem checked_aborted_iff (buf : Buffer) (count metric : UInt8) (position : Nat)
    (small : position ≤ 1) :
    (dcheck .debug (buf.length == 1 + count.toUInt64 * (4 + 1)) >>= fun _ =>
        readEntries count.toNat metric (DataReader.at_ buf position)) = .aborted ↔
      buf.bytes.length ≠ 1 + 5 * count.toNat := by
  have bound := count.toNat_lt
  rw [Ne, ← counted_iff]
  cases buf.length == 1 + count.toUInt64 * (4 + 1) with
  | false => exact iff_of_true rfl (by decide)
  | true =>
      obtain ⟨entries, done, _⟩ := readEntries_done buf count.toNat metric position (by omega)
      rw [dcheck_done rfl, Outcome.done_bind, done]
      exact iff_of_false nofun (by decide)

theorem updateTable_aborted_iff (locals : TableLocals) (buf : Buffer) :
    updateTable .debug locals buf = .aborted ↔ ¬WellFormed buf.bytes := by
  rw [updateTable, DataReader.create_eq]
  simp only [DataReader.readUInt8_at _ _ _ (by omega : 0 < 2 ^ 32), Outcome.done_bind]
  cases shape : buf.bytes with
  | nil =>
      -- the announced number is left uninitialised, and fits no empty vector
      have empty : buf.bytes.length = 0 := by rw [shape, List.length_nil]
      simp only [List.length_nil, Nat.zero_add, (by decide : ¬1 ≤ 0), if_false]
      rw [checked_aborted_iff _ _ _ _ (by omega)]
      refine iff_of_true (by omega) ?_
      rintro ⟨_, _, same, _⟩
      cases same
  | cons count rest =>
      have first : buf.field 0 1 = [count] := by
        rw [Buffer.field, shape]
        rfl
      have length : buf.bytes.length = rest.length + 1 := by rw [shape, List.length_cons]
      simp only [List.length_cons, Nat.zero_add, Nat.le_add_left, if_true, first,
        ofNat_networkValue8]
      rw [checked_aborted_iff _ _ _ _ (by omega)]
      refine not_congr ⟨fun counted => ⟨count, rest, rfl, by omega⟩, ?_⟩
      rintro ⟨_, _, same, counted⟩
      cases same
      omega

end RoutingTable

/-- Which received bytes stop a debug build: the frames that are accepted with fewer than twenty
bytes behind their header, segments of fewer than sixteen bytes, and distance vectors whose
length is not the one they announce. -/
theorem received_aborts_iff (locals : ReceiveLocals) (device : Device) (frame : Buffer)
    (leftovers : Leftovers) (source destination : IPAddress) (segment : Buffer)
    (tableLocals : TableLocals) (vector : Buffer) :
    (device.decodeFrame .debug locals frame ≠ .aborted ↔
      ¬(device.Accepts frame ∧ frame.bytes.length < Device.typeOffset frame + 22)) ∧
    (Segment.parse .debug leftovers source destination segment ≠ .aborted ↔
      16 ≤ segment.bytes.length) ∧
    (RoutingTable.updateTable .debug tableLocals vector ≠ .aborted ↔
      RoutingTable.WellFormed vector.bytes) := by
  refine ⟨not_congr (Device.decodeFrame_aborted_iff locals device frame), ?_, ?_⟩
  · constructor
    · exact BuildAgreement.parse_enough
    · intro enough
      rw [Segment.parse_eq _ _ _ _ _ enough]
      exact nofun
  · exact (not_congr (RoutingTable.updateTable_aborted_iff tableLocals vector)).trans
      Classical.not_not

def sampleDevice : Device :=
  { hasCallback := true
    macAddress := ⟨true, ⟨[2, 0, 0, 0, 0, 1], rfl⟩⟩
    peerAddress := ⟨false, .zero⟩ }

-- a broadcast IP frame with one byte behind its header
def shortFrame : Buffer :=
  ⟨[255, 255, 255, 255, 255, 255, 2, 0, 0, 0, 0, 2, 8, 0, 69], by decide⟩

theorem shortInput_aborts :
    sampleDevice.decodeFrame .debug ⟨0, 0⟩ shortFrame = .aborted ∧
      Segment.parse .debug ⟨0, 0, 0, 0, 0⟩ (IPAddress.ofInAddr ⟨10, 0, 0, 1⟩)
        (IPAddress.ofInAddr ⟨10, 0, 0, 2⟩) ⟨[], by decide⟩ = .aborted ∧
      RoutingTable.updateTable .debug ⟨0, 0⟩ ⟨[1], by decide⟩ = .aborted :=
  ⟨rfl, rfl, rfl⟩

end LabNetstack
