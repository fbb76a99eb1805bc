import LabNetstack.Checksum
import LabNetstack.IPLayerCore
import LabNetstack.Wire

/-! A packet that is forwarded: `subtractTTL` and `routePacket`. The header checksum is that of
IPv4, over a header with or without options. -/

namespace LabNetstack

namespace IPLayer

def headerLength (bytes : List UInt8) : Nat := 4 * ((bytes.headD 0).toNat % 16)

def withoutChecksum (header : List UInt8) : List UInt8 :=
  header.take 10 ++ [0, 0] ++ header.drop 12

def onesSum (bytes : List UInt8) : Nat := carrySum 65535 0 (networkWords bytes)

structure HeaderValid (bytes : List UInt8) : Prop where
  version : (bytes.headD 0).toNat / 16 = 4
  minimal : 20 ≤ headerLength bytes
  fits : headerLength bytes ≤ bytes.length
  checksum : networkValue ((bytes.drop 10).take 2) =
    65535 - onesSum (withoutChecksum (bytes.take (headerLength bytes)))

instance decidableHeaderValid (bytes : List UInt8) : Decidable (HeaderValid bytes) :=
  decidable_of_iff ((bytes.headD 0).toNat / 16 = 4 ∧ 20 ≤ headerLength bytes ∧
      headerLength bytes ≤ bytes.length ∧ networkValue ((bytes.drop 10).take 2) =
        65535 - onesSum (withoutChecksum (bytes.take (headerLength bytes))))
    ⟨fun ⟨version, minimal, fits, checksum⟩ => ⟨version, minimal, fits, checksum⟩,
      fun valid => ⟨valid.version, valid.minimal, valid.fits, valid.checksum⟩⟩

/-- The time to live is one less, and nothing but it and the checksum has changed. -/
structure TTLReduced (before after : List UInt8) : Prop where
  length : after.length = before.length
  ttl : (after.getD kTTLHeaderOffset 0).toNat + 1 = (before.getD kTTLHeaderOffset 0).toNat
  others : ∀ index, index ≠ kTTLHeaderOffset → index ≠ 10 → index ≠ 11 →
    after[index]? = before[index]?

/-- The packet in the send buffer is the one received, with a reduced time to live and a valid
header. -/
def ForwardsValid (build : Build) (buffer : List UInt8) (packet : Buffer) : Prop :=
  ∃ sent placed, subtractTTL packet = .done (some sent) ∧
    routePacket build buffer sent = .done (true, placed) ∧
    TTLReduced packet.bytes (placed.take packet.bytes.length) ∧
    HeaderValid (placed.take packet.bytes.length)

/-! The header around the time to live. -/

structure Laid (bytes front : List UInt8) (ttl protocol high low : UInt8) (tail : List UInt8) :
    Prop where
  eight : front.length = 8
  bytes : bytes = front ++ ttl :: protocol :: high :: low :: tail

theorem laid_out {bytes : List UInt8} (long : 20 ≤ bytes.length) :
    ∃ front ttl protocol high low tail, Laid bytes front ttl protocol high low tail := by
  have rest : (bytes.drop 8).length = bytes.length - 8 := List.length_drop
  match shape : bytes.drop 8 with
  | ttl :: protocol :: high :: low :: tail =>
      refine ⟨bytes.take 8, ttl, protocol, high, low, tail, ?_, ?_⟩
      · rw [List.length_take]
        omega
      · rw [← shape, List.take_append_drop]
  | [] | [_] | [_, _] | [_, _, _] =>
      rw [shape] at rest
      simp only [List.length_cons, List.length_nil] at rest
      omega

section Layout

variable {bytes front tail : List UInt8} {ttl protocol high low : UInt8}
  (laid : Laid bytes front ttl protocol high low tail)

include laid

theorem Laid.head : bytes.headD 0 = front.headD 0 := by
  have eight := laid.eight
  rw [laid.bytes]
  cases front with
  | nil => cases eight
  | cons first rest => rfl

theorem Laid.field : (bytes.drop 10).take 2 = [high, low] := by
  rw [laid.bytes, List.drop_append, laid.eight, List.drop_eq_nil_of_le (by rw [laid.eight]; decide)]
  rfl

theorem Laid.header {count : Nat} (long : 20 ≤ count) :
    withoutChecksum (bytes.take count) =
      (front ++ [ttl, protocol]) ++ (0 :: 0 :: tail.take (count - 12)) := by
  have eight := laid.eight
  have start : (front ++ [ttl, protocol]).length = 10 := by
    rw [List.length_append, eight]
    rfl
  have taken : bytes.take count =
      (front ++ [ttl, protocol]) ++ (high :: low :: tail.take (count - 12)) := by
    have split : bytes = (front ++ [ttl, protocol]) ++ (high :: low :: tail) := by
      rw [laid.bytes, List.append_assoc]
      rfl
    have depth : count - 10 = count - 12 + 1 + 1 := by omega
    rw [split, List.take_append, List.take_of_length_le (by omega), start, depth,
      List.take_succ_cons, List.take_succ_cons]
  rw [withoutChecksum, taken, List.take_left' start, List.drop_append,
    List.drop_eq_nil_of_le (by omega), start, List.append_assoc]
  rfl

theorem Laid.total {count : Nat} (long : 20 ≤ count) :
    (networkWords (withoutChecksum (bytes.take count))).sum =
      (networkWords front).sum + (ttl.toNat * 256 + protocol.toNat) +
        (networkWords (tail.take (count - 12))).sum := by
  have eight := laid.eight
  have even : (front ++ [ttl, protocol]).length % 2 = 0 := by
    rw [List.length_append, eight, List.length_cons, List.length_singleton]
  rw [laid.header long, networkWords_append _ _ even, networkWords_append _ _ (by rw [eight]),
    List.sum_append, List.sum_append]
  simp only [networkWords, networkValue, hostValue, List.reverse_cons, List.reverse_nil,
    List.nil_append, List.cons_append, List.sum_cons, List.sum_nil, UInt8.toNat_zero]
  omega

theorem Laid.byte : bytes.getD kTTLHeaderOffset 0 = ttl := by
  have eight : front.length ≤ kTTLHeaderOffset := laid.eight.le
  rw [List.getD_eq_getElem?_getD, laid.bytes, List.getElem?_append_right eight, laid.eight]
  rfl

theorem Laid.spend (byte : UInt8) :
    Laid (bytes.set kTTLHeaderOffset byte) front byte protocol high low tail := by
  have eight := laid.eight
  refine ⟨eight, ?_⟩
  rw [laid.bytes, List.set_append, eight]
  rfl

end Layout

theorem onesSum_eq (bytes : List UInt8) :
    onesSum bytes = residue 65535 (networkWords bytes).sum := by
  rw [onesSum, carrySum_eq (by decide) (Nat.zero_le _) (networkWords_le bytes), Nat.zero_add]

theorem front_positive {front : List UInt8} (version : (front.headD 0).toNat / 16 = 4)
    (eight : front.length = 8) : 0 < (networkWords front).sum := by
  match front, eight with
  | first :: second :: rest, _ =>
      simp only [List.headD_cons] at version
      simp only [networkWords, networkValue, hostValue, List.reverse_cons, List.reverse_nil,
        List.nil_append, List.cons_append, List.sum_cons]
      omega

theorem spent_toNat {ttl : UInt8} (alive : ttl ≠ 0) : (ttl - 1).toNat + 1 = ttl.toNat := by
  have positive : 1 ≤ ttl.toNat :=
    Nat.one_le_iff_ne_zero.mpr fun zero => alive (UInt8.toNat_inj.mp zero)
  have le : (1 : UInt8) ≤ ttl := UInt8.le_iff_toNat_le.mpr positive
  rw [UInt8.toNat_sub_of_le _ _ le]
  exact Nat.sub_add_cancel positive

/-- The sum of the header loses 256, and its complement stays. -/
theorem spent_invalid {bytes : List UInt8} (valid : HeaderValid bytes)
    (alive : bytes.getD kTTLHeaderOffset 0 ≠ 0) :
    ¬HeaderValid (bytes.set kTTLHeaderOffset (bytes.getD kTTLHeaderOffset 0 - 1)) := by
  intro still
  obtain ⟨front, ttl, protocol, high, low, tail, laid⟩ :=
    laid_out (valid.minimal.trans valid.fits)
  rw [laid.byte] at alive still
  have spent := laid.spend (ttl - 1)
  have length : headerLength (bytes.set kTTLHeaderOffset (ttl - 1)) = headerLength bytes := by
    rw [headerLength, headerLength, laid.head, spent.head]
  have before := valid.checksum
  have after := still.checksum
  rw [laid.field, onesSum_eq, laid.total valid.minimal] at before
  rw [spent.field, length, onesSum_eq, spent.total valid.minimal] at after
  have version := valid.version
  rw [laid.head] at version
  have positive := front_positive version laid.eight
  have spentOne := spent_toNat alive
  have same := (complement_eq_iff (by decide) (by omega) (by omega)).mp (before.symm.trans after)
  unfold Nat.ModEq at same
  omega

theorem subtractTTL_spends {packet : Buffer} (valid : HeaderValid packet.bytes)
    (alive : packet.bytes.getD kTTLHeaderOffset 0 ≠ 0) :
    ∃ sent, subtractTTL packet = .done (some sent) ∧ sent.bytes =
      packet.bytes.set kTTLHeaderOffset (packet.bytes.getD kTTLHeaderOffset 0 - 1) := by
  have inside : kTTLHeaderOffset < packet.bytes.length := by
    have long := valid.minimal.trans valid.fits
    rw [kTTLHeaderOffset]
    omega
  have read : packet.bytes[kTTLHeaderOffset]? = some (packet.bytes.getD kTTLHeaderOffset 0) := by
    rw [List.getD_eq_getElem?_getD, List.getElem?_eq_getElem inside, Option.getD_some]
  rw [subtractTTL, read]
  dsimp only
  rw [if_neg (by simpa using alive)]
  exact ⟨_, rfl, rfl⟩

theorem spent_reduced {bytes : List UInt8} (inside : kTTLHeaderOffset < bytes.length)
    (alive : bytes.getD kTTLHeaderOffset 0 ≠ 0) :
    TTLReduced bytes (bytes.set kTTLHeaderOffset (bytes.getD kTTLHeaderOffset 0 - 1)) where
  length := List.length_set
  ttl := by
    have written : (bytes.set kTTLHeaderOffset (bytes.getD kTTLHeaderOffset 0 - 1)).getD
        kTTLHeaderOffset 0 = bytes.getD kTTLHeaderOffset 0 - 1 := by
      rw [List.getD_eq_getElem?_getD, List.getElem?_set_self inside, Option.getD_some]
    rw [written]
    exact spent_toNat alive
  others := by
    intro index apart _ _
    exact List.getElem?_set_ne (Ne.symm apart)

theorem create_send {buffer : List UInt8} (allocated : buffer.length = 1500) :
    DataWriter.create buffer kMaxIpPacketLength = DataWriter.filled buffer [] [] := by
  have capacity : kMaxIpPacketLength = UInt64.ofNat buffer.length := by
    rw [allocated]
    rfl
  rw [capacity, DataWriter.create_eq]

theorem routePacket_places (build : Build) {buffer : List UInt8} (allocated : buffer.length = 1500)
    {packet : Buffer} (fits : packet.bytes.length ≤ 1500) :
    ∃ placed, routePacket build buffer packet = .done (true, placed) ∧
      placed.take packet.bytes.length = packet.bytes := by
  have length := packet.length_toNat
  have wrote : (DataWriter.filled buffer [] []).writeBytes packet.bytes packet.length = _ :=
    DataWriter.writeBytes_filled (by omega) (by rw [List.length_nil]; omega) (by omega)
  simp only [routePacket, create_send allocated, wrote, Outcome.done_bind, dcheck_done rfl]
  refine ⟨_, rfl, ?_⟩
  rw [length, List.take_length]
  exact List.take_left

theorem routePacket_refused (build : Build) {buffer : List UInt8} (allocated : buffer.length = 1500)
    {packet : Buffer} (exceeds : 1500 < packet.bytes.length) {placed : List UInt8}
    (taken : routePacket build buffer packet = .done (true, placed)) : placed = buffer := by
  have length := packet.length_toNat
  have bound := packet.fits
  have wrote : (DataWriter.filled buffer [] []).writeBytes packet.bytes packet.length = _ :=
    DataWriter.writeBytes_refused (by omega) (Nat.zero_le _) (by rw [List.length_nil]; omega)
      (by rw [List.length_nil]; omega)
  simp only [routePacket, create_send allocated, wrote, Outcome.done_bind] at taken
  cases build with
  | debug => cases taken
  | release =>
      cases taken
      rfl

/-- No packet is forwarded with a valid header. One that fits into the send buffer is placed there
with its time to live reduced and the checksum of before. -/
theorem forwarded_invalid (build : Build) {buffer : List UInt8} (allocated : buffer.length = 1500)
    {packet : Buffer} (valid : HeaderValid packet.bytes)
    (alive : packet.bytes.getD kTTLHeaderOffset 0 ≠ 0) :
    ¬ForwardsValid build buffer packet ∧
    (packet.bytes.length ≤ 1500 → ∃ sent placed, subtractTTL packet = .done (some sent) ∧
      routePacket build buffer sent = .done (true, placed) ∧
      placed.take packet.bytes.length =
        packet.bytes.set kTTLHeaderOffset (packet.bytes.getD kTTLHeaderOffset 0 - 1) ∧
      TTLReduced packet.bytes (placed.take packet.bytes.length) ∧
      ¬HeaderValid (placed.take packet.bytes.length)) := by
  have inside : kTTLHeaderOffset < packet.bytes.length :=
    lt_of_lt_of_le (by decide) (valid.minimal.trans valid.fits)
  obtain ⟨sent, spends, bytes⟩ := subtractTTL_spends valid alive
  have same : sent.bytes.length = packet.bytes.length := by rw [bytes, List.length_set]
  have invalid := spent_invalid valid alive
  have reduced := spent_reduced inside alive
  rw [← bytes] at invalid reduced
  constructor
  · rintro ⟨other, placed, spent, routed, kept, still⟩
    cases spends.symm.trans spent
    by_cases fits : packet.bytes.length ≤ 1500
    · obtain ⟨there, placedThere, whole⟩ := routePacket_places build allocated (same ▸ fits)
      cases placedThere.symm.trans routed
      rw [← same, whole] at still
      exact invalid still
    · have untouched := routePacket_refused build allocated (by omega) routed
      have length := kept.length
      rw [untouched, List.length_take] at length
      omega
  · intro fits
    obtain ⟨placed, routed, whole⟩ := routePacket_places build allocated (same ▸ fits)
    rw [same] at whole
    refine ⟨sent, placed, spends, routed, whole.trans bytes, ?_, ?_⟩
    · rw [whole]
      exact reduced
    · rw [whole]
      exact invalid

-- 10.0.0.1 to 10.0.0.2, with a time to live of 64 and no payload
def plainHeader : Buffer :=
  ⟨[0x45, 0, 0, 20, 0, 0, 0, 0, 64, 6, 0x66, 0xe2, 10, 0, 0, 1, 10, 0, 0, 2], by decide⟩

theorem plainHeader_forwarded : HeaderValid plainHeader.bytes ∧
    ¬ForwardsValid .release (List.replicate 1500 0) plainHeader :=
  ⟨by decide, (forwarded_invalid .release List.length_replicate (by decide) (by decide)).1⟩

-- the same with an option that ends the list of options
def optionHeader : Buffer :=
  ⟨[0x46, 0, 0, 24, 0, 0, 0, 0, 64, 6, 0x65, 0xde, 10, 0, 0, 1, 10, 0, 0, 2, 0, 0, 0, 0], by decide⟩

def optionSpent : Buffer := ⟨optionHeader.bytes.set kTTLHeaderOffset 63, by decide⟩

theorem optionHeader_stale : HeaderValid optionHeader.bytes ∧
    subtractTTL optionHeader = .done (some optionSpent) ∧ ¬HeaderValid optionSpent.bytes ∧
    ¬ForwardsValid .release (List.replicate 1500 0) optionHeader := by
  have spends : subtractTTL optionHeader = .done (some optionSpent) := rfl
  have invalid : ¬HeaderValid optionSpent.bytes := by decide
  refine ⟨by decide, spends, invalid, ?_⟩
  rintro ⟨sent, placed, spent, routed, _, still⟩
  cases spends.symm.trans spent
  obtain ⟨there, placedThere, whole⟩ := @routePacket_places .release (List.replicate 1500 0)
    List.length_replicate optionSpent (by decide)
  cases placedThere.symm.trans routed
  exact invalid (whole ▸ still)

end IPLayer

end LabNetstack
