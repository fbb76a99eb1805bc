import LabNetstack.Checksum
import LabNetstack.Executions

/-! A `Checksum` of a byte range to which words and addresses are added: its value, whatever the
order, and what its 32-bit and 16-bit arithmetic does on the way. -/

namespace LabNetstack

-- `indeterminate` is what the local of `addIPAddress` holds before it is written
inductive ChecksumPart where
  | host (value : UInt16)
  | network (value : UInt16)
  | address (v4 : InAddr) (indeterminate : UInt32)
deriving DecidableEq, Repr

namespace ChecksumPart

def add (checksum : Checksum) : ChecksumPart → Outcome Checksum
  | host value => .done (checksum.addHostUInt16 value)
  | network value => .done (checksum.addNetworkUint16 value)
  | address v4 indeterminate => checksum.addIPAddress .debug indeterminate (.ofInAddr v4)

/-- The words a part stands for. One in network order is the word that its bytes in memory spell. -/
def words : ChecksumPart → List Nat
  | host value => [value.toNat]
  | network value => networkWords (hostBytes 2 value.toNat)
  | address v4 _ => networkWords v4.bytes

end ChecksumPart

def checksumWords (bytes : List UInt8) (parts : List ChecksumPart) : List Nat :=
  networkWords bytes ++ parts.flatMap ChecksumPart.words

namespace Checksum

/-! The value. -/

theorem Totals.addPart {checksum : Checksum} {total : Nat} (totals : checksum.Totals total)
    (part : ChecksumPart) :
    ∃ next, part.add checksum = .done next ∧ next.Totals (total + part.words.sum) := by
  cases part with
  | host value => exact ⟨_, rfl, totals.addHostUInt16 value⟩
  | network value =>
      have two : (hostBytes 2 value.toNat).length = 2 := hostBytes_length 2 _
      have small : value.toNat < 256 ^ 2 := value.toNat_lt
      have stored : UInt16.ofNat (hostValue (hostBytes 2 value.toNat)) = value := by
        rw [hostValue_hostBytes, Nat.mod_eq_of_lt small, UInt16.ofNat_toNat]
      have added := totals.addNetworkUint16 two
      rw [stored] at added
      refine ⟨_, rfl, ?_⟩
      rwa [ChecksumPart.words, networkWords_pair two, List.sum_singleton]
  | address v4 indeterminate =>
      have added := addIPAddress_eq .debug indeterminate checksum (.ofInAddr v4) rfl
      exact ⟨_, added, totals.addMemory rfl⟩

theorem Totals.addParts {checksum : Checksum} {total : Nat} (totals : checksum.Totals total)
    (parts : List ChecksumPart) :
    ∃ final, execute ChecksumPart.add checksum parts = .done final ∧
      final.Totals (total + (parts.flatMap ChecksumPart.words).sum) := by
  induction parts generalizing checksum total with
  | nil => exact ⟨checksum, rfl, totals⟩
  | cons part parts ih =>
      obtain ⟨next, taken, more⟩ := totals.addPart part
      obtain ⟨final, reached, all⟩ := ih more
      refine ⟨final, execute_cons.mpr ⟨next, taken, reached⟩, ?_⟩
      rwa [List.flatMap_cons, List.sum_append, ← Nat.add_assoc]

theorem parts_total (bytes : List UInt8) (parts : List ChecksumPart) :
    ∃ final, execute ChecksumPart.add (ofRange bytes) parts = .done final ∧
      final.Totals (checksumWords bytes parts).sum := by
  rw [checksumWords, List.sum_append]
  exact (ofRange_totals bytes).addParts parts

theorem residue_words (words : List Nat) : residue 65535 words.sum =
    if ∀ word ∈ words, word = 0 then 0 else (words.sum - 1) % 65535 + 1 := by
  rw [residue, if_congr List.sum_eq_zero_iff_forall_eq_nat rfl rfl]

/-! The arithmetic. -/

/-- One word is added to a sum and the carry folded in: nothing overflows, a second fold would
change nothing, and no bit is lost in `sum_`. -/
structure Accumulates (sum : UInt32) (word : UInt16) : Prop where
  unwrapped : (sum + word.toUInt32).toNat = sum.toNat + word.toNat
  carried : (foldCarry (sum + word.toUInt32)).toNat =
    ((sum + word.toUInt32) &&& (0xffff : UInt32)).toNat + ((sum + word.toUInt32) >>> 16).toNat
  folded : foldCarry (foldCarry (sum + word.toUInt32)) = foldCarry (sum + word.toUInt32)
  kept : (foldCarry (sum + word.toUInt32)).toUInt16.toNat =
    (foldCarry (sum + word.toUInt32)).toNat

theorem accumulates {sum : UInt32} (word : UInt16) (sumLe : sum.toNat ≤ 65535) :
    Accumulates sum word := by
  have bound := word.toNat_lt
  have le := addCarry_le word sumLe
  have unwrapped : (sum + word.toUInt32).toNat = sum.toNat + word.toNat := by
    rw [UInt32.toNat_add, UInt16.toNat_toUInt32]
    omega
  refine ⟨unwrapped, ?_, ?_, ?_⟩
  · rw [foldCarry_toNat, lowHalf_toNat, highHalf_toNat]
  · rw [← UInt32.toNat_inj, foldCarry_toNat]
    omega
  · rw [UInt32.toNat_toUInt16]
    omega

theorem sumWords_le {sum : UInt32} (words : List UInt16) (sumLe : sum.toNat ≤ 65535) :
    (sumWords sum words).toNat ≤ 65535 := by
  unfold sumWords
  induction words generalizing sum with
  | nil => exact sumLe
  | cons word words ih => exact ih (addCarry_le (ntohs word) sumLe)

/-- A checksum is the one's-complement sum of its words in any order, and every step that leads to it
is exact. -/
theorem checksum_sums (bytes : List UInt8) (parts : List ChecksumPart) :
    (∃ checksum, execute ChecksumPart.add (ofRange bytes) parts = .done checksum ∧
      checksum.getChecksum.toNat =
        if ∀ word ∈ checksumWords bytes parts, word = 0 then 0
        else ((checksumWords bytes parts).sum - 1) % 65535 + 1) ∧
    (∀ otherBytes otherParts,
      (checksumWords otherBytes otherParts).Perm (checksumWords bytes parts) →
      execute ChecksumPart.add (ofRange otherBytes) otherParts =
        execute ChecksumPart.add (ofRange bytes) parts) ∧
    -- the loop of the constructor, its last assignment, and every `addHostUInt16`
    (∀ front word back, hostWords (evenBytes bytes) = front ++ word :: back →
      Accumulates (sumWords (oddSum bytes) front) (ntohs word)) ∧
    (ofRange bytes).sum.toNat = (sumWords (oddSum bytes) (hostWords (evenBytes bytes))).toNat ∧
    ∀ (checksum : Checksum) (value : UInt16), Accumulates checksum.sum.toUInt32 value := by
  obtain ⟨final, reached, totals⟩ := parts_total bytes parts
  refine ⟨⟨final, reached, totals.trans (residue_words _)⟩, ?_, ?_, ?_, ?_⟩
  · intro otherBytes otherParts same
    obtain ⟨other, otherReached, otherTotals⟩ := parts_total otherBytes otherParts
    rw [same.sum_nat] at otherTotals
    have equal : other = final := by
      rw [Checksum.mk.injEq, ← UInt16.toNat_inj]
      exact otherTotals.trans totals.symm
    rw [otherReached, reached, equal]
  · intro front word back _
    exact accumulates (ntohs word) (sumWords_le front (oddSum_le bytes))
  · have le := sumWords_le (hostWords (evenBytes bytes)) (oddSum_le bytes)
    rw [ofRange_eq, UInt32.toNat_toUInt16]
    omega
  · intro checksum value
    have bound := checksum.sum.toNat_lt
    apply accumulates
    rw [UInt16.toNat_toUInt32]
    omega

end Checksum

end LabNetstack
