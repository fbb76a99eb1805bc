import LabNetstack.ChecksumCore
import LabNetstack.OnesComplement
import LabNetstack.Wire

/-! `Checksum` computes the one's-complement sum of 16-bit words in network order. -/

namespace LabNetstack

/-! The words of a byte range, zero padded to an even length. -/

def networkWords : List UInt8 → List Nat
  | first :: second :: rest => networkValue [first, second] :: networkWords rest
  | [last] => [networkValue [last, 0]]
  | [] => []

theorem networkWords_le : ∀ bytes : List UInt8, ∀ word ∈ networkWords bytes, word ≤ 65535
  | [] => by simp [networkWords]
  | [last] => by
      have bound := networkValue_lt [last, 0]
      simp only [networkWords, List.mem_singleton, forall_eq]
      simp only [List.length_cons, List.length_nil] at bound
      omega
  | first :: second :: rest => by
      have bound := networkValue_lt [first, second]
      simp only [List.length_cons, List.length_nil] at bound
      intro word member
      rcases List.mem_cons.mp member with rfl | later
      · omega
      · exact networkWords_le rest word later

theorem networkWords_pair {bytes : List UInt8} (two : bytes.length = 2) :
    networkWords bytes = [networkValue bytes] := by
  obtain ⟨first, second, rfl⟩ := List.length_eq_two.mp two
  rfl

theorem networkWords_append : ∀ front bytes : List UInt8, front.length % 2 = 0 →
    networkWords (front ++ bytes) = networkWords front ++ networkWords bytes
  | [], bytes, _ => rfl
  | [last], bytes, even => by simp at even
  | first :: second :: rest, bytes, even => by
      have evenRest : rest.length % 2 = 0 := by
        simp only [List.length_cons] at even
        omega
      simp only [List.cons_append, networkWords, networkWords_append rest bytes evenRest]

namespace Checksum

theorem lowHalf_toNat (sum : UInt32) :
    (sum &&& (0xffff : UInt32)).toNat = sum.toNat % 65536 :=
  lowBits_toNat sum 16 (by decide)

theorem highHalf_toNat (sum : UInt32) : (sum >>> 16).toNat = sum.toNat / 65536 :=
  highBits_toNat sum 16 (by decide)

theorem foldCarry_toNat (sum : UInt32) :
    (foldCarry sum).toNat = sum.toNat % 65536 + sum.toNat / 65536 := by
  have bound := sum.toNat_lt
  rw [foldCarry, UInt32.toNat_add, lowHalf_toNat, highHalf_toNat]
  omega

theorem addCarry_toNat (sum : UInt32) (word : UInt16) (sumLe : sum.toNat ≤ 65535) :
    (foldCarry (sum + word.toUInt32)).toNat = carryAdd 65535 sum.toNat word.toNat := by
  have bound := word.toNat_lt
  rw [foldCarry_toNat, UInt32.toNat_add, UInt16.toNat_toUInt32, carryAdd]
  have plain : (sum.toNat + word.toNat) % 2 ^ 32 = sum.toNat + word.toNat := by omega
  rw [plain]

theorem addCarry_le {sum : UInt32} (word : UInt16) (sumLe : sum.toNat ≤ 65535) :
    (foldCarry (sum + word.toUInt32)).toNat ≤ 65535 := by
  have bound := word.toNat_lt
  rw [addCarry_toNat sum word sumLe, carryAdd_eq sumLe (by omega)]
  exact residue_le (by decide) _

theorem sumWords_toNat (sum : UInt32) (words : List UInt16) (sumLe : sum.toNat ≤ 65535) :
    (sumWords sum words).toNat =
      carrySum 65535 sum.toNat (words.map fun word => (ntohs word).toNat) := by
  unfold sumWords carrySum
  induction words generalizing sum with
  | nil => rfl
  | cons word words ih =>
      have first := addCarry_toNat sum (ntohs word) sumLe
      have firstLe := addCarry_le (ntohs word) sumLe
      rw [List.foldl_cons, List.map_cons, List.foldl_cons, ih _ firstLe, first]

theorem hostWords_network : ∀ bytes : List UInt8, bytes.length % 2 = 0 →
    (hostWords bytes).map (fun word => (ntohs word).toNat) = networkWords bytes
  | [], _ => rfl
  | [last], even => by simp at even
  | first :: second :: rest, even => by
      have evenRest : rest.length % 2 = 0 := by
        simp only [List.length_cons] at even
        omega
      have pair : ([first, second] : List UInt8).length = 2 := rfl
      have bound : networkValue [first, second] < 256 ^ 2 := networkValue_lt [first, second]
      rw [hostWords, networkWords, List.map_cons, hostWords_network rest evenRest,
        ntohs_hostValue pair, UInt16.toNat_ofNat_of_lt' bound]

/-! `Totals` says which plain sum a checksum stands for. -/

def Totals (checksum : Checksum) (total : Nat) : Prop := checksum.sum.toNat = residue 65535 total

theorem sumWords_totals (sum : UInt32) (bytes : List UInt8) (sumLe : sum.toNat ≤ 65535)
    (even : bytes.length % 2 = 0) :
    (Checksum.mk (sumWords sum (hostWords bytes)).toUInt16).Totals
      (sum.toNat + (networkWords bytes).sum) := by
  have top : (0 : Nat) < 65535 := by decide
  have le := residue_le top (sum.toNat + (networkWords bytes).sum)
  rw [Totals, UInt32.toNat_toUInt16, sumWords_toNat sum _ sumLe, hostWords_network bytes even,
    carrySum_eq top sumLe (networkWords_le bytes)]
  omega

-- where the loop of the constructor starts, and the bytes it goes over
def oddSum (bytes : List UInt8) : UInt32 :=
  if bytes.length % 2 == 1 then (bytes.getLastD 0).toUInt32 <<< 8 else 0

def evenBytes (bytes : List UInt8) : List UInt8 :=
  if bytes.length % 2 == 1 then bytes.dropLast else bytes

theorem ofRange_eq (bytes : List UInt8) :
    ofRange bytes = ⟨(sumWords (oddSum bytes) (hostWords (evenBytes bytes))).toUInt16⟩ := by
  unfold ofRange oddSum evenBytes
  split <;> rfl

theorem oddByte_toNat (byte : UInt8) : (byte.toUInt32 <<< 8).toNat = byte.toNat * 256 := by
  have bound := byte.toNat_lt
  have raised := raisedBits_toNat byte.toUInt32 8 (by decide) (by
    rw [UInt8.toNat_toUInt32]
    omega)
  rwa [UInt8.toNat_toUInt32] at raised

theorem oddSum_le (bytes : List UInt8) : (oddSum bytes).toNat ≤ 65535 := by
  unfold oddSum
  split
  · have bound := (bytes.getLastD 0).toNat_lt
    rw [oddByte_toNat]
    omega
  · exact Nat.zero_le _

theorem evenBytes_even (bytes : List UInt8) : (evenBytes bytes).length % 2 = 0 := by
  unfold evenBytes
  split
  · rename_i odd
    have oddNat := beq_iff_eq.mp odd
    rw [List.length_dropLast]
    omega
  · rename_i even
    have evenNat : ¬bytes.length % 2 = 1 := fun odd => even (beq_iff_eq.mpr odd)
    omega

theorem networkWords_split (bytes : List UInt8) :
    (networkWords bytes).sum = (oddSum bytes).toNat + (networkWords (evenBytes bytes)).sum := by
  have evenLength := evenBytes_even bytes
  unfold oddSum evenBytes at *
  split
  · rename_i odd
    have nonempty : bytes ≠ [] := by
      rintro rfl
      exact absurd odd (by decide)
    have whole : bytes = bytes.dropLast ++ [bytes.getLastD 0] := by
      rw [List.getLastD_eq_getLast?, List.getLast?_eq_some_getLast nonempty, Option.getD_some,
        List.dropLast_append_getLast]
    have padded : networkValue [bytes.getLastD 0, 0] = (bytes.getLastD 0).toNat * 256 := by
      simp only [networkValue, List.reverse_cons, List.reverse_nil, List.nil_append,
        List.cons_append, hostValue, UInt8.toNat_zero]
      omega
    rw [if_pos odd] at evenLength
    rw [whole, networkWords_append _ _ evenLength, List.sum_append, ← whole, oddByte_toNat]
    simp only [networkWords, List.sum_singleton, padded]
    omega
  · rw [UInt32.toNat_zero, Nat.zero_add]

theorem ofRange_totals (bytes : List UInt8) : (ofRange bytes).Totals (networkWords bytes).sum := by
  rw [ofRange_eq, networkWords_split]
  exact sumWords_totals _ _ (oddSum_le bytes) (evenBytes_even bytes)

theorem Totals.addHostUInt16 {checksum : Checksum} {total : Nat} (totals : checksum.Totals total)
    (value : UInt16) : (checksum.addHostUInt16 value).Totals (total + value.toNat) := by
  have top : (0 : Nat) < 65535 := by decide
  have bound := value.toNat_lt
  have sumBound := checksum.sum.toNat_lt
  have added := addCarry_toNat checksum.sum.toUInt32 value (by
    rw [UInt16.toNat_toUInt32]
    omega)
  rw [UInt16.toNat_toUInt32, carryAdd_eq (by omega) (by omega), totals, residue_add top] at added
  have le := residue_le top (total + value.toNat)
  rw [Totals, Checksum.addHostUInt16, UInt32.toNat_toUInt16, added]
  omega

/-! An address in the pseudo header. -/

-- what `addIPAddress` finds in its local buffer
def addressMemory (build : Build) (indeterminate : UInt32) (address : IPAddress) : List UInt8 :=
  match build with
  | .debug => address.v4.bytes
  | .release => hostBytes 4 indeterminate.toNat

theorem addressMemory_length (build : Build) (indeterminate : UInt32) (address : IPAddress) :
    (addressMemory build indeterminate address).length = 4 := by
  cases build
  · rfl
  · exact hostBytes_length 4 _

def addMemory (checksum : Checksum) (memory : List UInt8) : Checksum :=
  let buffer := UInt32.ofNat (hostValue memory)
  (checksum.addNetworkUint16 (buffer >>> 16).toUInt16).addNetworkUint16 buffer.toUInt16

theorem addIPAddress_eq (build : Build) (indeterminate : UInt32) (checksum : Checksum)
    (address : IPAddress) (isV4 : address.family = .ipV4) :
    checksum.addIPAddress build indeterminate address =
      .done (checksum.addMemory (addressMemory build indeterminate address)) := by
  cases build with
  | release => rfl
  | debug =>
      have written : (DataWriter.create (hostBytes 4 indeterminate.toNat) 8).writeBytes
          address.v4.bytes kIPv4AddressSize =
          .done (true, ⟨address.v4.bytes, 8, 4, [(0, 4)]⟩) := rfl
      have family : (address.family != .ipV4) = false := by simp [isV4]
      have wrote : address.writeTo (DataWriter.create (hostBytes 4 indeterminate.toNat) 8) =
          .done (true, ⟨address.v4.bytes, 8, 4, [(0, 4)]⟩) := by
        rw [IPAddress.writeTo, family]
        exact written
      simp only [addIPAddress, dcheckCall, wrote, Outcome.done_bind, Outcome.require_true,
        Outcome.pure_eq]
      rfl

theorem addIPAddress_aborted (indeterminate : UInt32) (checksum : Checksum) {address : IPAddress}
    (other : address.family ≠ .ipV4) :
    checksum.addIPAddress .debug indeterminate address = .aborted := by
  have family : (address.family != .ipV4) = true := by simp [other]
  simp only [addIPAddress, dcheckCall, IPAddress.writeTo, family, ↓reduceIte, Outcome.aborted_bind]

theorem Totals.addNetworkUint16 {checksum : Checksum} {total : Nat}
    (totals : checksum.Totals total) {bytes : List UInt8} (pair : bytes.length = 2) :
    (checksum.addNetworkUint16 (UInt16.ofNat (hostValue bytes))).Totals
      (total + networkValue bytes) := by
  have bound := networkValue_lt bytes
  rw [pair] at bound
  have added := totals.addHostUInt16 (ntohs (UInt16.ofNat (hostValue bytes)))
  rwa [ntohs_hostValue pair, UInt16.toNat_ofNat_of_lt' bound, ← ntohs_hostValue pair] at added

theorem Totals.addMemory {checksum : Checksum} {total : Nat} (totals : checksum.Totals total)
    {memory : List UInt8} (four : memory.length = 4) :
    (checksum.addMemory memory).Totals (total + (networkWords memory).sum) := by
  obtain ⟨b0, b1, b2, b3, rfl⟩ := List.length_eq_four.mp four
  have bound0 := b0.toNat_lt
  have bound1 := b1.toNat_lt
  have bound2 := b2.toNat_lt
  have bound3 := b3.toNat_lt
  have small : hostValue [b0, b1, b2, b3] < 256 ^ 4 := hostValue_lt [b0, b1, b2, b3]
  have whole : (UInt32.ofNat (hostValue [b0, b1, b2, b3])).toNat = hostValue [b0, b1, b2, b3] :=
    UInt32.toNat_ofNat_of_lt' small
  have high : (UInt32.ofNat (hostValue [b0, b1, b2, b3]) >>> 16).toUInt16 =
      UInt16.ofNat (hostValue [b2, b3]) := by
    rw [← UInt16.toNat_inj, UInt32.toNat_toUInt16, highHalf_toNat, whole, UInt16.toNat_ofNat']
    simp only [hostValue]
    omega
  have low : (UInt32.ofNat (hostValue [b0, b1, b2, b3])).toUInt16 =
      UInt16.ofNat (hostValue [b0, b1]) := by
    rw [← UInt16.toNat_inj, UInt32.toNat_toUInt16, whole, UInt16.toNat_ofNat']
    simp only [hostValue]
    omega
  have first : ([b2, b3] : List UInt8).length = 2 := rfl
  have second : ([b0, b1] : List UInt8).length = 2 := rfl
  have added := (totals.addNetworkUint16 first).addNetworkUint16 second
  rw [← high, ← low] at added
  have sum : total + networkValue [b2, b3] + networkValue [b0, b1] =
      total + (networkWords [b0, b1, b2, b3]).sum := by
    simp only [networkWords, List.sum_cons, List.sum_nil]
    omega
  rwa [sum] at added

theorem complement_bytes (checksum : Checksum) :
    [((~~~checksum.sum) >>> 8).toUInt8, (~~~checksum.sum).toUInt8] =
      networkBytes 2 (65535 - checksum.sum.toNat) := by
  have bound := checksum.sum.toNat_lt
  have complement : (~~~checksum.sum).toNat = 65535 - checksum.sum.toNat := by
    rw [UInt16.toNat_not]
    rfl
  have high : ((~~~checksum.sum) >>> 8).toUInt8 = UInt8.ofNat ((65535 - checksum.sum.toNat) / 256) := by
    rw [← UInt8.toNat_inj, UInt16.toNat_toUInt8, UInt16.toNat_shiftRight, complement,
      UInt8.toNat_ofNat']
    change (65535 - checksum.sum.toNat) >>> 8 % 2 ^ 8 = _
    rw [Nat.shiftRight_eq_div_pow]
  have low : (~~~checksum.sum).toUInt8 = UInt8.ofNat (65535 - checksum.sum.toNat) := by
    rw [← UInt8.toNat_inj, UInt16.toNat_toUInt8, complement, UInt8.toNat_ofNat']
  rw [high, low]
  rfl

end Checksum

end LabNetstack
