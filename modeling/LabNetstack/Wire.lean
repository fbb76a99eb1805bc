import LabNetstack.WireCore

/-! What the readers and writers do to the bytes of a packet. -/

namespace LabNetstack

theorem htons_bytes (value : UInt16) : hostBytes 2 (htons value).toNat = networkBytes 2 value.toNat := by
  have bound := byteSwap_lt 2 value.toNat
  rw [htons, UInt16.toNat_ofNat_of_lt' bound, hostBytes_byteSwap]

theorem htonl_bytes (value : UInt32) : hostBytes 4 (htonl value).toNat = networkBytes 4 value.toNat := by
  have bound := byteSwap_lt 4 value.toNat
  rw [htonl, UInt32.toNat_ofNat_of_lt' bound, hostBytes_byteSwap]

theorem ntohs_hostValue {bytes : List UInt8} (length : bytes.length = 2) :
    ntohs (UInt16.ofNat (hostValue bytes)) = UInt16.ofNat (networkValue bytes) := by
  have bound := hostValue_lt bytes
  have swapped := byteSwap_hostValue bytes
  rw [length] at bound swapped
  rw [ntohs, UInt16.toNat_ofNat_of_lt' bound, swapped]

theorem ntohl_hostValue {bytes : List UInt8} (length : bytes.length = 4) :
    ntohl (UInt32.ofNat (hostValue bytes)) = UInt32.ofNat (networkValue bytes) := by
  have bound := hostValue_lt bytes
  have swapped := byteSwap_hostValue bytes
  rw [length] at bound swapped
  rw [ntohl, UInt32.toNat_ofNat_of_lt' bound, swapped]

/-! A reader at a position of a packet. -/

def Buffer.field (buf : Buffer) (start count : Nat) : List UInt8 :=
  (buf.bytes.drop start).take count

theorem Buffer.field_length {buf : Buffer} {start count : Nat}
    (fits : start + count ≤ buf.bytes.length) : (buf.field start count).length = count := by
  rw [field, List.length_take, List.length_drop]
  omega

namespace DataReader

def at_ (buf : Buffer) (position : Nat) : DataReader :=
  ⟨buf.bytes, buf.length, UInt64.ofNat position⟩

theorem create_eq (buf : Buffer) : create buf = at_ buf 0 := rfl

theorem over_iff (buf : Buffer) (position : Nat) (count : UInt64)
    (small : position + count.toNat < 2 ^ 64) :
    UInt64.ofNat position + count > buf.length ↔ buf.bytes.length < position + count.toNat := by
  rw [gt_iff_lt, UInt64.lt_iff_toNat_lt, Buffer.length_toNat, UInt64.toNat_add,
    UInt64.toNat_ofNat']
  omega

theorem advance_eq (position : Nat) (count : UInt64) :
    UInt64.ofNat position + count = UInt64.ofNat (position + count.toNat) := by
  simp

theorem readBytes_at (buf : Buffer) (position : Nat) (count : UInt64)
    (small : position + count.toNat < 2 ^ 64) :
    (at_ buf position).readBytes count = .done
      (if position + count.toNat ≤ buf.bytes.length then
        (some (buf.field position count.toNat), at_ buf (position + count.toNat))
      else (none, at_ buf position)) := by
  have exceeds := over_iff buf position count small
  unfold readBytes
  by_cases fits : position + count.toNat ≤ buf.bytes.length
  · have within : ¬(at_ buf position).pos + count > (at_ buf position).capacity := by
      rw [at_, exceeds]
      omega
    have start : (at_ buf position).pos.toNat = position := UInt64.toNat_ofNat_of_lt' (by
      simp only [UInt64.size]
      omega)
    have bytes : (at_ buf position).buffer = buf.bytes := rfl
    rw [if_neg within, if_pos fits, start, bytes, copyOut_done fits]
    simp only [Outcome.pure_eq, Outcome.done_bind, at_, advance_eq]
    rfl
  · have beyond : (at_ buf position).pos + count > (at_ buf position).capacity := by
      rw [at_, exceeds]
      omega
    rw [if_pos beyond, if_neg fits]

theorem readWord_at {α : Type} (convert : Nat → α) (buf : Buffer) (position : Nat) (result : α)
    (count : UInt64) (small : position + count.toNat < 2 ^ 64) :
    readWord count convert (at_ buf position) result = .done
      (if position + count.toNat ≤ buf.bytes.length then
        (true, convert (hostValue (buf.field position count.toNat)),
          at_ buf (position + count.toNat))
      else (false, result, at_ buf position)) := by
  rw [readWord, readBytes_at buf position count small]
  split <;> rfl

theorem readWord_moves {α : Type} (convert : Nat → α) (buf : Buffer) (position : Nat) (result : α)
    (count : UInt64) (small : position + count.toNat < 2 ^ 64) :
    ∃ read value next, readWord count convert (at_ buf position) result =
        .done (read, value, at_ buf next) ∧
      (position + count.toNat ≤ buf.bytes.length ∧ next = position + count.toNat ∧ read = true ∨
        buf.bytes.length < position + count.toNat ∧ next = position ∧ read = false) := by
  rw [readWord_at convert buf position result count small]
  by_cases fits : position + count.toNat ≤ buf.bytes.length
  · rw [if_pos fits]
    exact ⟨_, _, _, rfl, Or.inl ⟨fits, rfl, rfl⟩⟩
  · rw [if_neg fits]
    exact ⟨_, _, _, rfl, Or.inr ⟨by omega, rfl, rfl⟩⟩

theorem readUInt8_at (buf : Buffer) (position : Nat) (result : UInt8) (small : position < 2 ^ 32) :
    readUInt8 (at_ buf position) result = .done
      (if position + 1 ≤ buf.bytes.length then
        (true, UInt8.ofNat (networkValue (buf.field position 1)), at_ buf (position + 1))
      else (false, result, at_ buf position)) := by
  have read := readWord_at UInt8.ofNat buf position result 1 (by rw [UInt64.toNat_one]; omega)
  rw [UInt64.toNat_one] at read
  rw [readUInt8, read]
  split
  · rename_i fits
    have order : networkValue (buf.field position 1) = hostValue (buf.field position 1) := by
      obtain ⟨byte, single⟩ := List.length_eq_one_iff.mp (Buffer.field_length fits)
      rw [single]
      rfl
    rw [order]
  · rfl

theorem readUInt16_at (buf : Buffer) (position : Nat) (result : UInt16)
    (small : position < 2 ^ 32) :
    readUInt16 (at_ buf position) result = .done
      (if position + 2 ≤ buf.bytes.length then
        (true, UInt16.ofNat (networkValue (buf.field position 2)), at_ buf (position + 2))
      else (false, result, at_ buf position)) := by
  have two : (2 : UInt64).toNat = 2 := rfl
  have read := readWord_at (fun value => ntohs (UInt16.ofNat value)) buf position result 2
    (by rw [two]; omega)
  rw [two] at read
  rw [readUInt16, read]
  split
  · rename_i fits
    rw [ntohs_hostValue (Buffer.field_length fits)]
  · rfl

theorem readUInt32_at (buf : Buffer) (position : Nat) (result : UInt32)
    (small : position < 2 ^ 32) :
    readUInt32 (at_ buf position) result = .done
      (if position + 4 ≤ buf.bytes.length then
        (true, UInt32.ofNat (networkValue (buf.field position 4)), at_ buf (position + 4))
      else (false, result, at_ buf position)) := by
  have four : (4 : UInt64).toNat = 4 := rfl
  have read := readWord_at (fun value => ntohl (UInt32.ofNat value)) buf position result 4
    (by rw [four]; omega)
  rw [four] at read
  rw [readUInt32, read]
  split
  · rename_i fits
    rw [ntohl_hostValue (Buffer.field_length fits)]
  · rfl

theorem skip_at (buf : Buffer) (position : Nat) (count : UInt64)
    (fits : position + count.toNat ≤ buf.bytes.length) :
    (at_ buf position).skip count = (true, at_ buf (position + count.toNat)) := by
  have fitsWord := buf.fits
  have within : ¬(at_ buf position).pos + count > (at_ buf position).capacity := by
    rw [at_, over_iff buf position count (by omega)]
    omega
  rw [skip, if_neg within]
  simp only [at_, advance_eq]

end DataReader

/-! A writer whose memory begins with the bytes written so far. -/

namespace DataWriter

def filled (memory front : List UInt8) (copies : List (UInt64 × UInt64)) : DataWriter :=
  ⟨front ++ memory.drop front.length, UInt64.ofNat memory.length, UInt64.ofNat front.length, copies⟩

theorem create_eq (memory : List UInt8) :
    create memory (UInt64.ofNat memory.length) = filled memory [] [] := rfl

theorem filled_packet {memory front : List UInt8} (copies : List (UInt64 × UInt64))
    (small : front.length < 2 ^ 64) : (filled memory front copies).packet.bytes = front := by
  have length : (UInt64.ofNat front.length).toNat = front.length :=
    UInt64.toNat_ofNat_of_lt' small
  change (front ++ memory.drop front.length).take (UInt64.ofNat front.length).toNat = front
  rw [length, List.take_left]

theorem filled_length {memory front : List UInt8} (copies : List (UInt64 × UInt64))
    (small : front.length < 2 ^ 64) : (filled memory front copies).length.toNat = front.length :=
  UInt64.toNat_ofNat_of_lt' small

theorem filled_bytesWritten {memory front : List UInt8} (copies : List (UInt64 × UInt64))
    (small : front.length < 2 ^ 64) :
    (filled memory front copies).bytesWritten.toNat = front.length :=
  filled_length copies small

theorem filled_written {memory front : List UInt8} (copies : List (UInt64 × UInt64))
    (small : front.length < 2 ^ 64) :
    copyOut (filled memory front copies).buffer 0 (filled memory front copies).length.toNat =
      .done front := by
  have fits : 0 + front.length ≤ (front ++ memory.drop front.length).length := by
    rw [List.length_append]
    omega
  rw [filled_length copies small]
  change copyOut (front ++ memory.drop front.length) 0 front.length = _
  rw [copyOut_done fits, List.drop_zero, List.take_left]

section Filled

variable {memory front data : List UInt8} {copies : List (UInt64 × UInt64)} {length : UInt64}

theorem filled_over_iff (small : memory.length < 2 ^ 32) (frontLe : front.length ≤ memory.length) :
    (filled memory front copies).length + length > (filled memory front copies).capacity ↔
      memory.length < (front.length + length.toNat) % 2 ^ 64 := by
  have capacity : (filled memory front copies).capacity.toNat = memory.length :=
    UInt64.toNat_ofNat_of_lt' (by
      simp only [UInt64.size]
      omega)
  rw [gt_iff_lt, UInt64.lt_iff_toNat_lt, UInt64.toNat_add, filled_length copies (by omega), capacity]

theorem filled_buffer_length (frontLe : front.length ≤ memory.length) :
    (filled memory front copies).buffer.length = memory.length := by
  simp only [filled, List.length_append, List.length_drop]
  omega

theorem writeBytes_under (small : memory.length < 2 ^ 32) (frontLe : front.length ≤ memory.length)
    (under : (front.length + length.toNat) % 2 ^ 64 ≤ memory.length) :
    (filled memory front copies).writeBytes data length =
      (copyIn (filled memory front copies).buffer front.length data length.toNat >>= fun buffer =>
        pure (true, ⟨buffer, UInt64.ofNat memory.length, UInt64.ofNat front.length + length,
          copies ++ [(UInt64.ofNat front.length, length)]⟩)) := by
  have within : ¬(filled memory front copies).length + length >
      (filled memory front copies).capacity := by
    rw [filled_over_iff small frontLe]
    omega
  rw [writeBytes, if_neg within, filled_length copies (by omega)]
  rfl

theorem writeBytes_filled (small : memory.length < 2 ^ 32)
    (fits : front.length + length.toNat ≤ memory.length) (enough : length.toNat ≤ data.length) :
    (filled memory front copies).writeBytes data length = .done (true,
      filled memory (front ++ data.take length.toNat)
        (copies ++ [(UInt64.ofNat front.length, length)])) := by
  have room : front.length + length.toNat ≤ (filled memory front copies).buffer.length := by
    rw [filled_buffer_length (by omega)]
    exact fits
  have taken : (data.take length.toNat).length = length.toNat := by
    rw [List.length_take]
    omega
  have advanced : UInt64.ofNat front.length + length =
      UInt64.ofNat (front ++ data.take length.toNat).length := by
    rw [List.length_append, taken]
    simp
  have spliced : splice (front ++ memory.drop front.length) front.length (data.take length.toNat) =
      (front ++ data.take length.toNat) ++
        memory.drop (front ++ data.take length.toNat).length := by
    rw [splice, List.take_left, taken, List.drop_length_add_append, List.drop_drop,
      List.length_append, taken]
  rw [writeBytes_under small (by omega) (by omega), copyIn_done room enough]
  simp only [Outcome.done_bind, Outcome.pure_eq, filled, advanced, spliced]

theorem writeBytes_refused (small : memory.length < 2 ^ 32) (frontLe : front.length ≤ memory.length)
    (exceeds : memory.length < front.length + length.toNat)
    (unwrapped : front.length + length.toNat < 2 ^ 64) :
    (filled memory front copies).writeBytes data length =
      .done (false, filled memory front copies) := by
  have beyond : (filled memory front copies).length + length >
      (filled memory front copies).capacity := by
    rw [filled_over_iff small frontLe]
    omega
  rw [writeBytes, if_pos beyond]

theorem writeUInt8_filled (value : UInt8) (small : memory.length < 2 ^ 32)
    (fits : front.length + 1 ≤ memory.length) :
    (filled memory front copies).writeUInt8 value = .done (true,
      filled memory (front ++ [value]) (copies ++ [(UInt64.ofNat front.length, 1)])) := by
  have byte : hostBytes 1 value.toNat = [value] := by simp [hostBytes]
  rw [writeUInt8, byte]
  exact writeBytes_filled small fits (Nat.le_refl 1)

theorem writeUInt16_filled (value : UInt16) (small : memory.length < 2 ^ 32)
    (fits : front.length + 2 ≤ memory.length) :
    (filled memory front copies).writeUInt16 value = .done (true,
      filled memory (front ++ networkBytes 2 value.toNat)
        (copies ++ [(UInt64.ofNat front.length, 2)])) := by
  rw [writeUInt16, htons_bytes]
  exact writeBytes_filled small fits (Nat.le_refl 2)

theorem writeUInt32_filled (value : UInt32) (small : memory.length < 2 ^ 32)
    (fits : front.length + 4 ≤ memory.length) :
    (filled memory front copies).writeUInt32 value = .done (true,
      filled memory (front ++ networkBytes 4 value.toNat)
        (copies ++ [(UInt64.ofNat front.length, 4)])) := by
  rw [writeUInt32, htonl_bytes]
  exact writeBytes_filled small fits (Nat.le_refl 4)

theorem writeBytes_short (small : memory.length < 2 ^ 32)
    (fits : front.length + length.toNat ≤ memory.length) (short : data.length < length.toNat) :
    (filled memory front copies).writeBytes data length = .outOfBounds := by
  rw [writeBytes_under small (by omega) (by omega), copyIn, if_neg (by omega)]
  rfl

/-- The bound check adds modulo 2^64, and lets a length through that wraps it. -/
theorem writeBytes_wraps (small : memory.length < 2 ^ 32) (frontLe : front.length ≤ memory.length)
    (wrapped : 2 ^ 64 ≤ front.length + length.toNat)
    (under : front.length + length.toNat ≤ 2 ^ 64 + memory.length) :
    (filled memory front copies).writeBytes data length = .outOfBounds := by
  have outside : (filled memory front copies).buffer.length < front.length + length.toNat := by
    rw [filled_buffer_length frontLe]
    omega
  rw [writeBytes_under small frontLe (by omega), copyIn_outOfBounds outside]
  rfl

end Filled

end DataWriter

end LabNetstack
