import LabNetstack.WriterRuns

/-! Typed items written one after another with a `DataWriter`, and read back with a `DataReader`
over the bytes written. -/

namespace LabNetstack

theorem ntohll_hostValue {bytes : List UInt8} (length : bytes.length = 8) :
    ntohll (UInt64.ofNat (hostValue bytes)) = UInt64.ofNat (networkValue bytes) := by
  have bound := hostValue_lt bytes
  have stored := hostBytes_hostValue bytes
  rw [length] at bound stored
  have swapped := htonll_bytes (UInt64.ofNat (hostValue bytes))
  rw [UInt64.toNat_ofNat_of_lt' bound, networkBytes, stored] at swapped
  have small : (ntohll (UInt64.ofNat (hostValue bytes))).toNat < 256 ^ 8 := UInt64.toNat_lt _
  have value := hostValue_hostBytes 8 (ntohll (UInt64.ofNat (hostValue bytes))).toNat
  rw [Nat.mod_eq_of_lt small] at value
  rw [networkValue, ← swapped]
  exact (value ▸ UInt64.ofNat_toNat).symm

inductive WireItem where
  | uint8 (value : UInt8)
  | uint16 (value : UInt16)
  | uint32 (value : UInt32)
  | uint64 (value : UInt64)
  | bytes (data : List UInt8)
deriving DecidableEq, Repr

/-- What is asked for when an item is read. -/
inductive ItemKind where
  | uint8
  | uint16
  | uint32
  | uint64
  | bytes (length : UInt64)
deriving DecidableEq, Repr

namespace WireItem

def write (writer : DataWriter) : WireItem → Outcome (Bool × DataWriter)
  | uint8 value => writer.writeUInt8 value
  | uint16 value => writer.writeUInt16 value
  | uint32 value => writer.writeUInt32 value
  | uint64 value => writer.writeUInt64 value
  | bytes data => writer.writeBytes data (UInt64.ofNat data.length)

/-- The big-endian encoding. -/
def encoding : WireItem → List UInt8
  | uint8 value => networkBytes 1 value.toNat
  | uint16 value => networkBytes 2 value.toNat
  | uint32 value => networkBytes 4 value.toNat
  | uint64 value => networkBytes 8 value.toNat
  | bytes data => data

def kind : WireItem → ItemKind
  | uint8 _ => .uint8
  | uint16 _ => .uint16
  | uint32 _ => .uint32
  | uint64 _ => .uint64
  | bytes data => .bytes (UInt64.ofNat data.length)

def writeAll (writer : DataWriter) : List WireItem → Outcome (List Bool × DataWriter)
  | [] => pure ([], writer)
  | item :: items => do
      let (succeeded, writer) ← item.write writer
      let (results, writer) ← writeAll writer items
      pure (succeeded :: results, writer)

def encodings (items : List WireItem) : List UInt8 := items.flatMap encoding

end WireItem

namespace ItemKind

def width : ItemKind → UInt64
  | uint8 => 1
  | uint16 => 2
  | uint32 => 4
  | uint64 => 8
  | bytes length => length

-- the variable for the value is 0 before the call
def read (reader : DataReader) : ItemKind → Outcome (Option WireItem × DataReader)
  | uint8 => do
      let (succeeded, value, reader) ← reader.readUInt8 0
      pure (if succeeded then some (.uint8 value) else none, reader)
  | uint16 => do
      let (succeeded, value, reader) ← reader.readUInt16 0
      pure (if succeeded then some (.uint16 value) else none, reader)
  | uint32 => do
      let (succeeded, value, reader) ← reader.readUInt32 0
      pure (if succeeded then some (.uint32 value) else none, reader)
  | uint64 => do
      let (succeeded, value, reader) ← reader.readUInt64 0
      pure (if succeeded then some (.uint64 value) else none, reader)
  | bytes length => do
      let (data, reader) ← reader.readBytes length
      pure (data.map .bytes, reader)

def readAll (reader : DataReader) : List ItemKind → Outcome (List (Option WireItem) × DataReader)
  | [] => pure ([], reader)
  | kind :: kinds => do
      let (item, reader) ← kind.read reader
      let (items, reader) ← readAll reader kinds
      pure (item :: items, reader)

end ItemKind

/-! Writing. -/

theorem DataWriter.Holds.packet_bytes {writer : DataWriter} {capacity written : Nat}
    (holds : writer.Holds capacity written) : writer.packet.bytes = writer.buffer.take written := by
  change writer.buffer.take writer.length.toNat = _
  rw [holds.length]

namespace WireItem

theorem write_call (writer : DataWriter) (item : WireItem) (fits : item.encoding.length < 2 ^ 64) :
    item.write writer = (WriterCall.bytes ⟨item.encoding, fits⟩).perform writer := by
  cases item with
  | uint8 value => rfl
  | uint16 value =>
      rw [write, DataWriter.writeUInt16, htons_bytes]
      rfl
  | uint32 value =>
      rw [write, DataWriter.writeUInt32, htonl_bytes]
      rfl
  | uint64 value =>
      rw [write, DataWriter.writeUInt64, htonll_bytes]
      rfl
  | bytes data => rfl

theorem writeAll_cons {writer next after : DataWriter} {item : WireItem} {items : List WireItem}
    {succeeded : Bool} {results : List Bool} (first : item.write writer = .done (succeeded, next))
    (rest : writeAll next items = .done (results, after)) :
    writeAll writer (item :: items) = .done (succeeded :: results, after) := by
  simp only [writeAll, first, rest, Outcome.done_bind, Outcome.pure_eq]

theorem writeAll_appends {writer : DataWriter} {capacity : Nat} {front : List UInt8}
    (holds : writer.Holds capacity front.length) (contents : writer.buffer.take front.length = front)
    {items : List WireItem} (fits : front.length + (encodings items).length ≤ capacity) :
    ∃ after, writeAll writer items = .done (List.replicate items.length true, after) ∧
      after.packet.bytes = front ++ encodings items := by
  induction items generalizing writer front with
  | nil =>
      refine ⟨writer, rfl, ?_⟩
      rw [holds.packet_bytes, contents, encodings, List.flatMap_nil, List.append_nil]
  | cons item items ih =>
      have bound := writer.capacity.toNat_lt
      have limit := holds.limit
      rw [encodings, List.flatMap_cons, List.length_append] at fits
      change _ + (_ + (encodings items).length) ≤ _ at fits
      have small : item.encoding.length < 2 ^ 64 := by omega
      have room : front.length + (WriterCall.bytes ⟨item.encoding, small⟩).size ≤ capacity := by
        change front.length + item.encoding.length ≤ capacity
        omega
      obtain ⟨next, performed, accepted⟩ := WriterCall.perform_accepted holds room
      have nextHolds := accepted.holds holds room
      have appended := (accepted.appends holds room (Or.inl holds.length)).2.1
      rw [contents] at appended
      have grown : front.length + (WriterCall.bytes ⟨item.encoding, small⟩).size =
          (front ++ item.encoding).length := by
        rw [List.length_append]
        rfl
      rw [grown] at nextHolds appended
      obtain ⟨after, rest, packet⟩ := ih nextHolds appended (by
        rw [List.length_append]
        omega)
      rw [← write_call writer item small] at performed
      refine ⟨after, writeAll_cons performed rest, ?_⟩
      rw [packet, List.append_assoc]
      rfl

end WireItem

/-! Reading. -/

namespace DataReader

/-- At the end of a packet only a count that wraps the position is not refused. -/
theorem readBytes_wraps (buf : Buffer) {count : UInt64}
    (wraps : 2 ^ 64 ≤ buf.bytes.length + count.toNat) :
    (at_ buf buf.bytes.length).readBytes count = .outOfBounds := by
  have fits := buf.fits
  have bound := count.toNat_lt
  have start : (at_ buf buf.bytes.length).pos.toNat = buf.bytes.length :=
    UInt64.toNat_ofNat_of_lt' fits
  have limit : (at_ buf buf.bytes.length).capacity.toNat = buf.bytes.length := buf.length_toNat
  have under : ¬(at_ buf buf.bytes.length).pos + count > (at_ buf buf.bytes.length).capacity := by
    rw [gt_iff_lt, UInt64.lt_iff_toNat_lt, UInt64.toNat_add, start, limit]
    omega
  have outside : copyOut (at_ buf buf.bytes.length).buffer buf.bytes.length count.toNat =
      .outOfBounds := if_neg (by
    change ¬buf.bytes.length + count.toNat ≤ buf.bytes.length
    omega)
  rw [readBytes, if_neg under, start, outside]
  rfl

end DataReader

namespace ItemKind

/-- What the bytes copied by a read are taken for. -/
def decode (data : List UInt8) : ItemKind → WireItem
  | uint8 => .uint8 (UInt8.ofNat (hostValue data))
  | uint16 => .uint16 (ntohs (UInt16.ofNat (hostValue data)))
  | uint32 => .uint32 (ntohl (UInt32.ofNat (hostValue data)))
  | uint64 => .uint64 (ntohll (UInt64.ofNat (hostValue data)))
  | bytes _ => .bytes data

theorem readWord_item {α : Type} (count : UInt64) (convert : Nat → α) (item : α → WireItem)
    (reader : DataReader) (result : α) :
    (DataReader.readWord count convert reader result >>= fun (succeeded, value, reader) =>
      pure (if succeeded then some (item value) else none, reader)) =
    (reader.readBytes count).bind fun copied =>
      .done (copied.1.map fun data => item (convert (hostValue data)), copied.2) := by
  rw [DataReader.readWord]
  cases reader.readBytes count with
  | done copied =>
      obtain ⟨_ | data, after⟩ := copied
      · rfl
      · rfl
  | aborted => rfl
  | outOfBounds => rfl

/-- Every read is a `readBytes` with the bytes decoded. -/
theorem read_eq (kind : ItemKind) (reader : DataReader) :
    kind.read reader =
      (reader.readBytes kind.width).bind fun copied => .done (copied.1.map kind.decode, copied.2) := by
  cases kind with
  | uint8 => exact readWord_item 1 UInt8.ofNat .uint8 reader 0
  | uint16 => exact readWord_item 2 (fun value => ntohs (UInt16.ofNat value)) .uint16 reader 0
  | uint32 => exact readWord_item 4 (fun value => ntohl (UInt32.ofNat value)) .uint32 reader 0
  | uint64 => exact readWord_item 8 (fun value => ntohll (UInt64.ofNat value)) .uint64 reader 0
  | bytes length => rfl

theorem read_at {kind : ItemKind} {buf : Buffer} {position : Nat} {data rest : List UInt8}
    (length : data.length = kind.width.toNat) (here : buf.bytes.drop position = data ++ rest)
    (within : position ≤ buf.bytes.length) :
    kind.read (.at_ buf position) = .done (some (kind.decode data), .at_ buf (position + data.length)) := by
  have fits := buf.fits
  have total := congrArg List.length here
  rw [List.length_drop, List.length_append] at total
  have field : buf.field position kind.width.toNat = data := by
    rw [Buffer.field, here, ← length, List.take_left]
  rw [read_eq, DataReader.readBytes_at buf position kind.width (by omega), if_pos (by omega), field,
    ← length]
  rfl

theorem decode_encoding (item : WireItem) : item.kind.decode item.encoding = item := by
  cases item with
  | uint8 value =>
      have single : networkBytes 1 value.toNat = [value] := by
        change [UInt8.ofNat value.toNat] = [value]
        rw [UInt8.ofNat_toNat]
      rw [WireItem.kind, decode, WireItem.encoding, single]
      exact congrArg WireItem.uint8 (ofNat_networkValue8 value)
  | uint16 value =>
      rw [WireItem.kind, decode, WireItem.encoding, ntohs_hostValue (networkBytes_length 2 _),
        ofNat_networkValue16]
  | uint32 value =>
      rw [WireItem.kind, decode, WireItem.encoding, ntohl_hostValue (networkBytes_length 4 _),
        ofNat_networkValue32]
  | uint64 value =>
      rw [WireItem.kind, decode, WireItem.encoding, ntohll_hostValue (networkBytes_length 8 _),
        ofNat_networkValue64]
  | bytes data => rfl

theorem encoding_length {item : WireItem} (small : item.encoding.length < 2 ^ 64) :
    item.encoding.length = item.kind.width.toNat := by
  cases item with
  | bytes data => exact (UInt64.toNat_ofNat_of_lt' small).symm
  | _ => exact networkBytes_length _ _

theorem readAll_cons {reader next after : DataReader} {kind : ItemKind} {kinds : List ItemKind}
    {item : Option WireItem} {items : List (Option WireItem)}
    (first : kind.read reader = .done (item, next))
    (rest : readAll next kinds = .done (items, after)) :
    readAll reader (kind :: kinds) = .done (item :: items, after) := by
  simp only [readAll, first, rest, Outcome.done_bind, Outcome.pure_eq]

theorem readAll_returns {buf : Buffer} {position : Nat} {items : List WireItem}
    (here : buf.bytes.drop position = WireItem.encodings items) (within : position ≤ buf.bytes.length) :
    readAll (.at_ buf position) (items.map WireItem.kind) =
      .done (items.map some, .at_ buf buf.bytes.length) := by
  induction items generalizing position with
  | nil =>
      have consumed := congrArg List.length here
      rw [List.length_drop] at consumed
      change _ = 0 at consumed
      have last : position = buf.bytes.length := by omega
      rw [last]
      rfl
  | cons item items ih =>
      rw [WireItem.encodings, List.flatMap_cons] at here
      have lengths := congrArg List.length here
      rw [List.length_drop, List.length_append] at lengths
      have fits := buf.fits
      have read := read_at (encoding_length (by omega)) here within
      rw [decode_encoding] at read
      refine readAll_cons read (ih ?_ (by omega))
      rw [← List.drop_drop, here]
      exact List.drop_left

theorem read_exhausted (kind : ItemKind) (buf : Buffer) (nonempty : kind.width ≠ 0) :
    kind.read (.at_ buf buf.bytes.length) = .done (none, .at_ buf buf.bytes.length) ↔
      buf.bytes.length + kind.width.toNat < 2 ^ 64 := by
  have positive : kind.width.toNat ≠ 0 := fun zero => nonempty (UInt64.toNat_inj.mp zero)
  rw [read_eq]
  constructor
  · intro refused
    by_contra wraps
    rw [DataReader.readBytes_wraps buf (by omega)] at refused
    cases refused
  · intro unwrapped
    rw [DataReader.readBytes_at buf _ _ unwrapped, if_neg (by omega)]
    rfl

end ItemKind

open WireItem ItemKind

/-- Items that fit come back as they were written. What is read after them is refused as long as the
position does not wrap. -/
theorem items_roundTrip_iff {memory : List UInt8} (bound : memory.length < 2 ^ 64)
    {items : List WireItem} (fits : (encodings items).length ≤ memory.length) :
    ∃ writer reader,
      writeAll (DataWriter.create memory (UInt64.ofNat memory.length)) items =
        .done (List.replicate items.length true, writer) ∧
      writer.packet.bytes = encodings items ∧
      readAll (DataReader.create writer.packet) (items.map kind) =
        .done (items.map some, reader) ∧
      reader.length = 0 ∧
      ∀ further : ItemKind, further.width ≠ 0 →
        (further.read reader = .done (none, reader) ↔
          (encodings items).length + further.width.toNat < 2 ^ 64) := by
  have holds : (DataWriter.create memory (UInt64.ofNat memory.length)).Holds memory.length 0 :=
    WriterLog.start_holds bound
  obtain ⟨writer, written, packet⟩ := @writeAll_appends _ _ [] holds rfl items (by
    change 0 + _ ≤ _
    omega)
  rw [List.nil_append] at packet
  refine ⟨writer, _, written, packet, readAll_returns packet (Nat.zero_le _), ?_, ?_⟩
  · exact UInt64.sub_self _
  · intro further nonempty
    rw [← packet]
    exact read_exhausted further writer.packet nonempty

def sampleItems : List WireItem :=
  [.uint8 0x45, .bytes [7, 8, 9], .uint16 0x0800, .bytes [], .uint32 0xc0a80001, .uint64 0x0102030405060708]

theorem sampleItems_roundTrip : ∃ writer reader,
    writeAll (DataWriter.create (List.replicate 20 7) 20) sampleItems =
      .done (List.replicate 6 true, writer) ∧
    writer.packet.bytes = [0x45, 7, 8, 9, 0x08, 0, 0xc0, 0xa8, 0, 1, 1, 2, 3, 4, 5, 6, 7, 8] ∧
    readAll (DataReader.create writer.packet) (sampleItems.map kind) =
      .done (sampleItems.map some, reader) ∧
    reader.length = 0 ∧ ItemKind.uint8.read reader = .done (none, reader) := by
  obtain ⟨writer, reader, written, packet, returned, empty, refuses⟩ :=
    @items_roundTrip_iff (List.replicate 20 7) (by decide) sampleItems (by decide)
  exact ⟨writer, reader, written, packet, returned, empty, (refuses .uint8 (by decide)).mpr (by decide)⟩

theorem longRead_outOfBounds : ∃ writer reader,
    writeAll (DataWriter.create [0, 0, 0, 0] 4) [.uint32 1] = .done ([true], writer) ∧
    readAll (DataReader.create writer.packet) [.uint32] = .done ([some (.uint32 1)], reader) ∧
    reader.length = 0 ∧ (ItemKind.bytes 0xffffffffffffffff).read reader = .outOfBounds :=
  ⟨⟨[0, 0, 0, 1], 4, 4, [(0, 4)]⟩, ⟨[0, 0, 0, 1], 4, 4⟩, rfl, rfl, rfl, rfl⟩

end LabNetstack
