import LabNetstack.ReceivedInput
import LabNetstack.RoutingTableCore

/-! Distance vectors: what a received one puts into the table, and the size of one that is sent. -/

namespace LabNetstack

namespace RoutingTable

def elementAt (buf : Buffer) (position : Nat) : IPAddress × UInt8 :=
  (.ofInAddr (InAddr.ofBytes (buf.field position 4)), buf.bytes.getD (position + 4) 0)

/-- What the bytes of a vector say. -/
def vectorCalls (buf : Buffer) (device count : Nat) : List AddEntryCall :=
  (List.range count).map fun index =>
    ⟨.ofInAddr (InAddr.ofBytes (buf.field (1 + 5 * index) 4)), .fullMask, device,
      buf.bytes.getD (5 + 5 * index) 0, false⟩

/-- The number of elements the loop of `updateTable` runs for. -/
def announced (locals : TableLocals) (buf : Buffer) : UInt8 := buf.bytes.headD locals.length

/-- A vector of the announced length is decoded, any other is ignored. -/
def DecodesExactly (locals : TableLocals) (buf : Buffer) (device : Nat) : Prop :=
  ∃ calls, addEntryCalls .release locals buf device = .done calls ∧
    (WellFormed buf.bytes → calls = vectorCalls buf device (announced locals buf).toNat) ∧
    (¬WellFormed buf.bytes → calls = [])

theorem field_one {buf : Buffer} {position : Nat} (inside : position < buf.bytes.length) :
    buf.field position 1 = [buf.bytes.getD position 0] := by
  rw [Buffer.field, List.drop_eq_getElem_cons inside, List.take_succ_cons, List.take_zero,
    List.getD_eq_getElem?_getD, List.getElem?_eq_getElem inside, Option.getD_some]

theorem readEntries_at (buf : Buffer) (count : Nat) (metric : UInt8) (position : Nat)
    (fits : position + 5 * count ≤ buf.bytes.length) (small : position + 5 * count < 2 ^ 32) :
    readEntries count metric (DataReader.at_ buf position) =
      .done ((List.range count).map fun index => elementAt buf (position + 5 * index)) := by
  induction count generalizing metric position with
  | zero => rfl
  | succ count ih =>
      have readDest := BuildAgreement.ofReader_at buf position (by omega)
      have readMetric := DataReader.readUInt8_at buf (position + 4) metric (by omega)
      rw [if_pos (by omega), field_one (by omega), ofNat_networkValue8] at readMetric
      have readRest := ih (buf.bytes.getD (position + 4) 0) (position + 5) (by omega) (by omega)
      simp only [readEntries, readDest, Outcome.done_bind, readMetric, readRest, Outcome.pure_eq]
      rw [List.range_succ_eq_map, List.map_cons, List.map_map]
      refine congrArg Outcome.done (congrArg₂ List.cons rfl (List.map_congr_left ?_))
      intro index _
      rw [Function.comp_apply, Nat.succ_eq_add_one, Nat.mul_add, Nat.mul_one, Nat.add_assoc,
        Nat.add_comm 5]

/-- Without the check the announced number is all that counts. -/
theorem updateTable_release (locals : TableLocals) (buf : Buffer) :
    updateTable .release locals buf = readEntries (announced locals buf).toNat locals.metric
      (DataReader.at_ buf (min 1 buf.bytes.length)) := by
  rw [updateTable, DataReader.create_eq]
  simp only [DataReader.readUInt8_at _ _ _ (by omega : 0 < 2 ^ 32), Outcome.done_bind, dcheck]
  cases shape : buf.bytes with
  | nil => simp [announced, shape]
  | cons count rest =>
      have first : buf.field 0 1 = [count] := by
        rw [Buffer.field, shape]
        rfl
      simp [announced, shape, first, ofNat_networkValue8]

theorem addEntryCalls_done (locals : TableLocals) (buf : Buffer) (device : Nat) :
    ∃ calls, addEntryCalls .release locals buf device = .done calls ∧
      calls.length = (announced locals buf).toNat := by
  have bound := (announced locals buf).toNat_lt
  obtain ⟨entries, done, length⟩ := readEntries_done buf (announced locals buf).toNat locals.metric
    (min 1 buf.bytes.length) (by omega)
  refine ⟨_, by rw [addEntryCalls, updateTable_release, done]; rfl, ?_⟩
  rw [List.length_map, length]

theorem addEntryCalls_wellFormed (locals : TableLocals) {buf : Buffer} (device : Nat)
    (wellFormed : WellFormed buf.bytes) : addEntryCalls .release locals buf device =
      .done (vectorCalls buf device (announced locals buf).toNat) := by
  obtain ⟨count, rest, shape, length⟩ := wellFormed
  have bound := count.toNat_lt
  have total : buf.bytes.length = rest.length + 1 := by rw [shape, List.length_cons]
  have first : announced locals buf = count := by rw [announced, shape, List.headD_cons]
  have start : min 1 buf.bytes.length = 1 := by omega
  rw [addEntryCalls, updateTable_release, first, start,
    readEntries_at _ _ _ _ (by omega) (by omega), Outcome.done_bind, List.map_map]
  refine congrArg Outcome.done (List.map_congr_left ?_)
  intro index _
  rw [Function.comp_apply, elementAt, Nat.add_right_comm]

theorem updateTable_exact_iff (locals : TableLocals) (buf : Buffer) (device : Nat) :
    DecodesExactly locals buf device ↔ WellFormed buf.bytes ∨ announced locals buf = 0 := by
  obtain ⟨calls, made, length⟩ := addEntryCalls_done locals buf device
  constructor
  · rintro ⟨same, decoded, _, ignored⟩
    cases made.symm.trans decoded
    by_cases wellFormed : WellFormed buf.bytes
    · exact Or.inl wellFormed
    · rw [ignored wellFormed] at length
      exact Or.inr (UInt8.toNat_inj.mp length.symm)
  · intro harmless
    refine ⟨calls, made, ?_, ?_⟩
    · intro wellFormed
      rw [addEntryCalls_wellFormed locals device wellFormed] at made
      cases made
      rfl
    · intro malformed
      have none := harmless.resolve_left malformed
      rw [none] at length
      exact List.eq_nil_of_length_eq_zero length

-- one element is announced and none follows
theorem cutVector_injects :
    addEntryCalls .release ⟨0, 7⟩ ⟨[1], by decide⟩ 3 =
        .done [⟨.ofInAddr ⟨0, 0, 0, 0⟩, .fullMask, 3, 7, false⟩] ∧
      ¬DecodesExactly ⟨0, 7⟩ ⟨[1], by decide⟩ 3 := by
  refine ⟨rfl, ?_⟩
  rintro ⟨calls, made, _, ignored⟩
  cases made
  have malformed : ¬WellFormed [1] := by
    rintro ⟨count, rest, same, length⟩
    cases same
    exact absurd length (by decide)
  exact absurd (ignored malformed) nofun

/-- The vector of a table has the length and the room of its elements. -/
def Sized (vector : DistVec) (entries : List Entry) : Prop :=
  1 + 5 * entries.length ≤ vector.buf.length ∧ vector.len.toNat = 1 + 5 * entries.length

theorem createDistVec_len (memory : Nat → UInt8) (entries : List Entry) (device : Nat) :
    (createDistVec memory entries device).len.toNat = (1 + 5 * (entries.length % 256)) % 256 ∧
      (createDistVec memory entries device).buf.length =
        (createDistVec memory entries device).len.toNat := by
  refine ⟨?_, by rw [createDistVec, DistVec.create, List.length_map, List.length_range]⟩
  rw [createDistVec, DistVec.create, UInt64.toNat_toUInt8, UInt64.toNat_add, UInt64.toNat_mul,
    UInt8.toNat_toUInt64, UInt64.toNat_toUInt8, UInt64.toNat_ofNat']
  change (1 + entries.length % 2 ^ 64 % 2 ^ 8 * 5 % 2 ^ 64) % 2 ^ 64 % 2 ^ 8 = _
  omega

/-- A table of more than fifty entries gets a vector of another size; none is refused. -/
theorem createDistVec_sized_iff (memory : Nat → UInt8) (entries : List Entry) (device : Nat) :
    (Sized (createDistVec memory entries device) entries ↔ entries.length ≤ 50) ∧
    (entries.length ≤ 50 → ∀ rest : List UInt8,
      rest.length + 1 = (createDistVec memory entries device).len.toNat →
      WellFormed (UInt8.ofNat entries.length :: rest)) := by
  obtain ⟨len, room⟩ := createDistVec_len memory entries device
  refine ⟨?_, ?_⟩
  · rw [Sized, room, len]
    omega
  · intro small rest filled
    refine ⟨_, rest, rfl, ?_⟩
    rw [len] at filled
    rw [UInt8.toNat_ofNat']
    omega

def manyEntries (count : Nat) : List Entry :=
  List.replicate count ⟨0, .ofInAddr ⟨10, 0, 0, 1⟩, .fullMask, 3, 1, none⟩

-- 256 bytes are asked for, and the length of the vector wraps to none
theorem fiftyOneEntries_unsized :
    createDistVec (fun _ => 0) (manyEntries 51) 3 = ⟨0, []⟩ ∧
      ¬Sized (createDistVec (fun _ => 0) (manyEntries 51) 3) (manyEntries 51) := by
  refine ⟨rfl, ?_⟩
  rintro ⟨room, _⟩
  exact absurd room (by decide)

end RoutingTable

end LabNetstack
