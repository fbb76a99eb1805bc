import LabNetstack.Executions
import LabNetstack.Wire

/-! Sequences of calls of a `DataWriter`: which of them only append. -/

namespace LabNetstack

theorem htonll_bytes (value : UInt64) :
    hostBytes 8 (htonll value).toNat = networkBytes 8 value.toNat := by
  have bound := value.toNat_lt
  have low : (value &&& 0xffffffff).toUInt32.toNat = value.toNat % 256 ^ 4 := by
    have mask : value.toNat &&& (0xffffffff : UInt64).toNat = value.toNat % 2 ^ 32 :=
      Nat.and_two_pow_sub_one_eq_mod value.toNat 32
    rw [UInt64.toNat_toUInt32, UInt64.toNat_and, mask, Nat.mod_mod]
    rfl
  have high : (value >>> 32).toUInt32.toNat = value.toNat / 256 ^ 4 := by
    rw [UInt64.toNat_toUInt32, UInt64.toNat_shiftRight, Nat.shiftRight_eq_div_pow]
    change value.toNat / 2 ^ 32 % 2 ^ 32 = _
    omega
  have joined : (htonll value).toNat = (htonl (value >>> 32).toUInt32).toNat +
      256 ^ 4 * (htonl (value &&& 0xffffffff).toUInt32).toNat := by
    have lowBound := (htonl (value &&& 0xffffffff).toUInt32).toNat_lt
    have highBound := (htonl (value >>> 32).toUInt32).toNat_lt
    have shifted : ((htonl (value &&& 0xffffffff).toUInt32).toUInt64 <<< 32).toNat =
        (htonl (value &&& 0xffffffff).toUInt32).toNat <<< 32 := by
      rw [UInt64.toNat_shiftLeft, UInt32.toNat_toUInt64, Nat.shiftLeft_eq, Nat.shiftLeft_eq]
      change _ * 2 ^ 32 % 2 ^ 64 = _
      omega
    rw [htonll, UInt64.toNat_or, shifted, UInt32.toNat_toUInt64,
      ← Nat.shiftLeft_add_eq_or_of_lt highBound, Nat.shiftLeft_eq]
    omega
  have whole : value.toNat = value.toNat % 256 ^ 4 + 256 ^ 4 * (value.toNat / 256 ^ 4) :=
    (Nat.mod_add_div _ _).symm
  rw [joined, hostBytes_append 4 4 _ (UInt32.toNat_lt _), htonl_bytes, htonl_bytes, low, high]
  conv_rhs => rw [whole]
  exact (networkBytes_append 4 4 _ (Nat.mod_lt _ (by decide))).symm

-- `data` points to as many bytes as are to be written
inductive WriterCall where
  | uint8 (value : UInt8)
  | uint16 (value : UInt16)
  | uint32 (value : UInt32)
  | uint64 (value : UInt64)
  | bytes (data : Buffer)
  | random (length : UInt64)
deriving DecidableEq, Repr

namespace WriterCall

def perform (writer : DataWriter) : WriterCall → Outcome (Bool × DataWriter)
  | uint8 value => writer.writeUInt8 value
  | uint16 value => writer.writeUInt16 value
  | uint32 value => writer.writeUInt32 value
  | uint64 value => writer.writeUInt64 value
  | bytes data => writer.writeBytes data.bytes data.length
  | random length => writer.writeRandomBytes length

/-- What a call is to append. -/
def encoding : WriterCall → List UInt8
  | uint8 value => networkBytes 1 value.toNat
  | uint16 value => networkBytes 2 value.toNat
  | uint32 value => networkBytes 4 value.toNat
  | uint64 value => networkBytes 8 value.toNat
  | bytes data => data.bytes
  | random length => List.replicate length.toNat 0x23

def size (call : WriterCall) : Nat := call.encoding.length

def isRandom : WriterCall → Bool
  | random _ => true
  | _ => false

/-- Where a call that is accepted puts its bytes. -/
def start (call : WriterCall) (writer : DataWriter) : Nat :=
  if call.isRandom then 0 else writer.length.toNat

end WriterCall

/-- A writer with the number of bytes written, and a buffer of its capacity. -/
structure DataWriter.Holds (writer : DataWriter) (capacity written : Nat) : Prop where
  memory : writer.buffer.length = capacity
  limit : writer.capacity.toNat = capacity
  length : writer.length.toNat = written
  within : written ≤ capacity

namespace WriterCall

variable {writer after : DataWriter} {capacity written : Nat} {call : WriterCall}

theorem exceeds_iff (holds : writer.Holds capacity written) {length : UInt64}
    (unwrapped : written + length.toNat < 2 ^ 64) :
    writer.length + length > writer.capacity ↔ capacity < written + length.toNat := by
  rw [gt_iff_lt, UInt64.lt_iff_toNat_lt, UInt64.toNat_add, holds.limit, holds.length,
    Nat.mod_eq_of_lt unwrapped]

theorem perform_plain (writer : DataWriter) (plain : call.isRandom = false) :
    ∃ length : UInt64, length.toNat = call.size ∧
      call.perform writer = writer.writeBytes call.encoding length := by
  cases call with
  | uint8 value => exact ⟨1, rfl, rfl⟩
  | uint16 value => exact ⟨2, rfl, by rw [perform, DataWriter.writeUInt16, htons_bytes, encoding]⟩
  | uint32 value => exact ⟨4, rfl, by rw [perform, DataWriter.writeUInt32, htonl_bytes, encoding]⟩
  | uint64 value => exact ⟨8, rfl, by rw [perform, DataWriter.writeUInt64, htonll_bytes, encoding]⟩
  | bytes data => exact ⟨data.length, data.length_toNat, rfl⟩
  | random length => cases plain

theorem random_size (length : UInt64) : (random length).size = length.toNat := by
  rw [size, encoding, List.length_replicate]

theorem perform_refused (holds : writer.Holds capacity written)
    (unwrapped : written + call.size < 2 ^ 64) (exceeds : capacity < written + call.size) :
    call.perform writer = .done (false, writer) := by
  cases plain : call.isRandom with
  | false =>
      obtain ⟨length, same, performed⟩ := perform_plain writer plain
      rw [← same] at unwrapped exceeds
      rw [performed, DataWriter.writeBytes, if_pos ((exceeds_iff holds unwrapped).mpr exceeds)]
  | true =>
      cases call with
      | random length =>
          rw [random_size] at unwrapped exceeds
          rw [perform, DataWriter.writeRandomBytes,
            if_pos ((exceeds_iff holds unwrapped).mpr exceeds)]
      | _ => cases plain

/-- The bytes of an accepted call are put in one place. -/
structure Accepted (call : WriterCall) (writer after : DataWriter) : Prop where
  buffer : after.buffer = splice writer.buffer (call.start writer) call.encoding
  capacity : after.capacity = writer.capacity
  length : after.length.toNat = writer.length.toNat + call.size

theorem perform_accepted (holds : writer.Holds capacity written)
    (fits : written + call.size ≤ capacity) :
    ∃ after, call.perform writer = .done (true, after) ∧ call.Accepted writer after := by
  have bound := writer.capacity.toNat_lt
  have within := holds.limit
  have memory := holds.memory
  have at_ := holds.length
  have grown {length : UInt64} (same : length.toNat = call.size) :
      (writer.length + length).toNat = writer.length.toNat + call.size := by
    rw [UInt64.toNat_add, same]
    omega
  cases plain : call.isRandom with
  | false =>
      obtain ⟨length, same, performed⟩ := perform_plain writer plain
      have under := (not_congr (exceeds_iff holds (by omega))).mpr
        (by omega : ¬capacity < written + length.toNat)
      have start : call.start writer = writer.length.toNat := by
        rw [WriterCall.start, plain]
        rfl
      rw [performed, DataWriter.writeBytes, if_neg under, copyIn_done (by omega) same.le, same,
        size, List.take_length]
      exact ⟨_, rfl, by rw [start], rfl, grown same⟩
  | true =>
      cases call with
      | random length =>
          have same := random_size length
          have under := (not_congr (exceeds_iff holds (by omega))).mpr
            (by omega : ¬capacity < written + length.toNat)
          rw [perform, DataWriter.writeRandomBytes, if_neg under,
            copyIn_done (by omega) (by rw [List.length_replicate]),
            List.take_of_length_le (by rw [List.length_replicate])]
          exact ⟨_, rfl, rfl, rfl, grown same.symm⟩
      | _ => cases plain

theorem Accepted.holds (accepted : call.Accepted writer after)
    (holds : writer.Holds capacity written) (fits : written + call.size ≤ capacity) :
    after.Holds capacity (written + call.size) := by
  have at_ := holds.length
  have inside : call.start writer + call.encoding.length ≤ writer.buffer.length := by
    rw [holds.memory, start]
    change _ + call.size ≤ _
    split <;> omega
  refine ⟨?_, ?_, ?_, fits⟩
  · rw [accepted.buffer, splice_length inside, holds.memory]
  · rw [accepted.capacity, holds.limit]
  · rw [accepted.length, at_]

/-! What is in the buffer afterwards. -/

/-- A call that starts where the written bytes end appends. -/
theorem Accepted.appends (accepted : call.Accepted writer after)
    (holds : writer.Holds capacity written) (fits : written + call.size ≤ capacity)
    (here : call.start writer = written ∨ call.size = 0) :
    after.buffer.take written = writer.buffer.take written ∧
      after.buffer.take (written + call.size) = writer.buffer.take written ++ call.encoding ∧
      after.buffer.drop (written + call.size) = writer.buffer.drop (written + call.size) := by
  have room : (writer.buffer.take written).length = written := by
    rw [List.length_take, holds.memory]
    omega
  rcases here with start | empty
  · have both : (writer.buffer.take written ++ call.encoding).length = written + call.size := by
      rw [List.length_append, room, size]
    rw [accepted.buffer, start, splice]
    refine ⟨?_, List.take_left' both, List.drop_left' both⟩
    rw [List.append_assoc, List.take_left' room]
  · have nothing : call.encoding = [] := List.length_eq_zero_iff.mp empty
    rw [accepted.buffer, nothing, splice_nil, empty, Nat.add_zero, List.append_nil]
    exact ⟨rfl, rfl, rfl⟩

/-- Filler bytes leave the place after the written ones as it was. -/
theorem Accepted.misplaced {length : UInt64} (accepted : (random length).Accepted writer after)
    (holds : writer.Holds capacity written) (fits : written + (random length).size ≤ capacity)
    (later : written ≠ 0) (some_ : (random length).size ≠ 0)
    (blank : writer.buffer.drop written = List.replicate (capacity - written) 0) :
    after.buffer.take (written + (random length).size) ≠
      writer.buffer.take written ++ (random length).encoding := by
  rw [random_size] at fits some_ ⊢
  intro same
  have last := congrArg (fun bytes => bytes[written + length.toNat - 1]?) same
  have before : (writer.buffer.take written).length = written := by
    rw [List.length_take, holds.memory]
    omega
  have filler : (writer.buffer.take written ++
      (random length).encoding)[written + length.toNat - 1]? = some 0x23 := by
    rw [List.getElem?_append_right (by omega), before, encoding, List.getElem?_replicate,
      if_pos (by omega)]
  have old :
      (after.buffer.take (written + length.toNat))[written + length.toNat - 1]? = some 0 := by
    have start : (random length).start writer = 0 := rfl
    have width : (random length).encoding.length = length.toNat := random_size length
    have there : 0 + length.toNat + (written + length.toNat - 1 - length.toNat) =
        written + (length.toNat - 1) := by omega
    rw [List.getElem?_take_of_lt (by omega), accepted.buffer, start, splice, List.take_zero,
      List.nil_append, List.getElem?_append_right (by omega), width, List.getElem?_drop, there,
      ← List.getElem?_drop, blank, List.getElem?_replicate, if_pos (by omega)]
  rw [filler, old] at last
  exact absurd last (by decide)

end WriterCall

open WriterCall

/-- A writer, the one before the last call with the result of that call, and what the calls that
returned `true` were to append. -/
structure WriterLog where
  writer : DataWriter
  previous : DataWriter
  succeeded : Bool
  appended : List UInt8

namespace WriterLog

def start (memory : List UInt8) : WriterLog :=
  let writer := DataWriter.create memory (UInt64.ofNat memory.length)
  ⟨writer, writer, true, []⟩

def step (log : WriterLog) (call : WriterCall) : Outcome WriterLog := do
  let (succeeded, writer) ← call.perform log.writer
  pure ⟨writer, log.writer, succeeded,
    if succeeded then log.appended ++ call.encoding else log.appended⟩

structure AppendOnly (log : WriterLog) : Prop where
  kept : log.writer.buffer.take log.previous.length.toNat =
    log.previous.buffer.take log.previous.length.toNat
  failed : log.succeeded = false → log.writer = log.previous
  contents : log.writer.buffer.take log.writer.length.toNat = log.appended

def advance (capacity written : Nat) (call : WriterCall) : Nat :=
  if written + call.size ≤ capacity then written + call.size else written

def Unwrapped (capacity : Nat) : Nat → List WriterCall → Prop
  | _, [] => True
  | written, call :: calls =>
      written + call.size < 2 ^ 64 ∧ Unwrapped capacity (advance capacity written call) calls

/-- Filler bytes are only accepted by a writer that is still empty. -/
def FillsFirst (capacity : Nat) : Nat → List WriterCall → Prop
  | _, [] => True
  | written, call :: calls =>
      (call.isRandom = true → written + call.size ≤ capacity → written = 0 ∨ call.size = 0) ∧
        FillsFirst capacity (advance capacity written call) calls

instance decidableUnwrapped (capacity : Nat) :
    ∀ written calls, Decidable (Unwrapped capacity written calls)
  | _, [] => isTrue trivial
  | written, call :: calls =>
      have := decidableUnwrapped capacity (advance capacity written call) calls
      inferInstanceAs (Decidable (_ ∧ _))

instance decidableFillsFirst (capacity : Nat) :
    ∀ written calls, Decidable (FillsFirst capacity written calls)
  | _, [] => isTrue trivial
  | written, call :: calls =>
      have := decidableFillsFirst capacity (advance capacity written call) calls
      inferInstanceAs (Decidable (_ ∧ _))

variable {log next : WriterLog} {capacity written : Nat} {call : WriterCall}
  {calls : List WriterCall}

theorem step_cases (holds : log.writer.Holds capacity written)
    (unwrapped : written + call.size < 2 ^ 64) :
    (capacity < written + call.size ∧ log.step call =
        .done ⟨log.writer, log.writer, false, log.appended⟩) ∨
      ∃ after, written + call.size ≤ capacity ∧ call.Accepted log.writer after ∧
        log.step call =
          .done ⟨after, log.writer, true, log.appended ++ call.encoding⟩ := by
  by_cases fits : written + call.size ≤ capacity
  · obtain ⟨after, performed, accepted⟩ := perform_accepted holds fits
    refine Or.inr ⟨after, fits, accepted, ?_⟩
    rw [step, performed]
    rfl
  · refine Or.inl ⟨Nat.lt_of_not_le fits, ?_⟩
    rw [step, perform_refused holds unwrapped (Nat.lt_of_not_le fits)]
    rfl

theorem execute_completes (holds : log.writer.Holds capacity written)
    (unwrapped : Unwrapped capacity written calls) :
    ∃ final, execute step log calls = .done final := by
  refine execute_done (motive := fun log calls => ∃ written,
    log.writer.Holds capacity written ∧ Unwrapped capacity written calls) ?_
      ⟨written, holds, unwrapped⟩
  rintro log call calls ⟨written, holds, first, rest⟩
  rcases step_cases holds first with ⟨exceeds, taken⟩ | ⟨after, fits, accepted, taken⟩
  · rw [advance, if_neg (Nat.not_le.mpr exceeds)] at rest
    exact ⟨_, taken, written, holds, rest⟩
  · rw [advance, if_pos fits] at rest
    exact ⟨_, taken, _, accepted.holds holds fits, rest⟩

theorem refused_appendOnly
    (contents : log.writer.buffer.take log.writer.length.toNat = log.appended) :
    AppendOnly ⟨log.writer, log.writer, false, log.appended⟩ :=
  ⟨rfl, fun _ => rfl, contents⟩

theorem accepted_appendOnly (holds : log.writer.Holds capacity written)
    (contents : log.writer.buffer.take log.writer.length.toNat = log.appended)
    {after : DataWriter} (fits : written + call.size ≤ capacity)
    (accepted : call.Accepted log.writer after)
    (first : call.isRandom = true → written = 0 ∨ call.size = 0) :
    AppendOnly ⟨after, log.writer, true, log.appended ++ call.encoding⟩ ∧
      after.buffer.drop (written + call.size) =
        log.writer.buffer.drop (written + call.size) := by
  have here : call.start log.writer = written ∨ call.size = 0 := by
    rw [WriterCall.start, holds.length]
    cases random : call.isRandom with
    | false => exact Or.inl rfl
    | true => exact (first random).imp_left Eq.symm
  obtain ⟨kept, appended, rest⟩ := accepted.appends holds fits here
  rw [holds.length] at contents
  refine ⟨⟨?_, nofun, ?_⟩, rest⟩
  · rw [holds.length]
    exact kept
  · rw [accepted.length, holds.length, appended, contents]

/-- Calls that fill first only append, whatever the memory holds. -/
theorem appendOnly_of_fillsFirst (holds : log.writer.Holds capacity written)
    (unwrapped : Unwrapped capacity written calls) (good : log.AppendOnly)
    (fills : FillsFirst capacity written calls) : Throughout step AppendOnly log calls := by
  induction calls generalizing log written with
  | nil => exact throughout_nil.mpr good
  | cons call calls ih =>
      obtain ⟨first, rest⟩ := unwrapped
      obtain ⟨fillsHere, fillsLater⟩ := fills
      refine throughout_cons.mpr ⟨good, fun next reached => ?_⟩
      rcases step_cases holds first with ⟨exceeds, taken⟩ | ⟨after, fits, accepted, taken⟩
      · rw [advance, if_neg (Nat.not_le.mpr exceeds)] at rest fillsLater
        cases taken.symm.trans reached
        exact ih holds rest (refused_appendOnly good.contents) fillsLater
      · rw [advance, if_pos fits] at rest fillsLater
        cases taken.symm.trans reached
        have appends := accepted_appendOnly holds good.contents fits accepted
          fun random => fillsHere random fits
        exact ih (accepted.holds holds fits) rest appends.1 fillsLater

/-- Over memory without filler bytes no other calls do. -/
theorem fillsFirst_of_appendOnly (holds : log.writer.Holds capacity written)
    (unwrapped : Unwrapped capacity written calls)
    (blank : log.writer.buffer.drop written = List.replicate (capacity - written) 0)
    (good : Throughout step AppendOnly log calls) : FillsFirst capacity written calls := by
  induction calls generalizing log written with
  | nil => trivial
  | cons call calls ih =>
      obtain ⟨first, rest⟩ := unwrapped
      obtain ⟨now, later⟩ := throughout_cons.mp good
      rcases step_cases holds first with ⟨exceeds, taken⟩ | ⟨after, fits, accepted, taken⟩
      · refine ⟨fun _ fits => absurd fits (Nat.not_le.mpr exceeds), ?_⟩
        rw [advance, if_neg (Nat.not_le.mpr exceeds)] at rest ⊢
        exact @ih ⟨log.writer, log.writer, false, log.appended⟩ written holds rest blank
          (later _ taken)
      · have goodAfter := later _ taken [] List.nil_prefix _ rfl
        have fillsHere : call.isRandom = true → written = 0 ∨ call.size = 0 := by
          intro random
          by_contra neither
          obtain ⟨started, nonempty⟩ := not_or.mp neither
          cases call with
          | random length =>
              have contents := goodAfter.contents
              have before := now.contents
              rw [holds.length] at before
              rw [accepted.length, holds.length, ← before] at contents
              exact accepted.misplaced holds fits started nonempty blank contents
          | _ => cases random
        have appends := accepted_appendOnly holds now.contents fits accepted fillsHere
        refine ⟨fun random _ => fillsHere random, ?_⟩
        rw [advance, if_pos fits] at rest ⊢
        have untouched : after.buffer.drop (written + call.size) =
            List.replicate (capacity - (written + call.size)) 0 := by
          rw [appends.2, ← List.drop_drop, blank, List.drop_replicate, Nat.sub_sub]
        exact ih (accepted.holds holds fits) rest untouched (later _ taken)

theorem start_holds {memory : List UInt8} (bound : memory.length < 2 ^ 64) :
    (start memory).writer.Holds memory.length 0 :=
  ⟨rfl, UInt64.toNat_ofNat_of_lt' bound, rfl, Nat.zero_le _⟩

theorem start_appendOnly (memory : List UInt8) : (start memory).AppendOnly := ⟨rfl, nofun, rfl⟩

/-- A sequence of calls appends, whatever the memory of the buffer held before, exactly when filler
bytes are only accepted at its start. -/
theorem writer_appendOnly_iff {capacity : Nat} (bound : capacity < 2 ^ 64)
    {calls : List WriterCall} (unwrapped : Unwrapped capacity 0 calls) :
    (∀ memory : List UInt8, memory.length = capacity →
      ∃ final, execute step (start memory) calls = .done final) ∧
    ((∀ memory : List UInt8, memory.length = capacity →
        Throughout step AppendOnly (start memory) calls) ↔ FillsFirst capacity 0 calls) := by
  refine ⟨?_, ?_, ?_⟩
  · rintro memory rfl
    exact execute_completes (start_holds bound) unwrapped
  · intro appends
    have zeros := appends (List.replicate capacity 0) List.length_replicate
    have holds := @start_holds (List.replicate capacity 0) (by rwa [List.length_replicate])
    rw [List.length_replicate] at holds
    exact fillsFirst_of_appendOnly holds unwrapped rfl zeros
  · rintro fills memory rfl
    exact appendOnly_of_fillsFirst (start_holds bound) unwrapped (start_appendOnly memory) fills

def headerCalls : List WriterCall :=
  [.random 2, .uint16 0x0800, .uint32 1, .uint64 2, .bytes ⟨[7, 8], by decide⟩, .random 0, .uint8 9]

theorem headerCalls_append :
    (∃ final, execute step (start (List.replicate 18 7)) headerCalls = .done final) ∧
      Throughout step AppendOnly (start (List.replicate 18 7)) headerCalls := by
  have ⟨completes, appends⟩ := @writer_appendOnly_iff 18 (by decide) headerCalls (by decide)
  exact ⟨completes _ rfl, appends.mpr (by decide) _ rfl⟩

theorem padding_overwrites :
    Unwrapped 4 0 [.uint16 0x4500, .random 2] ∧
    execute step (start [0, 0, 0, 0]) [.uint16 0x4500, .random 2] = .done
      ⟨⟨[0x23, 0x23, 0, 0], 4, 4, [(0, 2)]⟩, ⟨[0x45, 0, 0, 0], 4, 2, [(0, 2)]⟩, true,
        [0x45, 0, 0x23, 0x23]⟩ ∧
    ¬Throughout step AppendOnly (start [0, 0, 0, 0]) [.uint16 0x4500, .random 2] := by
  refine ⟨by decide, rfl, fun appends => ?_⟩
  have last := appends _ List.prefix_rfl _ rfl
  exact absurd last.kept (by decide)

end WriterLog

end LabNetstack
