import Mathlib.Data.List.Nodup
import LabNetstack.SendBufferAccounting
import LabNetstack.SendBufferPhases

/-! One pass of `transmit` over the queue, round by round. -/

namespace LabNetstack

namespace SendBuffer

/-- The rounds of the loop. A pass ends at a full window, with nothing left to
send, at a refused segment, or after a segment without data. -/
inductive Pass (env : Surroundings) : SendBuffer → List PacketCall → SendBuffer → Prop where
  | closed {self : SendBuffer} (full : ¬self.bytesInFlight < kMaxBytesInFlight) :
      Pass env self [] self
  | idle {self : SendBuffer} (silent : self.piggybacks env = false)
      (empty : self.nextPayload env = []) : Pass env self [] self
  | last {self : SendBuffer} (room : self.bytesInFlight < kMaxBytesInFlight)
      (busy : self.nextPayload env ≠ [] ∨ self.piggybacks env = true)
      (stops : env.accepts self.calls.length = false ∨ self.nextPayload env = []) :
      Pass env self [self.nextCall env] (self.afterRound env)
  | more {self after : SendBuffer} {calls : List PacketCall}
      (room : self.bytesInFlight < kMaxBytesInFlight) (nonempty : self.nextPayload env ≠ [])
      (accepted : env.accepts self.calls.length = true)
      (rest : Pass env (self.afterRound env) calls after) :
      Pass env self (self.nextCall env :: calls) after

theorem transmitLoop_pass (env : Surroundings) (fuel : Nat) (self : SendBuffer)
    (enough : kMaxBytesInFlight.toNat - self.bytesInFlight.toNat ≤ fuel) :
    ∃ calls, Pass env self calls (transmitLoop env fuel self) := by
  induction fuel generalizing self with
  | zero =>
      refine ⟨[], Pass.closed ?_⟩
      rw [UInt64.lt_iff_toNat_lt]
      omega
  | succ fuel ih =>
      rw [transmitLoop_succ]
      by_cases room : self.bytesInFlight < kMaxBytesInFlight
      · simp only [room, ↓reduceIte, transmitRound_eq]
        by_cases idle : self.piggybacks env = false ∧ self.nextPayload env = []
        · simp only [idle, and_self, ↓reduceIte, Bool.false_eq_true]
          exact ⟨[], Pass.idle idle.1 idle.2⟩
        · have busy : self.nextPayload env ≠ [] ∨ self.piggybacks env = true := by
            rw [← Bool.not_eq_false, ← not_and_or, And.comm]
            exact idle
          simp only [idle, ↓reduceIte]
          split
          · rename_i again
            simp only [Bool.and_eq_true, Bool.not_eq_true', List.isEmpty_eq_false_iff] at again
            have advanced := List.length_pos_iff.mpr again.2
            have flight := afterRound_toNat env self room
            obtain ⟨calls, rest⟩ := ih (self.afterRound env) (by omega)
            exact ⟨_, Pass.more room again.2 again.1 rest⟩
          · rename_i ends
            refine ⟨_, Pass.last room busy ?_⟩
            simp only [Bool.and_eq_true, Bool.not_eq_true', List.isEmpty_eq_false_iff, ne_eq,
              not_and_or, Bool.not_eq_true, not_not] at ends
            exact ends
      · simp only [room, ↓reduceIte]
        exact ⟨[], Pass.closed room⟩

theorem Pass.calls_eq {env : Surroundings} {self after : SendBuffer} {calls : List PacketCall}
    (pass : Pass env self calls after) : after.calls = self.calls ++ calls := by
  induction pass with
  | closed full => simp
  | idle silent empty => simp
  | last room busy stops => rfl
  | more room nonempty accepted rest ih => simp [ih, afterRound]

theorem transmit_pass (env : Surroundings) (self : SendBuffer) (established : self.syn = .acked) :
    ∃ calls, Pass env self calls (self.transmit env) := by
  simp only [transmit_eq, established]
  exact transmitLoop_pass env _ self (Nat.sub_le _ _)

/-! A round inside the queue, in numbers of bytes after `unack`. -/

theorem nextPayload_length (env : Surroundings) (self : SendBuffer)
    (within : self.bytesInFlight.toNat ≤ self.buffer.remaining) :
    (self.nextPayload env).length = min 1460 (self.buffer.remaining - self.bytesInFlight.toNat) := by
  rw [nextPayload, readOffset]
  simp only [within, ↓reduceIte]
  exact BoundedQueue.peek_length _ _ _

theorem afterRound_within (env : Surroundings) (self : SendBuffer)
    (room : self.bytesInFlight < kMaxBytesInFlight)
    (within : self.bytesInFlight.toNat ≤ self.buffer.remaining) :
    (self.afterRound env).bytesInFlight.toNat ≤ (self.afterRound env).buffer.remaining := by
  have length := nextPayload_length env self within
  change _ ≤ self.buffer.remaining
  rw [afterRound_toNat env self room]
  omega

-- where the number `send.next - 1` of a FIN lies
def finOffset (self : SendBuffer) : Nat := (self.tcb.send.next - 1 - self.tcb.send.unack).toNat

theorem piggybacks_iff (env : Surroundings) (self : SendBuffer)
    (within : self.bytesInFlight.toNat ≤ self.buffer.remaining) :
    self.piggybacks env = true ↔ self.fin = .sent ∧
      self.bytesInFlight.toNat + (self.nextPayload env).length = self.finOffset := by
  have length := nextPayload_length env self within
  have bound := self.remaining_lt
  have small : (self.bytesInFlight.toUInt32 + UInt32.ofNat (self.nextPayload env).length).toNat =
      self.bytesInFlight.toNat + (self.nextPayload env).length := by
    simp only [UInt32.toNat_add, UInt64.toNat_toUInt32, UInt32.toNat_ofNat']
    omega
  simp only [piggybacks, nextSequence, Bool.and_eq_true, beq_iff_eq, finOffset]
  rw [← small, UInt32.toNat_inj]
  refine and_congr_right fun _ => ?_
  constructor
  · intro same
    rw [← same]
    grind
  · intro same
    grind

theorem nextCall_isFIN (env : Surroundings) (self : SendBuffer) :
    (self.nextCall env).segment.isFIN = self.piggybacks env := nextSegment_isFIN env self

theorem nextCall_payload (env : Surroundings) (self : SendBuffer) :
    (self.nextCall env).segment.payload = self.nextPayload env := nextSegment_payload env self

theorem nextCall_isSYN (env : Surroundings) (self : SendBuffer) :
    (self.nextCall env).segment.isSYN = false := (nextSegment_open env self).isSYN

theorem Pass.ne_nil {env : Surroundings} {self after : SendBuffer} {calls : List PacketCall}
    (pass : Pass env self calls after) (room : self.bytesInFlight < kMaxBytesInFlight)
    (busy : self.nextPayload env ≠ [] ∨ self.piggybacks env = true) : calls ≠ [] := by
  cases pass with
  | closed full => exact absurd room full
  | idle silent empty =>
      rcases busy with nonempty | piggybacks
      · exact absurd empty nonempty
      · exact absurd piggybacks (by simp [silent])
  | last _ _ _ => simp
  | more _ _ _ _ => simp

theorem Pass.of_full {env : Surroundings} {self after : SendBuffer} {calls : List PacketCall}
    (pass : Pass env self calls after) (full : ¬self.bytesInFlight < kMaxBytesInFlight) :
    calls = [] ∧ after = self := by
  cases pass with
  | closed _ => exact ⟨rfl, rfl⟩
  | idle _ _ => exact ⟨rfl, rfl⟩
  | last room _ _ => exact absurd room full
  | more room _ _ _ => exact absurd room full

/-! The bytes one pass covers. -/

-- where a segment starts, counted from the first unacknowledged data byte
def offsetOf (self : SendBuffer) (call : PacketCall) : Nat :=
  (call.segment.sequence - self.acknowledgedFrom).toNat

theorem nextCall_offset (env : Surroundings) (self : SendBuffer) (established : self.syn = .acked)
    (within : self.bytesInFlight.toNat ≤ self.buffer.remaining) :
    self.offsetOf (self.nextCall env) = self.bytesInFlight.toNat := by
  have bound := self.remaining_lt
  have origin : self.acknowledgedFrom = self.tcb.send.unack := by
    simp [acknowledgedFrom, established]
  have distance : self.nextSequence - self.tcb.send.unack = self.bytesInFlight.toUInt32 := by
    rw [nextSequence]
    grind
  change (self.nextSequence - self.acknowledgedFrom).toNat = _
  rw [origin, distance, UInt64.toNat_toUInt32]
  omega

theorem Pass.between {env : Surroundings} {self after : SendBuffer} {calls : List PacketCall}
    (pass : Pass env self calls after)
    (within : self.bytesInFlight.toNat ≤ self.buffer.remaining) :
    self.bytesInFlight.toNat ≤ after.bytesInFlight.toNat ∧
      after.bytesInFlight.toNat ≤ self.buffer.remaining := by
  induction pass with
  | closed full => exact ⟨Nat.le_refl _, within⟩
  | idle silent empty => exact ⟨Nat.le_refl _, within⟩
  | @last self room busy stops =>
      have flight := afterRound_toNat env self room
      exact ⟨by omega, afterRound_within env self room within⟩
  | @more self after calls room nonempty accepted rest ih =>
      have flight := afterRound_toNat env self room
      obtain ⟨above, below⟩ := ih (afterRound_within env self room within)
      exact ⟨by omega, below⟩

/-- The payloads of a pass are the bytes its counter moves over. -/
theorem Pass.covers {env : Surroundings} {self after : SendBuffer} {calls : List PacketCall}
    (pass : Pass env self calls after) (established : self.syn = .acked)
    (within : self.bytesInFlight.toNat ≤ self.buffer.remaining) (offset : Nat) :
    (∃ call ∈ calls, self.offsetOf call ≤ offset ∧
      offset < self.offsetOf call + call.segment.payload.length) ↔
      self.bytesInFlight.toNat ≤ offset ∧ offset < after.bytesInFlight.toNat := by
  induction pass with
  | closed full =>
      refine iff_of_false (by simp) ?_
      omega
  | idle silent empty =>
      refine iff_of_false (by simp) ?_
      omega
  | @last self room busy stops =>
      rw [afterRound_toNat env self room]
      simp only [List.mem_singleton, exists_eq_left, nextCall_payload,
        nextCall_offset env self established within]
  | @more self after calls room nonempty accepted rest ih =>
      have flight := afterRound_toNat env self room
      have later := ih established (afterRound_within env self room within)
      have between := rest.between (afterRound_within env self room within)
      simp only [List.mem_cons, exists_eq_or_imp, nextCall_payload,
        nextCall_offset env self established within]
      change _ ∨ (∃ call ∈ calls, (self.afterRound env).offsetOf call ≤ offset ∧
        offset < (self.afterRound env).offsetOf call + _) ↔ _
      rw [later]
      omega

theorem accepts_afterRound {env : Surroundings} {self : SendBuffer}
    (accepts : ∀ index, self.calls.length ≤ index → env.accepts index = true) (index : Nat)
    (above : (self.afterRound env).calls.length ≤ index) : env.accepts index = true := by
  refine accepts index ?_
  simp only [afterRound, List.length_append, List.length_singleton] at above
  omega

theorem nextPayload_of_accepts {env : Surroundings} {self : SendBuffer}
    (accepts : ∀ index, self.calls.length ≤ index → env.accepts index = true)
    (stops : env.accepts self.calls.length = false ∨ self.nextPayload env = []) :
    self.nextPayload env = [] := by
  refine stops.resolve_left fun refused => ?_
  rw [accepts _ (Nat.le_refl _)] at refused
  exact Bool.noConfusion refused

/-- With every segment accepted, a pass stops at the end of the queue or at the
first whole number of segments that fills the window. -/
theorem Pass.fills {env : Surroundings} {self after : SendBuffer} {calls : List PacketCall}
    (pass : Pass env self calls after)
    (within : self.bytesInFlight.toNat ≤ self.buffer.remaining)
    (accepts : ∀ index, self.calls.length ≤ index → env.accepts index = true) :
    after.bytesInFlight.toNat = min self.buffer.remaining
      (self.bytesInFlight.toNat + 1460 * ((14600 - self.bytesInFlight.toNat + 1459) / 1460)) := by
  induction pass with
  | @closed self full =>
      rw [UInt64.lt_iff_toNat_lt, kMaxBytesInFlight_toNat] at full
      omega
  | @idle self silent empty =>
      have length := nextPayload_length env self within
      rw [empty, List.length_nil] at length
      omega
  | @last self room busy stops =>
      have length := nextPayload_length env self within
      have empty := nextPayload_of_accepts accepts stops
      rw [afterRound_toNat env self room, empty, List.length_nil]
      rw [empty, List.length_nil] at length
      omega
  | @more self after calls room nonempty accepted rest ih =>
      have length := nextPayload_length env self within
      have flight := afterRound_toNat env self room
      have inside := UInt64.lt_iff_toNat_lt.mp room
      rw [kMaxBytesInFlight_toNat] at inside
      have later := ih (afterRound_within env self room within) (accepts_afterRound accepts)
      change _ = min self.buffer.remaining _ at later
      rw [later, flight, length]
      -- a whole segment leaves one round less, a shorter one ends the queue
      by_cases whole : 1460 ≤ self.buffer.remaining - self.bytesInFlight.toNat
      · rw [Nat.min_eq_left whole]
        have fewer : (14600 - self.bytesInFlight.toNat + 1459) / 1460 =
            (14600 - (self.bytesInFlight.toNat + 1460) + 1459) / 1460 + 1 := by omega
        rw [fewer]
        omega
      · rw [Nat.min_eq_right (Nat.le_of_not_le whole), Nat.add_sub_cancel' within]
        have some_ : 1 ≤ (14600 - self.bytesInFlight.toNat + 1459) / 1460 := by omega
        omega

theorem Pass.fin_number {env : Surroundings} {self after : SendBuffer} {calls : List PacketCall}
    (pass : Pass env self calls after) {call : PacketCall} (member : call ∈ calls)
    (isFIN : call.segment.isFIN = true) : self.fin = .sent ∧
      call.segment.sequence + UInt32.ofNat call.segment.payload.length + 1 = self.tcb.send.next := by
  have first : ∀ {self : SendBuffer}, (self.nextCall env).segment.isFIN = true →
      self.fin = .sent ∧ (self.nextCall env).segment.sequence +
        UInt32.ofNat (self.nextCall env).segment.payload.length + 1 = self.tcb.send.next := by
    intro self isFIN
    rw [nextCall_isFIN, piggybacks, Bool.and_eq_true, beq_iff_eq, beq_iff_eq] at isFIN
    rw [nextCall_payload]
    exact isFIN
  induction pass with
  | closed full => simp at member
  | idle silent empty => simp at member
  | last room busy stops =>
      rw [List.mem_singleton.mp member] at isFIN ⊢
      exact first isFIN
  | more room nonempty accepted rest ih =>
      rcases List.mem_cons.mp member with same | member
      · rw [same] at isFIN ⊢
        exact first isFIN
      · exact ih member

/-- With every segment accepted, the FIN is sent if a round ends where it goes. -/
theorem Pass.sendsFIN_iff {env : Surroundings} {self after : SendBuffer} {calls : List PacketCall}
    (pass : Pass env self calls after)
    (within : self.bytesInFlight.toNat ≤ self.buffer.remaining)
    (accepts : ∀ index, self.calls.length ≤ index → env.accepts index = true) :
    (∃ call ∈ calls, call.segment.isFIN = true) ↔ self.fin = .sent ∧
      self.bytesInFlight < kMaxBytesInFlight ∧ self.finOffset ≤ after.bytesInFlight.toNat ∧
      (self.finOffset = self.buffer.remaining ∨ self.bytesInFlight.toNat < self.finOffset ∧
        (self.finOffset - self.bytesInFlight.toNat) % 1460 = 0) := by
  induction pass with
  | @closed self full =>
      refine iff_of_false (by simp) ?_
      rintro ⟨_, room, _⟩
      exact full room
  | @idle self silent empty =>
      have length := nextPayload_length env self within
      rw [empty, List.length_nil] at length
      refine iff_of_false (by simp) ?_
      rintro ⟨sent, _, reached, place⟩
      have piggybacks : self.piggybacks env = true := by
        rw [piggybacks_iff env self within, empty, List.length_nil]
        exact ⟨sent, by omega⟩
      rw [silent] at piggybacks
      exact Bool.noConfusion piggybacks
  | @last self room busy stops =>
      have length := nextPayload_length env self within
      have empty := nextPayload_of_accepts accepts stops
      have piggybacks := busy.resolve_left (not_not_intro empty)
      rw [piggybacks_iff env self within] at piggybacks
      rw [empty, List.length_nil] at length piggybacks
      refine iff_of_true ⟨_, List.mem_singleton_self _, ?_⟩ ⟨piggybacks.1, room, ?_, ?_⟩
      · rw [nextCall_isFIN, piggybacks_iff env self within, empty]
        exact piggybacks
      · rw [afterRound_toNat env self room]
        omega
      · omega
  | @more self after calls room nonempty accepted rest ih =>
      have later := afterRound_within env self room within
      have length := nextPayload_length env self within
      have positive := List.length_pos_iff.mpr nonempty
      have flight := afterRound_toNat env self room
      have between := rest.between later
      have stopped : ¬self.bytesInFlight.toNat + (self.nextPayload env).length < 14600 →
          after.bytesInFlight.toNat =
            self.bytesInFlight.toNat + (self.nextPayload env).length := by
        intro full
        have same := (rest.of_full (by
          rwa [UInt64.lt_iff_toNat_lt, kMaxBytesInFlight_toNat, flight])).2
        rw [same, flight]
      have rounds := ih later (accepts_afterRound accepts)
      simp only [List.mem_cons, exists_eq_or_imp, rounds, nextCall_isFIN,
        piggybacks_iff env self within, room, true_and]
      change _ ∨ self.fin = .sent ∧ _ ∧ self.finOffset ≤ _ ∧
        (self.finOffset = self.buffer.remaining ∨ _ < self.finOffset ∧
          (self.finOffset - _) % 1460 = 0) ↔ _
      change _ ∧ _ ≤ self.buffer.remaining at between
      rw [UInt64.lt_iff_toNat_lt, kMaxBytesInFlight_toNat, flight, ← and_or_left]
      refine and_congr_right fun _ => ?_
      rw [flight] at between
      by_cases whole : 1460 ≤ self.buffer.remaining - self.bytesInFlight.toNat
      · rw [Nat.min_eq_left whole] at length
        rw [length] at between stopped ⊢
        omega
      · rw [Nat.min_eq_right (Nat.le_of_not_le whole)] at length
        rw [length, Nat.add_sub_cancel' within] at between stopped ⊢
        omega

/-! The sequence numbers of one pass. A segment occupies those of its payload, its SYN and
its FIN. -/

def occupied (segment : Segment) : List SequenceNumber :=
  let length := segment.payload.length + segment.isSYN.toNat + segment.isFIN.toNat
  (List.range length).map fun index => segment.sequence + UInt32.ofNat index

def numbers (calls : List PacketCall) : List SequenceNumber :=
  calls.flatMap fun call => occupied call.segment

structure SentOnce (sender : SendBuffer) (calls : List PacketCall) : Prop where
  consecutive : ∃ count, numbers calls =
    (List.range count).map fun index => sender.nextSequence + UInt32.ofNat index
  disjoint : (numbers calls).Nodup
  finLast : ∀ call ∈ calls.dropLast, call.segment.isFIN = false

-- the segment that ends where the FIN goes is accepted inside the window
def repeatsFIN (env : Surroundings) (self : SendBuffer) : Prop :=
  self.fin = .sent ∧ self.bytesInFlight.toNat < self.finOffset ∧ self.finOffset < 14600 ∧
    (self.finOffset = self.buffer.remaining ∨ self.finOffset < self.buffer.remaining ∧
      (self.finOffset - self.bytesInFlight.toNat) % 1460 = 0) ∧
    ∀ round < (self.finOffset - self.bytesInFlight.toNat + 1459) / 1460,
      env.accepts (self.calls.length + round) = true

theorem occupied_nextCall (env : Surroundings) (self : SendBuffer) :
    occupied (self.nextCall env).segment =
      (List.range ((self.nextPayload env).length + (self.piggybacks env).toNat)).map
        fun index => self.nextSequence + UInt32.ofNat index := by
  simp only [occupied, nextCall_payload, nextCall_isSYN, nextCall_isFIN, Bool.toNat_false,
    Nat.add_zero]
  rfl

theorem afterRound_nextSequence (env : Surroundings) (self : SendBuffer) :
    (self.afterRound env).nextSequence =
      self.nextSequence + UInt32.ofNat (self.nextPayload env).length := by
  simp only [nextSequence, afterRound, UInt64.toUInt32_add, UInt64.toUInt32_ofNat']
  grind

theorem numbers_cons (call : PacketCall) (calls : List PacketCall) :
    numbers (call :: calls) = occupied call.segment ++ numbers calls := rfl

theorem Pass.consecutive {env : Surroundings} {self after : SendBuffer} {calls : List PacketCall}
    (pass : Pass env self calls after)
    (within : self.bytesInFlight.toNat ≤ self.buffer.remaining)
    (finLast : ∀ call ∈ calls.dropLast, call.segment.isFIN = false) :
    ∃ count, self.bytesInFlight.toNat + count ≤ self.buffer.remaining + 1 ∧ numbers calls =
      (List.range count).map fun index => self.nextSequence + UInt32.ofNat index := by
  have single : ∀ {self : SendBuffer}, self.bytesInFlight.toNat ≤ self.buffer.remaining →
      ∃ count, self.bytesInFlight.toNat + count ≤ self.buffer.remaining + 1 ∧
        numbers [self.nextCall env] =
          (List.range count).map fun index => self.nextSequence + UInt32.ofNat index := by
    intro self within
    have length := nextPayload_length env self within
    have finBound := Bool.toNat_le (self.piggybacks env)
    refine ⟨(self.nextPayload env).length + (self.piggybacks env).toNat, by omega, ?_⟩
    rw [numbers_cons, occupied_nextCall]
    exact List.append_nil _
  induction pass with
  | closed full => exact ⟨0, by omega, rfl⟩
  | idle silent empty => exact ⟨0, by omega, rfl⟩
  | last room busy stops => exact single within
  | @more self after calls room nonempty accepted rest ih =>
      by_cases alone : calls = []
      · rw [alone]
        exact single within
      · rw [List.dropLast_cons_of_ne_nil alone] at finLast
        have noFIN : self.piggybacks env = false := by
          rw [← nextCall_isFIN]
          exact finLast _ List.mem_cons_self
        have length := nextPayload_length env self within
        have flight := afterRound_toNat env self room
        obtain ⟨count, bound, later⟩ := ih (afterRound_within env self room within)
          (fun call member => finLast call (List.mem_cons_of_mem _ member))
        refine ⟨(self.nextPayload env).length + count, ?_, ?_⟩
        · change _ ≤ self.buffer.remaining + 1 at bound
          omega
        · rw [numbers_cons, occupied_nextCall, later, noFIN, afterRound_nextSequence,
            Bool.toNat_false, Nat.add_zero, List.range_add, List.map_append, List.map_map]
          simp only [Function.comp_def, UInt32.ofNat_add, UInt32.add_assoc]

theorem repeatsFIN_afterRound (env : Surroundings) (self : SendBuffer)
    (room : self.bytesInFlight < kMaxBytesInFlight) (nonempty : self.nextPayload env ≠ [])
    (accepted : env.accepts self.calls.length = true)
    (within : self.bytesInFlight.toNat ≤ self.buffer.remaining)
    (noFIN : ¬self.piggybacks env = true) :
    (self.afterRound env).repeatsFIN env ↔ self.repeatsFIN env := by
  have length := nextPayload_length env self within
  have positive := List.length_pos_iff.mpr nonempty
  have flight := afterRound_toNat env self room
  have count : (self.afterRound env).calls.length = self.calls.length + 1 := by
    simp [afterRound]
  rw [piggybacks_iff env self within] at noFIN
  have samePlace : (self.afterRound env).finOffset = self.finOffset := rfl
  have sameQueue : (self.afterRound env).buffer = self.buffer := rfl
  have sameFIN : (self.afterRound env).fin = self.fin := rfl
  unfold repeatsFIN
  rw [flight, count, samePlace, sameQueue, sameFIN]
  constructor
  · rintro ⟨sent, above, inside, place, accepts⟩
    refine ⟨sent, by omega, inside, by omega, ?_⟩
    intro round early
    cases round with
    | zero => exact accepted
    | succ round =>
        have later := accepts round (by omega)
        rwa [Nat.add_assoc, Nat.add_comm 1] at later
  · rintro ⟨sent, above, inside, place, accepts⟩
    have elsewhere : self.bytesInFlight.toNat + (self.nextPayload env).length ≠ self.finOffset :=
      fun ends => noFIN ⟨sent, ends⟩
    refine ⟨sent, by omega, inside, by omega, ?_⟩
    intro round early
    have later := accepts (round + 1) (by omega)
    rwa [Nat.add_assoc, Nat.add_comm 1]

theorem repeatsFIN_of_piggybacks (env : Surroundings) (self : SendBuffer)
    (nonempty : self.nextPayload env ≠ []) (accepted : env.accepts self.calls.length = true)
    (within : self.bytesInFlight.toNat ≤ self.buffer.remaining)
    (piggybacks : self.piggybacks env = true) :
    self.repeatsFIN env ↔ self.bytesInFlight.toNat + (self.nextPayload env).length < 14600 := by
  have length := nextPayload_length env self within
  have positive := List.length_pos_iff.mpr nonempty
  obtain ⟨sent, ends⟩ := (piggybacks_iff env self within).mp piggybacks
  rw [ends]
  constructor
  · rintro ⟨_, _, inside, _⟩
    exact inside
  · intro inside
    refine ⟨sent, by omega, inside, by omega, ?_⟩
    intro round early
    have first : round = 0 := by omega
    rw [first]
    exact accepted

-- the byte or the FIN at the place of a FIN just sent is sent by the next round
theorem afterRound_busy (env : Surroundings) (self : SendBuffer)
    (room : self.bytesInFlight < kMaxBytesInFlight)
    (within : self.bytesInFlight.toNat ≤ self.buffer.remaining)
    (piggybacks : self.piggybacks env = true) :
    (self.afterRound env).nextPayload env ≠ [] ∨ (self.afterRound env).piggybacks env = true := by
  have later := afterRound_within env self room within
  have length := nextPayload_length env (self.afterRound env) later
  have flight := afterRound_toNat env self room
  obtain ⟨sent, ends⟩ := (piggybacks_iff env self within).mp piggybacks
  by_cases empty : (self.afterRound env).nextPayload env = []
  · right
    rw [piggybacks_iff env _ later]
    refine ⟨sent, ?_⟩
    rw [empty, List.length_nil, flight]
    exact ends
  · exact Or.inl empty

theorem Pass.finLast_iff {env : Surroundings} {self after : SendBuffer} {calls : List PacketCall}
    (pass : Pass env self calls after)
    (within : self.bytesInFlight.toNat ≤ self.buffer.remaining) :
    (∀ call ∈ calls.dropLast, call.segment.isFIN = false) ↔ ¬self.repeatsFIN env := by
  induction pass with
  | @closed self full =>
      rw [UInt64.lt_iff_toNat_lt, kMaxBytesInFlight_toNat] at full
      refine iff_of_true (by simp) ?_
      rintro ⟨_, above, inside, _⟩
      omega
  | @idle self silent empty =>
      have length := nextPayload_length env self within
      refine iff_of_true (by simp) ?_
      rintro ⟨_, above, _, place, _⟩
      rw [empty, List.length_nil] at length
      omega
  | @last self room busy stops =>
      have length := nextPayload_length env self within
      refine iff_of_true (by simp) ?_
      rintro ⟨_, above, _, place, accepts⟩
      rcases stops with refused | empty
      · have first := accepts 0 (by omega)
        rw [Nat.add_zero, refused] at first
        exact Bool.noConfusion first
      · rw [empty, List.length_nil] at length
        omega
  | @more self after calls room nonempty accepted rest ih =>
      have flight := afterRound_toNat env self room
      by_cases piggybacks : self.piggybacks env = true
      · have isFIN : (self.nextCall env).segment.isFIN = true := by
          rw [nextCall_isFIN, piggybacks]
        rw [repeatsFIN_of_piggybacks env self nonempty accepted within piggybacks, ← flight,
          ← kMaxBytesInFlight_toNat, ← UInt64.lt_iff_toNat_lt]
        by_cases inside : (self.afterRound env).bytesInFlight < kMaxBytesInFlight
        · have follows := rest.ne_nil inside (afterRound_busy env self room within piggybacks)
          refine iff_of_false ?_ (not_not_intro inside)
          intro finLast
          rw [List.dropLast_cons_of_ne_nil follows] at finLast
          exact absurd (finLast _ List.mem_cons_self) (by simp [isFIN])
        · rw [(rest.of_full inside).1]
          exact iff_of_true (by simp) inside
      · rw [← repeatsFIN_afterRound env self room nonempty accepted within piggybacks,
          ← ih (afterRound_within env self room within)]
        have noFIN : (self.nextCall env).segment.isFIN = false := by
          rw [nextCall_isFIN]
          simpa using piggybacks
        cases calls with
        | nil => simp
        | cons call calls => simp [noFIN]

/-- One pass sends each number once unless the FIN rides on a segment that is
accepted inside the window. -/
theorem transmit_sentOnce_iff (env : Surroundings) (self : SendBuffer)
    (established : self.syn = .acked)
    (within : self.bytesInFlight.toNat ≤ self.buffer.remaining) :
    self.SentOnce (self.emitted env .transmit) ↔ ¬self.repeatsFIN env := by
  obtain ⟨calls, pass⟩ := transmit_pass env self established
  have emits : self.emitted env .transmit = calls := by
    change (self.transmit env).calls.drop self.calls.length = calls
    rw [pass.calls_eq, List.drop_left]
  rw [emits, ← pass.finLast_iff within]
  constructor
  · intro once
    exact once.finLast
  · intro finLast
    obtain ⟨count, bound, consecutive⟩ := pass.consecutive within finLast
    have small := self.remaining_lt
    refine ⟨⟨count, consecutive⟩, ?_, finLast⟩
    rw [consecutive]
    refine List.Nodup.map_on ?_ List.nodup_range
    intro first early second late same
    rw [List.mem_range] at early late
    have equal := congrArg UInt32.toNat (UInt32.add_right_inj _ |>.mp same)
    simp only [UInt32.toNat_ofNat'] at equal
    omega

theorem closing_sentOnce :
    let state := (opened quietHost sampleOpening).run quietHost
      [.acknowledge 0 10, .sendData sampleBytes, .sendFIN]
    state.syn = .acked ∧ state.bytesInFlight.toNat ≤ state.buffer.remaining ∧
      (state.emitted quietHost .transmit).length = 1 ∧
      state.SentOnce (state.emitted quietHost .transmit) := by
  intro state
  have established : state.syn = .acked := by decide
  have within : state.bytesInFlight.toNat ≤ state.buffer.remaining := by decide
  have sent : ¬state.bytesInFlight.toNat < state.finOffset := by decide
  refine ⟨established, within, by decide, ?_⟩
  exact (transmit_sentOnce_iff quietHost state established within).mpr fun twice => sent twice.2.1

def queuedClose : List SendEvent := [.sendData sampleBytes, .sendFIN, .acknowledge 0 10]

theorem queuedClose_sendsTwice :
    let state := (opened quietHost sampleOpening).run quietHost queuedClose
    LawfulRun quietHost (opened quietHost sampleOpening) queuedClose ∧
      state.syn = .acked ∧ state.bytesInFlight.toNat ≤ state.buffer.remaining ∧
      (state.emitted quietHost .transmit).map (fun call => occupied call.segment) =
        [[0, 1, 2, 3], [3]] ∧
      ¬state.SentOnce (state.emitted quietHost .transmit) := by
  intro state
  have twice : numbers (state.emitted quietHost .transmit) = [0, 1, 2, 3, 3] := by decide
  refine ⟨⟨rfl, rfl, rfl, trivial⟩, by decide, by decide, by decide, ?_⟩
  intro once
  have disjoint := once.disjoint
  rw [twice] at disjoint
  exact absurd disjoint (by decide)

end SendBuffer

end LabNetstack
