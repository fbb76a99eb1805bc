import LabNetstack.SendBufferPass
import LabNetstack.SendBufferTimer

/-! What a send buffer has handed to the IP layer against what is acknowledged,
in places of the byte stream. -/

namespace LabNetstack

namespace SendBuffer

/-! One event of a sender is its books, then at most one pass of `transmit`. -/

def react (env : Surroundings) (self : SendBuffer) : TimerEvent → SendBuffer
  | .sendSYN initial => self.sendSYN env initial
  | .call event => self.step env event
  | .fire now => self.fire env now

def handedOver (env : Surroundings) (self : SendBuffer) (event : TimerEvent) : List PacketCall :=
  (self.react env event).calls.drop self.calls.length

def entered (self : SendBuffer) : TimerEvent → SendBuffer
  | .sendSYN initial => self.synchronized initial
  | .call event => self.booked event
  | .fire _ => { self with bytesInFlight := if self.alarm.isSet then 0 else self.bytesInFlight }

def passes (self : SendBuffer) : TimerEvent → Bool
  | .sendSYN _ => true
  | .call event => self.sends event
  | .fire _ => self.alarm.isSet

section Events

variable (env : Surroundings) (self : SendBuffer) (event : TimerEvent)

theorem react_eq : ∃ alarm failedChecks, self.react env event =
    (if self.passes event then (self.entered event).transmit env
      else self.entered event).withNotes alarm failedChecks := by
  cases event with
  | sendSYN initial =>
      have frame := transmit_frame env (self.synchronized initial)
      exact ⟨_, _, (sendSYN_eq env self initial).trans frame.withNotes_eq.symm⟩
  | call event => exact ⟨_, _, step_eq env self event⟩
  | fire now =>
      have fires : self.react env (.fire now) = _ := fire_eq env self now
      cases isSet : self.alarm.isSet with
      | true =>
          simp only [passes, entered, isSet, ↓reduceIte] at fires ⊢
          exact ⟨_, _, fires⟩
      | false =>
          simp only [passes, entered, isSet, Bool.false_eq_true, ↓reduceIte] at fires ⊢
          exact ⟨self.alarm, self.failedChecks, fires⟩

theorem entered_calls : (self.entered event).calls = self.calls := by
  cases event with
  | sendSYN initial => rfl
  | call event => exact booked_calls self event
  | fire now => rfl

theorem react_frame : ∃ sent alarm failedChecks, Frame (self.entered event) sent ∧
    self.react env event = sent.withNotes alarm failedChecks := by
  obtain ⟨alarm, failedChecks, reacts⟩ := react_eq env self event
  refine ⟨_, alarm, failedChecks, ?_, reacts⟩
  split
  · exact transmit_frame env (self.entered event)
  · exact Frame.refl (self.entered event)

theorem react_buffer : (self.react env event).buffer = (self.entered event).buffer := by
  obtain ⟨sent, alarm, failedChecks, frame, reacts⟩ := react_frame env self event
  rw [reacts]
  exact frame.buffer

theorem react_tcb : (self.react env event).tcb = (self.entered event).tcb := by
  obtain ⟨sent, alarm, failedChecks, frame, reacts⟩ := react_frame env self event
  rw [reacts]
  exact frame.tcb

theorem react_syn : (self.react env event).syn = (self.entered event).syn := by
  obtain ⟨sent, alarm, failedChecks, frame, reacts⟩ := react_frame env self event
  rw [reacts]
  exact frame.syn

theorem react_fin : (self.react env event).fin = (self.entered event).fin := by
  obtain ⟨sent, alarm, failedChecks, frame, reacts⟩ := react_frame env self event
  rw [reacts]
  exact frame.fin

theorem react_calls : (self.react env event).calls = self.calls ++ self.handedOver env event := by
  obtain ⟨sent, alarm, failedChecks, frame, reacts⟩ := react_frame env self event
  obtain ⟨added, calls⟩ := frame.calls
  have grown : (self.react env event).calls = self.calls ++ added := by
    rw [reacts, ← entered_calls self event]
    exact calls
  rw [handedOver, grown, List.drop_left]

theorem react_acknowledgedFrom :
    (self.react env event).acknowledgedFrom = (self.entered event).acknowledgedFrom := by
  simp only [acknowledgedFrom, react_syn, react_tcb]

/-- What an event sends: nothing or a SYN, or the segments of one pass. -/
inductive Sends : Prop where
  | bare (flight : (self.react env event).bytesInFlight = (self.entered event).bytesInFlight)
      (empty : ∀ call ∈ self.handedOver env event,
        call.segment.payload = [] ∧ call.segment.isFIN = false)
  | pass (established : (self.entered event).syn = .acked) (passes : self.passes event = true)

variable {env self event}

theorem handedOver_of_calls (passes : self.passes event = true) {added : List PacketCall}
    (calls : ((self.entered event).transmit env).calls = (self.entered event).calls ++ added) :
    self.handedOver env event = added := by
  obtain ⟨alarm, failedChecks, reacts⟩ := react_eq env self event
  rw [handedOver, reacts, passes]
  simp only [withNotes, ↓reduceIte]
  rw [calls, entered_calls, List.drop_left]

theorem react_flight (passes : self.passes event = true) :
    (self.react env event).bytesInFlight = ((self.entered event).transmit env).bytesInFlight := by
  obtain ⟨alarm, failedChecks, reacts⟩ := react_eq env self event
  rw [reacts, passes]
  rfl

theorem react_pass (established : (self.entered event).syn = .acked)
    (passes : self.passes event = true) :
    Pass env (self.entered event) (self.handedOver env event)
      ((self.entered event).transmit env) := by
  obtain ⟨calls, pass⟩ := transmit_pass env (self.entered event) established
  rw [handedOver_of_calls passes pass.calls_eq]
  exact pass

theorem react_opening (pendingSYN : (self.entered event).syn = .sent)
    (passes : self.passes event = true) : ∃ call, self.handedOver env event = [call] ∧
      OpeningSegment (self.entered event).tcb.send.initial (self.entered event).tcb.receive
        call.segment := by
  obtain ⟨call, calls, _, opening⟩ := transmitSYN_calls env (self.entered event)
  refine ⟨call, handedOver_of_calls passes ?_, opening⟩
  simpa only [transmit_eq, pendingSYN] using calls

variable (env self event)

theorem react_sends : Sends env self event := by
  cases passes : self.passes event with
  | false =>
      obtain ⟨alarm, failedChecks, reacts⟩ := react_eq env self event
      rw [passes] at reacts
      refine Sends.bare ?_ ?_
      · rw [reacts]
        rfl
      · rw [handedOver, reacts]
        simp [withNotes, entered_calls]
  | true =>
      have flight : (self.react env event).bytesInFlight = _ := react_flight passes
      cases phase : (self.entered event).syn with
      | none =>
          have same : (self.entered event).transmit env = self.entered event := by
            simp only [transmit_eq, phase]
          have silent : self.handedOver env event = [] :=
            handedOver_of_calls passes (by rw [same, List.append_nil])
          exact Sends.bare (by rw [flight, same]) (by simp [silent])
      | sent =>
          obtain ⟨call, calls, opening⟩ := @react_opening env self event phase passes
          refine Sends.bare ?_ ?_
          · rw [flight]
            simp only [transmit_eq, phase, transmitSYN_bytesInFlight]
          · rw [calls]
            simpa using ⟨opening.payload, opening.isFIN⟩
      | acked => exact Sends.pass phase passes

end Events

-- the bytes an event takes out of the queue
def removedBy (self : SendBuffer) : TimerEvent → Nat
  | .call (.acknowledge ack _) => min (self.consumedBy ack).toNat self.buffer.remaining
  | _ => 0

-- how far `send.next` is ahead of the first unacknowledged data byte
def ahead (self : SendBuffer) : Nat := (self.tcb.send.next - self.acknowledgedFrom).toNat

theorem consumed_le_ahead {self : SendBuffer} {ack : SequenceNumber}
    (inRange : self.ackInRange ack = true) : (self.consumedBy ack).toNat ≤ self.ahead :=
  UInt32.le_iff_toNat_le.mp ((ackInRange_iff self ack).mp inRange).2

-- a FIN is under way and no byte is left, nor will be
def Drained (self : SendBuffer) : Prop := self.buffer.remaining = 0 ∧ self.fin ≠ .none

theorem acknowledge_from (self : SendBuffer) (ack : SequenceNumber) (now : TimeBase) :
    (self.entered (.call (.acknowledge ack now))).acknowledgedFrom = self.acknowledgedFrom +
      UInt32.ofNat (min (self.consumedBy ack).toNat self.buffer.remaining) +
        if self.acknowledgesFIN ack then 1 else 0 := by
  have settled : (self.entered (.call (.acknowledge ack now))).syn ≠ .sent :=
    self.syn.acknowledged_settled
  rw [acknowledgedFrom, if_neg (by simpa using settled)]
  rfl

theorem Drained.react {self : SendBuffer} (drained : self.Drained) {event : TimerEvent}
    (open_ : ∀ data, event = .call (.sendData data) → self.fin = .none) (env : Surroundings) :
    (self.react env event).Drained := by
  obtain ⟨empty, closing⟩ := drained
  rw [Drained, react_buffer, react_fin]
  cases event with
  | sendSYN initial => exact ⟨empty, closing⟩
  | fire now => exact ⟨empty, closing⟩
  | call event =>
      cases event with
      | sendData data => exact absurd (open_ data rfl) closing
      | sendFIN => exact ⟨empty, by simp [entered, booked]⟩
      | acknowledge ack now =>
          refine ⟨?_, ?_⟩
          · change (self.buffer.consume _).remaining = 0
            rw [BoundedQueue.consume_remaining, empty, Nat.zero_sub]
          · change (if self.acknowledgesFIN ack then CtlState.acked else self.fin) ≠ .none
            split
            · decide
            · exact closing
      | transmit => exact ⟨empty, closing⟩
      | retransmit now => exact ⟨empty, closing⟩
      | receive space => exact ⟨empty, closing⟩

/-! A sender beside the number of bytes removed so far, the stretches of the
stream its segments carried, and the furthest place its counter has reached. -/

structure Handed where
  sender : SendBuffer
  removed : Nat
  stretches : List (Nat × Nat)
  furthest : Nat

namespace Handed

def start (factory : SegmentFactory) (tcb : ControlBlock) (now : TimeBase) : Handed :=
  ⟨create factory tcb now, 0, [], 0⟩

def stretch (removed : Nat) (sender : SendBuffer) (call : PacketCall) : Nat × Nat :=
  let first := removed + sender.offsetOf call
  (first, first + call.segment.payload.length)

def step (env : Surroundings) (handed : Handed) (event : TimerEvent) : Handed :=
  let sender := handed.sender.react env event
  let removed := handed.removed + handed.sender.removedBy event
  { sender := sender
    removed := removed
    stretches := handed.stretches ++ (handed.sender.handedOver env event).map (stretch removed sender)
    furthest := max handed.furthest (removed +
      if sender.bytesInFlight.toNat ≤ sender.buffer.remaining then sender.bytesInFlight.toNat else 0) }

def carriedAt (handed : Handed) (place : Nat) : Bool :=
  handed.stretches.any fun stretch => decide (stretch.1 ≤ place) && decide (place < stretch.2)

-- the books of an event, before anything is sent
def book (handed : Handed) (event : TimerEvent) : Handed :=
  let removed := handed.removed + handed.sender.removedBy event
  { handed with
    sender := handed.sender.entered event
    removed := removed
    furthest := max handed.furthest removed }

/-- The bytes carried are those before the furthest place. The counter is behind
it, or it has wrapped and keeps the window shut. -/
structure Tracked (handed : Handed) (slack : Nat) : Prop where
  behind : handed.removed ≤ handed.furthest
  queued : handed.furthest ≤ handed.removed + handed.sender.buffer.remaining
  flight : handed.removed + handed.sender.bytesInFlight.toNat ≤ handed.furthest ∨
    2 ^ 64 + (handed.furthest - handed.removed) ≤
      handed.sender.bytesInFlight.toNat + 262145 + slack
  carried : ∀ place, handed.removed ≤ place →
    (handed.carriedAt place = true ↔ place < handed.furthest)

section Steps

variable {handed : Handed} {slack : Nat} {event : TimerEvent} {env : Surroundings}

theorem step_behind : (handed.step env event).removed ≤ (handed.step env event).furthest :=
  Nat.le_trans (Nat.le_add_right _ _) (Nat.le_max_right _ _)

theorem book_removed (keeps : handed.sender.removedBy event = 0) :
    (handed.book event).removed = handed.removed := by
  simp only [Handed.book, keeps, Nat.add_zero]

theorem Tracked.book_furthest (tracked : handed.Tracked slack)
    (keeps : handed.sender.removedBy event = 0) :
    (handed.book event).furthest = handed.furthest := by
  simp only [Handed.book, keeps, Nat.add_zero]
  exact Nat.max_eq_left tracked.behind

theorem Tracked.book_quiet (tracked : handed.Tracked slack)
    (keeps : handed.sender.removedBy event = 0)
    (room : handed.sender.buffer.remaining ≤ (handed.sender.entered event).buffer.remaining)
    (counter : (handed.sender.entered event).bytesInFlight = handed.sender.bytesInFlight ∨
      (handed.sender.entered event).bytesInFlight = 0) : (handed.book event).Tracked slack := by
  have removed := book_removed keeps
  have furthest := tracked.book_furthest keeps
  refine ⟨?_, ?_, ?_, ?_⟩
  · rw [removed, furthest]
    exact tracked.behind
  · rw [removed, furthest]
    exact Nat.le_trans tracked.queued (Nat.add_le_add_left room _)
  · rw [removed, furthest]
    change handed.removed + (handed.sender.entered event).bytesInFlight.toNat ≤ _ ∨
      _ ≤ (handed.sender.entered event).bytesInFlight.toNat + _ + _
    rcases counter with same | zero
    · rw [same]
      exact tracked.flight
    · rw [zero]
      exact Or.inl tracked.behind
  · rw [removed, furthest]
    exact tracked.carried

/-- An acknowledgment that goes no further than the carried bytes, or `extra`
numbers past them, leaves the counter behind them or wraps it. -/
theorem Tracked.book_acknowledge {ack : SequenceNumber} {now : TimeBase} {extra : Nat}
    (tracked : handed.Tracked slack) (small : slack ≤ 1) (single : extra ≤ 1)
    (covered : handed.removed + (handed.sender.consumedBy ack).toNat ≤ handed.furthest + extra) :
    (handed.book (.call (.acknowledge ack now))).Tracked (slack + extra) := by
  have bound := handed.sender.remaining_lt
  have behind := tracked.behind
  have queued := tracked.queued
  have flight := tracked.flight
  have counter := handed.sender.bytesInFlight.toNat_lt
  have removed : (handed.book (.call (.acknowledge ack now))).removed = handed.removed +
    min (handed.sender.consumedBy ack).toNat handed.sender.buffer.remaining := rfl
  have furthest : (handed.book (.call (.acknowledge ack now))).furthest =
    max handed.furthest (handed.removed +
      min (handed.sender.consumedBy ack).toNat handed.sender.buffer.remaining) := rfl
  have remaining : (handed.book (.call (.acknowledge ack now))).sender.buffer.remaining =
      handed.sender.buffer.remaining - (handed.sender.consumedBy ack).toNat :=
    BoundedQueue.consume_remaining _ _
  have left : (handed.book (.call (.acknowledge ack now))).sender.bytesInFlight.toNat =
      (2 ^ 64 + handed.sender.bytesInFlight.toNat - (handed.sender.consumedBy ack).toNat) %
        2 ^ 64 := by
    change (handed.sender.bytesInFlight - (handed.sender.consumedBy ack).toUInt64).toNat = _
    rw [UInt64.toNat_sub, UInt32.toNat_toUInt64]
    omega
  refine ⟨?_, ?_, ?_, ?_⟩
  · rw [removed, furthest]
    exact Nat.le_max_right _ _
  · rw [removed, furthest, remaining]
    exact Nat.max_le.mpr ⟨by omega, by omega⟩
  · rw [removed, furthest, left]
    omega
  · intro place above
    rw [removed] at above
    rw [furthest, lt_max_iff]
    have old := tracked.carried place (by omega)
    change handed.carriedAt place = true ↔ _
    rw [old]
    omega

theorem carriedAt_step (place : Nat) :
    (handed.step env event).carriedAt place = true ↔ handed.carriedAt place = true ∨
      ∃ call ∈ handed.sender.handedOver env event,
        (handed.book event).removed + (handed.sender.entered event).offsetOf call ≤ place ∧
        place < (handed.book event).removed + (handed.sender.entered event).offsetOf call +
          call.segment.payload.length := by
  simp only [carriedAt, step, List.any_append, Bool.or_eq_true, List.any_map, List.any_eq_true,
    Function.comp_apply, stretch, Bool.and_eq_true, decide_eq_true_eq, offsetOf,
    react_acknowledgedFrom]
  rfl

theorem Tracked.furthest_bare (tracked : (handed.book event).Tracked slack) (small : slack ≤ 1)
    (flight : (handed.sender.react env event).bytesInFlight =
      (handed.sender.entered event).bytesInFlight) :
    (handed.step env event).furthest = (handed.book event).furthest := by
  have bound := (handed.book event).sender.remaining_lt
  have behind : (handed.book event).removed ≤ _ := tracked.behind
  have counter := tracked.flight
  have furthest : (handed.book event).furthest = max handed.furthest (handed.book event).removed := rfl
  change max handed.furthest ((handed.book event).removed +
    if (handed.sender.react env event).bytesInFlight.toNat ≤
      (handed.sender.react env event).buffer.remaining then
        (handed.sender.react env event).bytesInFlight.toNat else 0) = _
  rw [react_buffer, flight]
  change max handed.furthest ((handed.book event).removed +
    if (handed.book event).sender.bytesInFlight.toNat ≤
      (handed.book event).sender.buffer.remaining then
        (handed.book event).sender.bytesInFlight.toNat else 0) = _
  split <;> omega

theorem furthest_pass (inside : (handed.sender.react env event).bytesInFlight.toNat ≤
      (handed.sender.entered event).buffer.remaining) :
    (handed.step env event).furthest = max (handed.book event).furthest
      ((handed.book event).removed + (handed.sender.react env event).bytesInFlight.toNat) := by
  change max handed.furthest ((handed.book event).removed +
    if (handed.sender.react env event).bytesInFlight.toNat ≤
      (handed.sender.react env event).buffer.remaining then
        (handed.sender.react env event).bytesInFlight.toNat else 0) =
    max (max handed.furthest (handed.book event).removed) _
  rw [react_buffer, if_pos inside]
  omega

theorem Tracked.send_bare (tracked : (handed.book event).Tracked slack) (small : slack ≤ 1)
    (flight : (handed.sender.react env event).bytesInFlight =
      (handed.sender.entered event).bytesInFlight)
    (empty : ∀ call ∈ handed.sender.handedOver env event, call.segment.payload = []) :
    (handed.step env event).Tracked slack := by
  have buffer : (handed.step env event).sender.buffer = (handed.book event).sender.buffer :=
    react_buffer env handed.sender event
  have counter : (handed.step env event).sender.bytesInFlight =
    (handed.book event).sender.bytesInFlight := flight
  have furthest := tracked.furthest_bare small flight
  refine ⟨step_behind, ?_, ?_, ?_⟩
  · rw [furthest, buffer]
    exact tracked.queued
  · rw [furthest, counter]
    exact tracked.flight
  · intro place above
    rw [furthest, ← tracked.carried place above, carriedAt_step]
    refine or_iff_left ?_
    rintro ⟨call, member, from_, before⟩
    rw [empty call member, List.length_nil] at before
    omega

theorem Tracked.send_pass (tracked : (handed.book event).Tracked slack)
    (established : (handed.sender.entered event).syn = .acked)
    (passes : handed.sender.passes event = true)
    (behind : (handed.book event).removed + (handed.book event).sender.bytesInFlight.toNat ≤
      (handed.book event).furthest) :
    (handed.step env event).Tracked slack := by
  have pass : Pass env _ (handed.sender.handedOver env event) _ := react_pass established passes
  have flight : (handed.sender.react env event).bytesInFlight = _ := react_flight passes
  have buffer : (handed.step env event).sender.buffer = (handed.book event).sender.buffer :=
    react_buffer env handed.sender event
  have queued := tracked.queued
  have within : (handed.book event).sender.bytesInFlight.toNat ≤
    (handed.book event).sender.buffer.remaining := by omega
  have between := pass.between within
  rw [← flight] at between
  have furthest := furthest_pass between.2
  change _ ∧ _ ≤ (handed.book event).sender.buffer.remaining at between
  refine ⟨step_behind, ?_, ?_, ?_⟩
  · rw [furthest, buffer]
    change _ ≤ (handed.book event).removed + _
    omega
  · rw [furthest]
    exact Or.inl (Nat.le_max_right _ _)
  · intro place above
    change (handed.book event).removed ≤ place at above
    have covers := pass.covers established within (place - (handed.book event).removed)
    rw [← flight] at covers
    have old := tracked.carried place above
    change handed.carriedAt place = true ↔ _ at old
    have shifted : ∀ call : PacketCall,
        (handed.book event).removed + (handed.sender.entered event).offsetOf call ≤ place ∧
          place < (handed.book event).removed + (handed.sender.entered event).offsetOf call +
            call.segment.payload.length ↔
        (handed.sender.entered event).offsetOf call ≤ place - (handed.book event).removed ∧
          place - (handed.book event).removed < (handed.sender.entered event).offsetOf call +
            call.segment.payload.length := by
      intro call
      omega
    simp only [carriedAt_step, old, furthest, shifted, covers, lt_max_iff]
    change _ ∨ (handed.book event).sender.bytesInFlight.toNat ≤ _ ∧ _ ↔ _
    omega

-- a wrapped counter closes the window, so only a counter behind the furthest place moves
theorem Tracked.moves (tracked : (handed.book event).Tracked slack) (small : slack ≤ 1)
    (env : Surroundings) :
    ((handed.sender.react env event).bytesInFlight = (handed.sender.entered event).bytesInFlight ∧
      ∀ call ∈ handed.sender.handedOver env event,
        call.segment.payload = [] ∧ call.segment.isFIN = false) ∨
    ((handed.sender.entered event).syn = .acked ∧ handed.sender.passes event = true ∧
      (handed.book event).removed + (handed.book event).sender.bytesInFlight.toNat ≤
        (handed.book event).furthest) := by
  cases react_sends env handed.sender event with
  | bare flight empty => exact Or.inl ⟨flight, empty⟩
  | pass established passes =>
      rcases tracked.flight with behind | wrapped
      · exact Or.inr ⟨established, passes, behind⟩
      · have full : ¬(handed.sender.entered event).bytesInFlight < kMaxBytesInFlight := by
          rw [UInt64.lt_iff_toNat_lt, kMaxBytesInFlight_toNat]
          change 2 ^ 64 + _ ≤ (handed.sender.entered event).bytesInFlight.toNat + _ + _ at wrapped
          omega
        have pass : Pass env _ (handed.sender.handedOver env event) _ :=
          react_pass established passes
        obtain ⟨silent, same⟩ := pass.of_full full
        exact Or.inl ⟨by rw [react_flight passes, same], by simp [silent]⟩

/-- Sending keeps the records: the counter runs over the bytes that are carried. -/
theorem Tracked.send (tracked : (handed.book event).Tracked slack) (small : slack ≤ 1)
    (env : Surroundings) : (handed.step env event).Tracked slack := by
  rcases tracked.moves small env with ⟨flight, empty⟩ | ⟨established, passes, behind⟩
  · exact tracked.send_bare small flight fun call member => (empty call member).1
  · exact tracked.send_pass established passes behind

end Steps

theorem start_tracked (factory : SegmentFactory) (tcb : ControlBlock) (now : TimeBase) :
    (start factory tcb now).Tracked 0 := by
  have created : (start factory tcb now).sender.bytesInFlight = 0 := by
    simp only [start, create_eq]
  refine ⟨Nat.le_refl _, Nat.zero_le _, Or.inl ?_, ?_⟩
  · rw [created]
    exact Nat.le_refl _
  · intro place above
    exact iff_of_false (by simp [carriedAt, start]) (Nat.not_lt_zero _)

/-! Acknowledgments in the range of RFC 793, once a SYN has set it up. -/

def inRange (handed : Handed) : TimerEvent → Bool
  | .call (.sendData _) => handed.sender.fin == .none
  | .call (.acknowledge ack _) => handed.sender.syn != .none && handed.sender.ackInRange ack
  | _ => true

def removesCarried (handed : Handed) (event : TimerEvent) : Prop :=
  ∀ offset < handed.sender.removedBy event, handed.carriedAt (handed.removed + offset) = true

def removesBehind (handed : Handed) (event : TimerEvent) : Prop :=
  handed.removed + handed.sender.removedBy event ≤ handed.furthest

instance decidableRemovesBehind (handed : Handed) (event : TimerEvent) :
    Decidable (handed.removesBehind event) := inferInstanceAs (Decidable (_ ≤ _))

theorem sub_add_toNat_le {next from_ moved : SequenceNumber} {remaining : Nat}
    (covered : moved.toNat ≤ (next - from_).toNat) (short : (next - from_).toNat ≤ remaining) :
    (next - (from_ + moved)).toNat ≤ remaining - moved.toNat := by
  have split : next - (from_ + moved) = next - from_ - moved := by grind
  rw [split, UInt32.toNat_sub_of_le _ _ (UInt32.le_iff_toNat_le.mpr covered)]
  omega

theorem add_sub_toNat_le {next from_ : SequenceNumber} {added remaining : Nat}
    (short : (next - from_).toNat ≤ remaining) :
    (next + UInt32.ofNat added - from_).toNat ≤ remaining + added := by
  have split : next + UInt32.ofNat added - from_ = next - from_ + UInt32.ofNat added := by grind
  rw [split, UInt32.toNat_add, UInt32.toNat_ofNat']
  have first := Nat.mod_le ((next - from_).toNat + added % 2 ^ 32) (2 ^ 32)
  have second := Nat.mod_le added (2 ^ 32)
  omega

-- an acknowledgment of a FIN moves one number past what it removes
theorem past_fin {from_ moved : SequenceNumber} {remaining : Nat}
    (covered : moved.toNat ≤ remaining + 1) :
    from_ + UInt32.ofNat (min moved.toNat remaining) + 1 =
      from_ + moved + UInt32.ofNat (min moved.toNat remaining + 1 - moved.toNat) := by
  have bound := moved.toNat_lt
  have word : UInt32.ofNat (min moved.toNat remaining) + 1 =
      moved + UInt32.ofNat (min moved.toNat remaining + 1 - moved.toNat) := by
    rw [← UInt32.toNat_inj]
    simp only [UInt32.toNat_add, UInt32.toNat_ofNat', UInt32.toNat_one]
    omega
  rw [UInt32.add_assoc, word, UInt32.add_assoc]

/-- Before a FIN, what is in range is queued. -/
structure Counted (handed : Handed) : Prop where
  tracked : handed.Tracked 0
  ahead_le : handed.sender.syn ≠ .none → handed.sender.fin = .none →
    handed.sender.ahead ≤ handed.sender.buffer.remaining

def Ranged (handed : Handed) : Prop :=
  handed.removed ≤ handed.furthest ∧ (handed.Counted ∨ handed.sender.Drained)

theorem Ranged.removesCarried_iff {handed : Handed} (ranged : handed.Ranged) (event : TimerEvent) :
    handed.removesCarried event ↔ handed.removesBehind event := by
  obtain ⟨behind, counted | ⟨empty, _⟩⟩ := ranged
  · have carried : ∀ offset, handed.carriedAt (handed.removed + offset) = true ↔
        handed.removed + offset < handed.furthest :=
      fun offset => counted.tracked.carried _ (Nat.le_add_right _ _)
    simp only [removesCarried, removesBehind, carried]
    constructor
    · intro all
      by_cases none : handed.sender.removedBy event = 0
      · omega
      · have last := all (handed.sender.removedBy event - 1) (by omega)
        omega
    · intro inside offset early
      omega
  · have keeps : handed.sender.removedBy event = 0 := by
      unfold removedBy
      split
      · rw [empty, Nat.min_zero]
      · rfl
    simp only [removesCarried, removesBehind, keeps]
    exact iff_of_true (by simp) behind

theorem ranged_of_book {handed : Handed} (event : TimerEvent)
    (tracked : (handed.book event).Tracked 0)
    (ahead_le : (handed.sender.entered event).syn ≠ .none →
      (handed.sender.entered event).fin = .none →
      (handed.sender.entered event).ahead ≤ (handed.sender.entered event).buffer.remaining)
    (env : Surroundings) : (handed.step env event).Ranged := by
  refine ⟨step_behind, Or.inl ⟨tracked.send (by decide) env, ?_⟩⟩
  change (handed.sender.react env event).syn ≠ _ → (handed.sender.react env event).fin = _ →
    (handed.sender.react env event).ahead ≤ (handed.sender.react env event).buffer.remaining
  simp only [ahead, react_syn, react_fin, react_tcb, react_acknowledgedFrom, react_buffer]
  exact ahead_le

theorem Counted.acknowledge {handed : Handed} (counted : handed.Counted) {ack : SequenceNumber}
    {now : TimeBase} (allowed : handed.inRange (.call (.acknowledge ack now)) = true)
    (behind : handed.removesBehind (.call (.acknowledge ack now))) (env : Surroundings) :
    (handed.step env (.call (.acknowledge ack now))).Ranged := by
  simp only [inRange, Bool.and_eq_true, bne_iff_ne] at allowed
  have covered := consumed_le_ahead allowed.2
  have ahead_le := counted.ahead_le allowed.1
  have remaining : (handed.sender.entered (.call (.acknowledge ack now))).buffer.remaining =
      handed.sender.buffer.remaining - (handed.sender.consumedBy ack).toNat :=
    BoundedQueue.consume_remaining _ _
  have fin : (handed.sender.entered (.call (.acknowledge ack now))).fin =
    if handed.sender.acknowledgesFIN ack then .acked else handed.sender.fin := rfl
  simp only [removesBehind, removedBy] at behind
  by_cases part : (handed.sender.consumedBy ack).toNat ≤ handed.sender.buffer.remaining
  · refine ranged_of_book _ (counted.tracked.book_acknowledge (Nat.zero_le _) (Nat.zero_le _)
      (by omega)) ?_ env
    intro _ unsent
    rw [fin] at unsent
    split at unsent
    · exact absurd unsent (by decide)
    · rename_i keeps
      have short := ahead_le unsent
      rw [ahead, acknowledge_from, if_neg keeps, Nat.min_eq_left part, UInt32.add_zero,
        UInt32.ofNat_toNat, remaining]
      exact sub_add_toNat_le covered short
  · have closing : handed.sender.fin ≠ .none := by
      intro unsent
      have short := ahead_le unsent
      omega
    refine ⟨step_behind, Or.inr ⟨?_, ?_⟩⟩
    · change (handed.sender.react env _).buffer.remaining = 0
      rw [react_buffer, remaining]
      omega
    · change (handed.sender.react env _).fin ≠ .none
      rw [react_fin, fin]
      split
      · decide
      · exact closing

theorem Counted.step {handed : Handed} (counted : handed.Counted) {event : TimerEvent}
    (allowed : handed.inRange event = true) (behind : handed.removesBehind event)
    (env : Surroundings) : (handed.step env event).Ranged := by
  have tracked := counted.tracked
  have ahead_le := counted.ahead_le
  cases event with
  | sendSYN initial =>
      refine ranged_of_book (.sendSYN initial)
        (tracked.book_quiet rfl (Nat.le_refl _) (Or.inl rfl)) ?_ env
      intro _ _
      have none : (handed.sender.synchronized initial).ahead = 0 := by
        change (initial + 1 - (initial + 1)).toNat = 0
        rw [UInt32.sub_self]
        rfl
      change (handed.sender.synchronized initial).ahead ≤ _
      rw [none]
      exact Nat.zero_le _
  | fire now =>
      refine ranged_of_book (.fire now) (tracked.book_quiet rfl (Nat.le_refl _) ?_) ahead_le env
      simp only [entered]
      split
      · exact Or.inr rfl
      · exact Or.inl rfl
  | call event =>
      cases event with
      | sendData data =>
          have room : handed.sender.buffer.remaining ≤
              (handed.sender.buffer.write data.bytes).remaining := by simp
          refine ranged_of_book (.call (.sendData data))
            (tracked.book_quiet rfl room (Or.inl rfl)) ?_ env
          intro started unsent
          have short := ahead_le started unsent
          change (handed.sender.tcb.send.next +
            UInt32.ofNat (handed.sender.buffer.accepted data.bytes).length -
              handed.sender.acknowledgedFrom).toNat ≤
              (handed.sender.buffer.write data.bytes).remaining
          rw [BoundedQueue.write_remaining]
          exact add_sub_toNat_le short
      | sendFIN =>
          refine ranged_of_book (.call .sendFIN)
            (tracked.book_quiet rfl (Nat.le_refl _) (Or.inl rfl)) ?_ env
          intro _ unsent
          exact absurd (show CtlState.sent = .none from unsent) (by decide)
      | acknowledge ack now => exact counted.acknowledge allowed behind env
      | transmit =>
          exact ranged_of_book (.call .transmit)
            (tracked.book_quiet rfl (Nat.le_refl _) (Or.inl rfl)) ahead_le env
      | retransmit now =>
          exact ranged_of_book (.call (.retransmit now))
            (tracked.book_quiet rfl (Nat.le_refl _) (Or.inr rfl)) ahead_le env
      | receive space =>
          exact ranged_of_book (.call (.receive space))
            (tracked.book_quiet rfl (Nat.le_refl _) (Or.inl rfl)) ahead_le env

theorem Ranged.step {handed : Handed} (ranged : handed.Ranged) {event : TimerEvent}
    (allowed : handed.inRange event = true) (behind : handed.removesBehind event)
    (env : Surroundings) : (handed.step env event).Ranged := by
  rcases ranged.2 with counted | drained
  · exact counted.step allowed behind env
  · refine ⟨step_behind, Or.inr (drained.react ?_ env)⟩
    rintro data rfl
    exact beq_iff_eq.mp allowed

theorem start_ranged (factory : SegmentFactory) (tcb : ControlBlock) (now : TimeBase) :
    (start factory tcb now).Ranged := by
  refine ⟨Nat.le_refl _, Or.inl ⟨start_tracked factory tcb now, ?_⟩⟩
  intro started
  refine absurd ?_ started
  simp only [start, create_eq]

theorem Ranged.inRange_removesCarried_iff {handed : Handed} (ranged : handed.Ranged)
    (established : handed.sender.syn = .acked) :
    (∀ ack now, handed.sender.ackInRange ack = true →
      handed.removesCarried (.call (.acknowledge ack now))) ↔
      handed.removed + min handed.sender.ahead handed.sender.buffer.remaining ≤ handed.furthest := by
  simp only [ranged.removesCarried_iff, removesBehind, removedBy]
  constructor
  · intro all
    refine all handed.sender.tcb.send.next 0 ?_
    simp [ackInRange, established]
  · intro inside ack now accepted
    have covered := consumed_le_ahead accepted
    omega

end Handed

/-- What in-range acknowledgments remove has been carried exactly when none goes
past the furthest place the counter has reached. Where that was so and the SYN is
acknowledged, every acknowledgment in range is safe exactly when `send.next` is
not ahead of that place. -/
theorem acknowledge_removesCarried_iff (env : Surroundings) (factory : SegmentFactory)
    (tcb : ControlBlock) (now : TimeBase) (events : List TimerEvent)
    (inRange : Permitted (Handed.step env) (fun handed event => handed.inRange event = true)
      (Handed.start factory tcb now) events) :
    (Permitted (Handed.step env) Handed.removesCarried (Handed.start factory tcb now) events ↔
      Permitted (Handed.step env) Handed.removesBehind (Handed.start factory tcb now) events) ∧
    (Permitted (Handed.step env) Handed.removesBehind (Handed.start factory tcb now) events →
      let handed := runEvents (Handed.step env) (Handed.start factory tcb now) events
      handed.sender.syn = .acked →
      ((∀ ack later, handed.sender.ackInRange ack = true →
          handed.removesCarried (.call (.acknowledge ack later))) ↔
        handed.removed + min handed.sender.ahead handed.sender.buffer.remaining ≤
          handed.furthest)) := by
  have start := Handed.start_ranged factory tcb now
  constructor
  · refine permitted_congr (motive := Handed.Ranged) ?_ ?_ start inRange
    · intro handed event ranged _
      exact ranged.removesCarried_iff event
    · intro handed event ranged allowed behind
      exact ranged.step allowed behind env
  · intro behind handed established
    have ranged : handed.Ranged := runEvents_invariant (motive := Handed.Ranged)
      (fun _ _ ranged allowed => ranged.step allowed.1 allowed.2 env) start
      (permitted_and inRange behind)
    exact ranged.inRange_removesCarried_iff established

def sampleStart : Handed := Handed.start sampleOpening.factory sampleOpening.tcb 0

def servedRun : List TimerEvent :=
  [.sendSYN 4294967295, .call (.acknowledge 0 10), .call (.sendData sampleBytes),
    .call (.acknowledge 3 20), .call .sendFIN]

theorem servedRun_removesCarried :
    Permitted (Handed.step quietHost) (fun handed event => handed.inRange event = true)
        sampleStart servedRun ∧
      Permitted (Handed.step quietHost) Handed.removesCarried sampleStart servedRun := by
  have inRange : Permitted (Handed.step quietHost)
      (fun handed event => handed.inRange event = true) sampleStart servedRun := by decide
  refine ⟨inRange, ?_⟩
  refine (acknowledge_removesCarried_iff quietHost sampleOpening.factory sampleOpening.tcb 0
    servedRun inRange).1.mpr ?_
  decide

def earlyRun : List TimerEvent :=
  [.sendSYN 4294967295, .call (.sendData sampleBytes), .call (.acknowledge 3 10)]

theorem earlyRun_removesUncarried :
    Permitted (Handed.step quietHost) (fun handed event => handed.inRange event = true)
        sampleStart earlyRun ∧
      (runEvents (Handed.step quietHost) sampleStart earlyRun).sender.buffer.items = [] ∧
      payloadBytes (runEvents (Handed.step quietHost) sampleStart earlyRun).sender.calls = 0 ∧
      ¬Permitted (Handed.step quietHost) Handed.removesCarried sampleStart earlyRun := by
  refine ⟨by decide, rfl, by decide, ?_⟩
  rintro ⟨_, _, removes, _⟩
  exact absurd (removes 0 (by decide)) (by decide)

end SendBuffer

end LabNetstack
