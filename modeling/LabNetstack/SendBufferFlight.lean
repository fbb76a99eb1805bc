import LabNetstack.SendBufferHanded

/-! The counter of bytes in flight against the bytes that are still queued. -/

namespace LabNetstack

namespace SendBuffer

/-! A sender beside the number of bytes removed so far and the stretches of the
stream that its segments carried since the last `retransmit`. -/

structure Carried where
  sender : SendBuffer
  removed : Nat
  stretches : List (Nat × Nat)

namespace Carried

def start (env : Surroundings) (opening : Opening) : Carried :=
  let sender := opened env opening
  ⟨sender, 0, sender.calls.map (Handed.stretch 0 sender)⟩

-- a `retransmit` sends again from the first unacknowledged byte
def kept (carried : Carried) : SendEvent → List (Nat × Nat)
  | .retransmit _ => []
  | _ => carried.stretches

def step (env : Surroundings) (carried : Carried) (event : SendEvent) : Carried :=
  let sender := carried.sender.step env event
  let removed := carried.removed + carried.sender.removedBy (.call event)
  { sender := sender
    removed := removed
    stretches := carried.kept event ++
      (carried.sender.emitted env event).map (Handed.stretch removed sender) }

def inside (place : Nat) (stretch : Nat × Nat) : Bool :=
  decide (stretch.1 ≤ place) && decide (place < stretch.2)

def carriedAt (carried : Carried) (place : Nat) : Bool := carried.stretches.any (inside place)

-- every number that the acknowledgment newly covers is that of a byte carried since then
def covers (carried : Carried) : SendEvent → Prop
  | .acknowledge ack _ =>
      ∀ offset < (carried.sender.consumedBy ack).toNat,
        carried.carriedAt (carried.removed + offset) = true
  | _ => True

/-- The counter is within the queue, and the bytes of the queue that were carried are the first
`bytesInFlight` of them. -/
structure Balanced (carried : Carried) : Prop where
  within : carried.sender.bytesInFlight.toNat ≤ carried.sender.buffer.remaining
  places : ∀ place, carried.removed ≤ place →
    (carried.carriedAt place = true ↔
      place < carried.removed + carried.sender.bytesInFlight.toNat)

theorem inside_iff {place : Nat} {stretch : Nat × Nat} :
    inside place stretch = true ↔ stretch.1 ≤ place ∧ place < stretch.2 := by
  rw [inside, Bool.and_eq_true, decide_eq_true_eq, decide_eq_true_eq]

theorem start_balanced (env : Surroundings) (opening : Opening) :
    (start env opening).Balanced := by
  have none : (opened env opening).bytesInFlight.toNat = 0 := by
    rw [opened_eq, transmitSYN_bytesInFlight]
    rfl
  have silent : ∀ call ∈ (opened env opening).calls, call.segment.payload = [] := by
    obtain ⟨call, calls, _, opens⟩ := transmitSYN_calls env (ready opening)
    rw [opened_eq, calls]
    simpa [ready] using opens.payload
  refine ⟨?_, fun place _ => iff_of_false ?_ ?_⟩
  · simp only [start, none, Nat.zero_le]
  · simp only [carriedAt, start, List.any_map, List.any_eq_true, Function.comp_apply, inside_iff,
      Handed.stretch]
    rintro ⟨call, member, from_, before⟩
    rw [silent call member, List.length_nil] at before
    omega
  · simp only [start, none]
    omega

section Steps

variable {carried : Carried} {event : SendEvent} {env : Surroundings}

theorem carriedAt_step (place : Nat) :
    (carried.step env event).carriedAt place = true ↔
      (carried.kept event).any (inside place) = true ∨
      ∃ call ∈ carried.sender.handedOver env (.call event),
        (carried.step env event).removed + (carried.sender.booked event).offsetOf call ≤ place ∧
        place < (carried.step env event).removed + (carried.sender.booked event).offsetOf call +
          call.segment.payload.length := by
  have same : (carried.sender.step env event).acknowledgedFrom =
      (carried.sender.booked event).acknowledgedFrom :=
    react_acknowledgedFrom env carried.sender (.call event)
  simp only [carriedAt, step, List.any_append, Bool.or_eq_true, List.any_map, List.any_eq_true,
    Function.comp_apply, inside_iff, Handed.stretch, offsetOf, same]
  rfl

/-- The same of the books of an event, before anything is sent. -/
structure Booked (carried : Carried) (event : SendEvent) : Prop where
  within : (carried.sender.booked event).bytesInFlight.toNat ≤
    (carried.sender.booked event).buffer.remaining
  places : ∀ place, carried.removed + carried.sender.removedBy (.call event) ≤ place →
    ((carried.kept event).any (inside place) = true ↔
      place < carried.removed + carried.sender.removedBy (.call event) +
        (carried.sender.booked event).bytesInFlight.toNat)

theorem Balanced.booked_quiet (balanced : carried.Balanced)
    (flight : (carried.sender.booked event).bytesInFlight = carried.sender.bytesInFlight)
    (room : carried.sender.buffer.remaining ≤ (carried.sender.booked event).buffer.remaining)
    (stays : carried.sender.removedBy (.call event) = 0)
    (keeps : carried.kept event = carried.stretches) : carried.Booked event := by
  refine ⟨?_, ?_⟩
  · rw [flight]
    exact Nat.le_trans balanced.within room
  · rw [flight, stays, keeps]
    exact balanced.places

/-- A covered acknowledgment is of no more numbers than the counter has. -/
theorem Balanced.consumed_le_iff (balanced : carried.Balanced) {ack : SequenceNumber}
    {now : TimeBase} : carried.covers (.acknowledge ack now) ↔
      (carried.sender.consumedBy ack).toNat ≤ carried.sender.bytesInFlight.toNat := by
  have places := fun offset => balanced.places (carried.removed + offset) (Nat.le_add_right _ _)
  constructor
  · intro covers
    by_contra above
    -- the byte just past the counter was not carried
    have past := (places _).mp (covers carried.sender.bytesInFlight.toNat (Nat.lt_of_not_le above))
    exact Nat.lt_irrefl _ past
  · intro enough offset covered
    exact (places offset).mpr (by omega)

theorem Balanced.booked (balanced : carried.Balanced) (covers : carried.covers event) :
    carried.Booked event := by
  have within := balanced.within
  cases event with
  | acknowledge ack now =>
      have enough := balanced.consumed_le_iff.mp covers
      have left : (carried.sender.booked (.acknowledge ack now)).bytesInFlight.toNat =
          carried.sender.bytesInFlight.toNat - (carried.sender.consumedBy ack).toNat := by
        change (carried.sender.bytesInFlight - (carried.sender.consumedBy ack).toUInt64).toNat = _
        rw [UInt64.toNat_sub_of_le, UInt32.toNat_toUInt64]
        rw [UInt64.le_iff_toNat_le, UInt32.toNat_toUInt64]
        exact enough
      have removed : carried.sender.removedBy (.call (.acknowledge ack now)) =
          (carried.sender.consumedBy ack).toNat := Nat.min_eq_left (Nat.le_trans enough within)
      refine ⟨?_, ?_⟩
      · change _ ≤ (carried.sender.buffer.consume _).remaining
        rw [left, BoundedQueue.consume_remaining]
        omega
      · intro place above
        rw [removed] at above ⊢
        have old := balanced.places place (by omega)
        change carried.carriedAt place = true ↔ _
        rw [old, left]
        omega
  | retransmit now =>
      refine ⟨Nat.zero_le _, fun place above => iff_of_false (by simp [kept]) ?_⟩
      change ¬place < _ + 0
      omega
  | sendData data =>
      refine balanced.booked_quiet rfl ?_ rfl rfl
      change _ ≤ (carried.sender.buffer.write data.bytes).remaining
      rw [BoundedQueue.write_remaining]
      exact Nat.le_add_right _ _
  | sendFIN => exact balanced.booked_quiet rfl (Nat.le_refl _) rfl rfl
  | transmit => exact balanced.booked_quiet rfl (Nat.le_refl _) rfl rfl
  | receive space => exact balanced.booked_quiet rfl (Nat.le_refl _) rfl rfl

theorem Booked.send (booked : carried.Booked event) (env : Surroundings) :
    (carried.step env event).Balanced := by
  refine ⟨step_within env carried.sender event booked.within, fun place above => ?_⟩
  have old := booked.places place above
  rw [carriedAt_step, old]
  cases react_sends env carried.sender (.call event) with
  | bare flight empty =>
      change _ ↔ place < _ + (carried.sender.react env (.call event)).bytesInFlight.toNat
      rw [flight]
      refine or_iff_left ?_
      rintro ⟨call, member, from_, before⟩
      rw [(empty call member).1, List.length_nil] at before
      omega
  | pass established passes =>
      have pass : Pass env _ (carried.sender.handedOver env (.call event)) _ :=
        react_pass established passes
      have flight : (carried.sender.react env (.call event)).bytesInFlight = _ :=
        react_flight passes
      have between := (pass.between booked.within).1
      have covers := pass.covers established booked.within
        (place - (carried.step env event).removed)
      rw [← flight] at between covers
      change (carried.sender.booked event).bytesInFlight.toNat ≤
        (carried.sender.step env event).bytesInFlight.toNat at between
      change (∃ call ∈ _, (carried.sender.booked event).offsetOf call ≤ _ ∧
          _ < (carried.sender.booked event).offsetOf call + _) ↔
        (carried.sender.booked event).bytesInFlight.toNat ≤ _ ∧
          _ < (carried.sender.step env event).bytesInFlight.toNat at covers
      have shifted : ∀ call : PacketCall,
          (carried.step env event).removed + (carried.sender.booked event).offsetOf call ≤ place ∧
            place < (carried.step env event).removed +
              (carried.sender.booked event).offsetOf call + call.segment.payload.length ↔
          (carried.sender.booked event).offsetOf call ≤
              place - (carried.step env event).removed ∧
            place - (carried.step env event).removed <
              (carried.sender.booked event).offsetOf call + call.segment.payload.length := by
        intro call
        omega
      simp only [shifted, covers]
      change place < (carried.step env event).removed + _ ∨ _ ↔
        place < _ + (carried.sender.step env event).bytesInFlight.toNat
      omega

end Steps

/-- An acknowledgment of anything else wraps the counter, and no send undoes it. -/
theorem Balanced.wraps {carried : Carried} (balanced : carried.Balanced) (env : Surroundings)
    (event : SendEvent) (uncovered : ¬carried.covers event) :
    (carried.sender.step env event).buffer.remaining <
      (carried.sender.step env event).bytesInFlight.toNat := by
  have within := balanced.within
  cases event with
  | acknowledge ack now =>
      have above : carried.sender.bytesInFlight.toNat < (carried.sender.consumedBy ack).toNat :=
        Nat.lt_of_not_le (mt balanced.consumed_le_iff.mpr uncovered)
      have small := (carried.sender.consumedBy ack).toNat_lt
      have wrapped : (carried.sender.booked (.acknowledge ack now)).bytesInFlight.toNat =
          2 ^ 64 + carried.sender.bytesInFlight.toNat -
            (carried.sender.consumedBy ack).toNat := by
        change (carried.sender.bytesInFlight - (carried.sender.consumedBy ack).toUInt64).toNat = _
        rw [UInt64.toNat_sub, UInt32.toNat_toUInt64]
        omega
      have closed : ¬(carried.sender.booked (.acknowledge ack now)).bytesInFlight <
          kMaxBytesInFlight := by
        rw [UInt64.lt_iff_toNat_lt, wrapped, kMaxBytesInFlight_toNat]
        omega
      have bound : (carried.sender.step env (.acknowledge ack now)).buffer.remaining ≤ 262144 :=
        BoundedQueue.remaining_le _
      rw [step_closed env carried.sender _ closed, wrapped]
      omega
  | sendData data => exact absurd trivial uncovered
  | sendFIN => exact absurd trivial uncovered
  | transmit => exact absurd trivial uncovered
  | retransmit now => exact absurd trivial uncovered
  | receive space => exact absurd trivial uncovered

theorem run_sender (env : Surroundings) (carried : Carried) (events : List SendEvent) :
    (runEvents (Carried.step env) carried events).sender = carried.sender.run env events :=
  runEvents_project Carried.sender (fun _ _ => rfl) carried events

theorem Balanced.within_iff {carried : Carried} (balanced : carried.Balanced)
    (env : Surroundings) (events : List SendEvent) :
    (∀ before, before <+: events →
      (carried.sender.run env before).bytesInFlight.toNat ≤
        (carried.sender.run env before).buffer.remaining) ↔
      Permitted (Carried.step env) covers carried events := by
  have always := always_iff (motive := Balanced)
    (fun carried => carried.sender.bytesInFlight.toNat ≤ carried.sender.buffer.remaining)
    (fun _ balanced => balanced.within)
    (fun _ event balanced _ covered => (balanced.booked covered).send env)
    (fun _ event balanced _ uncovered =>
      Nat.not_le.mpr (balanced.wraps env event uncovered))
    balanced (permitted_true (Carried.step env) carried events)
  simpa only [run_sender] using always

end Carried

/-- The counter stays within the queue over a run exactly when every number that an acknowledgment
newly covers is that of a byte which a segment has carried since the last `retransmit`. -/
theorem bytesInFlight_within_iff (env : Surroundings) (opening : Opening)
    (events : List SendEvent) :
    (∀ before, before <+: events →
      ((opened env opening).run env before).bytesInFlight.toNat ≤
        ((opened env opening).run env before).buffer.remaining) ↔
      Permitted (Carried.step env) Carried.covers (Carried.start env opening) events :=
  (Carried.start_balanced env opening).within_iff env events

/-! A peer acknowledges only numbers it may have received. -/

def transmitted (self : SendBuffer) : List SequenceNumber :=
  self.calls.flatMap fun call => occupied call.segment

def acknowledgesTransmitted (self : SendBuffer) : SendEvent → Bool
  | .acknowledge ack _ =>
      (List.range (ack - self.tcb.send.unack).toNat).all fun index =>
        self.transmitted.contains (self.tcb.send.unack + UInt32.ofNat index)
  | _ => true

def emptyClose : List SendEvent := [.acknowledge 0 10, .sendFIN, .acknowledge 1 20]

theorem emptyClose_wraps :
    Permitted (step quietHost) (fun state event => state.acknowledgesTransmitted event = true)
        (opened quietHost sampleOpening) emptyClose ∧
      ((opened quietHost sampleOpening).run quietHost emptyClose).bytesInFlight.toNat = 2 ^ 64 - 1 ∧
      ((opened quietHost sampleOpening).run quietHost emptyClose).buffer.remaining = 0 := by
  refine ⟨⟨rfl, rfl, rfl, trivial⟩, ?_, ?_⟩
  · decide
  · decide

end SendBuffer

end LabNetstack
