import LabNetstack.SendBufferHanded

/-! The sending window, and what the timer sends again. -/

namespace LabNetstack

namespace SendBuffer

-- a segment of a pass from the front of the queue ends where the FIN goes
def finOnBoundary (self : SendBuffer) : Bool :=
  decide (self.finOffset ≤ min self.buffer.remaining kMaxBytesInFlight.toNat) &&
    (self.finOffset == self.buffer.remaining ||
      decide (0 < self.finOffset) && self.finOffset % kMaxSegmentSize.toNat == 0)

namespace Handed

/-! Acknowledgments of numbers that some segment has carried, by a peer of a
sender that opens once and closes once. -/

def finCarriedAt (handed : Handed) (number : SequenceNumber) : Bool :=
  handed.sender.calls.any fun call => call.segment.isFIN &&
    call.segment.sequence + UInt32.ofNat call.segment.payload.length == number

def permits (handed : Handed) : TimerEvent → Bool
  | .sendSYN _ => handed.sender.syn == .none
  | .call (.sendData _) => handed.sender.fin == .none
  | .call .sendFIN => handed.sender.fin == .none
  | .call (.acknowledge ack _) => handed.sender.syn != .none &&
      (List.range (handed.sender.consumedBy ack).toNat).all fun offset =>
        handed.carriedAt (handed.removed + offset) ||
          handed.finCarriedAt (handed.sender.acknowledgedFrom + UInt32.ofNat offset)
  | _ => true

theorem permits_acknowledge {handed : Handed} {ack : SequenceNumber} {now : TimeBase} :
    handed.permits (.call (.acknowledge ack now)) = true ↔ handed.sender.syn ≠ .none ∧
      ∀ offset < (handed.sender.consumedBy ack).toNat,
        handed.carriedAt (handed.removed + offset) = true ∨
          handed.finCarriedAt (handed.sender.acknowledgedFrom + UInt32.ofNat offset) = true := by
  change (handed.sender.syn != .none && (List.range (handed.sender.consumedBy ack).toNat).all fun
    offset => handed.carriedAt (handed.removed + offset) ||
      handed.finCarriedAt (handed.sender.acknowledgedFrom + UInt32.ofNat offset)) = true ↔ _
  simp only [Bool.and_eq_true, bne_iff_ne, List.all_eq_true, List.mem_range, Bool.or_eq_true]

def finSlack (fin : CtlState) : Nat := if fin = .acked then 1 else 0

theorem finSlack_le (fin : CtlState) : finSlack fin ≤ 1 := by
  cases fin <;> decide

structure Peered (handed : Handed) : Prop where
  tracked : handed.Tracked (finSlack handed.sender.fin)
  unsynced : handed.sender.syn ≠ .acked → handed.furthest = handed.removed ∧
    ∀ call ∈ handed.sender.calls, call.segment.isFIN = false
  finNumber : ∀ call ∈ handed.sender.calls, call.segment.isFIN = true →
    handed.sender.fin ≠ .none ∧ call.segment.sequence +
      UInt32.ofNat call.segment.payload.length + 1 = handed.sender.tcb.send.next
  -- an acknowledged FIN is behind `unack`, and so are the bytes acknowledged after it
  finished : handed.sender.fin = .acked → handed.sender.syn = .acked ∧
    ∃ past, handed.sender.acknowledgedFrom = handed.sender.tcb.send.next + UInt32.ofNat past ∧
      past + handed.sender.buffer.remaining ≤ 262145

theorem Peered.silent {handed : Handed} (peered : handed.Peered) (unsent : handed.sender.fin = .none) :
    ∀ call ∈ handed.sender.calls, call.segment.isFIN = false := by
  intro call member
  by_contra isFIN
  exact (peered.finNumber call member (by simpa using isFIN)).1 unsent

theorem Peered.consumed {handed : Handed} (peered : handed.Peered) {ack : SequenceNumber}
    {now : TimeBase} (permits : handed.permits (.call (.acknowledge ack now)) = true) :
    handed.removed + (handed.sender.consumedBy ack).toNat ≤ handed.furthest ∨
      handed.removed + (handed.sender.consumedBy ack).toNat = handed.furthest + 1 ∧
        handed.sender.acknowledgesFIN ack = true := by
  have bound := handed.sender.remaining_lt
  have behind := peered.tracked.behind
  have queued := peered.tracked.queued
  have allowed := (permits_acknowledge.mp permits).2
  have uncarried : ∀ offset < (handed.sender.consumedBy ack).toNat,
      handed.furthest ≤ handed.removed + offset → handed.sender.fin ≠ .none ∧
        handed.sender.acknowledgedFrom + UInt32.ofNat offset + 1 = handed.sender.tcb.send.next := by
    intro offset early beyond
    rcases allowed offset early with carried | carriesFIN
    · have inside := (peered.tracked.carried _ (Nat.le_add_right _ _)).mp carried
      omega
    · simp only [finCarriedAt, List.any_eq_true, Bool.and_eq_true, beq_iff_eq] at carriesFIN
      obtain ⟨call, member, isFIN, number⟩ := carriesFIN
      rw [← number]
      exact peered.finNumber call member isFIN
  by_cases inside : handed.removed + (handed.sender.consumedBy ack).toNat ≤ handed.furthest
  · exact Or.inl inside
  · have place : handed.furthest ≤ handed.removed + (handed.furthest - handed.removed) := by omega
    obtain ⟨closing, next⟩ := uncarried (handed.furthest - handed.removed) (by omega) place
    have sent : handed.sender.fin = .sent := by
      cases fin : handed.sender.fin with
      | none => exact absurd fin closing
      | sent => rfl
      | acked =>
          obtain ⟨_, past, from_, short⟩ := peered.finished fin
          have wraps : UInt32.ofNat (past + (handed.furthest - handed.removed) + 1) = 0 := by
            rw [from_] at next
            simp only [UInt32.ofNat_add]
            grind
          have zero := congrArg UInt32.toNat wraps
          simp only [UInt32.toNat_ofNat', UInt32.toNat_zero] at zero
          omega
    have single : (handed.sender.consumedBy ack).toNat = handed.furthest - handed.removed + 1 := by
      by_contra more
      obtain ⟨_, after⟩ := uncarried (handed.furthest - handed.removed + 1) (by omega) (by omega)
      rw [← next] at after
      simp only [UInt32.ofNat_add] at after
      grind
    refine Or.inr ⟨by omega, ?_⟩
    have consumed : handed.sender.consumedBy ack =
        UInt32.ofNat (handed.furthest - handed.removed) + 1 := by
      rw [← UInt32.toNat_inj, single, UInt32.toNat_add, UInt32.toNat_ofNat']
      simp only [UInt32.toNat_one]
      omega
    simp only [acknowledgesFIN, sent, beq_self_eq_true, Bool.true_and, beq_iff_eq]
    rw [← next]
    rw [consumedBy] at consumed
    grind

theorem Peered.acknowledge {handed : Handed} (peered : handed.Peered) {ack : SequenceNumber}
    {now : TimeBase} (permits : handed.permits (.call (.acknowledge ack now)) = true) :
    (handed.book (.call (.acknowledge ack now))).Peered := by
  have bound := handed.sender.remaining_lt
  have queued := peered.tracked.queued
  have consumed := peered.consumed permits
  have small := finSlack_le handed.sender.fin
  have started : handed.sender.syn ≠ .none := (permits_acknowledge.mp permits).1
  have syn : (handed.book (.call (.acknowledge ack now))).sender.syn = .acked := by
    change (if handed.sender.syn == .sent then CtlState.acked else handed.sender.syn) = .acked
    cases phase : handed.sender.syn with
    | none => exact absurd phase started
    | sent => rfl
    | acked => rfl
  have fin : (handed.book (.call (.acknowledge ack now))).sender.fin =
    if handed.sender.acknowledgesFIN ack then .acked else handed.sender.fin := rfl
  have from_ : (handed.book (.call (.acknowledge ack now))).sender.acknowledgedFrom = _ :=
    acknowledge_from handed.sender ack now
  have remaining : (handed.book (.call (.acknowledge ack now))).sender.buffer.remaining =
      handed.sender.buffer.remaining - (handed.sender.consumedBy ack).toNat :=
    BoundedQueue.consume_remaining _ _
  have unsynced : (handed.book (.call (.acknowledge ack now))).sender.syn ≠ .acked →
      (handed.book (.call (.acknowledge ack now))).furthest =
        (handed.book (.call (.acknowledge ack now))).removed ∧
      ∀ call ∈ (handed.book (.call (.acknowledge ack now))).sender.calls,
        call.segment.isFIN = false := fun open_ => absurd syn open_
  cases closes : handed.sender.acknowledgesFIN ack with
  | true =>
      have whole : handed.sender.fin = .sent ∧ ack = handed.sender.tcb.send.next := by
        simpa only [acknowledgesFIN, Bool.and_eq_true, beq_iff_eq] using closes
      rw [closes, if_pos rfl] at fin from_
      refine ⟨?_, unsynced, ?_, ?_⟩
      · have tracked : (handed.book (.call (.acknowledge ack now))).Tracked
            (finSlack handed.sender.fin + 1) :=
          peered.tracked.book_acknowledge small (Nat.le_refl _) (by omega)
        rw [whole.1] at tracked
        rw [fin]
        exact tracked
      · intro call member isFIN
        rw [fin]
        exact ⟨by decide, (peered.finNumber call member isFIN).2⟩
      · intro _
        refine ⟨syn, min (handed.sender.consumedBy ack).toNat handed.sender.buffer.remaining + 1 -
          (handed.sender.consumedBy ack).toNat, ?_, ?_⟩
        · have next : handed.sender.tcb.send.next =
              handed.sender.acknowledgedFrom + handed.sender.consumedBy ack := by
            rw [← whole.2, consumedBy]
            grind
          change _ = handed.sender.tcb.send.next + _
          rw [from_, next]
          exact past_fin (by omega)
        · rw [remaining]
          omega
  | false =>
      have part := consumed.resolve_right (by simp [closes])
      rw [closes, if_neg Bool.false_ne_true] at fin from_
      refine ⟨?_, unsynced, ?_, ?_⟩
      · rw [fin]
        exact peered.tracked.book_acknowledge small (Nat.zero_le _) part
      · intro call member isFIN
        rw [fin]
        exact peered.finNumber call member isFIN
      · rw [fin]
        intro closed
        obtain ⟨_, past, behind, short⟩ := peered.finished closed
        refine ⟨syn, past + (handed.sender.consumedBy ack).toNat, ?_, ?_⟩
        · rw [from_, behind, Nat.min_eq_left (by omega), UInt32.ofNat_add]
          change _ = handed.sender.tcb.send.next + _
          grind
        · rw [remaining]
          omega

theorem Peered.book_quiet {handed : Handed} (peered : handed.Peered) {event : TimerEvent}
    (keeps : handed.sender.removedBy event = 0)
    (buffer : (handed.sender.entered event).buffer = handed.sender.buffer)
    (send : (handed.sender.entered event).tcb.send = handed.sender.tcb.send)
    (syn : (handed.sender.entered event).syn = handed.sender.syn)
    (fin : (handed.sender.entered event).fin = handed.sender.fin)
    (counter : (handed.sender.entered event).bytesInFlight = handed.sender.bytesInFlight ∨
      (handed.sender.entered event).bytesInFlight = 0) : (handed.book event).Peered := by
  have from_ : (handed.sender.entered event).acknowledgedFrom = handed.sender.acknowledgedFrom := by
    simp only [acknowledgedFrom, syn, send]
  refine ⟨?_, ?_, ?_, ?_⟩
  · change (handed.book event).Tracked (finSlack (handed.sender.entered event).fin)
    rw [fin]
    exact peered.tracked.book_quiet keeps (by rw [buffer]) counter
  · rw [book_removed keeps, peered.tracked.book_furthest keeps]
    change (handed.sender.entered event).syn ≠ .acked →
      _ ∧ ∀ call ∈ (handed.sender.entered event).calls, _
    rw [syn, entered_calls]
    exact peered.unsynced
  · change ∀ call ∈ (handed.sender.entered event).calls, _ → (handed.sender.entered event).fin ≠ _ ∧
      _ = (handed.sender.entered event).tcb.send.next
    rw [entered_calls, fin, send]
    exact peered.finNumber
  · change (handed.sender.entered event).fin = _ → (handed.sender.entered event).syn = _ ∧
      ∃ past, (handed.sender.entered event).acknowledgedFrom =
        (handed.sender.entered event).tcb.send.next + _ ∧
        past + (handed.sender.entered event).buffer.remaining ≤ _
    rw [fin, syn, from_, send, buffer]
    exact peered.finished

-- before the first FIN segment
theorem Peered.book_silent {handed : Handed} (peered : handed.Peered) {event : TimerEvent}
    (silent : ∀ call ∈ handed.sender.calls, call.segment.isFIN = false)
    (keeps : handed.sender.removedBy event = 0)
    (grows : handed.sender.buffer.remaining ≤ (handed.sender.entered event).buffer.remaining)
    (counter : (handed.sender.entered event).bytesInFlight = handed.sender.bytesInFlight)
    (level : (handed.sender.entered event).syn ≠ .acked → handed.furthest = handed.removed)
    (slack : finSlack (handed.sender.entered event).fin = finSlack handed.sender.fin)
    (unclosed : (handed.sender.entered event).fin ≠ .acked) : (handed.book event).Peered := by
  have calls : (handed.book event).sender.calls = handed.sender.calls :=
    entered_calls handed.sender event
  refine ⟨?_, ?_, ?_, fun closed => absurd closed unclosed⟩
  · change (handed.book event).Tracked (finSlack (handed.sender.entered event).fin)
    rw [slack]
    exact peered.tracked.book_quiet keeps grows (Or.inl counter)
  · intro open_
    rw [book_removed keeps, peered.tracked.book_furthest keeps, calls]
    exact ⟨level open_, silent⟩
  · rw [calls]
    intro call member isFIN
    exact absurd ((silent call member).symm.trans isFIN) (by decide)

theorem Peered.book {handed : Handed} (peered : handed.Peered) {event : TimerEvent}
    (permits : handed.permits event = true) : (handed.book event).Peered := by
  cases event with
  | sendSYN initial =>
      have unsent : handed.sender.syn = .none := beq_iff_eq.mp permits
      obtain ⟨level, silent⟩ := peered.unsynced (by rw [unsent]; decide)
      refine peered.book_silent silent rfl (Nat.le_refl _) rfl (fun _ => level) rfl ?_
      intro closed
      exact absurd (unsent.symm.trans (peered.finished closed).1) (by decide)
  | fire now =>
      refine peered.book_quiet rfl rfl rfl rfl rfl ?_
      simp only [entered]
      split
      · exact Or.inr rfl
      · exact Or.inl rfl
  | call event =>
      cases event with
      | sendData data =>
          have unsent : handed.sender.fin = .none := beq_iff_eq.mp permits
          have room : handed.sender.buffer.remaining ≤
              (handed.sender.buffer.write data.bytes).remaining := by simp
          refine peered.book_silent (peered.silent unsent) rfl room rfl
            (fun open_ => (peered.unsynced open_).1) rfl ?_
          intro closed
          exact absurd (unsent.symm.trans closed) (by decide)
      | sendFIN =>
          have unsent : handed.sender.fin = .none := beq_iff_eq.mp permits
          have slack : finSlack .sent = finSlack handed.sender.fin := by rw [unsent]; rfl
          refine peered.book_silent (peered.silent unsent) rfl (Nat.le_refl _) rfl
            (fun open_ => (peered.unsynced open_).1) slack ?_
          intro closed
          exact absurd (show CtlState.sent = .acked from closed) (by decide)
      | acknowledge ack now => exact peered.acknowledge permits
      | transmit => exact peered.book_quiet rfl rfl rfl rfl rfl (Or.inl rfl)
      | retransmit now => exact peered.book_quiet rfl rfl rfl rfl rfl (Or.inr rfl)
      | receive space => exact peered.book_quiet rfl rfl rfl rfl rfl (Or.inl rfl)

theorem Peered.send {handed : Handed} {event : TimerEvent} (peered : (handed.book event).Peered)
    (env : Surroundings) : (handed.step env event).Peered := by
  have small := finSlack_le (handed.book event).sender.fin
  have tracked := peered.tracked.send small env
  have fin : (handed.step env event).sender.fin = (handed.book event).sender.fin :=
    react_fin env handed.sender event
  have syn : (handed.step env event).sender.syn = (handed.book event).sender.syn :=
    react_syn env handed.sender event
  have tcb : (handed.step env event).sender.tcb = (handed.book event).sender.tcb :=
    react_tcb env handed.sender event
  have calls : (handed.step env event).sender.calls = (handed.book event).sender.calls ++
      handed.sender.handedOver env event := by
    rw [show (handed.book event).sender.calls = _ from entered_calls handed.sender event]
    exact react_calls env handed.sender event
  have from_ : (handed.step env event).sender.acknowledgedFrom =
    (handed.book event).sender.acknowledgedFrom := react_acknowledgedFrom env handed.sender event
  have buffer : (handed.step env event).sender.buffer = (handed.book event).sender.buffer :=
    react_buffer env handed.sender event
  have finished := peered.finished
  rw [← fin, ← syn, ← from_, ← tcb, ← buffer] at finished
  have established : ∀ {call}, call ∈ handed.sender.handedOver env event →
      call.segment.isFIN = true → (handed.book event).sender.syn = .acked ∧
        (handed.book event).sender.fin = .sent ∧ call.segment.sequence +
          UInt32.ofNat call.segment.payload.length + 1 = (handed.book event).sender.tcb.send.next := by
    intro call member isFIN
    rcases peered.tracked.moves small env with ⟨_, empty⟩ | ⟨acked, passes, _⟩
    · exact absurd ((empty call member).2.symm.trans isFIN) (by decide)
    · exact ⟨acked, (react_pass acked passes).fin_number member isFIN⟩
  refine ⟨by rwa [fin], ?_, ?_, finished⟩
  · rw [syn, calls]
    intro open_
    obtain ⟨level, silent⟩ := peered.unsynced open_
    refine ⟨?_, ?_⟩
    · rcases peered.tracked.moves small env with ⟨flight, _⟩ | ⟨acked, _⟩
      · rw [peered.tracked.furthest_bare small flight]
        exact level
      · exact absurd acked open_
    · intro call member
      rcases List.mem_append.mp member with earlier | later
      · exact silent call earlier
      · by_contra isFIN
        exact open_ (established later (by simpa using isFIN)).1
  · rw [fin, tcb, calls]
    intro call member isFIN
    rcases List.mem_append.mp member with earlier | later
    · exact peered.finNumber call earlier isFIN
    · obtain ⟨_, sent, number⟩ := established later isFIN
      exact ⟨by rw [sent]; decide, number⟩

theorem Peered.step {handed : Handed} (peered : handed.Peered) {event : TimerEvent}
    (permits : handed.permits event = true) (env : Surroundings) : (handed.step env event).Peered :=
  (peered.book permits).send env

theorem start_peered (factory : SegmentFactory) (tcb : ControlBlock) (now : TimeBase) :
    (start factory tcb now).Peered := by
  have created : (start factory tcb now).sender.fin = .none ∧
      (start factory tcb now).sender.calls = [] := by
    simp only [start, create_eq, and_self]
  refine ⟨?_, ?_, ?_, ?_⟩
  · rw [created.1]
    exact start_tracked factory tcb now
  · rw [created.2]
    exact fun _ => ⟨rfl, by simp⟩
  · rw [created.2]
    simp
  · rw [created.1]
    exact fun closed => absurd closed (by decide)

theorem permitted_peered {env : Surroundings} {factory : SegmentFactory} {tcb : ControlBlock}
    {now : TimeBase} {events : List TimerEvent}
    (permitted : Permitted (step env) (fun handed event => handed.permits event = true)
      (start factory tcb now) events) :
    (runEvents (step env) (start factory tcb now) events).Peered :=
  runEvents_invariant (motive := Peered) (fun _ _ peered permits => peered.step permits env)
    (start_peered factory tcb now) permitted

-- the queued bytes that some segment has carried
def outstanding (handed : Handed) : Nat :=
  ((List.range handed.sender.buffer.remaining).filter fun offset =>
    handed.carriedAt (handed.removed + offset)).length

theorem Tracked.outstanding_eq {handed : Handed} {slack : Nat} (tracked : handed.Tracked slack) :
    handed.outstanding = handed.furthest - handed.removed := by
  have behind := tracked.behind
  have queued := tracked.queued
  have carried : ∀ offset, handed.carriedAt (handed.removed + offset) =
      decide (offset < handed.furthest - handed.removed) := by
    intro offset
    rw [Bool.eq_iff_iff, tracked.carried _ (Nat.le_add_right _ _), decide_eq_true_eq]
    omega
  have whole : handed.sender.buffer.remaining = (handed.furthest - handed.removed) +
      (handed.removed + handed.sender.buffer.remaining - handed.furthest) := by omega
  simp only [outstanding, carried]
  rw [whole, List.range_add, List.filter_append, List.length_append, List.filter_eq_self.mpr,
    List.filter_eq_nil_iff.mpr, List.length_range, List.length_nil, Nat.add_zero]
  · intro offset member
    obtain ⟨index, _, rfl⟩ := List.mem_map.mp member
    simp
  · intro offset member
    exact decide_eq_true (List.mem_range.mp member)

theorem Tracked.outstanding_le_iff {handed : Handed} {slack : Nat} (tracked : handed.Tracked slack) :
    handed.outstanding ≤ kMaxBytesInFlight.toNat ↔ handed.furthest ≤ handed.removed + 14600 := by
  rw [tracked.outstanding_eq, kMaxBytesInFlight_toNat]
  omega

/-! The window: a pass that starts between two segment boundaries overshoots it. -/

def overshoots (handed : Handed) (event : TimerEvent) : Bool :=
  let entered := handed.sender.entered event
  handed.sender.passes event && entered.synAcked &&
    decide (entered.bytesInFlight < kMaxBytesInFlight) &&
    decide (kMaxBytesInFlight.toNat < entered.buffer.remaining) &&
    decide (entered.bytesInFlight.toNat % kMaxSegmentSize.toNat ≠ 0)

section Window

variable {handed : Handed} {event : TimerEvent} {env : Surroundings}

theorem Tracked.furthest_fills {slack : Nat} (tracked : (handed.book event).Tracked slack)
    (established : (handed.sender.entered event).syn = .acked)
    (passes : handed.sender.passes event = true)
    (behind : (handed.book event).removed + (handed.sender.entered event).bytesInFlight.toNat ≤
      (handed.book event).furthest)
    (accepts : ∀ index, handed.sender.calls.length ≤ index → env.accepts index = true) :
    (handed.step env event).furthest = max (handed.book event).furthest
      ((handed.book event).removed + min (handed.sender.entered event).buffer.remaining
        ((handed.sender.entered event).bytesInFlight.toNat +
          1460 * ((14600 - (handed.sender.entered event).bytesInFlight.toNat + 1459) / 1460))) := by
  have queued : (handed.book event).furthest ≤ (handed.book event).removed +
    (handed.sender.entered event).buffer.remaining := tracked.queued
  have within : (handed.sender.entered event).bytesInFlight.toNat ≤
    (handed.sender.entered event).buffer.remaining := by omega
  have pass : Pass env _ _ _ := react_pass established passes
  have fills := pass.fills within (by rwa [entered_calls])
  have between := pass.between within
  rw [← react_flight passes] at fills between
  rw [furthest_pass between.2, fills]

theorem Peered.within_of_aligned (peered : handed.Peered)
    (accepts : ∀ index, env.accepts index = true) (permits : handed.permits event = true)
    (aligned : handed.overshoots event = false)
    (within : handed.furthest ≤ handed.removed + 14600) :
    (handed.step env event).furthest ≤ (handed.step env event).removed + 14600 := by
  have booked := (peered.book permits).tracked
  have removed : (handed.step env event).removed = (handed.book event).removed := rfl
  have grows : handed.removed ≤ (handed.book event).removed := Nat.le_add_right _ _
  have level : (handed.book event).furthest = max handed.furthest (handed.book event).removed := rfl
  rcases booked.moves (finSlack_le _) env with ⟨flight, _⟩ | ⟨established, passes, behind⟩
  · rw [booked.furthest_bare (finSlack_le _) flight, removed]
    omega
  · rw [booked.furthest_fills established passes behind (fun index _ => accepts index), removed]
    have segment : kMaxSegmentSize.toNat = 1460 := rfl
    simp only [overshoots, passes, SendBufferOver.synAcked, established, beq_self_eq_true,
      Bool.true_and, Bool.and_eq_false_iff, decide_eq_false_iff_not, UInt64.lt_iff_toNat_lt, ne_eq,
      not_not] at aligned
    rw [kMaxBytesInFlight_toNat, segment] at aligned
    change _ + (handed.sender.entered event).bytesInFlight.toNat ≤ _ at behind
    refine Nat.max_le.mpr ⟨by omega, Nat.add_le_add_left ?_ _⟩
    omega

theorem Peered.exceeds_of_overshoots (peered : handed.Peered)
    (accepts : ∀ index, env.accepts index = true) (permits : handed.permits event = true)
    (overshoots : handed.overshoots event = true) :
    (handed.step env event).removed + 14600 < (handed.step env event).furthest := by
  have booked := (peered.book permits).tracked
  have slack := finSlack_le (handed.book event).sender.fin
  have removed : (handed.step env event).removed = (handed.book event).removed := rfl
  have segment : kMaxSegmentSize.toNat = 1460 := rfl
  simp only [Handed.overshoots, SendBufferOver.synAcked, Bool.and_eq_true, beq_iff_eq,
    decide_eq_true_eq, UInt64.lt_iff_toNat_lt] at overshoots
  rw [kMaxBytesInFlight_toNat, segment] at overshoots
  obtain ⟨⟨⟨⟨passes, established⟩, room⟩, more⟩, between⟩ := overshoots
  have behind : (handed.book event).removed + (handed.sender.entered event).bytesInFlight.toNat ≤
      (handed.book event).furthest := by
    refine booked.flight.resolve_right fun wrapped => ?_
    change 2 ^ 64 + _ ≤ (handed.sender.entered event).bytesInFlight.toNat + _ + _ at wrapped
    omega
  rw [booked.furthest_fills established passes behind (fun index _ => accepts index), removed]
  refine Nat.lt_of_lt_of_le (Nat.add_lt_add_left ?_ _) (Nat.le_max_right _ _)
  omega

end Window

/-! What the timer sends again. -/

def finCarried (handed : Handed) : Bool := handed.sender.calls.any fun call => call.segment.isFIN

structure Resends (handed : Handed) (calls : List PacketCall) : Prop where
  syn : handed.sender.syn = .sent → ∃ call ∈ calls,
    call.segment.isSYN = true ∧ call.segment.sequence = handed.sender.tcb.send.initial
  data : ∀ offset < handed.sender.buffer.remaining,
    handed.carriedAt (handed.removed + offset) = true → ∃ call ∈ calls,
      handed.sender.offsetOf call ≤ offset ∧
        offset < handed.sender.offsetOf call + call.segment.payload.length
  fin : handed.sender.fin = .sent → handed.finCarried = true → ∃ call ∈ calls,
    call.segment.isFIN = true ∧ call.segment.sequence +
      UInt32.ofNat call.segment.payload.length + 1 = handed.sender.tcb.send.next

theorem Peered.resends_iff {handed : Handed} (peered : handed.Peered) {env : Surroundings}
    (accepts : ∀ index, handed.sender.calls.length ≤ index → env.accepts index = true)
    (now : TimeBase) :
    handed.Resends (handed.sender.handedOver env (.call (.retransmit now))) ↔
      handed.outstanding ≤ kMaxBytesInFlight.toNat ∧
        (handed.sender.fin = .sent → handed.finCarried = true → handed.sender.finOnBoundary = true) := by
  have behind := peered.tracked.behind
  have queued := peered.tracked.queued
  have carried : ∀ offset, handed.carriedAt (handed.removed + offset) = true ↔
      handed.removed + offset < handed.furthest :=
    fun offset => peered.tracked.carried _ (Nat.le_add_right _ _)
  rw [peered.tracked.outstanding_le_iff]
  by_cases phase : handed.sender.syn = .acked
  · have established : (handed.sender.entered (.call (.retransmit now))).syn = .acked := phase
    have zero : (handed.sender.entered (.call (.retransmit now))).bytesInFlight.toNat = 0 := rfl
    have within : (handed.sender.entered (.call (.retransmit now))).bytesInFlight.toNat ≤
      (handed.sender.entered (.call (.retransmit now))).buffer.remaining := Nat.zero_le _
    have pass : Pass env _ (handed.sender.handedOver env (.call (.retransmit now))) _ :=
      react_pass established rfl
    have reached : ((handed.sender.entered (.call (.retransmit now))).transmit
        env).bytesInFlight.toNat = min handed.sender.buffer.remaining 14600 := by
      rw [pass.fills within accepts, zero]
      rfl
    have covers : ∀ offset, (∃ call ∈ handed.sender.handedOver env (.call (.retransmit now)),
        handed.sender.offsetOf call ≤ offset ∧
          offset < handed.sender.offsetOf call + call.segment.payload.length) ↔
        0 ≤ offset ∧ offset < _ := pass.covers established within
    have sendsFIN := pass.sendsFIN_iff within accepts
    rw [reached, zero] at sendsFIN
    change _ ↔ handed.sender.fin = .sent ∧ _ ∧ handed.sender.finOffset ≤ _ ∧
      (handed.sender.finOffset = handed.sender.buffer.remaining ∨
        0 < handed.sender.finOffset ∧ handed.sender.finOffset % 1460 = 0) at sendsFIN
    have room : (handed.sender.entered (.call (.retransmit now))).bytesInFlight <
        kMaxBytesInFlight := by
      rw [UInt64.lt_iff_toNat_lt, zero]
      decide
    have segment : kMaxSegmentSize.toNat = 1460 := rfl
    simp only [reached] at covers
    simp only [finOnBoundary, Bool.and_eq_true, Bool.or_eq_true, decide_eq_true_eq, beq_iff_eq]
    rw [kMaxBytesInFlight_toNat, segment]
    constructor
    · intro resends
      refine ⟨?_, ?_⟩
      · by_contra beyond
        have last := (covers 14600).mp
          (resends.data 14600 (by omega) ((carried 14600).mpr (by omega)))
        omega
      · intro sent carriesFIN
        obtain ⟨call, member, isFIN, _⟩ := resends.fin sent carriesFIN
        exact (sendsFIN.mp ⟨call, member, isFIN⟩).2.2
    · rintro ⟨inside, boundary⟩
      refine ⟨fun pendingSYN => absurd (phase.symm.trans pendingSYN) (by decide), ?_, ?_⟩
      · intro offset queuedByte isCarried
        rw [carried] at isCarried
        exact (covers offset).mpr (by omega)
      · intro sent carriesFIN
        obtain ⟨call, member, isFIN⟩ := sendsFIN.mpr ⟨sent, room, boundary sent carriesFIN⟩
        exact ⟨call, member, isFIN, (pass.fin_number member isFIN).2⟩
  · obtain ⟨none, silent⟩ := peered.unsynced phase
    have unsent : handed.finCarried = false := by
      simpa [finCarried] using silent
    refine iff_of_true ⟨?_, ?_, ?_⟩ ⟨by omega, ?_⟩
    · intro pendingSYN
      obtain ⟨call, calls, opening⟩ :=
        @react_opening env handed.sender (.call (.retransmit now)) pendingSYN rfl
      rw [calls]
      exact ⟨call, List.mem_singleton_self _, opening.isSYN, opening.sequence⟩
    · intro offset _ isCarried
      rw [carried] at isCarried
      omega
    · intro _ carriesFIN
      exact absurd (unsent.symm.trans carriesFIN) (by decide)
    · intro _ carriesFIN
      exact absurd (unsent.symm.trans carriesFIN) (by decide)

end Handed

/-- With every segment accepted, the window holds over a run exactly when no pass
starts off a segment boundary with more queued than fits. -/
theorem outstanding_within_iff (env : Surroundings) (factory : SegmentFactory)
    (tcb : ControlBlock) (now : TimeBase) (events : List TimerEvent)
    (accepts : ∀ index, env.accepts index = true)
    (permitted : Permitted (Handed.step env) (fun handed event => handed.permits event = true)
      (Handed.start factory tcb now) events) :
    (∀ before, before <+: events →
      (runEvents (Handed.step env) (Handed.start factory tcb now) before).outstanding ≤
        kMaxBytesInFlight.toNat) ↔
      Permitted (Handed.step env) (fun handed event => handed.overshoots event = false)
        (Handed.start factory tcb now) events := by
  refine always_iff (motive := fun handed => handed.Peered ∧
      handed.furthest ≤ handed.removed + 14600)
    (fun handed => handed.outstanding ≤ kMaxBytesInFlight.toNat) ?_ ?_ ?_ ?_ permitted
  · intro handed state
    exact state.1.tracked.outstanding_le_iff.mpr state.2
  · intro handed event state permits aligned
    exact ⟨state.1.step permits env, state.1.within_of_aligned accepts permits aligned state.2⟩
  · intro handed event state permits unaligned
    have exceeds := state.1.exceeds_of_overshoots accepts permits (by simpa using unaligned)
    rw [(state.1.step permits env).tracked.outstanding_le_iff]
    exact Nat.not_le.mpr exceeds
  · exact ⟨Handed.start_peered factory tcb now, Nat.zero_le _⟩

theorem servedRun_within :
    (∀ index, quietHost.accepts index = true) ∧
      Permitted (Handed.step quietHost) (fun handed event => handed.permits event = true)
        sampleStart servedRun ∧
      ∀ before, before <+: servedRun →
        (runEvents (Handed.step quietHost) sampleStart before).outstanding ≤
          kMaxBytesInFlight.toNat := by
  have accepts : ∀ index, quietHost.accepts index = true := fun _ => rfl
  have permitted : Permitted (Handed.step quietHost)
      (fun handed event => handed.permits event = true) sampleStart servedRun := by decide
  refine ⟨accepts, permitted, ?_⟩
  exact (outstanding_within_iff quietHost sampleOpening.factory sampleOpening.tcb 0 servedRun
    accepts permitted).mpr (by decide)

def shortRun : List TimerEvent :=
  [.sendSYN 4294967295, .call (.acknowledge 0 10), .call (.sendData ⟨[71], by decide⟩)]

def wideWrite : TimerEvent :=
  .call (.sendData ⟨List.replicate 20000 0, by rw [List.length_replicate]; decide⟩)

def wideRun : List TimerEvent := shortRun ++ [wideWrite]

theorem wideWrite_overshoots :
    let handed := runEvents (Handed.step quietHost) sampleStart shortRun
    handed.permits wideWrite = true ∧ handed.overshoots wideWrite = true := by
  intro handed
  have remaining : (handed.sender.entered wideWrite).buffer.remaining = 20001 := by
    have queued : handed.sender.buffer.remaining = 1 := by decide
    change (handed.sender.buffer.write (List.replicate 20000 0)).remaining = 20001
    rw [BoundedQueue.write_remaining, BoundedQueue.accepted_length, BoundedQueue.free, queued,
      List.length_replicate]
    decide
  refine ⟨by decide, ?_⟩
  simp only [Handed.overshoots, remaining]
  decide

theorem wideRun_peered :
    let handed := runEvents (Handed.step quietHost) sampleStart wideRun
    Permitted (Handed.step quietHost) (fun handed event => handed.permits event = true)
        sampleStart wideRun ∧
      handed.Peered ∧ handed.removed + 14600 < handed.furthest := by
  have permitted : Permitted (Handed.step quietHost)
      (fun handed event => handed.permits event = true) sampleStart shortRun := by decide
  obtain ⟨permits, overshoots⟩ := wideWrite_overshoots
  have peered : (runEvents (Handed.step quietHost) sampleStart shortRun).Peered :=
    Handed.permitted_peered permitted
  simp only [wideRun, permitted_append, runEvents_append, runEvents_cons, runEvents_nil]
  exact ⟨⟨permitted, permits, trivial⟩, peered.step permits quietHost,
    peered.exceeds_of_overshoots (fun _ => rfl) permits overshoots⟩

theorem wideRun_exceeds :
    (∀ index, quietHost.accepts index = true) ∧
      Permitted (Handed.step quietHost) (fun handed event => handed.permits event = true)
        sampleStart wideRun ∧
      ¬(runEvents (Handed.step quietHost) sampleStart wideRun).outstanding ≤
        kMaxBytesInFlight.toNat := by
  obtain ⟨permitted, peered, exceeds⟩ := wideRun_peered
  refine ⟨fun _ => rfl, permitted, ?_⟩
  rw [peered.tracked.outstanding_le_iff]
  exact Nat.not_le.mpr exceeds

/-- The timer sends again all that is unacknowledged exactly when no more than a
window of data is and a FIN that was sent goes at the end of a segment. -/
theorem retransmit_resends_iff (env : Surroundings) (factory : SegmentFactory)
    (tcb : ControlBlock) (now later : TimeBase) (events : List TimerEvent)
    (permitted : Permitted (Handed.step env) (fun handed event => handed.permits event = true)
      (Handed.start factory tcb now) events)
    (accepts : ∀ index, (runEvents (react env) (create factory tcb now) events).calls.length ≤ index →
      env.accepts index = true) :
    let handed := runEvents (Handed.step env) (Handed.start factory tcb now) events
    handed.Resends (handed.sender.handedOver env (.call (.retransmit later))) ↔
      handed.outstanding ≤ kMaxBytesInFlight.toNat ∧
        (handed.sender.fin = .sent → handed.finCarried = true →
          handed.sender.finOnBoundary = true) := by
  intro handed
  have sender : handed.sender = runEvents (react env) (create factory tcb now) events :=
    runEvents_project Handed.sender (fun _ _ => rfl) (Handed.start factory tcb now) events
  refine (Handed.permitted_peered permitted).resends_iff ?_ later
  rwa [← sender] at accepts

theorem servedRun_resends :
    let handed := runEvents (Handed.step quietHost) sampleStart servedRun
    Permitted (Handed.step quietHost) (fun handed event => handed.permits event = true)
        sampleStart servedRun ∧
      handed.finCarried = true ∧
      handed.Resends (handed.sender.handedOver quietHost (.call (.retransmit 30))) := by
  intro handed
  have permitted : Permitted (Handed.step quietHost)
      (fun handed event => handed.permits event = true) sampleStart servedRun := by decide
  refine ⟨permitted, by decide, ?_⟩
  exact (retransmit_resends_iff quietHost sampleOpening.factory sampleOpening.tcb 0 30 servedRun
    permitted (fun _ _ => rfl)).mpr ⟨by decide, fun _ _ => by decide⟩

theorem wideRun_unresent :
    let handed := runEvents (Handed.step quietHost) sampleStart wideRun
    Permitted (Handed.step quietHost) (fun handed event => handed.permits event = true)
        sampleStart wideRun ∧
      (∀ index, quietHost.accepts index = true) ∧
      ¬handed.Resends (handed.sender.handedOver quietHost (.call (.retransmit 30))) := by
  obtain ⟨permitted, peered, exceeds⟩ := wideRun_peered
  refine ⟨permitted, fun _ => rfl, ?_⟩
  rw [peered.resends_iff (fun _ _ => rfl), peered.tracked.outstanding_le_iff]
  exact fun both => Nat.not_le.mpr exceeds both.1

end SendBuffer

end LabNetstack
