import LabNetstack.Connection
import LabNetstack.SendBufferRing

/-! A ring-backed sender that has lost bytes looks like an ideal one that was never given them, but
for `send.next`, which is ahead by as many, and for a FIN it will never send. -/

namespace LabNetstack

namespace SendBuffer

theorem Streamed.ready {initial : SequenceNumber} {stream : List UInt8} {acked : Nat}
    {self : SendBuffer} (streamed : Streamed initial stream acked self)
    (small : stream.length < 2 ^ 32 - 2) :
    self.bytesInFlight.toNat ≤ self.buffer.remaining ∨
      ¬self.bytesInFlight < kMaxBytesInFlight :=
  streamed.flight.imp_right (streamed.closed small)

theorem step_full {self : SendBuffer} (env : Surroundings) (data : Buffer)
    (unsent : self.fin = .none) (full : self.buffer.isFull = true) :
    self.step env (.sendData data) = self := by
  simp [step, sendData, SendBufferOver.sendData, operations, queue, check, unsent, full]

end SendBuffer

namespace RingSendBuffer

open SendBuffer (Streamed)

/-- `lost` bytes that `sendData` reported as taken are not in the ring buffer. If there are any, the
ideal sender was never told of a FIN. -/
structure Mirrors (lost : Nat) (actual : RingSendBuffer) (ideal : SendBuffer) : Prop where
  buffer : actual.buffer.Represents ideal.buffer
  same : ideal = actual.mirror ideal.buffer ideal.tcb.send.next ideal.fin
  whole : lost = 0 → actual.tcb.send.next = ideal.tcb.send.next ∧ actual.fin = ideal.fin
  hidden : lost ≠ 0 → ideal.fin = .none ∧ actual.fin ≠ .acked ∧
    actual.tcb.send.next =
      ideal.tcb.send.next + UInt32.ofNat lost + SendBuffer.pending actual.fin

variable {lost acked : Nat} {actual : RingSendBuffer} {ideal : SendBuffer} {env : Surroundings}
  {initial : SequenceNumber} {stream : List UInt8} {build : Build}

/-- The end of the stream is never reached once bytes are lost. -/
theorem Mirrors.agrees (mirrors : actual.Mirrors lost ideal) (accounted : ideal.Accounted)
    (small : ideal.buffer.remaining + lost < 2 ^ 32 - 2) :
    actual.Agrees ideal.buffer ideal.tcb.send.next ideal.fin := by
  refine ⟨mirrors.buffer, fun offset inside => ?_⟩
  by_cases none : lost = 0
  · obtain ⟨next, fin⟩ := mirrors.whole none
    rw [next, fin]
  · obtain ⟨open_, _, next⟩ := mirrors.hidden none
    have unack : actual.tcb.send.unack = ideal.tcb.send.unack := by
      rw [mirrors.same]
      rfl
    have balance := accounted.balance
    have pendingSYN := SendBuffer.pending_le ideal.syn
    rw [open_]
    refine Bool.eq_iff_iff.mpr ⟨fun ends => ?_, fun ends => by simp at ends⟩
    rw [Bool.and_eq_true, beq_iff_eq, beq_iff_eq] at ends
    obtain ⟨sent, reached⟩ := ends
    rw [next, balance, unack, sent, open_] at reached
    simp only [SendBuffer.pending, ↓reduceIte, reduceCtorEq] at reached
    have distance : UInt32.ofNat offset = UInt32.ofNat ideal.buffer.remaining +
        (if ideal.syn = .sent then 1 else 0) + UInt32.ofNat lost := by
      grind
    have numbers := congrArg UInt32.toNat distance
    simp only [UInt32.toNat_add, UInt32.toNat_ofNat'] at numbers
    split at numbers <;> simp only [UInt32.toNat_one, UInt32.toNat_zero] at numbers <;> omega

theorem Mirrors.sent (mirrors : actual.Mirrors lost ideal) (flight : UInt64)
    (calls : List PacketCall) :
    (actual.sent flight calls).Mirrors lost
      ((actual.sent flight calls).mirror ideal.buffer ideal.tcb.send.next ideal.fin) :=
  ⟨mirrors.buffer, rfl, mirrors.whole, mirrors.hidden⟩

/-- An event whose books the two keep alike. -/
theorem Mirrors.stepped {event : SendEvent} {booked : RingSendBuffer} (build : Build)
    (env : Surroundings)
    (mirrors : booked.Mirrors lost ((ideal.booked event).withNotes (ideal.alarmAfter event)
      (ideal.failedChecks ++ ideal.failedAt event)))
    (streamed : Streamed initial stream acked (ideal.booked event))
    (small : stream.length + lost < 2 ^ 32 - 2) :
    ∃ flight calls,
      (if ideal.sends event then booked.transmit build env.accepts else .done booked) =
        .done (booked.sent flight calls) ∧
      (booked.sent flight calls).Mirrors lost (ideal.step env event) := by
  have remaining := streamed.remaining_eq
  have counter : booked.bytesInFlight = (ideal.booked event).bytesInFlight :=
    (congrArg SendBufferOver.bytesInFlight mirrors.same).symm
  have agrees := mirrors.agrees (streamed.withNotes _ _).accounted (by
    change (ideal.booked event).buffer.remaining + lost < _
    omega)
  obtain ⟨flight, calls, made, after⟩ := @Agrees.stepped _ _ _ env booked ideal event agrees build
    (by rw [counter]; exact streamed.ready (by omega)) mirrors.same
  refine ⟨flight, calls, made, ?_⟩
  rw [after]
  exact mirrors.sent flight calls

theorem Mirrors.ideal_fin (mirrors : actual.Mirrors lost ideal) (unsent : actual.fin = .none) :
    ideal.fin = .none := by
  by_cases none : lost = 0
  · rw [← (mirrors.whole none).2]
    exact unsent
  · exact (mirrors.hidden none).1

theorem Mirrors.next_eq (mirrors : actual.Mirrors lost ideal) (unsent : actual.fin = .none) :
    actual.tcb.send.next = ideal.tcb.send.next + UInt32.ofNat lost := by
  by_cases none : lost = 0
  · rw [(mirrors.whole none).1, none]
    simp
  · rw [(mirrors.hidden none).2.2, unsent]
    simp [SendBuffer.pending]

def wrote (actual : RingSendBuffer) (buffer : RingBuffer) (count : Nat) : RingSendBuffer :=
  { actual with
    buffer := buffer
    tcb.send.next := actual.tcb.send.next + UInt32.ofNat count }

/-- Of the bytes that the ring buffer reports as taken the ideal sender is given those in `kept`, and
`missing` are lost. -/
theorem Mirrors.sendData (mirrors : actual.Mirrors lost ideal) (build : Build) (env : Surroundings)
    {data kept : Buffer} {buffer : RingBuffer} {missing : Nat} (unsent : actual.fin = .none)
    (checked : ideal.failedChecks = []) (room : actual.buffer.full = false)
    (written : actual.buffer.write build data =
      .done (UInt64.ofNat ((ideal.buffer.accepted kept.bytes).length + missing), buffer))
    (represents : buffer.Represents (ideal.buffer.write kept.bytes))
    (streamed : Streamed initial stream acked (ideal.booked (.sendData kept)))
    (small : stream.length + (lost + missing) < 2 ^ 32 - 2) :
    ∃ flight calls, actual.sendData build env.accepts data =
        .done (UInt64.ofNat ((ideal.buffer.accepted kept.bytes).length + missing),
          (actual.wrote buffer ((ideal.buffer.accepted kept.bytes).length + missing)).sent
            flight calls) ∧
      ((actual.wrote buffer ((ideal.buffer.accepted kept.bytes).length + missing)).sent
        flight calls).Mirrors (lost + missing) (ideal.step env (.sendData kept)) := by
  have open_ := mirrors.ideal_fin unsent
  have next := mirrors.next_eq unsent
  have sends : ideal.sends (.sendData kept) = (actual.syn == .acked) := by
    have phase : ideal.syn = actual.syn := congrArg SendBufferOver.syn mirrors.same
    rw [SendBuffer.sends, ← mirrors.buffer.full_eq, room, SendBufferOver.synAcked, phase]
    rfl
  have clean : ideal.failedChecks ++ ideal.failedAt (.sendData kept) = [] := by
    rw [checked, SendBuffer.failedAt, open_]
    rfl
  have books : (actual.wrote buffer
      ((ideal.buffer.accepted kept.bytes).length + missing)).Mirrors (lost + missing)
      ((ideal.booked (.sendData kept)).withNotes (ideal.alarmAfter (.sendData kept))
        (ideal.failedChecks ++ ideal.failedAt (.sendData kept))) := by
    obtain ⟨queue, number, fin, rfl⟩ : ∃ queue number fin, ideal = actual.mirror queue number fin :=
      ⟨_, _, _, mirrors.same⟩
    refine ⟨represents, by rw [clean]; rfl, fun none => ⟨?_, unsent.trans open_.symm⟩, fun _ =>
      ⟨open_, ?_, ?_⟩⟩
    · change actual.tcb.send.next + _ = number + _
      have nothing : lost = 0 ∧ missing = 0 := by omega
      rw [next, nothing.1, nothing.2]
      simp [mirror]
    · change actual.fin ≠ .acked
      rw [unsent]
      decide
    · change actual.tcb.send.next + _ = number + _ + _ + SendBuffer.pending actual.fin
      rw [next, unsent, UInt32.ofNat_add, UInt32.ofNat_add]
      simp only [mirror, SendBuffer.pending, reduceCtorEq, ↓reduceIte]
      grind
  obtain ⟨flight, calls, made, after⟩ := books.stepped build env streamed small
  refine ⟨flight, calls, ?_, after⟩
  rw [sendData_done env.accepts unsent room written, ← sends, UInt64.toUInt32_ofNat']
  exact Outcome.bind_of_done made rfl

def closed (actual : RingSendBuffer) : RingSendBuffer :=
  { actual with fin := .sent, tcb.send.next := actual.tcb.send.next + 1 }

theorem Mirrors.sendFIN (mirrors : actual.Mirrors 0 ideal) (build : Build) (env : Surroundings)
    (checked : ideal.failedChecks = [])
    (streamed : Streamed initial stream acked (ideal.booked .sendFIN))
    (small : stream.length < 2 ^ 32 - 2) :
    ∃ after, actual.sendFIN build env.accepts = .done after ∧
      after.Mirrors 0 (ideal.step env .sendFIN) ∧ after.buffer = actual.buffer ∧
      after.fin = .sent := by
  have next := (mirrors.whole rfl).1
  have books : actual.closed.Mirrors 0
      ((ideal.booked .sendFIN).withNotes (ideal.alarmAfter .sendFIN)
        (ideal.failedChecks ++ ideal.failedAt .sendFIN)) := by
    obtain ⟨queue, number, fin, rfl⟩ : ∃ queue number fin, ideal = actual.mirror queue number fin :=
      ⟨_, _, _, mirrors.same⟩
    exact ⟨mirrors.buffer, by rw [checked]; rfl, fun _ => ⟨congrArg (· + 1) next, rfl⟩,
      fun some => absurd rfl some⟩
  obtain ⟨flight, calls, made, after⟩ := books.stepped build env streamed small
  refine ⟨_, ?_, after, rfl, rfl⟩
  rw [SendBuffer.sends, ← mirrors.buffer.empty_eq] at made
  exact made

/-- Once bytes are lost, closing the stream only sends what is queued. -/
theorem Mirrors.sendFIN_hidden (mirrors : actual.Mirrors lost ideal) (some : lost ≠ 0)
    (unsent : actual.fin = .none) (build : Build) (env : Surroundings)
    (checked : ideal.failedChecks = []) (streamed : Streamed initial stream acked ideal)
    (small : stream.length + lost < 2 ^ 32 - 2) :
    ∃ after, actual.sendFIN build env.accepts = .done after ∧
      after.Mirrors lost (if ideal.buffer.isEmpty then ideal.step env .transmit else ideal) ∧
      after.buffer = actual.buffer ∧ after.fin = .sent := by
  have open_ := mirrors.ideal_fin unsent
  have next := mirrors.next_eq unsent
  have books : actual.closed.Mirrors lost
      ((ideal.booked .transmit).withNotes (ideal.alarmAfter .transmit)
        (ideal.failedChecks ++ ideal.failedAt .transmit)) := by
    obtain ⟨queue, number, fin, rfl⟩ : ∃ queue number fin, ideal = actual.mirror queue number fin :=
      ⟨_, _, _, mirrors.same⟩
    refine ⟨mirrors.buffer, by rw [checked]; rfl, fun none => absurd none some, fun _ =>
      ⟨open_, nofun, ?_⟩⟩
    exact congrArg (· + 1) next
  obtain ⟨flight, calls, made, after⟩ := books.stepped build env streamed small
  change ∃ after, (if actual.buffer.empty then actual.closed.transmit build env.accepts
    else .done actual.closed) = .done after ∧ _
  rw [mirrors.buffer.empty_eq]
  cases ideal.buffer.isEmpty with
  | true => exact ⟨_, made, after, rfl, rfl⟩
  | false =>
      refine ⟨_, rfl, ?_, rfl, rfl⟩
      have unnoted : (ideal.booked .transmit).withNotes (ideal.alarmAfter .transmit)
          (ideal.failedChecks ++ ideal.failedAt .transmit) = ideal := by
        have none : ideal.failedAt .transmit = [] := rfl
        rw [none, List.append_nil]
        rfl
      rw [unnoted] at books
      exact books

theorem Mirrors.acknowledge (mirrors : actual.Mirrors lost ideal) (build : Build)
    (env : Surroundings) {ack : SequenceNumber} {now : TimeBase} (checked : ideal.failedChecks = [])
    (clean : ideal.failedAt (.acknowledge ack now) = [])
    (covers : (actual.fin == .sent && ack == actual.tcb.send.next) = ideal.acknowledgesFIN ack)
    (streamed : Streamed initial stream acked (ideal.booked (.acknowledge ack now)))
    (small : stream.length + lost < 2 ^ 32 - 2) :
    ∃ after, actual.acknowledge build env.accepts ack now = .done after ∧
      after.Mirrors lost (ideal.step env (.acknowledge ack now)) ∧
      after.buffer = actual.buffer.advance
        (min (ideal.consumedBy ack).toUInt64 actual.buffer.remaining) ∧
      (after.fin = .none ↔ actual.fin = .none) := by
  have consumed := mirrors.buffer.consume_eq build (ideal.consumedBy ack).toUInt64
  have represents := mirrors.buffer.advance_clipped (ideal.consumedBy ack).toUInt64
  rw [UInt32.toNat_toUInt64] at consumed represents
  obtain ⟨queue, number, fin, rfl⟩ : ∃ queue number fin, ideal = actual.mirror queue number fin :=
    ⟨_, _, _, mirrors.same⟩
  have books : (actual.acknowledged (actual.mirror queue number fin) (actual.buffer.advance
      (min ((actual.mirror queue number fin).consumedBy ack).toUInt64 actual.buffer.remaining))
      ack now).Mirrors lost
      (((actual.mirror queue number fin).booked (.acknowledge ack now)).withNotes
        ((actual.mirror queue number fin).alarmAfter (.acknowledge ack now))
        ((actual.mirror queue number fin).failedChecks ++
          (actual.mirror queue number fin).failedAt (.acknowledge ack now))) := by
    refine ⟨represents, by rw [clean]; rfl, fun none => ?_, fun some => ?_⟩
    · obtain ⟨next, same⟩ := mirrors.whole none
      refine ⟨next, ?_⟩
      change (if _ then CtlState.acked else actual.fin) = if _ then CtlState.acked else fin
      rw [same]
      rfl
    · obtain ⟨open_, unacked, next⟩ := mirrors.hidden some
      change fin = .none at open_
      have uncovered : (actual.mirror queue number fin).acknowledgesFIN ack = false := by
        rw [SendBuffer.acknowledgesFIN]
        change (fin == .sent && _) = false
        rw [open_]
        rfl
      have still : (actual.acknowledged (actual.mirror queue number fin) (actual.buffer.advance
          (min ((actual.mirror queue number fin).consumedBy ack).toUInt64
            actual.buffer.remaining)) ack now).fin = actual.fin := by
        rw [acknowledged, uncovered]
        rfl
      rw [still]
      refine ⟨?_, unacked, next⟩
      change (if _ then CtlState.acked else fin) = .none
      rw [uncovered]
      exact open_
  obtain ⟨flight, calls, made, after⟩ := books.stepped build env streamed small
  rw [← acknowledge_done env.accepts clean covers represents consumed] at made
  refine ⟨_, made, after, rfl, ?_⟩
  change (if (actual.mirror queue number fin).acknowledgesFIN ack = true then CtlState.acked
    else actual.fin) = .none ↔ _
  rw [← covers]
  by_cases isFIN : (actual.fin == .sent && ack == actual.tcb.send.next) = true
  · rw [Bool.and_eq_true, beq_iff_eq] at isFIN
    simp [isFIN]
  · rw [if_neg isFIN]

theorem Mirrors.transmit (mirrors : actual.Mirrors lost ideal) (build : Build) (env : Surroundings)
    (streamed : Streamed initial stream acked ideal)
    (small : stream.length + lost < 2 ^ 32 - 2) :
    ∃ after, actual.transmit build env.accepts = .done after ∧
      after.Mirrors lost (ideal.step env .transmit) ∧ after.buffer = actual.buffer ∧
      after.fin = actual.fin := by
  have books : actual.Mirrors lost ((ideal.booked .transmit).withNotes (ideal.alarmAfter .transmit)
      (ideal.failedChecks ++ ideal.failedAt .transmit)) := by
    have none : ideal.failedAt .transmit = [] := rfl
    rw [none, List.append_nil]
    exact mirrors
  obtain ⟨flight, calls, made, after⟩ := books.stepped build env streamed small
  exact ⟨_, made, after, rfl, rfl⟩

theorem Mirrors.fire (mirrors : actual.Mirrors lost ideal) (build : Build) (env : Surroundings)
    {now : TimeBase} (clock : 0 ≤ now) (streamed : Streamed initial stream acked ideal)
    (small : stream.length + lost < 2 ^ 32 - 2) :
    ∃ after, actual.fire build env.accepts now = .done after ∧
      after.Mirrors lost (ideal.fire env now) ∧ after.buffer = actual.buffer ∧
      after.fin = actual.fin := by
  have remaining := streamed.remaining_eq
  have agrees := mirrors.agrees streamed.accounted (by omega)
  have alarm : ideal.alarm = actual.alarm := congrArg SendBufferOver.alarm mirrors.same
  by_cases isSet : actual.alarm.isSet = true
  · obtain ⟨flight, calls, made, after⟩ := @Agrees.fire_eq _ _ _ _ env now agrees build isSet clock
    rw [← mirrors.same] at after
    refine ⟨_, made, ?_, rfl, rfl⟩
    rw [after]
    exact ⟨mirrors.buffer, rfl, mirrors.whole, mirrors.hidden⟩
  · refine ⟨actual, if_neg isSet, ?_, rfl, rfl⟩
    rw [SendBuffer.fire_eq, alarm, if_neg isSet]
    exact mirrors

end RingSendBuffer

end LabNetstack
