import LabNetstack.SendBuffer
import Mathlib.Data.List.Induction

/-! What every call of `transmit` says in its headers, before and after the SYN is acknowledged. -/

namespace LabNetstack

namespace SendBuffer

/-! A segment of the opening handshake, and one of an open connection. -/

structure OpeningSegment (initial : SequenceNumber) (receive : ReceiveSpace) (segment : Segment) :
    Prop where
  isSYN : segment.isSYN = true
  sequence : segment.sequence = initial
  payload : segment.payload = []
  isFIN : segment.isFIN = false
  isACK : segment.isACK = receive.synReceived
  acknowledgment : segment.isACK = true → segment.acknowledgment = receive.next

structure OpenSegment (receive : ReceiveSpace) (segment : Segment) : Prop where
  isSYN : segment.isSYN = false
  isACK : segment.isACK = true
  acknowledgment : segment.acknowledgment = receive.next

structure Addressed (source destination : IPAddress) (factory : SegmentFactory) (call : PacketCall) :
    Prop where
  source : call.source = source
  destination : call.destination = destination
  segmentSource : call.segment.source = factory.localAddress
  segmentDestination : call.segment.destination = factory.remoteAddress

theorem transmitSYN_calls (env : Surroundings) (self : SendBuffer) :
    ∃ call, (self.transmitSYN env).calls = self.calls ++ [call] ∧
      Addressed self.source self.destination self.factory call ∧
      OpeningSegment self.tcb.send.initial self.tcb.receive call.segment := by
  unfold transmitSYN SendBufferOver.transmitSYN
  split
  next received =>
    refine ⟨_, rfl, ⟨rfl, rfl, rfl, rfl⟩, ?_, rfl, rfl, ?_, ?_, fun _ => rfl⟩
    · exact (by decide : ((Segment.SYN ||| Segment.ACK) &&& Segment.SYN != 0) = true)
    · exact (by decide : ((Segment.SYN ||| Segment.ACK) &&& Segment.FIN != 0) = false)
    · rw [received]
      exact (by decide : ((Segment.SYN ||| Segment.ACK) &&& Segment.ACK != 0) = true)
  next unreceived =>
    have noACK : (Segment.SYN &&& Segment.ACK != 0) = false := by decide
    refine ⟨_, rfl, ⟨rfl, rfl, rfl, rfl⟩, ?_, rfl, rfl, ?_, ?_, ?_⟩
    · exact (by decide : (Segment.SYN &&& Segment.SYN != 0) = true)
    · exact (by decide : (Segment.SYN &&& Segment.FIN != 0) = false)
    · rw [Bool.eq_false_iff.mpr unreceived]
      exact noACK
    · intro isACK
      exact absurd (noACK.symm.trans isACK) Bool.false_ne_true

theorem nextSegment_open (env : Surroundings) (self : SendBuffer) :
    OpenSegment self.tcb.receive (self.nextSegment env) := by
  refine ⟨?_, ?_, rfl⟩
  · simp only [nextSegment, SegmentFactory.createSegment, Segment.isSYN, Segment.hasFlag]
    cases self.piggybacks env <;> decide
  · simp only [nextSegment, SegmentFactory.createSegment, Segment.isACK, Segment.hasFlag]
    cases self.piggybacks env <;> decide

theorem transmitLoop_calls (env : Surroundings) (fuel : Nat) (self : SendBuffer) :
    ∃ added, (transmitLoop env fuel self).calls = self.calls ++ added ∧
      ∀ call ∈ added, Addressed self.source self.destination self.factory call ∧
        OpenSegment self.tcb.receive call.segment := by
  apply transmitLoop_rule (motive := fun self after =>
    ∃ added, after.calls = self.calls ++ added ∧
      ∀ call ∈ added, Addressed self.source self.destination self.factory call ∧
        OpenSegment self.tcb.receive call.segment)
  · intro self
    exact ⟨[], by simp, by simp⟩
  · rintro self after _ _ ⟨added, calls, headed⟩
    refine ⟨self.nextCall env :: added, ?_, ?_⟩
    · rw [calls]
      simp [afterRound]
    · intro call member
      rcases List.mem_cons.mp member with rfl | later
      · exact ⟨⟨rfl, rfl, rfl, rfl⟩, nextSegment_open env self⟩
      · exact headed call later

/-- What `transmit` hands over is addressed by the sender's own fields, and its shape is the one
of the phase the SYN is in. -/
theorem transmit_calls (env : Surroundings) (self : SendBuffer) :
    ∃ added, (self.transmit env).calls = self.calls ++ added ∧
      (∀ call ∈ added, Addressed self.source self.destination self.factory call) ∧
      (self.syn = .none → added = []) ∧
      (self.syn = .sent → added ≠ [] ∧ ∀ call ∈ added,
        OpeningSegment self.tcb.send.initial self.tcb.receive call.segment) ∧
      (self.syn = .acked → ∀ call ∈ added, OpenSegment self.tcb.receive call.segment) := by
  cases phase : self.syn with
  | none =>
      refine ⟨[], ?_, by simp, by simp, by simp, by simp⟩
      simp only [transmit_eq, phase, List.append_nil]
  | sent =>
      obtain ⟨call, calls, addressed, opening⟩ := transmitSYN_calls env self
      refine ⟨[call], ?_, ?_, by simp, fun _ => ⟨by simp, ?_⟩, by simp⟩
      · simp only [transmit_eq, phase, calls]
      · intro other member
        rw [List.mem_singleton.mp member]
        exact addressed
      · intro other member
        rw [List.mem_singleton.mp member]
        exact opening
  | acked =>
      obtain ⟨added, calls, headed⟩ := transmitLoop_calls env kMaxBytesInFlight.toNat self
      refine ⟨added, ?_, ?_, by simp, by simp, ?_⟩
      · simp only [transmit_eq, phase, calls]
      · exact fun call member => (headed call member).1
      · exact fun _ call member => (headed call member).2

theorem emitted_phase (env : Surroundings) (self : SendBuffer) (event : SendEvent)
    (call : PacketCall) (member : call ∈ self.emitted env event) :
    ((self.booked event).syn = .sent →
      OpeningSegment self.tcb.send.initial self.tcb.receive call.segment) ∧
    ((self.booked event).syn = .acked → OpenSegment self.tcb.receive call.segment) := by
  rw [emitted_eq] at member
  split at member
  · next sends =>
      have initial : (self.booked event).tcb.send.initial = self.tcb.send.initial := by
        cases event <;> rfl
      -- only `receive` moves the receive half, and it sends nothing
      have receive : (self.booked event).tcb.receive = self.tcb.receive := by
        cases event with
        | receive => exact absurd sends (by simp [SendBuffer.sends])
        | _ => rfl
      obtain ⟨added, calls, _, _, opening, established⟩ := transmit_calls env (self.booked event)
      rw [calls, List.drop_left] at member
      rw [initial, receive] at opening
      rw [receive] at established
      exact ⟨fun phase => (opening phase).2 call member, fun phase => established phase call member⟩
  · simp at member

def isAcknowledge : SendEvent → Bool
  | .acknowledge _ _ => true
  | _ => false

theorem booked_syn (self : SendBuffer) (event : SendEvent) :
    (self.booked event).syn =
      if isAcknowledge event && self.syn == .sent then .acked else self.syn := by
  cases event <;> simp [booked, isAcknowledge]

theorem step_initial (env : Surroundings) (self : SendBuffer) (event : SendEvent) :
    (self.step env event).tcb.send.initial = self.tcb.send.initial := by
  rw [step_tcb]
  cases event <;> rfl

/-- The first `acknowledge` ends the opening phase for good. -/
theorem run_phase (env : Surroundings) (opening : Opening) (events : List SendEvent) :
    (run env (opened env opening) events).syn =
      (if events.any isAcknowledge then .acked else .sent) ∧
    (run env (opened env opening) events).tcb.send.initial = opening.initial := by
  induction events using List.reverseRecOn with
  | nil =>
      have frame := opened_frame env opening
      refine ⟨frame.syn, ?_⟩
      change (opened env opening).tcb.send.initial = _
      rw [frame.tcb]
      rfl
  | append_singleton events event ih =>
      obtain ⟨syn, initial⟩ := ih
      have last : run env (opened env opening) (events ++ [event]) =
          (run env (opened env opening) events).step env event := runEvents_append _ _ _ _
      rw [last, step_syn, booked_syn, step_initial, syn, List.any_append]
      refine ⟨?_, initial⟩
      cases events.any isAcknowledge <;> cases h : isAcknowledge event <;> simp [h]

/-- Until the first acknowledgment every segment is the SYN, and none is after it. -/
theorem handshake_phases (env : Surroundings) (opening : Opening) (events : List SendEvent) :
    (∀ call ∈ (opened env opening).calls,
      OpeningSegment opening.initial opening.tcb.receive call.segment) ∧
    ∀ before event after, events = before ++ event :: after →
      ∀ call ∈ (run env (opened env opening) before).emitted env event,
        if (before ++ [event]).any isAcknowledge then
          OpenSegment (run env (opened env opening) before).tcb.receive call.segment
        else OpeningSegment opening.initial (run env (opened env opening) before).tcb.receive
          call.segment := by
  refine ⟨?_, ?_⟩
  · intro call member
    obtain ⟨first, calls, _, shape⟩ := transmitSYN_calls env (ready opening)
    have only : (opened env opening).calls = [first] := by
      rw [opened_eq, calls]
      rfl
    rw [only] at member
    rw [List.mem_singleton.mp member]
    exact shape
  · intro before event after _ call member
    obtain ⟨syn, initial⟩ := run_phase env opening before
    obtain ⟨opens, established⟩ := emitted_phase env _ event call member
    rw [booked_syn, syn] at opens established
    rw [initial] at opens
    rw [List.any_append]
    cases acknowledged : before.any isAcknowledge <;> cases now : isAcknowledge event <;>
      simp [acknowledged, now] at opens established ⊢ <;> assumption

end SendBuffer

end LabNetstack
