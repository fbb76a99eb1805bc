import LabNetstack.SendBufferAccounting
import LabNetstack.SendBufferPhases
import LabNetstack.SocketSessionCore

/-! The send buffer of a session: what each event of the session makes it do, the addresses its
calls name, and its timer once the session is closed. -/

namespace LabNetstack

theorem IPAddress.unspecified_equal (address : IPAddress) :
    IPAddress.unspecified.equal address = true ↔ address.family = .ipUnspec := by
  cases address with
  | mk family v4 => cases family <;> simp [IPAddress.equal, IPAddress.unspecified]

namespace SendBuffer

/-! An operation that keeps the addresses and hands over only calls that name them. -/

structure Continues (before after : SendBuffer) : Prop where
  source : after.source = before.source
  destination : after.destination = before.destination
  factory : after.factory = before.factory
  calls : ∃ added, after.calls = before.calls ++ added ∧
    ∀ call ∈ added, Addressed before.source before.destination before.factory call

theorem Continues.refl (self : SendBuffer) : Continues self self :=
  ⟨rfl, rfl, rfl, [], by simp, by simp⟩

theorem transmit_continues (env : Surroundings) (self : SendBuffer) :
    Continues self (self.transmit env) := by
  have frame := transmit_frame env self
  obtain ⟨added, calls, addressed, _⟩ := transmit_calls env self
  exact ⟨frame.source, frame.destination, frame.factory, added, calls, addressed⟩

theorem fire_continues (env : Surroundings) (self : SendBuffer) (now : TimeBase) :
    Continues self (self.fire env now) := by
  rw [fire_eq]
  split
  · have sent := transmit_continues env { self with bytesInFlight := 0 }
    exact ⟨sent.source, sent.destination, sent.factory, sent.calls⟩
  · exact Continues.refl self

theorem sendSYN_continues (env : Surroundings) (self : SendBuffer) (initial : SequenceNumber) :
    Continues self (self.sendSYN env initial) := by
  rw [sendSYN_eq]
  have sent := transmit_continues env (self.synchronized initial)
  exact ⟨sent.source, sent.destination, sent.factory, sent.calls⟩

theorem sendFIN_continues (env : Surroundings) (self : SendBuffer) :
    Continues self (self.sendFIN env) := by
  have sent := transmit_continues env (self.booked .sendFIN)
  change Continues self (if self.buffer.isEmpty = true then (self.booked .sendFIN).transmit env
    else self.booked .sendFIN)
  split
  · exact ⟨sent.source, sent.destination, sent.factory, sent.calls⟩
  · exact ⟨rfl, rfl, rfl, [], by simp [booked], by simp⟩

end SendBuffer

namespace SocketSession

def synchronizes : SessionEvent → Bool
  | .open_ _ => true
  | .listen segment _ => !segment.isRST && !segment.isACK && segment.isSYN
  | _ => false

def dispatches : SessionEvent → Bool
  | .open_ _ => true
  | .listen segment _ => !segment.isRST && (segment.isACK || segment.isSYN)
  | _ => false

/-! What an event makes the send buffer do. -/

inductive Drives (env : Surroundings) (before : SendBuffer) : SessionEvent → SendBuffer → Prop where
  | idle {event : SessionEvent} (quiet : dispatches event = false) : Drives env before event before
  | synchronize {event : SessionEvent} (receive : ReceiveSpace) (initial : SequenceNumber)
      (requested : synchronizes event = true) :
      Drives env before event
        (SendBuffer.sendSYN env { before with tcb.receive := receive } initial)
  | reset {event : SessionEvent} (ack : SequenceNumber) (answered : dispatches event = true)
      (unrequested : synchronizes event = false) :
      Drives env before event
        (before.sendSegment env (before.factory.createControl ack 0 Segment.RST)).2
  | finish : Drives env before .close (before.sendFIN env)
  | fire (now : TimeBase) : Drives env before (.fire now) (before.fire env now)

theorem step_drives {env : Surroundings} {session next : SocketSession} {event : SessionEvent}
    (taken : session.step env event = .done next) :
    Drives env session.sendBuffer event next.sendBuffer := by
  cases event with
  | open_ initial =>
      simp only [step, open_] at taken
      split at taken
      · cases taken
      · cases taken
        exact .synchronize session.sendBuffer.tcb.receive initial rfl
  | openWith segment =>
      simp only [step, openWith] at taken
      split at taken
      · cases taken
      · cases taken
        exact .idle rfl
  | listen segment initial =>
      simp only [step] at taken
      cases taken
      unfold onSegmentArrivalLISTEN
      split
      next rst => exact .idle (by simp [dispatches, rst])
      next noRST =>
        split
        next ack =>
          exact .reset segment.acknowledgment (by simp [dispatches, noRST, ack])
            (by simp [synchronizes, ack])
        next noACK =>
          split
          next syn => exact .synchronize _ initial (by simp [synchronizes, noRST, noACK, syn])
          next noSYN => exact .idle (by simp [dispatches, noACK, noSYN])
  | close =>
      simp only [step, close] at taken
      split at taken <;> cases taken
      all_goals first
        | exact .idle rfl
        | exact .finish
  | enterCLOSED =>
      simp only [step] at taken
      cases taken
      exact .idle rfl
  | fire now =>
      simp only [step] at taken
      cases taken
      exact .fire now

section Driven

variable {env : Surroundings} {before after : SendBuffer} {event : SessionEvent}

theorem synchronizes_dispatches (requested : synchronizes event = true) :
    dispatches event = true := by
  cases event <;> simp_all [synchronizes, dispatches]

theorem Drives.continues (drives : Drives env before event after) :
    SendBuffer.Continues before after := by
  cases drives with
  | idle _ => exact SendBuffer.Continues.refl before
  | synchronize receive initial _ =>
      have sent := SendBuffer.sendSYN_continues env { before with tcb.receive := receive } initial
      exact ⟨sent.source, sent.destination, sent.factory, sent.calls⟩
  | reset ack _ _ => exact ⟨rfl, rfl, rfl, _, rfl, by simpa using ⟨rfl, rfl, rfl, rfl⟩⟩
  | finish => exact SendBuffer.sendFIN_continues env before
  | fire now => exact SendBuffer.fire_continues env before now

theorem Drives.syn (drives : Drives env before event after) :
    after.syn = if synchronizes event then .sent else before.syn := by
  cases drives with
  | idle quiet =>
      cases requested : synchronizes event with
      | false => rfl
      | true => rw [synchronizes_dispatches requested] at quiet; cases quiet
  | synchronize receive initial requested =>
      rw [requested, SendBuffer.sendSYN_eq, (SendBuffer.transmit_frame env _).syn]
      rfl
  | reset ack _ unrequested =>
      rw [unrequested]
      rfl
  | finish => exact SendBuffer.step_syn env before .sendFIN
  | fire now =>
      rw [SendBuffer.fire_eq]
      split
      · exact (SendBuffer.transmit_frame env { before with bytesInFlight := 0 }).syn
      · rfl

theorem Drives.alarm (drives : Drives env before event after)
    (clock : ∀ now, event = .fire now → 0 ≤ now) (isSet : before.alarm.isSet = true) :
    after.alarm.isSet = true := by
  cases drives with
  | idle _ => exact isSet
  | synchronize receive initial _ =>
      rw [SendBuffer.sendSYN_eq, (SendBuffer.transmit_frame env _).alarm]
      exact isSet
  | reset _ _ _ => exact isSet
  | finish =>
      have same : (before.sendFIN env).alarm = before.alarm :=
        SendBuffer.step_alarm env before .sendFIN
      rw [same]
      exact isSet
  | fire now =>
      rw [SendBuffer.fire_eq, if_pos isSet]
      exact SendBuffer.deadline_isSet now (clock now rfl)

theorem Drives.dispatched (drives : Drives env before event after)
    (answered : dispatches event = true) : after.calls ≠ [] := by
  cases drives with
  | idle quiet => rw [answered] at quiet; cases quiet
  | synchronize receive initial _ =>
      obtain ⟨added, calls, _, _, opening, _⟩ := SendBuffer.transmit_calls env
        (SendBuffer.synchronized { before with tcb.receive := receive } initial)
      rw [SendBuffer.sendSYN_eq, calls]
      exact List.append_ne_nil_of_right_ne_nil _ (opening rfl).1
  | reset ack _ _ => simp [SendBuffer.sendSegment, SendBufferOver.sendSegment]
  | finish => cases answered
  | fire now => cases answered

theorem Drives.undispatched (drives : Drives env before event after)
    (quiet : dispatches event = false) (silent : before.syn = .none) :
    after.calls = before.calls := by
  have still : ∀ start : SendBuffer, start.syn = .none → (start.transmit env).calls = start.calls := by
    intro start none
    simp only [SendBuffer.transmit_eq, none]
  cases drives with
  | idle _ => rfl
  | synchronize receive initial requested =>
      rw [synchronizes_dispatches requested] at quiet
      cases quiet
  | reset _ answered _ => rw [answered] at quiet; cases quiet
  | finish =>
      change (if before.buffer.isEmpty = true then (before.booked .sendFIN).transmit env
        else before.booked .sendFIN).calls = _
      split
      · exact still (before.booked .sendFIN) silent
      · rfl
  | fire now =>
      rw [SendBuffer.fire_eq]
      split
      · exact still { before with bytesInFlight := 0 } silent
      · rfl

end Driven

/-! The send buffer after a run of its session. -/

structure Traced (local_ remote : SocketAddress) (start : TimeBase) (past : List SessionEvent)
    (sender : SendBuffer) : Prop where
  source : sender.source = IPAddress.unspecified
  destination : sender.destination = IPAddress.unspecified
  factory : sender.factory = ⟨local_, remote⟩
  syn : sender.syn = if past.any synchronizes then .sent else .none
  addressed : ∀ call ∈ sender.calls,
    SendBuffer.Addressed IPAddress.unspecified IPAddress.unspecified ⟨local_, remote⟩ call
  handed : sender.calls = [] ↔ past.any dispatches = false
  alarm : 0 ≤ start → (∀ now, .fire now ∈ past → 0 ≤ now) → sender.alarm.isSet = true

theorem create_traced (local_ remote : SocketAddress) (start : TimeBase) :
    Traced local_ remote start [] (create local_ remote start).sendBuffer := by
  refine ⟨?_, ?_, ?_, ?_, ?_, ?_, ?_⟩ <;>
    simp only [create, SendBuffer.create_eq]
  · rfl
  · simp
  · simp
  · intro clock _
    exact SendBuffer.deadline_isSet start clock

theorem Traced.step {env : Surroundings} {local_ remote : SocketAddress} {start : TimeBase}
    {past : List SessionEvent} {event : SessionEvent} {before after : SendBuffer}
    (traced : Traced local_ remote start past before) (drives : Drives env before event after) :
    Traced local_ remote start (past ++ [event]) after := by
  have continues := drives.continues
  obtain ⟨added, calls, addressed⟩ := continues.calls
  rw [traced.source, traced.destination, traced.factory] at addressed
  refine ⟨continues.source.trans traced.source, continues.destination.trans traced.destination,
    continues.factory.trans traced.factory, ?_, ?_, ?_, ?_⟩
  · rw [drives.syn, traced.syn]
    cases h : synchronizes event <;> simp [h]
  · intro call member
    rw [calls, List.mem_append] at member
    rcases member with earlier | now
    · exact traced.addressed call earlier
    · exact addressed call now
  · rw [List.any_append, Bool.or_eq_false_iff, ← traced.handed]
    cases answered : dispatches event with
    | true =>
        simp only [List.any_cons, answered, Bool.true_or, Bool.true_eq_false, and_false, iff_false]
        exact drives.dispatched answered
    | false =>
        simp only [List.any_cons, answered, List.any_nil, Bool.or_self, and_true]
        constructor
        · intro none
          exact (List.append_eq_nil_iff.mp (calls.symm.trans none)).1
        · intro none
          have quietPast : past.any synchronizes = false := by
            rw [List.any_eq_false]
            intro earlier member requested
            have silent := List.any_eq_false.mp (traced.handed.mp none) earlier member
            exact silent (synchronizes_dispatches requested)
          have silent : before.syn = .none := by
            rw [traced.syn, quietPast]
            rfl
          rw [drives.undispatched answered silent, none]
  · intro clock clocks
    refine drives.alarm (fun now isFire => ?_) (traced.alarm clock fun now member => ?_)
    · exact clocks now (by simp [isFire])
    · exact clocks now (List.mem_append_left _ member)

theorem run_traced {env : Surroundings} {local_ remote : SocketAddress} {start : TimeBase}
    {events : List SessionEvent} {session : SocketSession}
    (reached : run env (create local_ remote start) events = .done session) :
    Traced local_ remote start events session.sendBuffer :=
  execute_history (motive := fun past session => Traced local_ remote start past session.sendBuffer)
    (create_traced local_ remote start)
    (fun _ _ _ _ traced taken => traced.step (step_drives taken)) reached

/-- The segments of a session name its two addresses. The IP layer is given the unspecified address
instead, so it is told the same only by a session without addresses or one that sends nothing. -/
theorem addresses_agree_iff (env : Surroundings) (local_ remote : SocketAddress) (start : TimeBase)
    (events : List SessionEvent) (session : SocketSession)
    (reached : run env (create local_ remote start) events = .done session) :
    (∀ call ∈ session.sendBuffer.calls,
      call.segment.source = local_ ∧ call.segment.destination = remote) ∧
    ((∀ call ∈ session.sendBuffer.calls,
        call.source.equal local_.host = true ∧ call.destination.equal remote.host = true) ↔
      (local_.host.family = .ipUnspec ∧ remote.host.family = .ipUnspec) ∨
        ∀ event ∈ events, dispatches event = false) := by
  have traced := run_traced reached
  refine ⟨fun call member => ?_, ?_⟩
  · exact ⟨(traced.addressed call member).segmentSource,
      (traced.addressed call member).segmentDestination⟩
  · have named : ∀ call ∈ session.sendBuffer.calls,
        (call.source.equal local_.host = true ∧ call.destination.equal remote.host = true) ↔
          local_.host.family = .ipUnspec ∧ remote.host.family = .ipUnspec := by
      intro call member
      rw [(traced.addressed call member).source, (traced.addressed call member).destination,
        IPAddress.unspecified_equal, IPAddress.unspecified_equal]
    have quiet : session.sendBuffer.calls = [] ↔ ∀ event ∈ events, dispatches event = false := by
      rw [traced.handed, List.any_eq_false]
      simp only [Bool.not_eq_true]
    constructor
    · intro agree
      by_cases none : session.sendBuffer.calls = []
      · exact Or.inr (quiet.mp none)
      · obtain ⟨call, member⟩ := List.exists_mem_of_ne_nil _ none
        exact Or.inl ((named call member).mp (agree call member))
    · rintro (hosts | silent) call member
      · exact (named call member).mpr hosts
      · rw [quiet.mpr silent] at member
        simp at member

def sampleLocal : SocketAddress := ⟨IPAddress.ofInAddr ⟨10, 0, 0, 1⟩, 5000⟩

def sampleRemote : SocketAddress := ⟨IPAddress.ofInAddr ⟨10, 0, 0, 2⟩, 80⟩

theorem openedSession_named :
    ∃ session, run SendBuffer.quietHost (create sampleLocal sampleRemote 0) [.open_ 7] = .done session ∧
      session.sendBuffer.calls ≠ [] ∧
      (∀ call ∈ session.sendBuffer.calls,
        call.segment.source = sampleLocal ∧ call.segment.destination = sampleRemote) ∧
      ¬∀ call ∈ session.sendBuffer.calls,
        call.source.equal sampleLocal.host = true ∧ call.destination.equal sampleRemote.host = true := by
  obtain ⟨named, agree⟩ :=
    addresses_agree_iff SendBuffer.quietHost sampleLocal sampleRemote 0 [.open_ 7] _ rfl
  refine ⟨_, rfl, by decide, named, ?_⟩
  rw [agree]
  simp [dispatches, sampleLocal, IPAddress.ofInAddr]

/-- The SYN of an active open is sent from and to the unspecified address. -/
theorem openedSession_disagrees :
    ∃ session, run SendBuffer.quietHost (create sampleLocal sampleRemote 0) [.open_ 7] = .done session ∧
      ∃ call ∈ session.sendBuffer.calls, call.segment.source = sampleLocal ∧
        call.source.equal sampleLocal.host = false ∧
        call.destination.equal sampleRemote.host = false :=
  ⟨_, rfl, _, List.mem_singleton_self _, rfl, rfl, rfl⟩

/-- A closed session is silent only if no SYN was sent for it: closing does not reach the timer. -/
theorem closed_silent_iff (env : Surroundings) (local_ remote : SocketAddress) (start : TimeBase)
    (events : List SessionEvent) (session : SocketSession) (clock : 0 ≤ start)
    (clocks : ∀ now, .fire now ∈ events → 0 ≤ now)
    (reached : run env (create local_ remote start) events = .done session) :
    (session.isClosed = true →
      ∀ now, (session.sendBuffer.fire env now).calls = session.sendBuffer.calls) ↔
    (session.isClosed = true → ∀ event ∈ events, synchronizes event = false) := by
  refine imp_congr_right fun _ => ?_
  have traced := run_traced reached
  have isSet := traced.alarm clock clocks
  have fired : ∀ now, (session.sendBuffer.fire env now).calls =
      (SendBuffer.transmit env { session.sendBuffer with bytesInFlight := 0 }).calls := by
    intro now
    rw [SendBuffer.fire_eq, if_pos isSet]
    rfl
  obtain ⟨added, calls, _, silent, opening, _⟩ := SendBuffer.transmit_calls env
    { session.sendBuffer with bytesInFlight := 0 }
  have requested : (∀ event ∈ events, synchronizes event = false) ↔
      events.any synchronizes = false := by
    rw [List.any_eq_false]
    simp only [Bool.not_eq_true]
  rw [requested]
  cases synchronized : events.any synchronizes with
  | true =>
      have sent : session.sendBuffer.syn = .sent := by
        rw [traced.syn, synchronized]
        rfl
      simp only [Bool.true_eq_false, iff_false]
      intro quiet
      have same := quiet 0
      rw [fired, calls] at same
      exact (opening sent).1 (List.append_right_eq_self.mp same)
  | false =>
      have none : session.sendBuffer.syn = .none := by
        rw [traced.syn, synchronized]
        rfl
      simp only [iff_true]
      intro now
      rw [fired, calls, silent none, List.append_nil]

def passiveRun : List SessionEvent :=
  [.openWith ⟨sampleRemote, sampleLocal, 0, 0, Segment.RST, 0, Pointer.null, false, 0⟩, .fire 5, .close]

theorem passiveSession_silent :
    ∃ session, run SendBuffer.quietHost (create sampleLocal sampleRemote 0) passiveRun =
        .done session ∧ session.isClosed = true ∧
      ∀ now, (session.sendBuffer.fire SendBuffer.quietHost now).calls = session.sendBuffer.calls := by
  refine ⟨_, rfl, rfl, ?_⟩
  refine (closed_silent_iff SendBuffer.quietHost sampleLocal sampleRemote 0 passiveRun _ (by decide)
    ?_ rfl).mpr ?_ rfl
  · intro now member
    simp only [passiveRun, List.mem_cons, reduceCtorEq, SessionEvent.fire.injEq, List.not_mem_nil,
      or_false, false_or] at member
    rw [member]
    decide
  · intro _ event member
    exact Bool.eq_false_iff.mpr (List.any_eq_false.mp (rfl : passiveRun.any synchronizes = false)
      event member)

/-- After `open` and `close` the timer still sends the SYN. -/
theorem closedSession_sends :
    ∃ session, run SendBuffer.quietHost (create sampleLocal sampleRemote 0) [.open_ 7, .close] =
        .done session ∧ session.isClosed = true ∧
      (session.sendBuffer.fire SendBuffer.quietHost 1000000).calls ≠ session.sendBuffer.calls :=
  ⟨_, rfl, rfl, by decide⟩

end SocketSession

end LabNetstack
