import LabNetstack.ConnectionCore
import LabNetstack.SendBufferStream
import LabNetstack.SendBufferTimer

/-! Whatever the network does, the other end holds a prefix of what the application wrote, and the
sender forgets a byte only after the other end has it. -/

namespace LabNetstack

/-! Numbers of the stream, counted from the one after the SYN. -/

def numberAt (initial : SequenceNumber) (index : Nat) : SequenceNumber :=
  initial + 1 + UInt32.ofNat index

theorem numberAt_add (initial : SequenceNumber) (index more : Nat) :
    numberAt initial index + UInt32.ofNat more = numberAt initial (index + more) := by
  rw [numberAt, numberAt, UInt32.ofNat_add, UInt32.add_assoc]

theorem numberAt_from (initial : SequenceNumber) {index : Nat} (bound : index < 2 ^ 32 - 1) :
    (numberAt initial index - initial).toNat = index + 1 := by
  have distance : numberAt initial index - initial = UInt32.ofNat (index + 1) := by
    rw [numberAt, UInt32.ofNat_add, UInt32.ofNat_one]
    grind
  rw [distance, UInt32.toNat_ofNat']
  omega

theorem numberAt_distance (initial : SequenceNumber) {first second : Nat} (ordered : first ≤ second)
    (bound : second < 2 ^ 32 - 1) :
    (numberAt initial second - numberAt initial first).toNat = second - first := by
  have whole : numberAt initial second = numberAt initial first + UInt32.ofNat (second - first) := by
    rw [numberAt_add, Nat.add_sub_cancel' ordered]
  have distance : numberAt initial second - numberAt initial first =
      UInt32.ofNat (second - first) := by
    rw [whole]
    grind
  rw [distance, UInt32.toNat_ofNat']
  omega

theorem numberAt_le {initial : SequenceNumber} {first second : Nat} (firstBound : first < 2 ^ 32 - 1)
    (secondBound : second < 2 ^ 32 - 1) :
    numberAt initial first - initial ≤ numberAt initial second - initial ↔ first ≤ second := by
  rw [UInt32.le_iff_toNat_le, numberAt_from initial firstBound, numberAt_from initial secondBound]
  omega

theorem numberAt_lt {initial : SequenceNumber} {first second : Nat} (firstBound : first < 2 ^ 32 - 1)
    (secondBound : second < 2 ^ 32 - 1) :
    numberAt initial first - initial < numberAt initial second - initial ↔ first < second := by
  rw [UInt32.lt_iff_toNat_lt, numberAt_from initial firstBound, numberAt_from initial secondBound]
  omega

theorem numberAt_inj {initial : SequenceNumber} {first second : Nat} (firstBound : first < 2 ^ 32 - 1)
    (secondBound : second < 2 ^ 32 - 1) (same : numberAt initial first = numberAt initial second) :
    first = second := by
  have one := numberAt_from initial firstBound
  have other := numberAt_from initial secondBound
  rw [same] at one
  omega

/-- A segment that tells the stream as it is: the SYN before it, or bytes at their own number. -/
structure Truthful (initial : SequenceNumber) (written : List UInt8) (closed : Prop)
    (segment : Segment) : Prop where
  syn : segment.isSYN = true → segment.sequence = initial
  data : segment.isSYN = false → ∃ index, segment.sequence = numberAt initial index ∧
    index + segment.payload.length ≤ written.length ∧
    segment.payload = (written.drop index).take segment.payload.length ∧
    (segment.isFIN = true → closed ∧ index + segment.payload.length = written.length)

/-- More is written only while the stream is not closed. -/
theorem Truthful.extend {initial : SequenceNumber} {written more : List UInt8} {closed later : Prop}
    {segment : Segment} (truthful : Truthful initial written closed segment)
    (stays : closed → later) (ended : closed → more = []) :
    Truthful initial (written ++ more) later segment := by
  refine ⟨truthful.syn, fun data => ?_⟩
  obtain ⟨index, sequence, inside, payload, fin⟩ := truthful.data data
  refine ⟨index, sequence, ?_, ?_, ?_⟩
  · rw [List.length_append]
    omega
  · rw [List.drop_append_of_le_length (by omega),
      List.take_append_of_le_length (by rw [List.length_drop]; omega)]
    exact payload
  · intro isFIN
    obtain ⟨isClosed, last⟩ := fin isFIN
    rw [ended isClosed, List.append_nil]
    exact ⟨stays isClosed, last⟩

namespace Receiver

variable {initial : SequenceNumber} {written : List UInt8} {closed : Prop} {receiver : Receiver}
  {segment : Segment}

/-- The other end has the beginning of the stream, and expects what follows. -/
structure Follows (initial : SequenceNumber) (written : List UInt8) (closed : Prop)
    (receiver : Receiver) : Prop where
  unopened : receiver.space.synReceived = false → receiver.count = 0
  origin : receiver.space.synReceived = true → receiver.space.initial = initial
  expects : receiver.space.synReceived = true →
    receiver.space.next = numberAt initial receiver.count
  taken : receiver.received <+: written
  finished : receiver.finished = true → receiver.received = written ∧ closed

theorem Follows.count_le (follows : receiver.Follows initial written closed) :
    receiver.count ≤ written.length + 1 := by
  have taken := follows.taken.length_le
  have bit := receiver.finished.toNat_le
  rw [count]
  omega

theorem Follows.extend {more : List UInt8} {later : Prop}
    (follows : receiver.Follows initial written closed) (stays : closed → later)
    (ended : closed → more = []) : receiver.Follows initial (written ++ more) later where
  unopened := follows.unopened
  origin := follows.origin
  expects := follows.expects
  taken := follows.taken.trans (List.prefix_append written more)
  finished := fun finished => by
    obtain ⟨all, isClosed⟩ := follows.finished finished
    rw [ended isClosed, List.append_nil]
    exact ⟨all, stays isClosed⟩

/-- The ways in which a segment can change the other end. -/
theorem deliver_cases (receiver : Receiver) (segment : Segment) :
    receiver.deliver segment = receiver ∨
    (receiver.space.synReceived = false ∧ segment.isSYN = true ∧ receiver.deliver segment =
      { receiver with space := ⟨segment.sequence + 1, segment.sequence, true⟩ }) ∨
    (receiver.space.synReceived = true ∧ segment.isSYN = false ∧ receiver.finished = false ∧
      ∃ bytes, receiver.fresh segment = some bytes ∧
        receiver.deliver segment = receiver.accept bytes segment.isFIN) := by
  unfold deliver
  cases opened : receiver.space.synReceived with
  | false =>
      cases syn : segment.isSYN with
      | false => exact Or.inl rfl
      | true => exact Or.inr (Or.inl ⟨rfl, rfl, rfl⟩)
  | true =>
      cases syn : segment.isSYN with
      | true => exact Or.inl rfl
      | false =>
          cases finished : receiver.finished with
          | true => exact Or.inl rfl
          | false =>
              cases found : receiver.fresh segment with
              | none => exact Or.inl rfl
              | some bytes => exact Or.inr (Or.inr ⟨rfl, rfl, rfl, bytes, rfl, rfl⟩)

/-- A segment is taken if it leaves no gap, and what is new of it is the stream's next bytes. -/
theorem Follows.fresh_eq (follows : receiver.Follows initial written closed)
    (small : written.length < 2 ^ 32 - 2) (opened : receiver.space.synReceived = true)
    (unfinished : receiver.finished = false) {index : Nat}
    (sequence : segment.sequence = numberAt initial index)
    (inside : index + segment.payload.length ≤ written.length)
    (payload : segment.payload = (written.drop index).take segment.payload.length) :
    receiver.fresh segment =
      if index ≤ receiver.received.length ∧
          receiver.received.length ≤ index + segment.payload.length then
        some ((written.take (index + segment.payload.length)).drop receiver.received.length)
      else none := by
  have taken := follows.taken.length_le
  have count : receiver.count = receiver.received.length := by
    rw [Receiver.count, unfinished]
    rfl
  have expects := follows.expects opened
  rw [count] at expects
  have order : receiver.space.lessOrEqual segment.sequence receiver.space.next =
      decide (index ≤ receiver.received.length) := by
    simp only [ReceiveSpace.lessOrEqual, moduloComparison, follows.origin opened, sequence, expects]
    exact decide_eq_decide.mpr (numberAt_le (by omega) (by omega))
  unfold fresh
  by_cases early : index ≤ receiver.received.length
  · have known : (receiver.space.next - segment.sequence).toNat =
        receiver.received.length - index := by
      rw [sequence, expects]
      exact numberAt_distance initial early (by omega)
    have reach : receiver.received.length - index ≤ segment.payload.length ↔
        receiver.received.length ≤ index + segment.payload.length := by omega
    simp only [order, early, known, reach, decide_true, Bool.true_and, decide_eq_true_eq, true_and]
    congr 2
    -- the known bytes cut off the payload, or the taken ones off the stream
    rw [payload, List.length_take, List.length_drop, Nat.min_eq_left (by omega), List.take_drop,
      List.drop_drop, Nat.add_sub_cancel' early]
  · simp only [order, early, decide_false, Bool.false_and, Bool.false_eq_true, ↓reduceIte,
      false_and]

theorem Follows.accept (follows : receiver.Follows initial written closed)
    (opened : receiver.space.synReceived = true) (unfinished : receiver.finished = false)
    {reach : Nat} {fin : Bool} (further : receiver.received.length ≤ reach)
    (inside : reach ≤ written.length) (ends : fin = true → closed ∧ reach = written.length) :
    (receiver.accept ((written.take reach).drop receiver.received.length) fin).Follows
        initial written closed ∧
      (receiver.accept ((written.take reach).drop receiver.received.length) fin).received.length =
        reach := by
  have joined : receiver.received ++ (written.take reach).drop receiver.received.length =
      written.take reach := by
    have whole := List.prefix_iff_eq_take.mp follows.taken
    have front : (written.take reach).take receiver.received.length = receiver.received := by
      rw [List.take_take, Nat.min_eq_left further]
      exact whole.symm
    calc receiver.received ++ (written.take reach).drop receiver.received.length
        = (written.take reach).take receiver.received.length ++
            (written.take reach).drop receiver.received.length := by rw [front]
      _ = written.take reach := List.take_append_drop _ _
  have length : (written.take reach).length = reach := by
    rw [List.length_take, Nat.min_eq_left inside]
  have added : ((written.take reach).drop receiver.received.length).length =
      reach - receiver.received.length := by
    rw [List.length_drop, length]
  have received : (receiver.accept ((written.take reach).drop receiver.received.length)
      fin).received = written.take reach := joined
  refine ⟨⟨?_, follows.origin, ?_, ?_, ?_⟩, by rw [received, length]⟩
  · intro unopened
    exact absurd (opened.symm.trans unopened) (by decide)
  · intro _
    have before : receiver.count = receiver.received.length := by
      rw [Receiver.count, unfinished]
      rfl
    change receiver.space.next + UInt32.ofNat (_ + fin.toNat) = numberAt initial (_ + fin.toNat)
    rw [follows.expects opened, numberAt_add, before, added]
    congr 1
    rw [received, length]
    omega
  · rw [received]
    exact List.take_prefix reach written
  · intro finished
    obtain ⟨isClosed, all⟩ := ends finished
    rw [received, all, List.take_length]
    exact ⟨rfl, isClosed⟩

/-- A truthful segment moves the other end along the stream, or not at all. -/
theorem Follows.deliver (follows : receiver.Follows initial written closed)
    (small : written.length < 2 ^ 32 - 2) (truthful : Truthful initial written closed segment) :
    (receiver.deliver segment).Follows initial written closed ∧
      receiver.count ≤ (receiver.deliver segment).count ∧
      (receiver.space.synReceived = true →
        (receiver.deliver segment).space.synReceived = true) := by
  rcases receiver.deliver_cases segment with same | ⟨unopened, syn, open_⟩ |
    ⟨opened, data, unfinished, bytes, found, taken⟩
  · rw [same]
    exact ⟨follows, Nat.le_refl _, id⟩
  · have none := follows.unopened unopened
    rw [open_]
    refine ⟨⟨?_, ?_, ?_, follows.taken, follows.finished⟩, Nat.le_refl _, fun _ => rfl⟩
    · intro still
      cases still
    · intro _
      exact truthful.syn syn
    · intro _
      have empty : Receiver.count
          { receiver with space := ⟨segment.sequence + 1, segment.sequence, true⟩ } = 0 := none
      rw [empty, truthful.syn syn]
      simp [numberAt]
  · obtain ⟨index, sequence, inside, payload, fin⟩ := truthful.data data
    rw [follows.fresh_eq small opened unfinished sequence inside payload] at found
    split at found
    next near =>
      cases found
      obtain ⟨accepted, length⟩ := follows.accept opened unfinished near.2 inside fin
      rw [taken]
      refine ⟨accepted, ?_, fun _ => opened⟩
      rw [Receiver.count, Receiver.count, length, unfinished]
      simp only [Bool.toNat_false, Nat.add_zero]
      omega
    next => cases found

end Receiver

/-! What one event of the sender adds to the network. -/

namespace SendBuffer

theorem step_calls (env : Surroundings) (self : SendBuffer) (event : SendEvent) :
    (self.step env event).calls = self.calls ++ self.emitted env event := by
  obtain ⟨added, calls⟩ := (sent_frame env self event).calls
  have whole : (self.step env event).calls = self.calls ++ added := by
    rw [step_eq, ← booked_calls self event]
    exact calls
  rw [emitted, whole, List.drop_left]

theorem numberAt_offset (initial number : SequenceNumber) :
    numberAt initial (number - initial - 1).toNat = number := by
  rw [numberAt, UInt32.ofNat_toNat]
  grind

variable {env : Surroundings} {self : SendBuffer} {event : SendEvent} {initial : SequenceNumber}
  {stream : List UInt8} {acked : Nat}

theorem step_withNotes (clean : self.failedChecks ++ self.failedAt event = []) :
    (self.step env event).withNotes (self.alarmAfter event) [] = self.step env event := by
  rw [← step_alarm env self event, ← (step_failedChecks env self event).trans clean]
  rfl

theorem Streamed.withNotes (streamed : Streamed initial stream acked self) (alarm : Alarm)
    (failedChecks : List SendCheck) :
    Streamed initial stream acked (self.withNotes alarm failedChecks) :=
  ⟨streamed.accounted.of_same rfl rfl rfl rfl, streamed.origin, streamed.taken, streamed.items,
    streamed.synPending, streamed.unack, streamed.finished, streamed.flight⟩

/-- Each event hands over segments that tell the stream as it is by then. -/
theorem Streamed.emitted_truthful (streamed : Streamed initial stream acked (self.booked event))
    (small : stream.length < 2 ^ 32 - 2) {call : PacketCall}
    (member : call ∈ self.emitted env event) :
    Truthful initial stream ((self.booked event).fin ≠ .none) call.segment := by
  obtain ⟨opening, established⟩ := emitted_phase env self event call member
  cases phase : (self.booked event).syn with
  | none => exact absurd phase streamed.accounted.started
  | sent =>
      have header := opening phase
      have origin : self.tcb.send.initial = initial := by
        rw [← streamed.origin]
        cases event <;> rfl
      refine ⟨fun _ => header.sequence.trans origin, fun data => ?_⟩
      rw [header.isSYN] at data
      cases data
  | acked =>
      refine ⟨fun syn => ?_, fun _ => ?_⟩
      · rw [(established phase).isSYN] at syn
        cases syn
      rcases streamed.flight with inside | wrapped
      · obtain ⟨offset, carried⟩ := emitted_carries env self event phase inside call member
        obtain ⟨position, bound, slice, fin⟩ := streamed.carries small phase carried
        obtain ⟨found, fits, _⟩ := @slice_extends stream [] _ _ _ bound slice
        rw [List.append_nil] at found
        refine ⟨acked + offset, ?_, fits, found, fun isFIN => ?_⟩
        · rw [← position, numberAt_offset]
        · obtain ⟨sent, last⟩ := fin isFIN
          refine ⟨?_, last⟩
          rw [sent]
          decide
      · rw [emitted_closed env self event phase (streamed.closed small wrapped)] at member
        cases member

end SendBuffer

namespace Connection

open SendBuffer (Streamed)

/-- Sender, network and other end of one connection, `acked` bytes of which are acknowledged. -/
structure Coupled (initial : SequenceNumber) (acked : Nat) (connection : Connection) : Prop where
  streamed : Streamed initial connection.written acked connection.sender
  truthful : ∀ call ∈ connection.sender.calls,
    Truthful initial connection.written (connection.sender.fin ≠ .none) call.segment
  follows : connection.receiver.Follows initial connection.written (connection.sender.fin ≠ .none)
  replied : ∀ ack ∈ connection.replies, connection.receiver.space.synReceived = true ∧
    ∃ count, count ≤ connection.receiver.count ∧ ack = numberAt initial count
  opened : connection.sender.syn = .acked → connection.receiver.space.synReceived = true
  kept : acked + connection.sender.finCount ≤ connection.receiver.count
  alarm : connection.sender.alarm.isSet = true ↔ connection.sender.fin ≠ .acked
  checked : connection.sender.failedChecks = []

variable {env : Surroundings} {initial : SequenceNumber} {acked later : Nat}
  {connection : Connection} {event : SendEvent} {now : TimeBase}

/-- An event of the sender keeps the three together if its books do. -/
theorem Coupled.moved (coupled : connection.Coupled initial acked) (env : Surroundings)
    (event : SendEvent)
    (streamed : Streamed initial (connection.written ++ connection.sender.accepted env event) later
      (connection.sender.booked event))
    (small : (connection.written ++ connection.sender.accepted env event).length < 2 ^ 32 - 2)
    (closed : connection.sender.fin ≠ .none → (connection.sender.booked event).fin ≠ .none ∧
      connection.sender.accepted env event = [])
    (opened : (connection.sender.booked event).syn = .acked →
      connection.receiver.space.synReceived = true)
    (kept : later + (connection.sender.booked event).finCount ≤ connection.receiver.count)
    {alarm : Alarm} (set : alarm.isSet = true ↔ (connection.sender.booked event).fin ≠ .acked) :
    Coupled initial later { connection with
      sender := (connection.sender.step env event).withNotes alarm []
      written := connection.written ++ connection.sender.accepted env event } := by
  have fin : (connection.sender.step env event).fin = (connection.sender.booked event).fin :=
    SendBuffer.step_fin env connection.sender event
  have stays : connection.sender.fin ≠ .none → (connection.sender.step env event).fin ≠ .none := by
    intro isClosed
    rw [fin]
    exact (closed isClosed).1
  refine
    { streamed := (streamed.sent small env).withNotes alarm []
      truthful := ?_
      follows := coupled.follows.extend stays fun isClosed => (closed isClosed).2
      replied := coupled.replied
      opened := ?_
      kept := ?_
      alarm := ?_
      checked := rfl }
  · intro call member
    change call ∈ (connection.sender.step env event).calls at member
    change Truthful _ _ ((connection.sender.step env event).fin ≠ .none) _
    rw [SendBuffer.step_calls] at member
    rcases List.mem_append.mp member with old | new
    · exact (coupled.truthful call old).extend stays fun isClosed => (closed isClosed).2
    · rw [fin]
      exact streamed.emitted_truthful small new
  · intro phase
    change (connection.sender.step env event).syn = .acked at phase
    rw [SendBuffer.step_syn] at phase
    exact opened phase
  · change later + (connection.sender.step env event).finCount ≤ _
    rw [SendBuffer.finCount, fin]
    exact kept
  · change alarm.isSet = true ↔ (connection.sender.step env event).fin ≠ .acked
    rw [fin]
    exact set

theorem Coupled.stepped (coupled : connection.Coupled initial acked) (env : Surroundings)
    (event : SendEvent) (clean : connection.sender.failedAt event = [])
    (streamed : Streamed initial (connection.written ++ connection.sender.accepted env event) later
      (connection.sender.booked event))
    (small : (connection.written ++ connection.sender.accepted env event).length < 2 ^ 32 - 2)
    (closed : connection.sender.fin ≠ .none → (connection.sender.booked event).fin ≠ .none ∧
      connection.sender.accepted env event = [])
    (opened : (connection.sender.booked event).syn = .acked →
      connection.receiver.space.synReceived = true)
    (kept : later + (connection.sender.booked event).finCount ≤ connection.receiver.count)
    (set : (connection.sender.alarmAfter event).isSet = true ↔
      (connection.sender.booked event).fin ≠ .acked) :
    Coupled initial later { connection with
      sender := connection.sender.step env event
      written := connection.written ++ connection.sender.accepted env event } := by
  have moved := coupled.moved env event streamed small closed opened kept set
  rw [SendBuffer.step_withNotes (by rw [coupled.checked, clean]; rfl)] at moved
  exact moved

/-- The same for an event that adds nothing to the stream. -/
theorem Coupled.quiet (coupled : connection.Coupled initial acked) (env : Surroundings)
    (event : SendEvent) (silent : connection.sender.accepted env event = [])
    (clean : connection.sender.failedAt event = [])
    (streamed : Streamed initial connection.written later (connection.sender.booked event))
    (small : connection.written.length < 2 ^ 32 - 2)
    (closed : connection.sender.fin ≠ .none → (connection.sender.booked event).fin ≠ .none)
    (opened : (connection.sender.booked event).syn = .acked →
      connection.receiver.space.synReceived = true)
    (kept : later + (connection.sender.booked event).finCount ≤ connection.receiver.count)
    (set : (connection.sender.alarmAfter event).isSet = true ↔
      (connection.sender.booked event).fin ≠ .acked) :
    Coupled initial later { connection with sender := connection.sender.step env event } := by
  have nothing : connection.written ++ connection.sender.accepted env event =
      connection.written := by
    rw [silent, List.append_nil]
  have stepped := coupled.stepped env event clean (nothing.symm ▸ streamed) (nothing.symm ▸ small)
    (fun isClosed => ⟨closed isClosed, silent⟩) opened kept set
  rw [nothing] at stepped
  exact stepped

/-! The events of the application and the timer. -/

theorem Coupled.sendData (coupled : connection.Coupled initial acked) (env : Surroundings)
    (data : Buffer) (unsent : connection.sender.fin = .none)
    (small : (connection.step env (.sendData data)).written.length < 2 ^ 32 - 2) :
    (connection.step env (.sendData data)).Coupled initial acked := by
  have streamed := coupled.streamed.sendData data (beq_iff_eq.mpr unsent)
  rw [← SendBuffer.accepted_sendData env] at streamed
  have clean : connection.sender.failedAt (.sendData data) = [] := by
    simp [SendBuffer.failedAt, unsent]
  exact coupled.stepped env (.sendData data) clean streamed small
    (fun closed => absurd unsent closed) coupled.opened coupled.kept coupled.alarm

theorem Coupled.sendFIN (coupled : connection.Coupled initial acked) (env : Surroundings)
    (unsent : connection.sender.fin = .none) (small : connection.written.length < 2 ^ 32 - 2) :
    (connection.step env .sendFIN).Coupled initial acked := by
  have streamed := coupled.streamed.sendFIN (beq_iff_eq.mpr unsent)
  refine coupled.quiet env .sendFIN rfl rfl streamed small (fun closed => absurd unsent closed)
    coupled.opened ?_ ?_
  · have before := coupled.kept
    simp only [SendBuffer.finCount, unsent, SendBuffer.booked, reduceCtorEq, ↓reduceIte] at before ⊢
    exact before
  · refine iff_of_true (coupled.alarm.mpr ?_) ?_
    · rw [unsent]
      decide
    · intro acked
      cases acked

theorem Coupled.receive (coupled : connection.Coupled initial acked) (env : Surroundings)
    (space : ReceiveSpace) (small : connection.written.length < 2 ^ 32 - 2) :
    (connection.step env (.receive space)).Coupled initial acked := by
  have streamed : Streamed initial connection.written acked
      (connection.sender.booked (.receive space)) :=
    { coupled.streamed with accounted := coupled.streamed.accounted.booked _ rfl }
  exact coupled.quiet env (.receive space) rfl rfl streamed small id coupled.opened coupled.kept
    coupled.alarm

theorem Coupled.fire (coupled : connection.Coupled initial acked) (env : Surroundings)
    (clock : 0 ≤ now) (small : connection.written.length < 2 ^ 32 - 2) :
    (connection.step env (.fire now)).Coupled initial acked := by
  by_cases isSet : connection.sender.alarm.isSet = true
  · have unfinished := coupled.alarm.mp isSet
    have streamed : Streamed initial connection.written acked
        (connection.sender.booked (.retransmit now)) :=
      { coupled.streamed with
        accounted := coupled.streamed.accounted.booked _ rfl
        synPending := fun pendingSYN => ⟨(coupled.streamed.synPending pendingSYN).1, rfl⟩
        flight := Or.inl (Nat.zero_le _) }
    have nothing : connection.written ++ connection.sender.accepted env (.retransmit now) =
      connection.written := List.append_nil _
    have deadline := SendBuffer.deadline_isSet now clock
    have moved := coupled.moved env (.retransmit now) (nothing.symm ▸ streamed)
      (nothing.symm ▸ small) (fun closed => ⟨closed, rfl⟩) coupled.opened coupled.kept
      (iff_of_true deadline unfinished)
    have checks : connection.sender.failedChecks ++
        (if now + fromSeconds 1 == 0 then [.alarmDeadline] else []) = [] := by
      rw [coupled.checked, if_neg (by simpa [Alarm.isSet] using deadline)]
      rfl
    rw [nothing] at moved
    rw [step, SendBuffer.fire_step env connection.sender now isSet, checks]
    exact moved
  · have idle : connection.sender.fire env now = connection.sender := by
      rw [SendBuffer.fire_eq, if_neg isSet]
    rw [step, idle]
    exact coupled

/-! The network. -/

theorem Coupled.deliver (coupled : connection.Coupled initial acked)
    (small : connection.written.length < 2 ^ 32 - 2) {call : PacketCall}
    (member : call ∈ connection.sender.calls) :
    Coupled initial acked
      { connection with receiver := connection.receiver.deliver call.segment } := by
  obtain ⟨follows, more, opened⟩ := coupled.follows.deliver small (coupled.truthful call member)
  exact
    { coupled with
      follows := follows
      replied := fun ack sent => by
        obtain ⟨open_, count, within, number⟩ := coupled.replied ack sent
        exact ⟨opened open_, count, within.trans more, number⟩
      opened := fun phase => opened (coupled.opened phase)
      kept := coupled.kept.trans more }

theorem Coupled.reply (coupled : connection.Coupled initial acked)
    (opened : connection.receiver.space.synReceived = true) :
    Coupled initial acked
      { connection with replies := connection.replies ++ [connection.receiver.space.next] } :=
  { coupled with
    replied := fun ack sent => by
      rcases List.mem_append.mp sent with old | new
      · exact coupled.replied ack old
      · rw [List.mem_singleton.mp new]
        exact ⟨opened, _, Nat.le_refl _, coupled.follows.expects opened⟩ }

/-! An acknowledgment. Numbers are positions of the stream, so comparing them relative to the
initial one compares the positions. -/

theorem Coupled.progress_le (coupled : connection.Coupled initial acked) :
    acked + connection.sender.finCount ≤ connection.written.length + 1 := by
  have taken := coupled.streamed.taken
  have fewer := connection.sender.finCount_le
  omega

/-- What is left to acknowledge: the queued bytes, and a FIN that was sent. -/
theorem Coupled.next_eq (coupled : connection.Coupled initial acked) :
    connection.sender.tcb.send.next = numberAt initial (acked + connection.sender.finCount +
        (connection.sender.buffer.remaining + (SendBuffer.pending connection.sender.fin).toNat)) ∧
      acked + connection.sender.finCount + (connection.sender.buffer.remaining +
        (SendBuffer.pending connection.sender.fin).toNat) ≤ connection.written.length + 1 := by
  have from_ := coupled.streamed.acknowledgedFrom_eq
  have next := coupled.streamed.accounted.next_from
  have remaining := coupled.streamed.remaining_eq
  have taken := coupled.streamed.taken
  constructor
  · have books : connection.sender.tcb.send.next =
        numberAt initial (acked + connection.sender.finCount) +
          UInt32.ofNat connection.sender.buffer.remaining +
          SendBuffer.pending connection.sender.fin := by
      rw [next, from_]
      rfl
    rw [books, numberAt_add, ← Nat.add_assoc,
      ← numberAt_add initial _ (SendBuffer.pending connection.sender.fin).toNat,
      UInt32.ofNat_toNat]
  · cases phase : connection.sender.fin <;>
      simp only [SendBuffer.finCount, SendBuffer.pending, phase, reduceCtorEq, ↓reduceIte,
        UInt32.toNat_zero, UInt32.toNat_one] <;> omega

/-- An acceptable acknowledgment lies between what is acknowledged and what was sent. -/
theorem Coupled.acceptable_bounds (coupled : connection.Coupled initial acked)
    (small : connection.written.length < 2 ^ 32 - 2) {count : Nat}
    (bound : count ≤ connection.written.length + 1)
    (accepts : acceptable connection.sender.tcb.send (numberAt initial count) = true) :
    acked + connection.sender.finCount ≤ count ∧
      (connection.sender.syn = .acked → acked + connection.sender.finCount < count) ∧
      count ≤ acked + connection.sender.finCount + (connection.sender.buffer.remaining +
        (SendBuffer.pending connection.sender.fin).toNat) := by
  obtain ⟨next, reach⟩ := coupled.next_eq
  have progress := coupled.progress_le
  simp only [acceptable, SendSpace.lessThan, SendSpace.lessOrEqual, moduloComparison,
    coupled.streamed.origin, Bool.and_eq_true, decide_eq_true_eq] at accepts
  obtain ⟨above, below⟩ := accepts
  rw [next, numberAt_le (by omega) (by omega)] at below
  cases phase : connection.sender.syn with
  | none => exact absurd phase coupled.streamed.accounted.started
  | sent =>
      have none := (coupled.streamed.synPending phase).1
      have unfinished : connection.sender.finCount = 0 := by
        simp [SendBuffer.finCount, (coupled.streamed.accounted.synPending phase).2]
      refine ⟨by omega, fun other => absurd other (by decide), below⟩
  | acked =>
      have unack := coupled.streamed.unack phase
      change _ = numberAt initial _ at unack
      rw [unack, numberAt_lt (by omega) (by omega)] at above
      exact ⟨by omega, fun _ => by omega, below⟩

theorem Coupled.consumed_eq (coupled : connection.Coupled initial acked)
    (small : connection.written.length < 2 ^ 32 - 2) {count : Nat}
    (bound : count ≤ connection.written.length + 1)
    (ordered : acked + connection.sender.finCount ≤ count) :
    (connection.sender.consumedBy (numberAt initial count)).toNat =
      count - (acked + connection.sender.finCount) := by
  rw [SendBuffer.consumedBy, coupled.streamed.acknowledgedFrom_eq]
  exact numberAt_distance initial ordered (by omega)

theorem Coupled.failedAt_acknowledge (coupled : connection.Coupled initial acked)
    (small : connection.written.length < 2 ^ 32 - 2) {count : Nat} (now : TimeBase)
    (bound : count ≤ connection.written.length + 1)
    (ordered : acked + connection.sender.finCount ≤ count) :
    connection.sender.failedAt (.acknowledge (numberAt initial count) now) = [] := by
  have origin := coupled.streamed.origin
  have afterSYN : connection.sender.tcb.send.greaterThan (numberAt initial count)
      connection.sender.tcb.send.initial = true := by
    have distance : (numberAt initial count - initial).toNat = count + 1 :=
      numberAt_from initial (by omega)
    simp only [SendSpace.greaterThan, moduloComparison, origin, UInt32.sub_self, decide_eq_true_eq,
      gt_iff_lt, UInt32.lt_iff_toNat_lt, UInt32.toNat_zero]
    omega
  have afterData : connection.sender.tcb.send.greaterOrEqual (numberAt initial count)
      connection.sender.acknowledgedFrom = true := by
    rw [coupled.streamed.acknowledgedFrom_eq]
    simp only [SendSpace.greaterOrEqual, moduloComparison, origin, decide_eq_true_eq, ge_iff_le]
    exact (numberAt_le (by omega) (by omega)).mpr ordered
  rw [List.eq_nil_iff_forall_not_mem]
  intro site member
  have whole := member
  simp only [SendBuffer.failedAt, afterSYN, afterData, Bool.not_true, Bool.and_false,
    Bool.false_eq_true, ↓reduceIte, List.nil_append] at member
  split at member
  · rw [List.mem_singleton.mp member] at whole
    exact coupled.streamed.accounted.empty_checked _ whole
  · cases member

theorem Coupled.alarm_acknowledge (coupled : connection.Coupled initial acked)
    (clock : 0 ≤ now) (ack : SequenceNumber) (unfinished : connection.sender.fin ≠ .acked) :
    (connection.sender.alarmAfter (.acknowledge ack now)).isSet = true ↔
      (connection.sender.booked (.acknowledge ack now)).fin ≠ .acked := by
  have isSet := coupled.alarm.mpr unfinished
  have updated := SendBuffer.update_isSet connection.sender.alarm now clock isSet
  have fin : (connection.sender.booked (.acknowledge ack now)).fin =
    if connection.sender.acknowledgesFIN ack then .acked else connection.sender.fin := rfl
  cases covers : connection.sender.acknowledgesFIN ack with
  | true =>
      simp only [fin, SendBuffer.alarmAfter, covers, ↓reduceIte, SendBuffer.cancel_isSet]
      simp
  | false =>
      simp only [fin, SendBuffer.alarmAfter, covers, Bool.false_eq_true, ↓reduceIte]
      refine iff_of_true ?_ unfinished
      split
      · exact updated
      · exact isSet

theorem Coupled.acknowledge_inRange (coupled : connection.Coupled initial acked)
    (small : connection.written.length < 2 ^ 32 - 2) (now : TimeBase) {count : Nat}
    (bound : count ≤ connection.written.length + 1)
    (accepts : acceptable connection.sender.tcb.send (numberAt initial count) = true) :
    connection.sender.ackInRange (numberAt initial count) = true ∧
      connection.sender.streamLawful (.acknowledge (numberAt initial count) now) = true := by
  have accounted := coupled.streamed.accounted
  obtain ⟨ordered, _, reach⟩ := coupled.acceptable_bounds small bound accepts
  have inRange : connection.sender.ackInRange (numberAt initial count) = true := by
    rw [accounted.inRange_iff, coupled.consumed_eq small bound ordered]
    omega
  refine ⟨inRange, ?_⟩
  unfold SendBuffer.ackInRange at inRange
  split at inRange
  next sent =>
    rw [Bool.and_eq_true] at inRange
    rw [SendBuffer.streamLawful, (accounted.synPending (beq_iff_eq.mp sent)).1]
    exact inRange.2
  next => exact inRange

/-- An acceptable acknowledgment brings the sender to where the other end was. -/
theorem Coupled.acknowledge (coupled : connection.Coupled initial acked) (env : Surroundings)
    (small : connection.written.length < 2 ^ 32 - 2) (clock : 0 ≤ now) {count : Nat}
    (opened : connection.receiver.space.synReceived = true)
    (within : count ≤ connection.receiver.count)
    (accepts : acceptable connection.sender.tcb.send (numberAt initial count) = true) :
    ∃ later, Coupled initial later { connection with
        sender := connection.sender.step env (.acknowledge (numberAt initial count) now) } ∧
      later + (connection.sender.step env
        (.acknowledge (numberAt initial count) now)).finCount = count := by
  have bound := within.trans coupled.follows.count_le
  obtain ⟨ordered, further, reach⟩ := coupled.acceptable_bounds small bound accepts
  have accounted := coupled.streamed.accounted
  obtain ⟨inRange, lawful⟩ := coupled.acknowledge_inRange small now bound accepts
  have streamed := coupled.streamed.acknowledge small lawful
  have unfinished : connection.sender.fin ≠ .acked := by
    intro finished
    have all := coupled.streamed.finished finished
    have remaining := coupled.streamed.remaining_eq
    have established : connection.sender.syn = .acked := by
      cases phase : connection.sender.syn with
      | none => exact absurd phase accounted.started
      | sent => exact absurd finished (accounted.synPending phase).2
      | acked => rfl
    have strictly := further established
    simp only [SendBuffer.pending, finished, reduceCtorEq, ↓reduceIte, UInt32.toNat_zero] at reach
    omega
  have arrived : acked + min (connection.sender.consumedBy (numberAt initial count)).toNat
      connection.sender.buffer.remaining +
      (connection.sender.booked (.acknowledge (numberAt initial count) now)).finCount = count := by
    have unack := streamed.unack (accounted.settled _ now)
    rw [accounted.acknowledge_unack inRange now] at unack
    have fewer := SendBuffer.finCount_le
      (connection.sender.booked (.acknowledge (numberAt initial count) now))
    have taken := streamed.taken
    exact (numberAt_inj (by omega) (by omega) unack).symm
  refine ⟨_, coupled.quiet env (.acknowledge (numberAt initial count) now) rfl
    (coupled.failedAt_acknowledge small now bound ordered) streamed small ?_ (fun _ => opened) ?_
    (coupled.alarm_acknowledge clock _ unfinished), ?_⟩
  · intro closed
    change (if _ then CtlState.acked else connection.sender.fin) ≠ .none
    split
    · decide
    · exact closed
  · rw [arrived]
    exact within
  · rw [SendBuffer.finCount, SendBuffer.step_fin]
    exact arrived

/-! Runs. -/

theorem Coupled.step {event : ConnectionEvent} (coupled : connection.Coupled initial acked)
    (env : Surroundings) (allowed : connection.lawful event = true)
    (small : (connection.step env event).written.length < 2 ^ 32 - 2) :
    ∃ later, (connection.step env event).Coupled initial later := by
  cases event with
  | sendData data => exact ⟨acked, coupled.sendData env data (beq_iff_eq.mp allowed) small⟩
  | sendFIN => exact ⟨acked, coupled.sendFIN env (beq_iff_eq.mp allowed) small⟩
  | transmit =>
      exact ⟨acked, coupled.quiet env .transmit rfl rfl coupled.streamed small id coupled.opened
        coupled.kept coupled.alarm⟩
  | fire now => exact ⟨acked, coupled.fire env (of_decide_eq_true allowed) small⟩
  | deliver packet =>
      refine ⟨acked, ?_⟩
      simp only [Connection.step] at small ⊢
      split
      next call found =>
        split
        · refine coupled.deliver ?_ (List.mem_of_getElem? found)
          split at small
          · split at small <;> exact small
          · exact small
        · exact coupled
      next => exact coupled
  | reply =>
      refine ⟨acked, ?_⟩
      simp only [Connection.step]
      split
      next opened => exact coupled.reply opened
      next => exact coupled
  | acknowledge reply now =>
      simp only [Connection.step] at small ⊢
      split
      next ack found =>
        obtain ⟨opened, count, within, number⟩ :=
          coupled.replied ack (List.mem_of_getElem? found)
        split
        next accepts =>
          rw [found] at small
          simp only [accepts, ↓reduceIte] at small
          rw [number] at accepts ⊢
          obtain ⟨later, moved, _⟩ := coupled.acknowledge env small (of_decide_eq_true allowed)
            opened within accepts
          exact ⟨later, moved⟩
        next => exact ⟨acked, coupled⟩
      next => exact ⟨acked, coupled⟩
  | receive space => exact ⟨acked, coupled.receive env space small⟩

theorem step_written (env : Surroundings) (connection : Connection) (event : ConnectionEvent) :
    connection.written <+: (connection.step env event).written := by
  cases event with
  | sendData data => exact List.prefix_append _ _
  | deliver packet =>
      simp only [Connection.step]
      split
      · split <;> exact List.prefix_refl _
      · exact List.prefix_refl _
  | reply =>
      simp only [Connection.step]
      split <;> exact List.prefix_refl _
  | acknowledge reply now =>
      simp only [Connection.step]
      split
      · split <;> exact List.prefix_refl _
      · exact List.prefix_refl _
  | sendFIN => exact List.prefix_refl _
  | transmit => exact List.prefix_refl _
  | fire now => exact List.prefix_refl _
  | receive space => exact List.prefix_refl _

theorem run_written (env : Surroundings) (connection : Connection)
    (events : List ConnectionEvent) : connection.written <+: (connection.run env events).written := by
  induction events generalizing connection with
  | nil => exact List.prefix_refl _
  | cons event events ih => exact (step_written env connection event).trans (ih _)

theorem Coupled.run (coupled : connection.Coupled initial acked) (events : List ConnectionEvent)
    (lawful : LawfulRun env connection events)
    (small : (connection.run env events).written.length < 2 ^ 32 - 2) :
    ∃ later, (connection.run env events).Coupled initial later := by
  induction events generalizing connection acked with
  | nil => exact ⟨acked, coupled⟩
  | cons event events ih =>
      obtain ⟨allowed, rest⟩ := lawful
      have growth := (run_written env (connection.step env event) events).length_le
      change (connection.step env event).written.length ≤
        (connection.run env (event :: events)).written.length at growth
      obtain ⟨later, stepped⟩ := coupled.step env allowed (by omega)
      exact ih stepped rest small

theorem start_coupled (env : Surroundings) (opening : SendBuffer.Opening)
    (clock : 0 ≤ opening.now) : (start env opening).Coupled opening.initial 0 := by
  have frame := SendBuffer.opened_frame env opening
  have deadline := SendBuffer.deadline_isSet opening.now clock
  refine
    { streamed := SendBuffer.opened_streamed env opening
      truthful := ?_
      follows := ⟨fun _ => rfl, nofun, nofun, List.prefix_refl _, nofun⟩
      replied := by simp [start]
      opened := ?_
      kept := ?_
      alarm := ?_
      checked := ?_ }
  · intro call member
    obtain ⟨sent, calls, _, header⟩ :=
      SendBuffer.transmitSYN_calls env (SendBuffer.ready opening)
    rw [start, SendBuffer.opened_eq, calls] at member
    rw [List.mem_singleton.mp member]
    refine ⟨fun _ => header.sequence, fun data => ?_⟩
    rw [header.isSYN] at data
    cases data
  · intro phase
    change (SendBuffer.opened env opening).syn = .acked at phase
    rw [frame.syn] at phase
    cases phase
  · change 0 + (SendBuffer.opened env opening).finCount ≤ 0
    rw [SendBuffer.finCount, frame.fin]
    exact Nat.le_refl _
  · change (SendBuffer.opened env opening).alarm.isSet = true ↔
      (SendBuffer.opened env opening).fin ≠ .acked
    rw [frame.alarm, frame.fin]
    refine iff_of_true deadline fun acked => ?_
    cases acked
  · change (SendBuffer.opened env opening).failedChecks = []
    rw [frame.failedChecks]
    exact if_neg (by simpa [Alarm.isSet] using deadline)

theorem Coupled.acked_le (coupled : connection.Coupled initial acked) :
    acked ≤ connection.receiver.received.length := by
  have kept := coupled.kept
  cases finished : connection.receiver.finished with
  | true =>
      rw [(coupled.follows.finished finished).1]
      exact coupled.streamed.taken
  | false =>
      rw [Receiver.count, finished] at kept
      simp only [Bool.toNat_false] at kept
      omega

/-- However packets and acknowledgments are lost, repeated and reordered, the other end holds a
prefix of what was written, what it lacks is still queued, and no check of the sender fails. -/
theorem connection_delivers_prefix (env : Surroundings) (opening : SendBuffer.Opening)
    (events : List ConnectionEvent) (clock : 0 ≤ opening.now)
    (lawful : LawfulRun env (start env opening) events)
    (small : ((start env opening).run env events).written.length < 2 ^ 32 - 2) :
    let connection := (start env opening).run env events
    connection.receiver.received <+: connection.written ∧
    connection.written.drop connection.receiver.received.length <:+
      connection.sender.buffer.items ∧
    (connection.receiver.finished = true →
      connection.receiver.received = connection.written ∧ connection.sender.fin ≠ .none) ∧
    (connection.sender.fin = .acked → connection.receiver.finished = true) ∧
    connection.sender.failedChecks = [] := by
  intro connection
  obtain ⟨acked, coupled⟩ := (start_coupled env opening clock).run events lawful small
  change connection.Coupled opening.initial acked at coupled
  refine ⟨coupled.follows.taken, ?_, coupled.follows.finished, ?_, coupled.checked⟩
  · rw [coupled.streamed.items, ← Nat.add_sub_cancel' coupled.acked_le, ← List.drop_drop]
    exact List.drop_suffix _ _
  · intro finished
    have all := coupled.streamed.finished finished
    have taken := coupled.follows.taken.length_le
    have kept := coupled.kept
    rw [SendBuffer.finCount, if_pos finished, Receiver.count] at kept
    cases flag : connection.receiver.finished with
    | true => rfl
    | false =>
        rw [flag, Bool.toNat_false] at kept
        omega

-- the SYN arrives twice, the data only when it is sent again, and an acknowledgment is repeated
def troubledRun : List ConnectionEvent :=
  [.deliver 0, .deliver 0, .reply, .acknowledge 0 10, .sendData SendBuffer.sampleBytes, .sendFIN,
    .fire 1000000, .deliver 2, .reply, .acknowledge 0 1000010, .acknowledge 1 1000020, .deliver 1]

theorem troubledRun_delivers :
    let connection := (start SendBuffer.quietHost SendBuffer.sampleOpening).run
      SendBuffer.quietHost troubledRun
    connection.sender.fin = .acked ∧ connection.receiver.finished = true ∧
      connection.receiver.received = connection.written ∧ connection.written = [71, 69, 84] := by
  have lawful : LawfulRun SendBuffer.quietHost
      (start SendBuffer.quietHost SendBuffer.sampleOpening) troubledRun := by
    unfold LawfulRun
    decide
  have finished : ((start SendBuffer.quietHost SendBuffer.sampleOpening).run
      SendBuffer.quietHost troubledRun).sender.fin = .acked := by decide
  have written : ((start SendBuffer.quietHost SendBuffer.sampleOpening).run
      SendBuffer.quietHost troubledRun).written = [71, 69, 84] := by decide
  obtain ⟨_, _, ended, acknowledged, _⟩ := connection_delivers_prefix SendBuffer.quietHost
    SendBuffer.sampleOpening troubledRun (by decide) lawful (by rw [written]; decide)
  have done := acknowledged finished
  exact ⟨finished, done, (ended done).1, written⟩

end Connection

end LabNetstack
