import LabNetstack.Connection
import LabNetstack.SendBufferPass

/-! From wherever a connection has got to, a bounded number of undisturbed round trips delivers all
that was written: its timer is set as long as anything is outstanding, and the counter of bytes in
flight, which an earlier acknowledgment may have wrapped, starts again at zero. -/

namespace LabNetstack

namespace Receiver

variable {initial : SequenceNumber} {written : List UInt8} {closed : Prop} {receiver : Receiver}
  {segment : Segment} {index : Nat} {calls : List PacketCall}

/-- A segment that leaves no gap is taken up to its end. -/
theorem Follows.reaches (follows : receiver.Follows initial written closed)
    (small : written.length < 2 ^ 32 - 2) (truthful : Truthful initial written closed segment)
    (opened : receiver.space.synReceived = true) (data : segment.isSYN = false)
    (sequence : segment.sequence = numberAt initial index) (bound : index ≤ written.length)
    (near : index ≤ receiver.received.length) :
    index + segment.payload.length ≤ (receiver.deliver segment).received.length ∧
      (segment.isFIN = true → (receiver.deliver segment).finished = true) := by
  have taken := follows.taken.length_le
  obtain ⟨place, number, inside, payload, fin⟩ := truthful.data data
  have same : place = index := numberAt_inj (by omega) (by omega) (number.symm.trans sequence)
  subst same
  unfold Receiver.deliver
  simp only [opened, data, Bool.not_true, Bool.false_eq_true, ↓reduceIte, Bool.false_or]
  cases finished : receiver.finished with
  | true =>
      have all := congrArg List.length (follows.finished finished).1
      simp only [↓reduceIte]
      exact ⟨by omega, fun _ => finished⟩
  | false =>
      simp only [Bool.false_eq_true, ↓reduceIte,
        follows.fresh_eq small opened finished sequence inside payload, near, true_and]
      by_cases reach : receiver.received.length ≤ place + segment.payload.length
      · obtain ⟨_, length⟩ := follows.accept opened finished reach inside fin
        simp only [reach, ↓reduceIte]
        exact ⟨Nat.le_of_eq length.symm, id⟩
      · simp only [reach, ↓reduceIte]
        refine ⟨by omega, fun isFIN => ?_⟩
        have last := (fin isFIN).2
        omega

def deliverAll (receiver : Receiver) (calls : List PacketCall) : Receiver :=
  calls.foldl (fun receiver call => receiver.deliver call.segment) receiver

theorem deliver_finished (receiver : Receiver) (segment : Segment)
    (finished : receiver.finished = true) : (receiver.deliver segment).finished = true := by
  rcases receiver.deliver_cases segment with same | ⟨_, _, opened⟩ | ⟨_, _, unfinished, _⟩
  · rw [same]
    exact finished
  · rw [opened]
    exact finished
  · rw [finished] at unfinished
    cases unfinished

theorem deliverAll_finished (receiver : Receiver) (calls : List PacketCall)
    (finished : receiver.finished = true) : (receiver.deliverAll calls).finished = true := by
  induction calls generalizing receiver with
  | nil => exact finished
  | cons call calls ih => exact ih _ (receiver.deliver_finished call.segment finished)

theorem Follows.deliverAll (follows : receiver.Follows initial written closed)
    (small : written.length < 2 ^ 32 - 2)
    (truthful : ∀ call ∈ calls, Truthful initial written closed call.segment) :
    (receiver.deliverAll calls).Follows initial written closed ∧
      receiver.count ≤ (receiver.deliverAll calls).count ∧
      (receiver.space.synReceived = true →
        (receiver.deliverAll calls).space.synReceived = true) := by
  induction calls generalizing receiver with
  | nil => exact ⟨follows, Nat.le_refl _, id⟩
  | cons call calls ih =>
      obtain ⟨first, more, opened⟩ := follows.deliver small (truthful call List.mem_cons_self)
      obtain ⟨last, further, still⟩ :=
        ih first fun other member => truthful other (List.mem_cons_of_mem call member)
      exact ⟨last, more.trans further, fun open_ => still (opened open_)⟩

theorem deliver_opens (receiver : Receiver) {segment : Segment} (syn : segment.isSYN = true) :
    (receiver.deliver segment).space.synReceived = true := by
  unfold Receiver.deliver
  cases opened : receiver.space.synReceived with
  | true => simpa [syn] using opened
  | false => simp [syn]

end Receiver

namespace SendBuffer

variable {env : Surroundings} {self after : SendBuffer} {calls : List PacketCall}
  {initial : SequenceNumber} {written : List UInt8} {closed : Prop} {acked : Nat}

theorem Pass.accepted (pass : Pass env self calls after)
    (accepts : ∀ index, self.calls.length ≤ index → env.accepts index = true) :
    ∀ call ∈ calls, call.accepted = true := by
  induction pass with
  | closed full => simp
  | idle silent empty => simp
  | last room busy stops =>
      intro call member
      rw [List.mem_singleton.mp member]
      exact accepts _ (Nat.le_refl _)
  | more room nonempty taken rest ih =>
      intro call member
      rcases List.mem_cons.mp member with rfl | later
      · exact taken
      · exact ih (accepts_afterRound accepts) call later

theorem transmitSYN_accepted (env : Surroundings) (self : SendBuffer) :
    ∀ call ∈ (self.transmitSYN env).calls.drop self.calls.length,
      call.accepted = env.accepts self.calls.length := by
  unfold transmitSYN SendBufferOver.transmitSYN
  split <;> simp [SendBufferOver.sendSegment]

theorem nextCall_arrives (within : self.bytesInFlight.toNat ≤ self.buffer.remaining)
    (unack : self.tcb.send.unack = numberAt initial acked)
    (queued : acked + self.buffer.remaining = written.length)
    (small : written.length < 2 ^ 32 - 2) (room : self.bytesInFlight < kMaxBytesInFlight)
    (busy : self.nextPayload env ≠ [] ∨ self.piggybacks env = true)
    (truthful : Truthful initial written closed (self.nextCall env).segment)
    {receiver : Receiver} (follows : receiver.Follows initial written closed)
    (opened : receiver.space.synReceived = true)
    (here : acked + self.bytesInFlight.toNat ≤ receiver.received.length) :
    acked + (self.afterRound env).bytesInFlight.toNat ≤
        (receiver.deliver (self.nextCall env).segment).received.length ∧
      ((self.nextCall env).segment.isFIN = true →
        (receiver.deliver (self.nextCall env).segment).finished = true) := by
  have sequence : (self.nextCall env).segment.sequence =
      numberAt initial (acked + self.bytesInFlight.toNat) := by
    rw [(nextCall_carries env self within busy).sequence, unack, numberAt_add]
  have reached := follows.reaches small truthful opened (nextCall_isSYN env self) sequence
    (by omega) here
  rw [nextCall_payload, Nat.add_assoc, ← afterRound_toNat env self room] at reached
  exact reached

/-- What one pass sends, delivered in order, brings the other end to where the pass ended. -/
theorem Pass.arrives (pass : Pass env self calls after)
    (within : self.bytesInFlight.toNat ≤ self.buffer.remaining)
    (unack : self.tcb.send.unack = numberAt initial acked)
    (queued : acked + self.buffer.remaining = written.length)
    (small : written.length < 2 ^ 32 - 2)
    (truthful : ∀ call ∈ calls, Truthful initial written closed call.segment)
    {receiver : Receiver} (follows : receiver.Follows initial written closed)
    (opened : receiver.space.synReceived = true)
    (here : acked + self.bytesInFlight.toNat ≤ receiver.received.length) :
    acked + after.bytesInFlight.toNat ≤ (receiver.deliverAll calls).received.length ∧
      ((∃ call ∈ calls, call.segment.isFIN = true) →
        (receiver.deliverAll calls).finished = true) := by
  induction pass generalizing receiver with
  | closed full => exact ⟨here, by simp⟩
  | idle silent empty => exact ⟨here, by simp⟩
  | last room busy stops =>
      have arrived := nextCall_arrives within unack queued small room busy
        (truthful _ List.mem_cons_self) follows opened here
      simpa [Receiver.deliverAll] using arrived
  | @more self after calls room nonempty accepted rest ih =>
      have honest := truthful _ List.mem_cons_self
      obtain ⟨reach, fin⟩ := nextCall_arrives within unack queued small room (Or.inl nonempty) honest
        follows opened here
      obtain ⟨next, _, open_⟩ := follows.deliver small honest
      obtain ⟨later, ends⟩ := ih (afterRound_within env self room within) unack queued
        (fun call member => truthful call (List.mem_cons_of_mem _ member)) next (open_ opened) reach
      refine ⟨later, ?_⟩
      rintro ⟨call, member, isFIN⟩
      rcases List.mem_cons.mp member with rfl | member
      · exact Receiver.deliverAll_finished _ calls (fin isFIN)
      · exact ends ⟨call, member, isFIN⟩

end SendBuffer

namespace Connection

variable {env : Surroundings} {initial : SequenceNumber} {acked : Nat} {connection : Connection}
  {now : TimeBase}

theorem run_deliver (env : Surroundings) {before calls : List PacketCall}
    (sent : connection.sender.calls = before ++ calls)
    (accepted : ∀ call ∈ calls, call.accepted = true) :
    connection.run env ((List.range' before.length calls.length).map .deliver) =
      { connection with receiver := connection.receiver.deliverAll calls } := by
  induction calls generalizing connection before with
  | nil => rfl
  | cons call calls ih =>
      have found : connection.sender.calls[before.length]? = some call := by simp [sent]
      have first : connection.step env (.deliver before.length) =
          { connection with receiver := connection.receiver.deliver call.segment } := by
        simp only [step, found, accepted call List.mem_cons_self, ↓reduceIte]
      have rest := @ih { connection with receiver := connection.receiver.deliver call.segment }
        (before ++ [call]) (by simp [sent])
        (fun other member => accepted other (List.mem_cons_of_mem call member))
      rw [List.length_append, List.length_singleton] at rest
      rw [List.length_cons, List.range'_succ, List.map_cons, run, runEvents_cons, first]
      exact rest

/-! What the timer sends. -/

theorem Coupled.fired (coupled : connection.Coupled initial acked) (now : TimeBase)
    (accepts : ∀ index, connection.sender.calls.length ≤ index → env.accepts index = true) :
    ∃ added, (connection.sender.fire env now).calls = connection.sender.calls ++ added ∧
      (∀ call ∈ added, call.accepted = true) ∧
      (connection.sender.syn = .sent → ∃ call, added = [call] ∧ call.segment.isSYN = true) ∧
      (connection.sender.syn = .acked → connection.sender.fin ≠ .acked →
        SendBuffer.Pass env (connection.sender.booked (.retransmit now)) added
          ((connection.sender.booked (.retransmit now)).transmit env)) := by
  have alarm := coupled.alarm
  have fires (isSet : connection.sender.alarm.isSet = true) :
      (connection.sender.fire env now).calls =
        ((connection.sender.booked (.retransmit now)).transmit env).calls := by
    rw [SendBuffer.fire_eq, if_pos isSet]
    rfl
  cases phase : connection.sender.syn with
  | none => exact absurd phase coupled.streamed.accounted.started
  | sent =>
      have isSet := alarm.mpr (coupled.streamed.accounted.synPending phase).2
      have sends : (connection.sender.booked (.retransmit now)).transmit env =
          (connection.sender.booked (.retransmit now)).transmitSYN env := by
        simp only [SendBuffer.transmit_eq, SendBuffer.booked, phase]
      obtain ⟨call, calls, _, header⟩ :=
        SendBuffer.transmitSYN_calls env (connection.sender.booked (.retransmit now))
      have taken := SendBuffer.transmitSYN_accepted env (connection.sender.booked (.retransmit now))
      rw [calls, List.drop_left] at taken
      refine ⟨[call], ?_, ?_, fun _ => ⟨call, rfl, header.isSYN⟩,
        fun other => absurd other (by decide)⟩
      · rw [fires isSet, sends, calls]
        rfl
      · intro other member
        rw [taken other member]
        exact accepts _ (Nat.le_refl _)
  | acked =>
      by_cases isSet : connection.sender.alarm.isSet = true
      · obtain ⟨calls, pass⟩ :=
          SendBuffer.transmit_pass env (connection.sender.booked (.retransmit now)) phase
        refine ⟨calls, ?_, pass.accepted accepts, fun other => absurd other (by decide),
          fun _ _ => pass⟩
        rw [fires isSet, pass.calls_eq]
        rfl
      · refine ⟨[], ?_, by simp, fun other => absurd other (by decide),
          fun _ unfinished => absurd (alarm.mpr unfinished) isSet⟩
        rw [SendBuffer.fire_eq, if_neg isSet, List.append_nil]

/-- A whole window arrives, or the rest of the queue. -/
theorem Coupled.windowArrives (coupled : connection.Coupled initial acked)
    (fired : (connection.step env (.fire now)).Coupled initial acked)
    (small : connection.written.length < 2 ^ 32 - 2)
    (accepts : ∀ index, connection.sender.calls.length ≤ index → env.accepts index = true)
    {added : List PacketCall}
    (sent : (connection.sender.fire env now).calls = connection.sender.calls ++ added)
    (established : connection.sender.syn = .acked) (unfinished : connection.sender.fin ≠ .acked)
    (pass : SendBuffer.Pass env (connection.sender.booked (.retransmit now)) added
      ((connection.sender.booked (.retransmit now)).transmit env)) :
    acked + min connection.sender.buffer.remaining 14600 ≤
        (connection.receiver.deliverAll added).received.length ∧
      (connection.sender.buffer.remaining = 0 → connection.sender.fin = .sent →
        (connection.receiver.deliverAll added).finished = true) := by
  have remaining := coupled.streamed.remaining_eq
  have taken := coupled.streamed.taken
  have unack : connection.sender.tcb.send.unack = numberAt initial acked := by
    have count : connection.sender.finCount = 0 := by simp [SendBuffer.finCount, unfinished]
    rw [coupled.streamed.unack established, count]
    rfl
  have within : (connection.sender.booked (.retransmit now)).bytesInFlight.toNat ≤
    (connection.sender.booked (.retransmit now)).buffer.remaining := Nat.zero_le _
  have filled : ((connection.sender.booked (.retransmit now)).transmit env).bytesInFlight.toNat =
      min connection.sender.buffer.remaining 14600 := by
    have none : (connection.sender.booked (.retransmit now)).bytesInFlight.toNat = 0 := rfl
    rw [pass.fills within accepts, none]
    rfl
  have queued : acked + connection.sender.buffer.remaining = connection.written.length := by omega
  have room : (0 : UInt64) < kMaxBytesInFlight := by decide
  have truthful : ∀ call ∈ added, Truthful initial connection.written
      ((connection.step env (.fire now)).sender.fin ≠ .none) call.segment := by
    intro call member
    refine fired.truthful call ?_
    change call ∈ (connection.sender.fire env now).calls
    rw [sent]
    exact List.mem_append_right _ member
  obtain ⟨reach, ends⟩ := pass.arrives within unack queued small truthful
    fired.follows (coupled.opened established) coupled.acked_le
  rw [filled] at reach
  refine ⟨reach, fun empty sentFIN => ends ?_⟩
  have place : (connection.sender.booked (.retransmit now)).finOffset = 0 := by
    have balance := coupled.streamed.accounted.balance
    simp only [SendBuffer.pending, established, sentFIN, empty, reduceCtorEq, ↓reduceIte] at balance
    have adjacent : connection.sender.tcb.send.next - 1 - connection.sender.tcb.send.unack = 0 := by
      rw [balance]
      grind
    exact congrArg UInt32.toNat adjacent
  rw [pass.sendsFIN_iff within accepts, place]
  exact ⟨sentFIN, room, Nat.zero_le _, Or.inl empty.symm⟩

/-! What the acknowledgment of the last number does. -/

theorem Coupled.count_le (coupled : connection.Coupled initial acked) :
    connection.receiver.count ≤ acked + connection.sender.finCount +
      (connection.sender.buffer.remaining + (SendBuffer.pending connection.sender.fin).toNat) := by
  have remaining := coupled.streamed.remaining_eq
  have taken := coupled.streamed.taken
  have received := coupled.follows.taken.length_le
  have bit := connection.receiver.finished.toNat_le
  rw [Receiver.count]
  cases phase : connection.sender.fin with
  | none =>
      have unfinished : connection.receiver.finished = false := by
        rw [Bool.eq_false_iff]
        intro finished
        exact (coupled.follows.finished finished).2 phase
      simp only [unfinished, Bool.toNat_false]
      omega
  | sent =>
      simp only [SendBuffer.pending, ↓reduceIte, UInt32.toNat_one]
      omega
  | acked =>
      have all := coupled.streamed.finished phase
      simp only [SendBuffer.finCount, phase, ↓reduceIte]
      omega

/-- An acknowledgment that is not acceptable tells nothing new. -/
theorem Coupled.acceptable_count (coupled : connection.Coupled initial acked)
    (small : connection.written.length < 2 ^ 32 - 2)
    (further : connection.sender.syn = .sent ∨
      acked + connection.sender.finCount < connection.receiver.count) :
    acceptable connection.sender.tcb.send (numberAt initial connection.receiver.count) = true := by
  obtain ⟨next, reach⟩ := coupled.next_eq
  have progress := coupled.progress_le
  have bound := coupled.follows.count_le
  have covered := coupled.count_le
  simp only [acceptable, SendSpace.lessThan, SendSpace.lessOrEqual, moduloComparison,
    coupled.streamed.origin, Bool.and_eq_true, decide_eq_true_eq]
  constructor
  · cases phase : connection.sender.syn with
    | none => exact absurd phase coupled.streamed.accounted.started
    | sent =>
        rw [(coupled.streamed.accounted.synPending phase).1, coupled.streamed.origin,
          UInt32.sub_self, UInt32.lt_iff_toNat_lt, numberAt_from initial (by omega)]
        exact Nat.succ_pos _
    | acked =>
        have unack := coupled.streamed.unack phase
        change _ = numberAt initial _ at unack
        rw [unack, numberAt_lt (by omega) (by omega)]
        rcases further with pendingSYN | more
        · rw [phase] at pendingSYN
          cases pendingSYN
        · exact more
  · rw [next, numberAt_le (by omega) (by omega)]
    exact covered

/-- What a reply and its acknowledgment leave. -/
structure Answered (initial : SequenceNumber) (before after : Connection) : Prop where
  written : after.written = before.written
  receiver : after.receiver = before.receiver
  established : after.sender.syn = .acked
  calls : before.sender.calls.length ≤ after.sender.calls.length
  fin : after.sender.fin = before.sender.fin ∨
    before.sender.fin = .sent ∧ after.sender.fin = .acked
  coupled : ∃ later, after.Coupled initial later ∧
    later + after.sender.finCount = before.receiver.count

theorem Coupled.answered (coupled : connection.Coupled initial acked) (env : Surroundings)
    (small : connection.written.length < 2 ^ 32 - 2) (clock : 0 ≤ now)
    (opened : connection.receiver.space.synReceived = true) :
    Answered initial connection
      (connection.run env [.reply, .acknowledge connection.replies.length now]) := by
  have replied := coupled.reply opened
  have first : connection.step env .reply =
      { connection with replies := connection.replies ++ [connection.receiver.space.next] } := by
    simp only [Connection.step, opened, ↓reduceIte]
  have found : (connection.replies ++ [connection.receiver.space.next])[connection.replies.length]? =
      some (numberAt initial connection.receiver.count) := by
    rw [coupled.follows.expects opened]
    simp
  simp only [Connection.run, runEvents_cons, runEvents_nil, first]
  by_cases accepts :
      acceptable connection.sender.tcb.send (numberAt initial connection.receiver.count) = true
  · have second : Connection.step env
        { connection with replies := connection.replies ++ [connection.receiver.space.next] }
        (.acknowledge connection.replies.length now) =
        { connection with
          replies := connection.replies ++ [connection.receiver.space.next]
          sender := connection.sender.step env
            (.acknowledge (numberAt initial connection.receiver.count) now) } := by
      simp only [Connection.step, found, accepts, ↓reduceIte]
    obtain ⟨later, moved, arrived⟩ :=
      replied.acknowledge env small clock opened (Nat.le_refl _) accepts
    rw [second]
    refine ⟨rfl, rfl, ?_, ?_, ?_, later, moved, arrived⟩
    · change (connection.sender.step env _).syn = .acked
      rw [SendBuffer.step_syn]
      exact coupled.streamed.accounted.settled _ now
    · change _ ≤ (connection.sender.step env _).calls.length
      rw [SendBuffer.step_calls, List.length_append]
      exact Nat.le_add_right _ _
    · change (connection.sender.step env _).fin = _ ∨ _ ∧ (connection.sender.step env _).fin = _
      rw [SendBuffer.step_fin]
      change (if connection.sender.acknowledgesFIN _ then _ else _) = _ ∨
        _ ∧ (if connection.sender.acknowledgesFIN _ then _ else _) = _
      split
      next covers =>
        rw [SendBuffer.acknowledgesFIN, Bool.and_eq_true] at covers
        exact Or.inr ⟨beq_iff_eq.mp covers.1, rfl⟩
      next => exact Or.inl rfl
  · have second : Connection.step env
        { connection with replies := connection.replies ++ [connection.receiver.space.next] }
        (.acknowledge connection.replies.length now) =
        { connection with replies := connection.replies ++ [connection.receiver.space.next] } := by
      simp only [Connection.step, found, accepts, Bool.false_eq_true, ↓reduceIte]
    have nothing : ¬(connection.sender.syn = .sent ∨
        acked + connection.sender.finCount < connection.receiver.count) :=
      fun further => accepts (coupled.acceptable_count small further)
    obtain ⟨settled, level⟩ := not_or.mp nothing
    have kept := coupled.kept
    rw [second]
    refine ⟨rfl, rfl, ?_, Nat.le_refl _, Or.inl rfl, acked, replied, ?_⟩
    · change connection.sender.syn = .acked
      cases phase : connection.sender.syn with
      | none => exact absurd phase coupled.streamed.accounted.started
      | sent => exact absurd phase settled
      | acked => rfl
    · change acked + connection.sender.finCount = _
      omega

theorem Coupled.deliverAll (coupled : connection.Coupled initial acked)
    (small : connection.written.length < 2 ^ 32 - 2) {calls : List PacketCall}
    (members : ∀ call ∈ calls, call ∈ connection.sender.calls) :
    Coupled initial acked
      { connection with receiver := connection.receiver.deliverAll calls } := by
  induction calls generalizing connection with
  | nil => exact coupled
  | cons call calls ih =>
      have first := coupled.deliver small (members call List.mem_cons_self)
      exact ih first small fun other member => members other (List.mem_cons_of_mem call member)

/-! One round trip. -/

structure Progressed (initial : SequenceNumber) (before after : Connection) : Prop where
  written : after.written = before.written
  calls : before.sender.calls.length ≤ after.sender.calls.length
  fin : after.sender.fin = .none ↔ before.sender.fin = .none
  coupled : ∃ later, after.Coupled initial later
  rounds : roundsLeft after.sender ≤ roundsLeft before.sender - 1

theorem fire_fin (sender : SendBuffer) (env : Surroundings) (now : TimeBase) :
    (sender.fire env now).fin = sender.fin := by
  rw [SendBuffer.fire_eq]
  split
  · exact (SendBuffer.transmit_frame env { sender with bytesInFlight := 0 }).fin
  · rfl

-- what the timer sent has arrived, and nothing has come back yet
def arrived (env : Surroundings) (now : TimeBase) (connection : Connection)
    (added : List PacketCall) : Connection :=
  { connection with
    sender := connection.sender.fire env now
    receiver := connection.receiver.deliverAll added }

theorem run_roundTrip {added : List PacketCall}
    (sent : (connection.sender.fire env now).calls = connection.sender.calls ++ added)
    (accepted : ∀ call ∈ added, call.accepted = true) :
    connection.run env (connection.roundTrip env now) = (connection.arrived env now added).run env
      [.reply, .acknowledge connection.replies.length now] := by
  have count : (connection.sender.fire env now).calls.length - connection.sender.calls.length =
      added.length := by
    rw [sent, List.length_append, Nat.add_sub_cancel_left]
  have delivered := @run_deliver (connection.step env (.fire now)) env _ _ sent accepted
  simp only [run, roundTrip, count, runEvents_append, runEvents_cons] at delivered ⊢
  rw [delivered]
  rfl

/-- When the packets have arrived, the other end knows the SYN, and it has got a window further
unless nothing was outstanding. -/
theorem Coupled.arrived (coupled : connection.Coupled initial acked)
    (small : connection.written.length < 2 ^ 32 - 2) (clock : 0 ≤ now)
    (accepts : ∀ index, connection.sender.calls.length ≤ index → env.accepts index = true) :
    ∃ added, (connection.sender.fire env now).calls = connection.sender.calls ++ added ∧
      (∀ call ∈ added, call.accepted = true) ∧
      (connection.arrived env now added).Coupled initial acked ∧
      (connection.arrived env now added).receiver.space.synReceived = true ∧
      (connection.sender.syn = .acked → connection.sender.fin ≠ .acked →
        acked + min connection.sender.buffer.remaining 14600 ≤
          (connection.arrived env now added).receiver.received.length ∧
        (connection.sender.buffer.remaining = 0 → connection.sender.fin = .sent →
          (connection.arrived env now added).receiver.finished = true)) := by
  obtain ⟨added, sent, accepted, syn, pass⟩ := coupled.fired now accepts
  have fired := coupled.fire env clock small
  have members : ∀ call ∈ added, call ∈ (connection.step env (.fire now)).sender.calls := by
    intro call member
    change call ∈ (connection.sender.fire env now).calls
    rw [sent]
    exact List.mem_append_right _ member
  refine ⟨added, sent, accepted, fired.deliverAll small members, ?_, ?_⟩
  · cases phase : connection.sender.syn with
    | none => exact absurd phase coupled.streamed.accounted.started
    | sent =>
        obtain ⟨call, only, isSYN⟩ := syn phase
        rw [only]
        exact connection.receiver.deliver_opens isSYN
    | acked =>
        have follows := fired.follows.deliverAll small fun call member =>
          fired.truthful call (members call member)
        exact follows.2.2 (coupled.opened phase)
  · intro established unfinished
    exact coupled.windowArrives fired small accepts sent established unfinished
      (pass established unfinished)

theorem Coupled.rounds_le {after : Connection} {later : Nat}
    (coupled : connection.Coupled initial acked) (moved : after.Coupled initial later)
    (written : after.written = connection.written) (established : after.sender.syn = .acked)
    (fin : after.sender.fin = connection.sender.fin ∨
      connection.sender.fin = .sent ∧ after.sender.fin = .acked)
    (further : acked + connection.sender.finCount ≤ later + after.sender.finCount)
    (window : connection.sender.syn = .acked → connection.sender.fin ≠ .acked →
      acked + min connection.sender.buffer.remaining 14600 ≤ later + after.sender.finCount ∧
      (connection.sender.buffer.remaining = 0 → connection.sender.fin = .sent →
        later + after.sender.finCount = connection.written.length + 1)) :
    roundsLeft after.sender ≤ roundsLeft connection.sender - 1 := by
  have remaining := coupled.streamed.remaining_eq
  have remainingAfter := moved.streamed.remaining_eq
  have taken := coupled.streamed.taken
  have takenAfter := moved.streamed.taken
  have finished := coupled.streamed.finished
  have finishedAfter := moved.streamed.finished
  rw [written] at remainingAfter takenAfter finishedAfter
  simp only [roundsLeft, SendBuffer.kMaxBytesInFlight_toNat, established, reduceCtorEq, ↓reduceIte]
  -- the SYN is acknowledged in this round, or the round is one of data or FIN
  by_cases pendingSYN : connection.sender.syn = .sent
  · simp only [pendingSYN, ↓reduceIte]
    rcases fin with same | ⟨sent, acked⟩
    · cases phase : connection.sender.fin <;>
        simp only [SendBuffer.finCount, same, phase, reduceCtorEq, ↓reduceIte] at * <;> omega
    · have all := finishedAfter acked
      simp only [sent, acked, reduceCtorEq, ↓reduceIte]
      omega
  · have phase : connection.sender.syn = .acked := by
      cases phase : connection.sender.syn with
      | none => exact absurd phase coupled.streamed.accounted.started
      | sent => exact absurd phase pendingSYN
      | acked => rfl
    simp only [pendingSYN, ↓reduceIte]
    rcases fin with same | ⟨sent, acked⟩
    · cases stage : connection.sender.fin with
      | none =>
          have reach := (window phase (by rw [stage]; decide)).1
          simp only [SendBuffer.finCount, same, stage, reduceCtorEq, ↓reduceIte] at reach ⊢
          omega
      | sent =>
          obtain ⟨reach, last⟩ := window phase (by rw [stage]; decide)
          have ends := fun empty => last empty stage
          simp only [SendBuffer.finCount, same, stage, reduceCtorEq, ↓reduceIte] at reach ends ⊢
          omega
      | acked =>
          have all := finished stage
          have allAfter := finishedAfter (same.trans stage)
          simp only [same, stage, reduceCtorEq, ↓reduceIte]
          omega
    · have all := finishedAfter acked
      simp only [sent, acked, reduceCtorEq, ↓reduceIte]
      omega

/-- A round trip acknowledges the SYN, or a window of bytes, or the FIN. -/
theorem Coupled.roundTrip (coupled : connection.Coupled initial acked)
    (small : connection.written.length < 2 ^ 32 - 2) (clock : 0 ≤ now)
    (accepts : ∀ index, connection.sender.calls.length ≤ index → env.accepts index = true) :
    Progressed initial connection (connection.run env (connection.roundTrip env now)) := by
  obtain ⟨added, sent, accepted, middle, opened, window⟩ := coupled.arrived small clock accepts
  have answered := middle.answered env small clock opened
  have fin : (connection.arrived env now added).sender.fin = connection.sender.fin :=
    fire_fin connection.sender env now
  have kept := middle.kept
  have firedCalls : connection.sender.calls.length ≤
      (connection.arrived env now added).sender.calls.length := by
    change _ ≤ (connection.sender.fire env now).calls.length
    rw [sent, List.length_append]
    exact Nat.le_add_right _ _
  rw [run_roundTrip sent accepted]
  change Answered initial (connection.arrived env now added)
    ((connection.arrived env now added).run env
      [.reply, .acknowledge connection.replies.length now]) at answered
  generalize (connection.arrived env now added).run env
    [.reply, .acknowledge connection.replies.length now] = after at answered ⊢
  have answeredFin := answered.fin
  rw [fin] at answeredFin
  obtain ⟨later, coupledAfter, position⟩ := answered.coupled
  refine
    { written := answered.written
      calls := firedCalls.trans answered.calls
      fin := ?_
      coupled := ⟨later, coupledAfter⟩
      rounds := ?_ }
  · rcases answeredFin with same | ⟨before, later⟩
    · rw [same]
    · rw [before, later]
      exact ⟨nofun, nofun⟩
  · have same : (connection.arrived env now added).sender.finCount = connection.sender.finCount := by
      rw [SendBuffer.finCount, fin]
      rfl
    rw [same, ← position] at kept
    refine coupled.rounds_le coupledAfter answered.written answered.established answeredFin kept ?_
    intro phase unfinished
    obtain ⟨reach, ends⟩ := window phase unfinished
    rw [position, Receiver.count]
    refine ⟨by omega, fun empty sentFIN => ?_⟩
    have finished := ends empty sentFIN
    rw [(middle.follows.finished finished).1, finished]
    rfl

theorem Coupled.roundTrips (coupled : connection.Coupled initial acked) (times : List TimeBase)
    (small : connection.written.length < 2 ^ 32 - 2) (clocks : ∀ now ∈ times, 0 ≤ now)
    (accepts : ∀ index, connection.sender.calls.length ≤ index → env.accepts index = true) :
    let after := connection.run env (connection.roundTrips env times)
    after.written = connection.written ∧
      (after.sender.fin = .none ↔ connection.sender.fin = .none) ∧
      (∃ later, after.Coupled initial later) ∧
      roundsLeft after.sender ≤ roundsLeft connection.sender - times.length := by
  induction times generalizing connection acked with
  | nil => exact ⟨rfl, Iff.rfl, ⟨acked, coupled⟩, Nat.le_refl _⟩
  | cons now times ih =>
      have first := coupled.roundTrip small (clocks now List.mem_cons_self) accepts
      obtain ⟨later, moved⟩ := first.coupled
      obtain ⟨written, fin, coupledAfter, rounds⟩ := ih moved (first.written ▸ small)
        (fun other member => clocks other (List.mem_cons_of_mem now member))
        (fun index above => accepts index (first.calls.trans above))
      have whole : connection.run env (connection.roundTrips env (now :: times)) =
          (connection.run env (connection.roundTrip env now)).run env
            ((connection.run env (connection.roundTrip env now)).roundTrips env times) :=
        runEvents_append _ _ _ _
      have decrease := first.rounds
      rw [whole]
      refine ⟨written.trans first.written, fin.trans first.fin, coupledAfter, ?_⟩
      rw [List.length_cons]
      omega

/-- With no round left the sender has nothing outstanding, and the other end has it all. -/
theorem Coupled.complete (coupled : connection.Coupled initial acked)
    (done : roundsLeft connection.sender = 0) :
    connection.receiver.received = connection.written ∧ connection.sender.buffer.items = [] ∧
      (connection.sender.fin ≠ .none →
        connection.receiver.finished = true ∧ connection.sender.fin = .acked) := by
  have remaining := coupled.streamed.remaining_eq
  have received := coupled.follows.taken.length_le
  have ahead := coupled.acked_le
  have kept := coupled.kept
  simp only [roundsLeft, SendBuffer.kMaxBytesInFlight_toNat] at done
  have emptied : connection.sender.buffer.remaining = 0 := by omega
  refine ⟨coupled.follows.taken.eq_of_length (by omega), List.length_eq_zero_iff.mp emptied, ?_⟩
  intro closed
  cases stage : connection.sender.fin with
  | none => exact absurd stage closed
  | sent =>
      simp only [stage, ↓reduceIte] at done
      omega
  | acked =>
      refine ⟨?_, rfl⟩
      have all := coupled.streamed.finished stage
      rw [SendBuffer.finCount, if_pos stage, Receiver.count] at kept
      cases finished : connection.receiver.finished with
      | true => rfl
      | false =>
          rw [finished, Bool.toNat_false] at kept
          omega

/-- Whatever was lost and however the counter of bytes in flight stands, undisturbed round trips
deliver all that was written: one for a pending SYN, one for each window of queued bytes, and one
for a pending FIN. -/
theorem connection_recovers (env : Surroundings) (opening : SendBuffer.Opening)
    (events : List ConnectionEvent) (clock : 0 ≤ opening.now)
    (lawful : LawfulRun env (start env opening) events)
    (small : ((start env opening).run env events).written.length < 2 ^ 32 - 2)
    (accepts : ∀ index, ((start env opening).run env events).sender.calls.length ≤ index →
      env.accepts index = true)
    (times : List TimeBase) (clocks : ∀ now ∈ times, 0 ≤ now)
    (enough : roundsLeft ((start env opening).run env events).sender ≤ times.length) :
    let connection := (start env opening).run env events
    let recovered := connection.run env (connection.roundTrips env times)
    recovered.receiver.received = connection.written ∧
    recovered.sender.buffer.items = [] ∧
    (connection.sender.fin ≠ .none →
      recovered.receiver.finished = true ∧ recovered.sender.fin = .acked) := by
  intro connection recovered
  obtain ⟨acked, coupled⟩ := (start_coupled env opening clock).run events lawful small
  change connection.Coupled opening.initial acked at coupled
  obtain ⟨written, fin, ⟨later, coupledAfter⟩, rounds⟩ :=
    coupled.roundTrips times small clocks accepts
  have done : roundsLeft recovered.sender = 0 := by
    change roundsLeft recovered.sender ≤ roundsLeft connection.sender - times.length at rounds
    change roundsLeft connection.sender ≤ times.length at enough
    omega
  obtain ⟨received, items, ended⟩ := coupledAfter.complete done
  refine ⟨received.trans written, items, fun closed => ended ?_⟩
  rw [ne_eq, fin]
  exact closed

/-! A connection whose data was lost and whose FIN was not sent yet. -/

def interruptedRun : List ConnectionEvent :=
  [.deliver 0, .reply, .sendData SendBuffer.sampleBytes, .acknowledge 0 10, .transmit, .sendFIN]

theorem interruptedRun_recovers :
    let connection := (start SendBuffer.quietHost SendBuffer.sampleOpening).run
      SendBuffer.quietHost interruptedRun
    let recovered := connection.run SendBuffer.quietHost
      (connection.roundTrips SendBuffer.quietHost [1000000, 2000000])
    connection.receiver.received = [] ∧ recovered.receiver.received = [71, 69, 84] ∧
      recovered.sender.fin = .acked := by
  have lawful : LawfulRun SendBuffer.quietHost
      (start SendBuffer.quietHost SendBuffer.sampleOpening) interruptedRun := by
    unfold LawfulRun
    decide
  have written : ((start SendBuffer.quietHost SendBuffer.sampleOpening).run
      SendBuffer.quietHost interruptedRun).written = [71, 69, 84] := by decide
  have closed : ((start SendBuffer.quietHost SendBuffer.sampleOpening).run
      SendBuffer.quietHost interruptedRun).sender.fin ≠ .none := by decide
  have facts := connection_recovers SendBuffer.quietHost SendBuffer.sampleOpening interruptedRun
    (by decide) lawful (by rw [written]; decide) (fun _ _ => rfl) [1000000, 2000000] (by decide)
    (by decide)
  exact ⟨by decide, facts.1.trans written, (facts.2.2 closed).2⟩

end Connection

end LabNetstack
