import LabNetstack.EpollServer
import LabNetstack.SendBuffer
import LabNetstack.SenderLoopCore

/-! The alarms of the send buffers in the event loop. A buffer's record of its own alarm is the
alarm's deadline in every state between two events, so that a pass reaches the buffers whose time
has come and no others. -/

namespace LabNetstack

namespace Alarm

theorem update_deadline {alarm : Alarm} {deadline : TimeBase} (initialized : deadline ≠ 0) :
    (alarm.update deadline).deadline =
      if ((deadline - alarm.deadline).natAbs : Int) < 1000 then alarm.deadline else deadline := by
  rw [update, if_neg (by simpa using initialized)]
  by_cases near : (deadline - alarm.deadline).natAbs < 1000
  · rw [if_pos near, if_pos (by exact_mod_cast near)]
  · rw [if_neg near, if_neg (by exact_mod_cast near)]

theorem cancel_deadline (alarm : Alarm) : alarm.cancel.deadline = 0 := by
  rw [cancel]
  split
  · rfl
  · rename_i off
    simpa [isSet] using off

end Alarm

theorem EpollAlarm.cancel_alarm {alarm : EpollAlarm} {server : EpollServer}
    {after : EpollAlarm × EpollServer} (cancelled : alarm.cancel server = .done after) :
    after.1 = { alarm with deadline := 0 } := by
  unfold EpollAlarm.cancel at cancelled
  split at cancelled
  · rename_i off
    cases cancelled
    have zero : alarm.deadline = 0 := by simpa [Alarm.isSet] using off
    obtain ⟨⟨deadline⟩, place, token, arming⟩ := alarm
    cases zero
    rfl
  · obtain ⟨_, _, same⟩ := Outcome.bind_eq_done.mp cancelled
    cases same
    rfl

namespace Registry

variable {build : Build} {registry next : Registry} {alarm : EpollAlarm}

/-- The deadline of the alarm at an address, if there is one. -/
def deadlineAt (registry : Registry) (place : Nat) : Option TimeBase :=
  (entryAt EpollAlarm.place place registry.alarms).map (·.deadline)

/-- Calls of one alarm that leave it with a deadline, or destroy it. -/
structure Retimed (place : Nat) (deadline : Option TimeBase) (registry next : Registry) : Prop where
  consistent : next.Consistent
  phase : next.phase = registry.phase
  now : next.server.now = registry.server.now
  deadlines : next.deadlineAt = Function.update registry.deadlineAt place deadline

theorem Consistent.deadlineAt_place (consistent : registry.Consistent)
    (member : alarm ∈ registry.alarms) : registry.deadlineAt alarm.place = some alarm.deadline := by
  rw [deadlineAt, entryAt_of_mem consistent.places member]
  rfl

theorem alarm_of_deadline {place : Nat} {deadline : TimeBase}
    (found : registry.deadlineAt place = some deadline) :
    ∃ alarm ∈ registry.alarms, alarm.place = place ∧ alarm.deadline = deadline := by
  obtain ⟨alarm, stored, same⟩ := Option.map_eq_some_iff.mp found
  obtain ⟨member, here⟩ := entryAt_some stored
  exact ⟨alarm, member, here, same⟩

theorem Consistent.retimed_refl (consistent : registry.Consistent)
    (member : alarm ∈ registry.alarms) :
    Retimed alarm.place (some alarm.deadline) registry registry := by
  refine ⟨consistent, rfl, rfl, ?_⟩
  rw [← consistent.deadlineAt_place member, Function.update_eq_self]

theorem Retimed.trans {place : Nat} {first second : Option TimeBase} {last : Registry}
    (one : Retimed place first registry next) (other : Retimed place second next last) :
    Retimed place second registry last :=
  ⟨other.consistent, other.phase.trans one.phase, other.now.trans one.now, by
    rw [other.deadlines, one.deadlines, Function.update_idem]⟩

theorem deadlines_replaced (consistent : registry.Consistent) (member : alarm ∈ registry.alarms)
    (after : EpollAlarm) (same : after.place = alarm.place)
    (alarms : next.alarms =
      replaceAt EpollAlarm.place alarm.place (fun _ => after) registry.alarms) :
    next.deadlineAt = Function.update registry.deadlineAt alarm.place (some after.deadline) := by
  funext other
  rw [deadlineAt, alarms, entryAt_replaceAt (fun _ _ => same)]
  by_cases here : other = alarm.place
  · rw [if_pos here, here, Function.update_self, entryAt_of_mem consistent.places member]
    rfl
  · rw [if_neg here, Function.update_of_ne here]
    rfl

theorem on_retimed (consistent : registry.Consistent) (member : alarm ∈ registry.alarms)
    {method : EpollAlarm → EpollServer → Outcome (EpollAlarm × EpollServer)} {deadline : TimeBase}
    (called : registry.on alarm.place method = .done next)
    (touched : Relation.ReflTransGen (Touch alarm.place) registry next)
    (leaves : ∀ after, method alarm registry.server = .done after →
      after.1.place = alarm.place ∧ after.1.deadline = deadline) :
    Retimed alarm.place (some deadline) registry next := by
  have framed := touches_framed touched
  refine ⟨touches_consistent touched consistent, framed.phase, framed.now, ?_⟩
  rw [on_alarm consistent member] at called
  obtain ⟨after, returned, same⟩ := Outcome.bind_eq_done.mp called
  obtain ⟨here, rfl⟩ := leaves after returned
  cases same
  exact deadlines_replaced consistent member after.1 here rfl

theorem create_retimed (consistent : registry.Consistent) {place : Nat}
    (free : place ∉ registry.alarms.map EpollAlarm.place) :
    Retimed place (some 0) registry
      { registry with alarms := .create place :: registry.alarms } := by
  refine ⟨create_consistent consistent free, rfl, rfl, funext fun other => ?_⟩
  by_cases here : other = place
  · subst here
    rw [Function.update_self, deadlineAt, entryAt, List.find?_cons_of_pos (by simp [EpollAlarm.create])]
    rfl
  · rw [Function.update_of_ne here, deadlineAt, entryAt,
      List.find?_cons_of_neg (by simpa [EpollAlarm.create] using Ne.symm here)]
    rfl

theorem set_retimed (consistent : registry.Consistent) (member : alarm ∈ registry.alarms)
    (off : alarm.isSet = false) {deadline : TimeBase} (initialized : deadline ≠ 0) {node : Nat}
    (fresh : node ∉ registry.server.alarmMap.map AlarmEntry.node) :
    Retimed alarm.place (some deadline) registry (registry.arm alarm deadline node) :=
  ⟨arm_consistent consistent member off initialized fresh, rfl, rfl,
    deadlines_replaced consistent member
      (EpollAlarm.setImpl { alarm with deadline := deadline } registry.server node).1 rfl rfl⟩

theorem update_retimed (build : Build) (consistent : registry.Consistent)
    (member : alarm ∈ registry.alarms) {deadline : TimeBase} (initialized : deadline ≠ 0)
    (granularity : Int) {node : Nat}
    (fresh : (registry.vacated alarm.place).unused node = true) :
    ∃ next, registry.call build (.update alarm.place deadline granularity node) = .done next ∧
      Retimed alarm.place (some (if (deadline - alarm.deadline).natAbs < granularity then
        alarm.deadline else deadline)) registry next := by
  obtain ⟨next, called, touched⟩ := update_touches consistent member deadline granularity fresh
  exact ⟨next, called, on_retimed consistent member called touched fun _ updated =>
    update_deadline initialized updated⟩

theorem cancel_retimed (build : Build) (consistent : registry.Consistent)
    (member : alarm ∈ registry.alarms) :
    ∃ next, registry.call build (.cancel alarm.place) = .done next ∧
      Retimed alarm.place (some 0) registry next := by
  obtain ⟨next, called, touched, _⟩ := cancel_touches consistent member
  refine ⟨next, called, on_retimed consistent member called touched fun after cancelled => ?_⟩
  rw [EpollAlarm.cancel_alarm cancelled]
  exact ⟨rfl, rfl⟩

theorem destroy_retimed (build : Build) (consistent : registry.Consistent)
    (member : alarm ∈ registry.alarms) :
    ∃ next, registry.call build (.destroy alarm.place) = .done next ∧
      Retimed alarm.place none registry next := by
  obtain ⟨cancelled, called, touched, after, present, here, off⟩ := cancel_touches consistent member
  have framed := touches_framed touched
  have removed := remove_consistent (touches_consistent touched consistent) present off
  rw [here] at removed
  refine ⟨_, Outcome.bind_of_done called rfl, removed, framed.phase, framed.now, ?_⟩
  obtain ⟨_, again, retimed⟩ := cancel_retimed build consistent member
  cases called.symm.trans again
  have dropped : deadlineAt { cancelled with
      alarms := dropAt EpollAlarm.place alarm.place cancelled.alarms } =
      Function.update cancelled.deadlineAt alarm.place none := by
    funext other
    rw [deadlineAt, entryAt_dropAt]
    by_cases same : other = alarm.place
    · rw [if_pos same, same, Function.update_self]
      rfl
    · rw [if_neg same, Function.update_of_ne same]
      rfl
  rw [dropped, retimed.deadlines, Function.update_idem]

/-! One round of `runAlarmEvent` whose delegate sets the alarm again. -/

def due (registry : Registry) : List AlarmEntry :=
  registry.server.alarmMap.filter fun entry => decide (entry.key ≤ registry.server.now)

/-- The registry after the round. -/
def again (registry : Registry) (alarm : EpollAlarm) (entry : AlarmEntry) (deadline : TimeBase)
    (node : Nat) : Registry :=
  ((registry.fire alarm entry).arm { alarm with deadline := 0 } deadline node).finish entry

structure Rung (alarm : EpollAlarm) (deadline : TimeBase) (registry next : Registry) : Prop where
  consistent : next.Consistent
  looping : next.phase = .looping
  now : next.server.now = registry.server.now
  deadlines : next.deadlineAt =
    Function.update registry.deadlineAt alarm.place (some deadline)
  shorter : next.due.length < registry.due.length

theorem due_again {entry : AlarmEntry} (first : entry ∈ registry.server.alarmMap)
    (time : entry.key ≤ registry.server.now) {deadline : TimeBase}
    (later : registry.server.now < deadline) {node : Nat}
    (nodes : ((registry.fire alarm entry).arm { alarm with deadline := 0 } deadline
      node).server.alarmMap.map AlarmEntry.node |>.Nodup) :
    (registry.again alarm entry deadline node).due.length < registry.due.length := by
  have grown : ((registry.fire alarm entry).arm { alarm with deadline := 0 } deadline
      node).server.alarmMap.Perm (⟨deadline, alarm.place, node⟩ :: registry.server.alarmMap) :=
    emplace_perm _ _
  have split := perm_cons_dropAt nodes (grown.mem_iff.mpr (List.mem_cons_of_mem _ first))
  have counted := ((split.symm.trans grown).filter
    fun other => decide (other.key ≤ registry.server.now)).length_eq
  rw [List.filter_cons_of_pos (by simpa using time),
    List.filter_cons_of_neg (by simpa using later), List.length_cons] at counted
  exact Nat.lt_of_succ_le counted.le

theorem rung_again (build : Build) (consistent : registry.Consistent) (looping : registry.phase = .looping)
    (member : alarm ∈ registry.alarms) {entry : AlarmEntry}
    (first : entry ∈ registry.server.alarmMap) (time : entry.key ≤ registry.server.now)
    (set : alarm.isSet = true) (claimed : entry.claim = alarm.claim) {deadline : TimeBase}
    (later : registry.server.now < deadline) (initialized : deadline ≠ 0) {node : Nat}
    (fresh : node ∉ registry.server.alarmMap.map AlarmEntry.node) :
    (registry.fire alarm entry).call build (.set alarm.place deadline node) =
        .done ((registry.fire alarm entry).arm { alarm with deadline := 0 } deadline node) ∧
      ((registry.fire alarm entry).arm { alarm with deadline := 0 } deadline node).returned entry =
        .done (registry.again alarm entry deadline node) ∧
      Rung alarm deadline registry (registry.again alarm entry deadline node) := by
  have fired := fire_consistent consistent looping first time member set claimed
  have rested : ({ alarm with deadline := 0 } : EpollAlarm) ∈ (registry.fire alarm entry).alarms :=
    mem_replaceAt.mpr (Or.inr ⟨alarm, member, rfl, rfl⟩)
  have armed := set_retimed fired rested rfl initialized fresh
  refine ⟨set_done build fired rested rfl initialized node,
    returned_effect armed.consistent rfl, finish_consistent armed.consistent rfl, rfl, rfl, ?_,
    due_again first time later armed.consistent.nodes⟩
  have unset : (registry.fire alarm entry).deadlineAt =
      Function.update registry.deadlineAt alarm.place (some 0) :=
    deadlines_replaced consistent member { alarm with deadline := 0 } rfl rfl
  refine Eq.trans armed.deadlines ?_
  rw [unset, Function.update_idem]

/-! The two calls of `acknowledge`, of which each depends on a test. -/

theorem renew_retimed (build : Build) (allocator : NodeAllocator)
    (consistent : registry.Consistent) {place : Nat} {own : Alarm}
    (here : registry.deadlineAt place = some own.deadline) {deadline : TimeBase}
    (initialized : deadline ≠ 0) (test : Bool) :
    ∃ next, (if test then registry.call build
        (.update place deadline 1000 (allocator.pick (registry.vacated place)))
          else .done registry) = .done next ∧
      Retimed place (some (if test then own.update deadline else own).deadline) registry next := by
  obtain ⟨alarm, member, rfl, same⟩ := alarm_of_deadline here
  cases test with
  | false =>
      refine ⟨registry, rfl, ?_⟩
      have kept := consistent.retimed_refl member
      rw [same] at kept
      exact kept
  | true =>
      obtain ⟨next, called, retimed⟩ := update_retimed build consistent member initialized 1000
        (allocator.free (registry.vacated alarm.place))
      refine ⟨next, called, ?_⟩
      rw [if_pos rfl, Alarm.update_deadline initialized, ← same]
      exact retimed

theorem stop_retimed (build : Build) (consistent : registry.Consistent) {place : Nat} {own : Alarm}
    (here : registry.deadlineAt place = some own.deadline) (test : Bool) :
    ∃ next, (if test then registry.call build (.cancel place) else .done registry) = .done next ∧
      Retimed place (some (if test then own.cancel else own).deadline) registry next := by
  obtain ⟨alarm, member, rfl, same⟩ := alarm_of_deadline here
  cases test with
  | false =>
      refine ⟨registry, rfl, ?_⟩
      have kept := consistent.retimed_refl member
      rw [same] at kept
      exact kept
  | true =>
      obtain ⟨next, called, retimed⟩ := cancel_retimed build consistent member
      refine ⟨next, called, ?_⟩
      rw [if_pos rfl, Alarm.cancel_deadline]
      exact retimed

end Registry

/-! The alarm in the operations of a send buffer. -/

namespace SendBuffer

theorem check_alarm (self : SendBuffer) (site : SendCheck) (condition : Bool) :
    (self.check site condition).alarm = self.alarm := by
  rw [check_eq]
  rfl

theorem acknowledgeSYN_alarm (self : SendBuffer) (ack : SequenceNumber) :
    (self.acknowledgeSYN ack).alarm = self.alarm := by
  rw [acknowledgeSYN_eq]
  rfl

theorem acknowledgeData_alarm (self : SendBuffer) (now : TimeBase) (consumed : UInt64) :
    (self.acknowledgeData now consumed).alarm =
      if (self.acknowledgeData now consumed).bytesInFlight == 0 then
        self.alarm.update (now + fromSeconds 1) else self.alarm := by
  cases drained : self.bytesInFlight - consumed == 0 with
  | true => simp [acknowledgeData, SendBufferOver.acknowledgeData, queue, drained]
  | false => simp [acknowledgeData, SendBufferOver.acknowledgeData, queue, drained]

theorem acknowledgeFIN_alarm (self : SendBuffer) (ack : SequenceNumber) :
    (self.acknowledgeFIN ack).alarm =
      if self.fin == .sent && self.tcb.send.equal ack self.tcb.send.next then
        self.alarm.cancel else self.alarm := by
  unfold acknowledgeFIN SendBufferOver.acknowledgeFIN
  split
  · exact congrArg Alarm.cancel (self.check_alarm _ _)
  · rfl

theorem sendSYN_alarm (env : Surroundings) (self : SendBuffer) (initial : SequenceNumber) :
    (self.sendSYN env initial).alarm = self.alarm := by
  rw [sendSYN_eq]
  exact (transmit_frame env _).alarm

end SendBuffer

theorem SenderCall.run_alarm (env : Surroundings) (now : TimeBase) (self : SendBuffer)
    (call : SenderCall) (other : ∀ ack, call ≠ .acknowledge ack) :
    (call.run env now self).alarm = self.alarm := by
  cases call with
  | setSource source => rfl
  | setDestination destination => rfl
  | sendSYN initial => exact self.sendSYN_alarm env initial
  | sendData data => exact self.step_alarm env (.sendData data)
  | sendFIN => exact self.step_alarm env .sendFIN
  | acknowledge ack => exact absurd rfl (other ack)
  | transmit => exact self.step_alarm env .transmit
  | receive space => rfl

namespace Timers

variable {env : Surroundings} {now : TimeBase} {self : SendBuffer}

theorem later_deadline (clock : 0 ≤ now) : now < now + fromSeconds 1 ∧ now + fromSeconds 1 ≠ 0 := by
  have second : fromSeconds 1 = 1000000 := rfl
  rw [second]
  constructor
  · exact lt_add_of_pos_right now (by decide)
  · exact (add_pos_of_nonneg_of_pos clock (by decide)).ne'

theorem fire_alarm (set : self.alarm.isSet = true) :
    (self.fire env now).alarm = ⟨now + fromSeconds 1⟩ := by
  rw [SendBuffer.fire_eq, if_pos set]
  rfl

theorem fire_failedChecks (clock : 0 ≤ now) :
    (self.fire env now).failedChecks = self.failedChecks := by
  rw [SendBuffer.fire_eq]
  split
  · have initialized : (now + fromSeconds 1 == 0) = false :=
      beq_eq_false_iff_ne.mpr (later_deadline clock).2
    simp only [SendBuffer.withNotes, initialized, Bool.false_eq_true, if_false, List.append_nil]
  · rfl

theorem lapse_due (set : self.alarm.isSet = true) (time : self.alarm.deadline ≤ now) :
    lapse env now self = self.fire env now := by
  rw [lapse, if_pos (by simp [set, time])]

theorem lapse_later (wait : self.alarm.isSet = true → now < self.alarm.deadline) :
    lapse env now self = self := by
  rw [lapse, if_neg]
  rw [Bool.and_eq_true, decide_eq_true_eq]
  rintro ⟨set, time⟩
  exact absurd time (not_le.mpr (wait set))

/-- A timer that has fired does not fire again in the same pass. -/
theorem lapse_fire (clock : 0 ≤ now) (set : self.alarm.isSet = true) :
    lapse env now (self.fire env now) = self.fire env now := by
  refine lapse_later fun _ => ?_
  rw [fire_alarm set]
  exact (later_deadline clock).1

end Timers

namespace SenderLoop

open Registry

variable {build : Build} {allocator : NodeAllocator} {env : Nat → Surroundings}
  {loop next : SenderLoop} {place : Nat} {self : SendBuffer}

/-- The alarms of the registry are those of the buffers. -/
structure Mirrored (loop : SenderLoop) : Prop where
  consistent : loop.registry.Consistent
  clock : 0 ≤ loop.now
  deadlines : loop.registry.deadlineAt = Option.map (fun sender => sender.alarm.deadline) ∘ loop.senders

structure Sound (loop : SenderLoop) : Prop extends Mirrored loop where
  idle : loop.registry.phase = .idle

theorem Mirrored.deadline_of_sender (mirrored : loop.Mirrored)
    (stored : loop.senders place = some self) :
    loop.registry.deadlineAt place = some self.alarm.deadline := by
  rw [mirrored.deadlines, Function.comp_apply, stored]
  rfl

theorem Mirrored.sender_of_alarm (mirrored : loop.Mirrored) {alarm : EpollAlarm}
    (member : alarm ∈ loop.registry.alarms) :
    ∃ self, loop.senders alarm.place = some self ∧ self.alarm = alarm.toAlarm := by
  have found := mirrored.consistent.deadlineAt_place member
  rw [mirrored.deadlines, Function.comp_apply, Option.map_eq_some_iff] at found
  obtain ⟨self, stored, same⟩ := found
  exact ⟨self, stored, congrArg Alarm.mk same⟩

theorem Mirrored.live_eq (mirrored : loop.Mirrored) :
    loop.registry.live place = (loop.senders place).isSome := by
  have same := congrArg Option.isSome (congrFun mirrored.deadlines place)
  rw [deadlineAt, Function.comp_apply, Option.isSome_map, Option.isSome_map] at same
  rw [← same, Bool.eq_iff_iff, Option.isSome_iff_ne_none, Ne, entryAt_none, live,
    decide_eq_true_eq, not_not]

theorem Mirrored.retimed (mirrored : loop.Mirrored) {registry : Registry}
    {sender : Option SendBuffer}
    (retimed : Retimed place (sender.map fun sender => sender.alarm.deadline) loop.registry registry) :
    Mirrored ⟨registry, Function.update loop.senders place sender⟩ where
  consistent := retimed.consistent
  clock := mirrored.clock.trans_eq retimed.now.symm
  deadlines := by rw [retimed.deadlines, mirrored.deadlines, Function.comp_update]

theorem Sound.retimed (sound : loop.Sound) {registry : Registry} {sender : Option SendBuffer}
    (retimed : Retimed place (sender.map fun sender => sender.alarm.deadline) loop.registry registry) :
    Sound ⟨registry, Function.update loop.senders place sender⟩ :=
  ⟨sound.toMirrored.retimed retimed, retimed.phase.trans sound.idle⟩

theorem start_sound (time : Timeval) : (start time).Sound := by
  refine ⟨⟨start_consistent time, ?_, rfl⟩, rfl⟩
  exact add_nonneg (Int.tdiv_nonneg time.valid.2.1 (by decide))
    (mul_nonneg (mul_nonneg time.valid.1 (by decide)) (by decide))

/-! A step of the loop against a step of the timers. -/

/-- What the code does is what the timers do, and it leaves a sound state. -/
structure Follows (code : Outcome SenderLoop) (spec : Outcome Timers) : Prop where
  seen : timers <$> code = spec
  sound : ∀ next, code = .done next → next.Sound

theorem follows_done {spec : Timers} (sound : next.Sound) (seen : next.timers = spec) :
    Follows (.done next) (.done spec) := by
  refine ⟨congrArg Outcome.done seen, fun other same => ?_⟩
  cases same
  exact sound

/-- Both stop the process when a check of the buffer fails. -/
theorem follows_checked {spec : Timers} (condition : Bool) (sound : next.Sound)
    (seen : next.timers = spec) :
    Follows (dcheck build condition >>= fun _ => .done next)
      (dcheck build condition >>= fun _ => .done spec) := by
  cases build with
  | release => exact follows_done sound seen
  | debug =>
      cases condition with
      | true => exact follows_done sound seen
      | false => exact ⟨rfl, fun _ stopped => by cases stopped⟩

theorem construct_follows (sound : loop.Sound) (free : loop.senders place = none)
    (factory : SegmentFactory) (tcb : ControlBlock) :
    Follows (loop.construct build allocator place factory tcb) (.done { loop.timers with
      senders := Function.update loop.senders place
        (some (SendBuffer.create factory tcb loop.now)) }) := by
  have absent : place ∉ loop.registry.alarms.map EpollAlarm.place := by
    intro present
    have live : loop.registry.live place = true := decide_eq_true present
    rw [sound.live_eq, free] at live
    cases live
  have created := create_retimed sound.consistent absent
  have fresh := of_decide_eq_true (allocator.free
    { loop.registry with alarms := .create place :: loop.registry.alarms })
  have member : EpollAlarm.create place ∈ EpollAlarm.create place :: loop.registry.alarms :=
    List.mem_cons_self
  have initialized := (Timers.later_deadline sound.clock).2
  have armed := created.trans (set_retimed created.consistent member rfl initialized fresh)
  have called := set_done build created.consistent member rfl initialized (allocator.pick
    { loop.registry with alarms := .create place :: loop.registry.alarms })
  have built : loop.construct build allocator place factory tcb = .done ⟨_, Function.update
      loop.senders place (some (SendBuffer.create factory tcb loop.now))⟩ :=
    Outcome.bind_of_done rfl (Outcome.bind_of_done called rfl)
  rw [built]
  refine follows_done (sound.retimed ?_) rfl
  have own : (SendBuffer.create factory tcb loop.now).alarm = ⟨loop.now + fromSeconds 1⟩ := by
    rw [SendBuffer.create_eq]
  rw [Option.map_some, own]
  exact armed

theorem acknowledge_eq (mirrored : loop.Mirrored) (stored : loop.senders place = some self)
    (ack : SequenceNumber) :
    ∃ registry, Retimed place (some (self.acknowledge (env place) ack loop.now).alarm.deadline)
        loop.registry registry ∧
      loop.acknowledge build allocator env place self ack =
        (dcheck build ((self.acknowledge (env place) ack loop.now).failedChecks ==
          self.failedChecks) >>= fun _ => .done ⟨registry, Function.update loop.senders place
            (some (self.acknowledge (env place) ack loop.now))⟩) := by
  have here := mirrored.deadline_of_sender stored
  let ordered := (self.acknowledgeSYN ack).check .acknowledgeOrder
    ((self.acknowledgeSYN ack).tcb.send.greaterOrEqual ack (self.acknowledgeSYN ack).tcb.send.unack)
  let consumed := (ack - ordered.tcb.send.unack).toUInt64
  let cut := ordered.acknowledgeData loop.now consumed
  obtain ⟨middle, first, renewed⟩ := renew_retimed build allocator mirrored.consistent here
    (Timers.later_deadline mirrored.clock).2 (cut.bytesInFlight == 0)
  have recorded : cut.alarm = if cut.bytesInFlight == 0 then
      self.alarm.update (loop.now + fromSeconds 1) else self.alarm := by
    rw [SendBuffer.acknowledgeData_alarm, SendBuffer.check_alarm, SendBuffer.acknowledgeSYN_alarm]
  rw [← recorded] at renewed
  have between : middle.deadlineAt place = some cut.alarm.deadline := by
    rw [renewed.deadlines, Function.update_self]
  obtain ⟨last, second, stopped⟩ := stop_retimed build renewed.consistent between
    (cut.fin == .sent && cut.tcb.send.equal ack cut.tcb.send.next)
  rw [← SendBuffer.acknowledgeFIN_alarm] at stopped
  refine ⟨last, ?_, ?_⟩
  swap
  · unfold SenderLoop.acknowledge
    refine Outcome.bind_of_done first ?_
    refine Outcome.bind_of_done second ?_
    rw [SendBuffer.acknowledge_blocks]
    rfl
  have final : (self.acknowledge (env place) ack loop.now).alarm = (cut.acknowledgeFIN ack).alarm := by
    rw [SendBuffer.acknowledge_blocks]
    split
    · exact (SendBuffer.transmit_frame (env place) _).alarm
    · rfl
  rw [final]
  exact renewed.trans stopped

theorem call_follows (sound : loop.Sound) (stored : loop.senders place = some self)
    (call : SenderCall) :
    Follows (loop.call build allocator env place self call)
      (dcheck build ((call.run (env place) loop.now self).failedChecks == self.failedChecks) >>=
        fun _ => .done { loop.timers with
          senders := Function.update loop.senders place (some (call.run (env place) loop.now self)) }) := by
  have here := sound.deadline_of_sender stored
  have plain (other : ∀ ack, call ≠ .acknowledge ack) : Sound { loop with
      senders := Function.update loop.senders place (some (call.run (env place) loop.now self)) } := by
    obtain ⟨alarm, member, rfl, same⟩ := alarm_of_deadline here
    refine sound.retimed ?_
    rw [Option.map_some, call.run_alarm (env alarm.place) loop.now self other, ← same]
    exact sound.consistent.retimed_refl member
  cases call with
  | acknowledge ack =>
      obtain ⟨registry, retimed, same⟩ := acknowledge_eq sound.toMirrored stored ack
      rw [SenderLoop.call, same]
      exact follows_checked _ (sound.retimed retimed) (congrArg (Timers.mk · _) retimed.now)
  | _ => exact follows_checked _ (plain fun _ => by simp) rfl

theorem destroy_follows (sound : loop.Sound) (stored : loop.senders place = some self) :
    Follows (loop.destroy build place)
      (.done { loop.timers with senders := Function.update loop.senders place none }) := by
  obtain ⟨alarm, member, rfl, _⟩ := alarm_of_deadline (sound.deadline_of_sender stored)
  obtain ⟨registry, called, retimed⟩ := destroy_retimed build sound.consistent member
  rw [destroy, called]
  exact follows_done (sound.retimed retimed) (congrArg (Timers.mk · _) retimed.now)

theorem updateNow_sound (sound : loop.Sound) (time : Timeval) :
    Sound { loop with registry.server := loop.registry.server.updateNow time } :=
  ⟨⟨{ sound.consistent with }, (start_sound time).clock, sound.deadlines⟩, sound.idle⟩

/-! A pass of `runAlarmEvent`. -/

/-- What the timers do in a pass at once. -/
def lapsed (env : Nat → Surroundings) (now : TimeBase) (senders : Nat → Option SendBuffer) :
    Nat → Option SendBuffer :=
  fun place => (senders place).map (Timers.lapse (env place) now)

theorem lapsed_rest (mirrored : loop.Mirrored)
    (finished : ∀ entry ∈ loop.registry.server.alarmMap, loop.now < entry.key) :
    lapsed env loop.now loop.senders = loop.senders := by
  funext place
  rw [lapsed]
  cases stored : loop.senders place with
  | none => rfl
  | some self =>
      refine congrArg some (Timers.lapse_later fun set => ?_)
      obtain ⟨alarm, member, _, same⟩ := alarm_of_deadline (mirrored.deadline_of_sender stored)
      have armed : alarm.isSet = true := by rw [Alarm.isSet, same]; exact set
      obtain ⟨entry, waiting, claimed⟩ := mirrored.consistent.entry_of_set member armed
      have key : entry.key = alarm.deadline := congrArg (·.2.1) claimed
      rw [← same, ← key]
      exact finished entry (mem_pending waiting)

theorem lapsed_fired {now : TimeBase} {senders : Nat → Option SendBuffer} (clock : 0 ≤ now)
    (stored : senders place = some self) (set : self.alarm.isSet = true)
    (time : self.alarm.deadline ≤ now) :
    lapsed env now (Function.update senders place (some (self.fire (env place) now))) =
      lapsed env now senders := by
  funext other
  rw [lapsed, lapsed]
  by_cases here : other = place
  · subst here
    rw [Function.update_self, stored, Option.map_some, Option.map_some, Timers.lapse_fire clock set,
      Timers.lapse_due set time]
  · rw [Function.update_of_ne here]

theorem onAlarm_fires {registry armed : Registry} {senders : Nat → Option SendBuffer}
    (stored : senders place = some self) (set : self.alarm.isSet = true)
    (clock : 0 ≤ registry.server.now)
    (called : registry.call build (.set place (registry.server.now + fromSeconds 1)
      (allocator.pick registry)) = .done armed) :
    onAlarm build allocator env ⟨registry, senders⟩ place = .done ⟨armed, Function.update senders
      place (some (self.fire (env place) registry.server.now))⟩ := by
  have fired : SendBuffer.retransmit (env place) { self with alarm := ⟨0⟩ } registry.server.now =
      self.fire (env place) registry.server.now := by
    exact (if_pos set).symm
  have checks : dcheck build ((self.fire (env place) registry.server.now).failedChecks ==
      self.failedChecks) = .done () :=
    dcheck_done (beq_iff_eq.mpr (Timers.fire_failedChecks clock))
  simp only [onAlarm, SenderLoop.now, stored, fired]
  exact Outcome.bind_of_done checks (Outcome.bind_of_done called rfl)

/-- The state after the round that fires an alarm. -/
def fired (allocator : NodeAllocator) (env : Nat → Surroundings) (loop : SenderLoop)
    (alarm : EpollAlarm) (entry : AlarmEntry) (self : SendBuffer) : SenderLoop where
  registry := loop.registry.again alarm entry (loop.now + fromSeconds 1)
    (allocator.pick (loop.registry.fire alarm entry))
  senders := Function.update loop.senders alarm.place (some (self.fire (env alarm.place) loop.now))

/-- A round that fires: one entry fewer is due, and the pass comes to the same. -/
structure Advanced (env : Nat → Surroundings) (loop next : SenderLoop) : Prop where
  mirrored : next.Mirrored
  looping : next.registry.phase = .looping
  now : next.now = loop.now
  shorter : next.registry.due.length < loop.registry.due.length
  lapses : lapsed env next.now next.senders = lapsed env loop.now loop.senders

theorem rounds_cases (build : Build) (allocator : NodeAllocator) (env : Nat → Surroundings)
    (mirrored : loop.Mirrored) (looping : loop.registry.phase = .looping) (count : Nat) :
    (rounds build allocator env (count + 1) loop = .done { loop with registry.phase := .idle } ∧
      ∀ entry ∈ loop.registry.server.alarmMap, loop.now < entry.key) ∨
    ∃ next, rounds build allocator env (count + 1) loop = rounds build allocator env count next ∧
      Advanced env loop next := by
  rcases advance_cases mirrored.consistent looping with
    ⟨left, finished⟩ | ⟨alarm, member, entry, first, fired, time, set, claimed⟩
  · exact Or.inl ⟨Outcome.bind_of_done left rfl, finished⟩
  right
  obtain ⟨self, stored, own⟩ := mirrored.sender_of_alarm member
  have here : entry.alarm = alarm.place := congrArg (·.1) claimed
  have key : entry.key = alarm.deadline := congrArg (·.2.1) claimed
  have ownSet : self.alarm.isSet = true := by rw [own]; exact set
  have ownTime : self.alarm.deadline ≤ loop.now := by rw [own, ← key]; exact time
  obtain ⟨later, initialized⟩ := Timers.later_deadline mirrored.clock
  have fresh := of_decide_eq_true (allocator.free (loop.registry.fire alarm entry))
  obtain ⟨called, returned, rung⟩ := rung_again build mirrored.consistent looping member first
    time set claimed later initialized fresh
  have retransmitted : onAlarm build allocator env ⟨loop.registry.fire alarm entry, loop.senders⟩
      entry.alarm = .done ⟨(loop.registry.fire alarm entry).arm { alarm with deadline := 0 }
        (loop.now + fromSeconds 1) (allocator.pick (loop.registry.fire alarm entry)),
        (loop.fired allocator env alarm entry self).senders⟩ := by
    rw [here]
    exact onAlarm_fires stored ownSet mirrored.clock called
  refine ⟨loop.fired allocator env alarm entry self, ?_, ⟨rung.consistent, mirrored.clock, ?_⟩,
    rung.looping, rung.now, rung.shorter, lapsed_fired mirrored.clock stored ownSet ownTime⟩
  · exact Outcome.bind_of_done fired
      (Outcome.bind_of_done retransmitted (Outcome.bind_of_done returned rfl))
  · rw [SenderLoop.fired, rung.deadlines, mirrored.deadlines, Function.comp_update, Option.map_some,
      Timers.fire_alarm ownSet]

theorem rounds_lapse {count : Nat} (mirrored : loop.Mirrored)
    (looping : loop.registry.phase = .looping) (enough : loop.registry.due.length < count) :
    ∃ final, rounds build allocator env count loop = .done final ∧ final.Sound ∧
      final.timers = ⟨loop.now, lapsed env loop.now loop.senders⟩ := by
  induction count generalizing loop with
  | zero => exact absurd enough (Nat.not_lt_zero _)
  | succ count ih =>
      rcases rounds_cases build allocator env mirrored looping count with
        ⟨left, finished⟩ | ⟨next, taken, advanced⟩
      · refine ⟨_, left, ⟨⟨?_, mirrored.clock, mirrored.deadlines⟩, rfl⟩, ?_⟩
        · exact phase_consistent mirrored.consistent looping (by simp) (by simp)
        rw [lapsed_rest mirrored finished]
        rfl
      · obtain ⟨final, ended, sound, seen⟩ := ih advanced.mirrored advanced.looping
          (lt_of_lt_of_le advanced.shorter (Nat.lt_succ_iff.mp enough))
        refine ⟨final, taken.trans ended, sound, seen.trans ?_⟩
        rw [advanced.lapses, advanced.now]

theorem runAlarmEvent_follows (sound : loop.Sound) :
    Follows (loop.runAlarmEvent build allocator env)
      (.done ⟨loop.now, lapsed env loop.now loop.senders⟩) := by
  have looping : Mirrored { loop with registry.phase := .looping } :=
    ⟨phase_consistent sound.consistent sound.idle (by simp) (by simp), sound.clock, sound.deadlines⟩
  have enough : loop.registry.due.length < loop.registry.server.alarmMap.length + 1 :=
    Nat.lt_succ_of_le (List.length_filter_le _ _)
  obtain ⟨final, ended, after, seen⟩ := rounds_lapse looping rfl enough
  rw [runAlarmEvent, ended]
  exact follows_done after seen

theorem step_follows (sound : loop.Sound) (event : SenderEvent) :
    Follows (loop.step build allocator env event) (loop.timers.step build env event) := by
  cases event with
  | construct place factory tcb =>
      cases stored : loop.senders place with
      | none =>
          have free : loop.registry.live place = false := by rw [sound.live_eq, stored]; rfl
          simp only [SenderLoop.step, Timers.step, SenderLoop.timers, free, stored]
          exact construct_follows sound stored factory tcb
      | some self =>
          have live : loop.registry.live place = true := by rw [sound.live_eq, stored]; rfl
          simp only [SenderLoop.step, Timers.step, SenderLoop.timers, live, stored]
          exact follows_done sound rfl
  | call place call =>
      cases stored : loop.senders place with
      | none =>
          simp only [SenderLoop.step, Timers.step, SenderLoop.timers, stored]
          exact follows_done sound rfl
      | some self =>
          simp only [SenderLoop.step, Timers.step, SenderLoop.timers, stored]
          exact call_follows sound stored call
  | destroy place =>
      cases stored : loop.senders place with
      | none =>
          have same : Function.update loop.senders place none = loop.senders := by
            rw [← stored, Function.update_eq_self]
          simp only [SenderLoop.step, Timers.step, SenderLoop.timers, stored, same]
          exact follows_done sound rfl
      | some self =>
          simp only [SenderLoop.step, Timers.step, SenderLoop.timers, stored]
          exact destroy_follows sound stored
  | updateNow time => exact follows_done (updateNow_sound sound time) rfl
  | runAlarmEvent => exact runAlarmEvent_follows sound

/-- The buffers of a process do on one event loop what they do with a timer each: a pass fires the
timers whose time has come and no others, and no call finds an alarm that is gone. -/
theorem senderLoop_refines (build : Build) (allocator : NodeAllocator) (env : Nat → Surroundings)
    (time : Timeval) (events : List SenderEvent) :
    timers <$> execute (SenderLoop.step build allocator env) (start time) events =
      execute (Timers.step build env) (start time).timers events :=
  execute_view (fun _ event sound => (step_follows sound event).seen)
    (fun _ event next sound taken => (step_follows sound event).sound next taken)
    (start_sound time)

end SenderLoop

end LabNetstack
