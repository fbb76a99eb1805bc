import LabNetstack.EpollClock

/-! `EpollServer::runEventLoop` with the probe alarm of `IPLayer`. The loop waits for the next
alarm without asking whether there is one. -/

namespace LabNetstack

open Registry

def probeInterval : Int := fromSeconds 3

/-- The server in its loop. While `runReadEvent` runs, `wait` is what `incomingAlarm` returned. -/
structure EventLoop where
  registry : Registry
  wait : Option Int
  probe : Nat
deriving DecidableEq, Repr

-- `node` is the one the allocator returns if the delegate arms the probe alarm
inductive LoopEvent where
  | call (call : AlarmCall)
  | runEventLoop (time : Timeval)
  | runAlarmEvent
  | advance
  | returned (node : Nat)
deriving DecidableEq, Repr

namespace EventLoop

variable {build : Build} {loop next : EventLoop}

def inRegistry (loop : EventLoop) (registry : Outcome Registry) : Outcome EventLoop := do
  let registry ← registry
  pure { loop with registry := registry }

/-- The constructors of `EpollServer` and `IPLayer`. -/
def construct (build : Build) (time : Timeval) (probe node : Nat) : Outcome EventLoop := do
  let registry ← (Registry.start time).call build (.create probe)
  let registry ← registry.call build (.set probe (registry.server.now + probeInterval) node)
  pure { registry := registry, wait := none, probe := probe }

/-- The end of `sendProbePacket`, the delegate of the probe alarm. -/
def sendProbePacket (build : Build) (loop : EventLoop) (node : Nat) : Outcome Registry :=
  loop.registry.call build
    (.update loop.probe (loop.registry.server.now + probeInterval) 1000 node)

def runEventLoop (loop : EventLoop) (time : Timeval) : Outcome EventLoop := do
  let server := loop.registry.server.updateNow time
  let wait ← server.incomingAlarm
  pure { loop with registry := { loop.registry with server := server }, wait := some wait }

def resting (loop : EventLoop) : Bool := loop.wait.isNone && loop.registry.phase == .idle

/-- One event. Other alarms are called from `onReadable`, from their delegates and between the
rounds of the loop. -/
def step (build : Build) (loop : EventLoop) (event : LoopEvent) : Outcome EventLoop :=
  match event with
  | .call call => loop.inRegistry (loop.registry.step build (.call call))
  | .runEventLoop time => if loop.resting then loop.runEventLoop time else .done loop
  | .runAlarmEvent =>
      if loop.wait.isSome then
        ({ loop with wait := none } : EventLoop).inRegistry (loop.registry.step build .runAlarmEvent)
      else .done loop
  | .advance => loop.inRegistry (loop.registry.step build .advance)
  | .returned node =>
      match loop.registry.phase with
      | .firing entry =>
          if entry.alarm ≠ loop.probe then loop.inRegistry (loop.registry.returned entry)
          else if (loop.registry.vacated loop.probe).unused node then do
            let registry ← loop.sendProbePacket build node
            loop.inRegistry (registry.returned entry)
          else .done loop
      | _ => .done loop

/-- Nobody but the IP layer calls its alarm. -/
def lawful (build : Build) (loop : EventLoop) (event : LoopEvent) : Bool :=
  match event with
  | .call call => decide (call.place ≠ loop.probe) && loop.registry.passes build (.call call)
  | _ => true

/-- The probe alarm is set, or its delegate is running and will set it. -/
structure Probing (loop : EventLoop) : Prop where
  consistent : loop.registry.Consistent
  clock : (0 : Int) ≤ loop.registry.server.now
  alarm : ∃ alarm ∈ loop.registry.alarms, alarm.place = loop.probe ∧
    (alarm.isSet = true ∨ ∃ entry, loop.registry.phase = .firing entry ∧ entry.alarm = loop.probe)

end EventLoop

theorem EpollAlarm.update_sets {alarm : EpollAlarm} {server : EpollServer}
    {deadline granularity : Int} {node : Nat} {after : EpollAlarm × EpollServer}
    (initialized : deadline ≠ 0) (far : granularity ≤ deadline.natAbs)
    (updated : alarm.update server deadline granularity node = .done after) :
    after.1.place = alarm.place ∧ after.1.isSet = true := by
  obtain ⟨place, moved⟩ := update_deadline initialized updated
  refine ⟨place, isSet_iff.mpr ?_⟩
  rw [moved]
  split
  · -- too near to a deadline that is set already: zero is further away
    rename_i near
    intro off
    rw [off, Int.sub_zero] at near
    exact absurd near (not_lt.mpr far)
  · exact initialized

theorem EpollServer.incomingAlarm_done {server : EpollServer} (filled : server.alarmMap ≠ []) :
    ∃ wait, server.incomingAlarm = .done wait ∧ 0 ≤ wait := by
  unfold incomingAlarm
  split
  · rename_i empty
    exact absurd empty filled
  · dsimp only
    split
    · exact ⟨0, rfl, le_refl 0⟩
    · rename_i ahead
      exact ⟨_, rfl, not_lt.mp ahead⟩

namespace EventLoop

variable {build : Build} {loop next : EventLoop}

theorem sendProbePacket_sets (build : Build) (probing : loop.Probing) {node : Nat}
    (unused : (loop.registry.vacated loop.probe).unused node = true) : ∃ registry,
      loop.sendProbePacket build node = .done registry ∧ registry.Consistent ∧
      Framed loop.probe loop.registry registry ∧
      ∃ alarm ∈ registry.alarms, alarm.place = loop.probe ∧ alarm.isSet = true := by
  obtain ⟨alarm, member, here, _⟩ := probing.alarm
  have later : (3000000 : Int) ≤ loop.registry.server.now + probeInterval := by
    have clock := probing.clock
    have interval : probeInterval = 3000000 := rfl
    omega
  rw [← here] at unused
  obtain ⟨registry, called, touched⟩ := update_touches probing.consistent member
    (loop.registry.server.now + probeInterval) 1000 unused
  have sent : loop.sendProbePacket build node = .done registry := by
    rw [sendProbePacket, ← here]
    exact called
  rw [here] at touched
  refine ⟨registry, sent, touches_consistent touched probing.consistent, touches_framed touched, ?_⟩
  rw [on_alarm probing.consistent member] at called
  obtain ⟨after, updated, written⟩ := Outcome.bind_eq_done.mp called
  cases written
  obtain ⟨place, set⟩ := EpollAlarm.update_sets (by omega) (by omega) updated
  exact ⟨after.1, mem_replaceAt.mpr (Or.inr ⟨alarm, member, rfl, rfl⟩), place.trans here, set⟩

/-- At rest the probe alarm is set, so the map has an entry to look at. -/
theorem Probing.polls (probing : loop.Probing) (rests : loop.resting = true) (time : Timeval) :
    (∃ alarm ∈ loop.registry.alarms, alarm.place = loop.probe ∧ alarm.isSet = true) ∧
      loop.registry.server.alarmMap ≠ [] ∧
      ∃ wait, (loop.registry.server.updateNow time).incomingAlarm = .done wait ∧ 0 ≤ wait := by
  have idle : loop.registry.phase = .idle := by
    simpa using (Bool.and_eq_true_iff.mp rests).2
  obtain ⟨alarm, member, here, set | ⟨entry, firing, _⟩⟩ := probing.alarm
  · obtain ⟨entry, waiting, _⟩ := probing.consistent.entry_of_set member set
    have filled := mem_pending waiting
    refine ⟨⟨alarm, member, here, set⟩, List.ne_nil_of_mem filled, ?_⟩
    exact EpollServer.incomingAlarm_done (List.ne_nil_of_mem filled)
  · rw [idle] at firing
    cases firing

/-- An event other than a call of the probe alarm keeps it set, or calls its delegate. -/
theorem alarm_kept {event : AlarmEvent} {registry after : Registry} {probe : Nat}
    (effect : Effect event registry after)
    (others : ∀ call, event = .call call → call.place ≠ probe)
    (alarm : ∃ alarm ∈ registry.alarms, alarm.place = probe ∧ (alarm.isSet = true ∨
      event ≠ .returned ∧ ∃ entry, registry.phase = .firing entry ∧ entry.alarm = probe)) :
    ∃ alarm ∈ after.alarms, alarm.place = probe ∧
      (alarm.isSet = true ∨ ∃ entry, after.phase = .firing entry ∧ entry.alarm = probe) := by
  obtain ⟨alarm, member, here, stands⟩ := alarm
  cases effect with
  | nothing => exact ⟨alarm, member, here, stands.imp_right And.right⟩
  | called touched =>
      have framed := touches_framed touched
      rw [framed.phase]
      refine ⟨alarm, framed.others alarm member ?_, here, stands.imp_right And.right⟩
      exact fun same => others _ rfl (same.symm.trans here)
  | ticked => exact ⟨alarm, member, here, stands.imp_right And.right⟩
  | entered idle =>
      rcases stands with set | ⟨_, entry, firing, _⟩
      · exact ⟨alarm, member, here, Or.inl set⟩
      · cases idle.symm.trans firing
  | left looping =>
      rcases stands with set | ⟨_, entry, firing, _⟩
      · exact ⟨alarm, member, here, Or.inl set⟩
      · cases looping.symm.trans firing
  | @fired _ other entry looping first due present _ claimed =>
      rcases stands with set | ⟨_, entry, firing, _⟩
      · by_cases same : alarm.place = other.place
        · have own : entry.alarm = probe :=
            (congrArg (·.1) claimed : entry.alarm = other.place).trans (same.symm.trans here)
          exact ⟨{ other with deadline := 0 },
            mem_replaceAt.mpr (Or.inr ⟨other, present, rfl, rfl⟩), same.symm.trans here,
            Or.inr ⟨entry, rfl, own⟩⟩
        · exact ⟨alarm, mem_replaceAt.mpr (Or.inl ⟨member, same⟩), here, Or.inl set⟩
      · cases looping.symm.trans firing
  | returned firing =>
      rcases stands with set | ⟨running, _⟩
      · exact ⟨alarm, member, here, Or.inl set⟩
      · exact absurd rfl running

theorem effect_clock {event : AlarmEvent} {registry after : Registry}
    (effect : Effect event registry after) (clock : (0 : Int) ≤ registry.server.now) :
    (0 : Int) ≤ after.server.now := by
  cases effect with
  | called touched => exact (touches_framed touched).now ▸ clock
  | @ticked time => exact time.clock_nonneg
  | _ => exact clock

/-- The loop after an event of the registry. -/
theorem Probing.after {event : AlarmEvent} {registry after : Registry} {probe : Nat}
    (consistent : registry.Consistent) (clock : (0 : Int) ≤ registry.server.now)
    (effect : Effect event registry after)
    (others : ∀ call, event = .call call → call.place ≠ probe)
    (alarm : ∃ alarm ∈ registry.alarms, alarm.place = probe ∧ (alarm.isSet = true ∨
      event ≠ .returned ∧ ∃ entry, registry.phase = .firing entry ∧ entry.alarm = probe))
    (wait : Option Int) : Probing ⟨after, wait, probe⟩ :=
  ⟨effect.consistent consistent, effect_clock effect clock, alarm_kept effect others alarm⟩

theorem Probing.alarm_unless (probing : loop.Probing) {event : AlarmEvent}
    (other : event ≠ .returned) : ∃ alarm ∈ loop.registry.alarms, alarm.place = loop.probe ∧
      (alarm.isSet = true ∨ event ≠ .returned ∧
        ∃ entry, loop.registry.phase = .firing entry ∧ entry.alarm = loop.probe) := by
  obtain ⟨alarm, member, here, stands⟩ := probing.alarm
  exact ⟨alarm, member, here, stands.imp_right fun firing => ⟨other, firing⟩⟩

theorem inRegistry_done {outcome : Outcome Registry}
    (taken : loop.inRegistry outcome = .done next) :
    ∃ registry, outcome = .done registry ∧ next = { loop with registry := registry } := by
  obtain ⟨registry, reached, written⟩ := Outcome.bind_eq_done.mp taken
  cases written
  exact ⟨registry, reached, rfl⟩

theorem returned_probing (probing : loop.Probing) {node : Nat}
    (taken : loop.step build (.returned node) = .done next) : next.Probing := by
  unfold step at taken
  dsimp only at taken
  split at taken
  · rename_i entry firing
    split at taken
    · rename_i other
      obtain ⟨registry, reached, rfl⟩ := inRegistry_done taken
      rw [returned_effect probing.consistent firing] at reached
      cases reached
      refine Probing.after probing.consistent probing.clock (.returned firing) nofun ?_ loop.wait
      obtain ⟨alarm, member, here, set | ⟨running, also, mine⟩⟩ := probing.alarm
      · exact ⟨alarm, member, here, Or.inl set⟩
      · cases firing.symm.trans also
        exact absurd mine other
    · split at taken
      · rename_i unused
        obtain ⟨armed, sent, consistent, framed, alarm, member, here, set⟩ :=
          sendProbePacket_sets build probing unused
        rw [sent] at taken
        obtain ⟨registry, reached, rfl⟩ := inRegistry_done taken
        have still : armed.phase = .firing entry := framed.phase.trans firing
        rw [returned_effect consistent still] at reached
        cases reached
        exact Probing.after consistent (framed.now ▸ probing.clock) (.returned still) nofun
          ⟨alarm, member, here, Or.inl set⟩ loop.wait
      · cases taken
        exact probing
  · cases taken
    exact probing

theorem step_probing (probing : loop.Probing) {event : LoopEvent}
    (lawful : loop.lawful build event = true) (taken : loop.step build event = .done next) :
    next.Probing := by
  cases event with
  | call call =>
      obtain ⟨apart, passed⟩ := Bool.and_eq_true_iff.mp lawful
      obtain ⟨registry, reached, rfl⟩ := inRegistry_done taken
      refine Probing.after probing.consistent probing.clock
        (step_effect probing.consistent passed reached) ?_ (probing.alarm_unless nofun) loop.wait
      intro other same
      cases same
      exact of_decide_eq_true apart
  | runEventLoop time =>
      rw [step] at taken
      split at taken
      · rename_i rests
        have idle : loop.registry.phase = .idle := by
          simpa using (Bool.and_eq_true_iff.mp rests).2
        obtain ⟨wait, _, written⟩ := Outcome.bind_eq_done.mp taken
        cases written
        exact Probing.after probing.consistent probing.clock (.ticked idle) nofun
          (probing.alarm_unless nofun) (some wait)
      · cases taken
        exact probing
  | runAlarmEvent =>
      rw [step] at taken
      split at taken
      · obtain ⟨registry, reached, rfl⟩ := inRegistry_done taken
        exact Probing.after probing.consistent probing.clock
          (step_effect probing.consistent (by cases build <;> rfl) reached) nofun
          (probing.alarm_unless nofun) none
      · cases taken
        exact probing
  | advance =>
      obtain ⟨registry, reached, rfl⟩ := inRegistry_done taken
      exact Probing.after probing.consistent probing.clock
        (step_effect probing.consistent (by cases build <;> rfl) reached) nofun
        (probing.alarm_unless nofun) loop.wait
  | returned node => exact returned_probing probing taken

theorem step_inside (probing : loop.Probing) (event : LoopEvent) :
    loop.step build event ≠ .outOfBounds := by
  have within {outcome : Outcome Registry} (loop : EventLoop) (inside : outcome ≠ .outOfBounds) :
      loop.inRegistry outcome ≠ .outOfBounds := by
    cases outcome with
    | outOfBounds => exact absurd rfl inside
    | _ => exact nofun
  cases event with
  | call call => exact within loop (Registry.step_inside probing.consistent _)
  | runEventLoop time =>
      rw [step]
      split
      · rename_i rests
        obtain ⟨_, _, wait, polled, _⟩ := probing.polls rests time
        rw [runEventLoop, polled]
        exact nofun
      · exact nofun
  | runAlarmEvent =>
      rw [step]
      split
      · exact within _ (Registry.step_inside probing.consistent _)
      · exact nofun
  | advance => exact within loop (Registry.step_inside probing.consistent _)
  | returned node =>
      unfold step
      dsimp only
      split
      · rename_i entry firing
        split
        · rw [returned_effect probing.consistent firing]
          exact nofun
        · split
          · rename_i unused
            obtain ⟨armed, sent, consistent, framed, _⟩ := sendProbePacket_sets build probing unused
            rw [sent, Outcome.done_bind, returned_effect consistent (framed.phase.trans firing)]
            exact nofun
          · exact nofun
      · exact nofun

theorem construct_done (build : Build) (time : Timeval) (probe node : Nat) :
    ∃ loop, construct build time probe node = .done loop ∧ loop.Probing := by
  have later : time.clock + probeInterval ≠ 0 := by
    have clock := time.clock_nonneg
    have interval : probeInterval = 3000000 := rfl
    omega
  have created : Registry.Consistent ⟨.create time, [.create probe], .idle⟩ :=
    create_consistent (start_consistent time) List.not_mem_nil
  have member : EpollAlarm.create probe ∈ [EpollAlarm.create probe] := List.mem_singleton.mpr rfl
  refine ⟨⟨Registry.arm ⟨.create time, [.create probe], .idle⟩ (.create probe)
    (time.clock + probeInterval) node, none, probe⟩, ?_, ?_⟩
  · exact Outcome.bind_eq_done.mpr ⟨_, rfl, Outcome.bind_eq_done.mpr
      ⟨_, set_done build created member rfl later node, rfl⟩⟩
  · refine ⟨arm_consistent created member rfl later List.not_mem_nil, time.clock_nonneg, ?_⟩
    exact ⟨_, mem_replaceAt.mpr (Or.inr ⟨_, member, rfl, rfl⟩), rfl,
      Or.inl (EpollAlarm.isSet_iff.mpr later)⟩

/-- Whenever the loop asks for the next alarm, the probe alarm is set. -/
theorem probe_set_at_poll (build : Build) (time : Timeval) (probe node : Nat) (start : EventLoop)
    (built : construct build time probe node = .done start) (events : List LoopEvent)
    (others : Allowed (step build) (fun loop event => loop.lawful build event = true) start events) :
    execute (step build) start events ≠ .outOfBounds ∧
    ∀ loop, execute (step build) start events = .done loop → loop.resting = true →
      ∀ reading : Timeval,
        (∃ alarm ∈ loop.registry.alarms, alarm.place = loop.probe ∧ alarm.isSet = true) ∧
        loop.registry.server.alarmMap ≠ [] ∧
        ∃ wait, (loop.registry.server.updateNow reading).incomingAlarm = .done wait ∧ 0 ≤ wait := by
  obtain ⟨constructed, same, probing⟩ := construct_done build time probe node
  cases built.symm.trans same
  have kept (loop : EventLoop) (event : LoopEvent) (next : EventLoop) (probing : loop.Probing)
      (lawful : loop.lawful build event = true) (taken : loop.step build event = .done next) :
      next.Probing := step_probing probing lawful taken
  constructor
  · exact execute_inside (fun _ event probing => step_inside probing event) kept probing others
  · intro loop reached rests reading
    have final : loop.Probing := execute_invariant kept probing others reached
    exact final.polls rests reading

-- a second alarm comes and goes, and the probe alarm fires in the second round
def probeRounds : List LoopEvent :=
  [.call (.create 2), .call (.set 2 1000 11), .runEventLoop ⟨2, 0, by decide⟩, .call (.cancel 2),
    .runAlarmEvent, .advance, .runEventLoop ⟨4, 0, by decide⟩, .runAlarmEvent, .advance,
    .returned 11, .advance]

def probeStart : EventLoop :=
  { registry := ⟨⟨[⟨3000000, 1, 10⟩], 0, ⟨1, [], []⟩⟩, [⟨⟨3000000⟩, 1, some 10, 0⟩], .idle⟩
    wait := none
    probe := 1 }

def probeEnd : EventLoop :=
  { registry :=
      { server := ⟨[⟨7000000, 1, 11⟩], 4000000, ⟨3, [1], [⟨0, 3000000, 4000000⟩]⟩⟩
        alarms := [⟨⟨0⟩, 2, some 11, 1⟩, ⟨⟨7000000⟩, 1, some 11, 2⟩]
        phase := .idle }
    wait := none
    probe := 1 }

theorem probeRounds_set : execute (step .debug) probeStart probeRounds = .done probeEnd ∧
    ∃ alarm ∈ probeEnd.registry.alarms, alarm.place = probeEnd.probe ∧ alarm.isSet = true := by
  have reached : execute (step .debug) probeStart probeRounds = .done probeEnd := rfl
  refine ⟨reached, ?_⟩
  exact ((probe_set_at_poll .debug ⟨0, 0, by decide⟩ 1 10 probeStart rfl probeRounds (by decide)).2
    probeEnd reached rfl ⟨4, 0, by decide⟩).1

end EventLoop

end LabNetstack
