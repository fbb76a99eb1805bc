import LabNetstack.SenderLoop

/-! How late a retransmission can be. While the clock goes forward no timer is set for more than a
second from now. -/

namespace LabNetstack

namespace Timers

variable {build : Build} {env : Nat → Surroundings} {timers next : Timers} {place : Nat}

/-- No timer is set for more than a second from now. -/
def Within (timers : Timers) : Prop :=
  ∀ place self, timers.senders place = some self → self.alarm.isSet = true →
    self.alarm.deadline ≤ timers.now + fromSeconds 1

theorem update_near {alarm : Alarm} {deadline limit : TimeBase} (bounded : deadline ≤ limit)
    (near : alarm.isSet = true → alarm.deadline ≤ limit) :
    (alarm.update deadline).isSet = true → (alarm.update deadline).deadline ≤ limit := by
  intro set
  by_cases uninitialized : deadline = 0
  · have off : (alarm.update deadline).deadline = 0 := by
      rw [Alarm.update, if_pos (beq_iff_eq.mpr uninitialized), Alarm.cancel_deadline]
    simp [Alarm.isSet, off] at set
  · rw [Alarm.update, if_neg (by simpa using uninitialized)] at set ⊢
    split
    · rename_i kept
      rw [if_pos kept] at set
      exact near set
    · exact bounded

theorem cancel_near {alarm : Alarm} {limit : TimeBase} :
    alarm.cancel.isSet = true → alarm.cancel.deadline ≤ limit := by
  intro set
  simp [Alarm.isSet, Alarm.cancel_deadline] at set

theorem run_near {env : Surroundings} {now : TimeBase} {self : SendBuffer} (call : SenderCall)
    (near : self.alarm.isSet = true → self.alarm.deadline ≤ now + fromSeconds 1) :
    (call.run env now self).alarm.isSet = true →
      (call.run env now self).alarm.deadline ≤ now + fromSeconds 1 := by
  cases call with
  | acknowledge ack =>
      have own : (SenderCall.run env now self (.acknowledge ack)).alarm =
          self.alarmAfter (.acknowledge ack now) := self.step_alarm env (.acknowledge ack now)
      rw [own, SendBuffer.alarmAfter]
      split
      · exact cancel_near
      · split
        · exact update_near le_rfl near
        · exact near
  | _ =>
      rw [SenderCall.run_alarm env now self _ (by simp)]
      exact near

theorem Within.update (within : timers.Within) {sender : Option SendBuffer}
    (near : ∀ self, sender = some self → self.alarm.isSet = true →
      self.alarm.deadline ≤ timers.now + fromSeconds 1) :
    Within { timers with senders := Function.update timers.senders place sender } := by
  intro other self stored set
  by_cases here : other = place
  · subst here
    change Function.update timers.senders other sender other = some self at stored
    rw [Function.update_self] at stored
    exact near self stored set
  · change Function.update timers.senders place sender other = some self at stored
    rw [Function.update_of_ne here] at stored
    exact within other self stored set

theorem lapse_near {env : Surroundings} {now : TimeBase} {self : SendBuffer}
    (near : self.alarm.isSet = true → self.alarm.deadline ≤ now + fromSeconds 1) :
    (lapse env now self).alarm.isSet = true →
      (lapse env now self).alarm.deadline ≤ now + fromSeconds 1 := by
  intro set
  rw [lapse] at set ⊢
  split
  · rename_i due
    rw [fire_alarm (Bool.and_eq_true_iff.mp due).1]
  · rename_i waits
    rw [if_neg waits] at set
    exact near set

theorem lapse_eq_fire {env : Surroundings} {now : TimeBase} {self : SendBuffer}
    (due : self.alarm.isSet = true → self.alarm.deadline ≤ now) :
    lapse env now self = self.fire env now := by
  cases set : self.alarm.isSet with
  | true => exact lapse_due set (due set)
  | false =>
      have unset : ¬self.alarm.isSet = true := by simp [set]
      rw [lapse_later fun isSet => absurd isSet unset, SendBuffer.fire_eq, if_neg unset]

/-- The clock does not go back. -/
def forward (timers : Timers) : SenderEvent → Bool
  | .updateNow time => decide (timers.now ≤ reading time)
  | _ => true

theorem Within.step (within : timers.Within) {event : SenderEvent} (ahead : timers.forward event = true)
    (taken : Timers.step build env timers event = .done next) : next.Within := by
  cases event with
  | construct place factory tcb =>
      rw [Timers.step] at taken
      split at taken
      · cases taken
        refine within.update fun self same _ => ?_
        cases same
        rw [SendBuffer.create_eq]
      · cases taken
        exact within
  | call place call =>
      rw [Timers.step] at taken
      split at taken
      · cases taken
        exact within
      · rename_i self stored
        obtain ⟨_, _, same⟩ := Outcome.bind_eq_done.mp taken
        cases same
        refine within.update fun after same => ?_
        cases same
        exact run_near call (within place self stored)
  | destroy place =>
      cases taken
      exact within.update (by simp)
  | updateNow time =>
      cases taken
      intro place self stored set
      exact (within place self stored set).trans (add_le_add_left (of_decide_eq_true ahead) _)
  | runAlarmEvent =>
      cases taken
      intro place after stored
      obtain ⟨self, before, rfl⟩ := Option.map_eq_some_iff.mp stored
      exact lapse_near (within place self before)

end Timers

namespace SenderLoop

variable {build : Build} {allocator : NodeAllocator} {env : Nat → Surroundings}

theorem run_within {time : Timeval} {events : List SenderEvent} {loop : SenderLoop}
    (ahead : Allowed (SenderLoop.step build allocator env)
      (fun loop event => loop.timers.forward event = true) (start time) events)
    (reached : execute (SenderLoop.step build allocator env) (start time) events = .done loop) :
    loop.Sound ∧ loop.timers.Within := by
  have initial : (start time).Sound ∧ (start time).timers.Within :=
    ⟨start_sound time, fun _ _ stored => by cases stored⟩
  refine execute_invariant (motive := fun loop => loop.Sound ∧ loop.timers.Within) ?_ initial ahead
    reached
  rintro before event next ⟨sound, within⟩ ahead taken
  have follows : Follows (before.step build allocator env event)
      (before.timers.step build env event) := step_follows sound event
  have seen := follows.seen
  rw [taken] at seen
  exact ⟨follows.sound next taken, within.step ahead seen.symm⟩

/-- No timer of a run is set for more than a second from now, and a pass a second after any of its
states fires each timer that was set in it, once. -/
theorem pass_fires_all (build : Build) (allocator : NodeAllocator) (env : Nat → Surroundings)
    (time later : Timeval) (events : List SenderEvent) (loop : SenderLoop)
    (ahead : Allowed (SenderLoop.step build allocator env)
      (fun loop event => loop.timers.forward event = true) (start time) events)
    (reached : execute (SenderLoop.step build allocator env) (start time) events = .done loop)
    (second : loop.now + fromSeconds 1 ≤ Timers.reading later) :
    (∀ place self, loop.senders place = some self → self.alarm.isSet = true →
      self.alarm.deadline ≤ loop.now + fromSeconds 1) ∧
    ∃ final, execute (SenderLoop.step build allocator env) loop
        [.updateNow later, .runAlarmEvent] = .done final ∧
      ∀ place, final.senders place = (loop.senders place).map fun self =>
        self.fire (env place) (Timers.reading later) := by
  obtain ⟨sound, within⟩ := run_within ahead reached
  refine ⟨within, ?_⟩
  have passed : Follows (SenderLoop.step build allocator env
      { loop with registry.server := loop.registry.server.updateNow later } .runAlarmEvent) _ :=
    runAlarmEvent_follows (updateNow_sound sound later)
  obtain ⟨final, ended, seen⟩ := Outcome.map_eq_done.mp passed.seen
  refine ⟨final, execute_cons.mpr ⟨_, rfl, execute_cons.mpr ⟨final, ended, rfl⟩⟩, fun place => ?_⟩
  rw [show final.senders = _ from congrArg Timers.senders seen]
  change Option.map _ (loop.senders place) = _
  cases stored : loop.senders place with
  | none => rfl
  | some self =>
      refine congrArg some (Timers.lapse_eq_fire fun set => ?_)
      exact (within place self stored set).trans second

def twoSenders : List SenderEvent :=
  [.construct 1 ⟨⟨.ofInAddr ⟨10, 0, 0, 1⟩, 5000⟩, ⟨.ofInAddr ⟨10, 0, 0, 2⟩, 80⟩⟩
      ⟨⟨0, 0, 0⟩, ⟨0, 0, false⟩⟩,
    .call 1 (.sendSYN 7),
    .updateNow ⟨0, 900000, by decide⟩,
    .construct 2 ⟨⟨.ofInAddr ⟨10, 0, 0, 1⟩, 5001⟩, ⟨.ofInAddr ⟨10, 0, 0, 2⟩, 80⟩⟩
      ⟨⟨0, 0, 0⟩, ⟨0, 0, false⟩⟩,
    .call 2 (.sendSYN 9)]

def openNetwork (_ : Nat) : Surroundings := ⟨fun _ => true, fun _ => []⟩

theorem twoSenders_fire : ∃ loop final,
    execute (SenderLoop.step .debug default openNetwork) (start ⟨0, 0, by decide⟩) twoSenders =
      .done loop ∧
    execute (SenderLoop.step .debug default openNetwork) loop
      [.updateNow ⟨2, 0, by decide⟩, .runAlarmEvent] = .done final ∧
    final.senders 1 = (loop.senders 1).map (fun self => self.fire (openNetwork 1) 2000000) ∧
    final.senders 2 = (loop.senders 2).map (fun self => self.fire (openNetwork 2) 2000000) := by
  obtain ⟨_, final, ended, fired⟩ := pass_fires_all .debug default openNetwork ⟨0, 0, by decide⟩
    ⟨2, 0, by decide⟩ twoSenders _ (by decide) rfl (by decide)
  exact ⟨_, final, rfl, ended, fired 1, fired 2⟩

end SenderLoop

end LabNetstack
