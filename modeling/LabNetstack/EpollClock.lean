import LabNetstack.EpollServer

/-! When alarms fire by the clock of the machine. `updateNow` adds the milliseconds of the
reading to its seconds in microseconds, so `now()` falls behind the reading by almost all of the
started second. -/

namespace LabNetstack

open Registry

/-- What `now()` returns once `updateNow` has read the time. -/
def Timeval.clock (time : Timeval) : Int := (EpollServer.create time).now

/-- How far `now()` is behind the reading. -/
def Timeval.behind (time : Timeval) : Int := time.usec - time.usec / 1000

theorem Timeval.clock_eq (time : Timeval) : time.clock = time.microseconds - time.behind := by
  have positive : 0 ≤ time.usec := time.valid.2.1
  have quotient : time.usec.tdiv 1000 = time.usec / 1000 := Int.tdiv_eq_ediv_of_nonneg positive
  have clock : time.clock = time.usec.tdiv 1000 + time.sec * 1000 * 1000 := rfl
  rw [clock, quotient, microseconds, behind]
  ring

theorem Timeval.clock_nonneg (time : Timeval) : 0 ≤ time.clock := by
  have positive := time.valid
  rw [time.clock_eq, microseconds, behind]
  omega

theorem Timeval.clock_mono {first second : Timeval}
    (ordered : first.microseconds ≤ second.microseconds) : first.clock ≤ second.clock := by
  have early := first.valid
  have late := second.valid
  rw [first.clock_eq, second.clock_eq]
  simp only [microseconds, behind] at ordered ⊢
  omega

namespace Registry

variable {build : Build} {registry next : Registry}

/-- The alarm is left alone until it fires, during one pass. -/
def undisturbed (build : Build) (alarm : EpollAlarm) (registry : Registry) (event : AlarmEvent) :
    Prop :=
  registry.passes build event = true ∧
    match event with
    | .call call => call.place = alarm.place → alarm.arming ∈ registry.server.log.fired
    | .updateNow _ | .runAlarmEvent => False
    | .advance | .returned => True

theorem Consistent.not_fired (consistent : registry.Consistent) {alarm : EpollAlarm}
    (member : alarm ∈ registry.alarms) (set : alarm.isSet = true) :
    alarm.arming ∉ registry.server.log.fired := fun fired =>
  consistent.not_ended member set (List.mem_append_right _ fired)

/-- Where the alarm stands during the pass. -/
structure Passing (alarm : EpollAlarm) (now : TimeBase) (registry : Registry) : Prop where
  consistent : registry.Consistent
  clock : registry.server.now = now
  turn : (alarm.arming ∈ registry.server.log.fired ∧ alarm.deadline ≤ now) ∨
    (alarm ∈ registry.alarms ∧ (registry.phase = .idle → now < alarm.deadline))

theorem Passing.kept {alarm : EpollAlarm} {now : TimeBase} {event : AlarmEvent}
    (passing : Passing alarm now registry) (set : alarm.isSet = true)
    (allowed : undisturbed build alarm registry event)
    (taken : registry.step build event = .done next) : Passing alarm now next := by
  obtain ⟨passed, quiet⟩ := allowed
  have effect := step_effect passing.consistent passed taken
  refine ⟨effect.consistent passing.consistent, ?_, ?_⟩
  · rw [← passing.clock]
    cases effect with
    | called touched => exact (touches_framed touched).now
    | ticked => exact quiet.elim
    | _ => rfl
  cases effect with
  | nothing => exact passing.turn
  | called touched =>
      have framed := touches_framed touched
      have fired : next.server.log.fired = registry.server.log.fired :=
        congrArg (List.map Invocation.arming) framed.invocations
      rw [fired, framed.phase]
      rcases passing.turn with ended | ⟨member, later⟩
      · exact Or.inl ended
      · have apart : alarm.place ≠ _ := fun same =>
          passing.consistent.not_fired member set (quiet same.symm)
        exact Or.inr ⟨framed.others alarm member apart, later⟩
  | ticked => exact quiet.elim
  | entered => exact quiet.elim
  | left looping finished =>
      rcases passing.turn with ended | ⟨member, _⟩
      · exact Or.inl ended
      · -- the entry of the alarm is still in the map, and the loop has ended before it
        obtain ⟨entry, waiting, claimed⟩ := passing.consistent.entry_of_set member set
        have key : entry.key = alarm.deadline := congrArg (·.2.1) claimed
        refine Or.inr ⟨member, fun _ => ?_⟩
        rw [← key, ← passing.clock]
        exact finished entry (mem_pending waiting)
  | @fired _ other entry looping first due present _ claimed =>
      rcases passing.turn with ⟨fired, late⟩ | ⟨member, _⟩
      · exact Or.inl ⟨List.mem_cons_of_mem _ fired, late⟩
      · by_cases same : alarm.place = other.place
        · have own : alarm = other :=
            List.inj_on_of_nodup_map passing.consistent.places member present same
          have key : entry.key = other.deadline := congrArg (·.2.1) claimed
          rw [own, ← key, ← passing.clock]
          exact Or.inl ⟨List.mem_cons_self, due⟩
        · exact Or.inr ⟨mem_replaceAt.mpr (Or.inl ⟨member, same⟩), nofun⟩
  | returned firing =>
      rcases passing.turn with ended | ⟨member, _⟩
      · exact Or.inl ended
      · exact Or.inr ⟨member, nofun⟩

theorem step_updateNow (idle : registry.phase = .idle) (time : Timeval) :
    registry.step build (.updateNow time) =
      .done { registry with server := registry.server.updateNow time } := by
  cases registry
  cases idle
  rfl

theorem step_runAlarmEvent (idle : registry.phase = .idle) :
    registry.step build .runAlarmEvent = .done { registry with phase := .looping } := by
  cases registry
  cases idle
  rfl

/-- One pass fires the alarm exactly when it is due. -/
theorem pass_fires_iff {alarm : EpollAlarm} {pass : List AlarmEvent} {final : Registry}
    (consistent : registry.Consistent) (member : alarm ∈ registry.alarms)
    (set : alarm.isSet = true)
    (allowed : Allowed (step build) (undisturbed build alarm) { registry with phase := .looping } pass)
    (idle : registry.phase = .idle)
    (ran : execute (step build) { registry with phase := .looping } pass = .done final)
    (ended : final.phase = .idle) :
    alarm.arming ∈ final.server.log.fired ↔ alarm.deadline ≤ registry.server.now := by
  have start : Passing alarm registry.server.now { registry with phase := .looping } :=
    { consistent := phase_consistent consistent idle nofun nofun
      clock := rfl
      turn := Or.inr ⟨member, nofun⟩ }
  have passing : Passing alarm registry.server.now final :=
    execute_invariant (fun _ _ _ passing permitted taken => passing.kept set permitted taken)
      start allowed ran
  rcases passing.turn with ⟨fired, late⟩ | ⟨kept, later⟩
  · exact iff_of_true fired late
  · exact iff_of_false (passing.consistent.not_fired kept set) (not_le.mpr (later ended))

end Registry

/-- A pass over an alarm that was armed at `now()` after the first reading for a delay later,
and that is left alone until it fires. The clock reads the second time right before. -/
structure Trial (build : Build) (first second : Timeval) (delay : Int) where
  time : Timeval
  earlier : List AlarmEvent
  waiting : Registry
  alarm : EpollAlarm
  pass : List AlarmEvent
  final : Registry
  passed : Allowed (step build) (fun registry event => registry.passes build event = true)
    (start time) earlier
  reached : execute (step build) (start time) earlier = .done waiting
  idle : waiting.phase = .idle
  member : alarm ∈ waiting.alarms
  set : alarm.isSet = true
  armed : alarm.deadline = first.clock + delay
  allowed : Allowed (step build) (undisturbed build alarm)
    { waiting with server := waiting.server.updateNow second, phase := .looping } pass
  ran : execute (step build) waiting (.updateNow second :: .runAlarmEvent :: pass) = .done final
  ended : final.phase = .idle

namespace Trial

variable {build : Build} {first second : Timeval} {delay : Int}

def Fires (trial : Trial build first second delay) : Prop :=
  trial.alarm.arming ∈ trial.final.server.log.fired

/-- The alarm fires if its delay has passed by a millisecond, and does not if a millisecond is
missing. -/
def OnTime (trial : Trial build first second delay) : Prop :=
  (delay + 1000 ≤ second.microseconds - first.microseconds → trial.Fires) ∧
    (second.microseconds - first.microseconds ≤ delay - 1000 → ¬trial.Fires)

theorem fires_iff (trial : Trial build first second delay) :
    trial.Fires ↔ first.clock + delay ≤ second.clock := by
  have consistent := run_consistent trial.passed trial.reached
  have ran := trial.ran
  rw [execute, step_updateNow trial.idle, Outcome.done_bind, execute,
    step_runAlarmEvent (by exact trial.idle), Outcome.done_bind] at ran
  have ticked : ({ trial.waiting with
      server := trial.waiting.server.updateNow second } : Registry).Consistent := { consistent with }
  have turn := pass_fires_iff ticked trial.member trial.set trial.allowed trial.idle ran trial.ended
  rw [trial.armed] at turn
  exact turn

/-- The registry of one alarm, when the alarm waits. -/
def alone (now deadline : TimeBase) (phase : AlarmPhase) : Registry :=
  ⟨⟨[⟨deadline, 0, 0⟩], now, ⟨1, [], []⟩⟩, [⟨⟨deadline⟩, 0, some 0, 0⟩], phase⟩

theorem alone_reached (build : Build) (time : Timeval) {deadline : TimeBase} (initialized : deadline ≠ 0) :
    execute (step build) (start time) [.call (.create 0), .call (.set 0 deadline 0)] =
      .done (alone time.clock deadline .idle) := by
  have created : Registry.Consistent ⟨.create time, [.create 0], .idle⟩ :=
    create_consistent (start_consistent time) List.not_mem_nil
  refine execute_cons.mpr ⟨_, rfl, execute_cons.mpr ⟨_, ?_, rfl⟩⟩
  exact set_done build created (List.mem_singleton.mpr rfl) rfl initialized 0

theorem alone_passes (build : Build) (time : Timeval) {deadline : TimeBase} (initialized : deadline ≠ 0) :
    Allowed (step build) (fun registry event => registry.passes build event = true)
      (start time) [.call (.create 0), .call (.set 0 deadline 0)] := by
  have checks : (deadline != 0) = true := bne_iff_ne.mpr initialized
  intro next taken
  cases taken
  refine ⟨by cases build <;> rfl, fun last _ => ⟨?_, trivial⟩⟩
  cases build
  · rfl
  · exact checks

/-- A pass over it. -/
theorem alone_passed (build : Build) (now : TimeBase) {deadline : TimeBase}
    (initialized : deadline ≠ 0) : ∃ pass final,
      Allowed (step build) (undisturbed build ⟨⟨deadline⟩, 0, some 0, 0⟩)
        (alone now deadline .looping) pass ∧
      execute (step build) (alone now deadline .looping) pass = .done final ∧
      final.phase = .idle := by
  have passes (registry : Registry) : undisturbed build ⟨⟨deadline⟩, 0, some 0, 0⟩ registry .advance ∧
      undisturbed build ⟨⟨deadline⟩, 0, some 0, 0⟩ registry .returned := by
    cases build <;> exact ⟨⟨rfl, trivial⟩, ⟨rfl, trivial⟩⟩
  by_cases early : now < deadline
  · refine ⟨[.advance], alone now deadline .idle, ?_, ?_, rfl⟩
    · exact fun _ _ => ⟨(passes _).1, trivial⟩
    · exact execute_cons.mpr ⟨_, if_pos early, rfl⟩
  · have fires : (alone now deadline .looping).step build .advance = .done
        ((alone now deadline .looping).fire ⟨⟨deadline⟩, 0, some 0, 0⟩ ⟨deadline, 0, 0⟩) := by
      refine (if_neg early).trans (if_neg ?_)
      simpa [Alarm.isSet] using initialized
    refine ⟨[.advance, .returned, .advance],
      ⟨⟨[], now, ⟨1, [], [⟨0, deadline, now⟩]⟩⟩, [⟨⟨0⟩, 0, some 0, 0⟩], .idle⟩, ?_, ?_, rfl⟩
    · exact fun _ _ => ⟨(passes _).1, fun _ _ => ⟨(passes _).2, fun _ _ => ⟨(passes _).1, trivial⟩⟩⟩
    · exact execute_cons.mpr ⟨_, fires, rfl⟩

/-- Any delay can be tried, on an alarm that is alone. -/
theorem nonempty (build : Build) (first second : Timeval) (delay : Int)
    (initialized : first.clock + delay ≠ 0) : Nonempty (Trial build first second delay) := by
  obtain ⟨pass, final, allowed, ran, ended⟩ :=
    alone_passed build second.clock initialized
  exact ⟨
    { time := first
      earlier := [.call (.create 0), .call (.set 0 (first.clock + delay) 0)]
      waiting := alone first.clock (first.clock + delay) .idle
      alarm := ⟨⟨first.clock + delay⟩, 0, some 0, 0⟩
      pass := pass
      final := final
      passed := alone_passes build first initialized
      reached := alone_reached build first initialized
      idle := rfl
      member := List.mem_singleton.mpr rfl
      set := bne_iff_ne.mpr initialized
      armed := rfl
      allowed := allowed
      ran := ran
      ended := ended }⟩

end Trial

open Timeval in
/-- The clock is faithful between two readings exactly when it is behind both by the same time,
up to a millisecond. -/
theorem alarms_onTime_iff (build : Build) (first second : Timeval)
    (ordered : first.microseconds ≤ second.microseconds) :
    (∀ delay, 0 ≤ delay → ∀ trial : Trial build first second delay, trial.OnTime) ↔
      -1000 < second.behind - first.behind ∧ second.behind - first.behind ≤ 1000 := by
  have started := first.clock_nonneg
  have forward := clock_mono ordered
  have early := first.clock_eq
  have late := second.clock_eq
  constructor
  · intro faithful
    constructor
    · by_contra slow
      obtain ⟨trial⟩ := Trial.nonempty build first second
        (second.microseconds - first.microseconds + 1000) (by omega)
      refine (faithful _ (by omega) trial).2 (by omega) (trial.fires_iff.mpr (by omega))
    · by_contra fast
      obtain ⟨trial⟩ := Trial.nonempty build first second
        (second.microseconds - first.microseconds - 1000) (by omega)
      have fires := trial.fires_iff.mp ((faithful _ (by omega) trial).1 (by omega))
      omega
  · rintro ⟨slow, fast⟩ delay positive trial
    constructor
    · intro passed
      exact trial.fires_iff.mpr (by omega)
    · intro missing fires
      have due := trial.fires_iff.mp fires
      omega

theorem wholeSecond_onTime :
    (⟨1, 0, by decide⟩ : Timeval).microseconds ≤ (⟨2, 0, by decide⟩ : Timeval).microseconds ∧
      ∀ delay, 0 ≤ delay → ∀ trial : Trial .debug ⟨1, 0, by decide⟩ ⟨2, 0, by decide⟩ delay,
        trial.OnTime :=
  ⟨by decide, (alarms_onTime_iff .debug _ _ (by decide)).mpr (by decide)⟩

-- armed for half a second, and still waiting six tenths of a second later
theorem halfSecond_late :
    ∃ trial : Trial .debug ⟨1, 0, by decide⟩ ⟨1, 600000, by decide⟩ 500000, ¬trial.OnTime := by
  obtain ⟨trial⟩ := Trial.nonempty .debug ⟨1, 0, by decide⟩ ⟨1, 600000, by decide⟩ 500000 (by decide)
  refine ⟨trial, fun onTime => ?_⟩
  have due := trial.fires_iff.mp (onTime.1 (by decide))
  exact absurd due (by decide)

end LabNetstack
