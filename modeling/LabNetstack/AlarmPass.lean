import LabNetstack.EpollServer

/-! A whole call of `runAlarmEvent`. The delegates it calls may call any alarm, so that the map
changes under the loop. While they arm alarms only for later, each round leaves fewer that are
due. -/

namespace LabNetstack

open Relation (ReflTransGen)

namespace Registry

variable {build : Build} {registry next : Registry}

def perform (build : Build) (registry : Registry) (call : AlarmCall) : Outcome Registry :=
  registry.step build (.call call)

-- `delegate` gives the calls that the delegate makes which is called from this state
def rounds (build : Build) (delegate : Registry → List AlarmCall) : Nat → Registry → Outcome Registry
  | 0, registry => .done registry
  | fuel + 1, registry => do
      let registry ← registry.advance
      match registry.phase with
      | .firing entry =>
          let registry ← execute (perform build) registry (delegate registry)
          let registry ← registry.returned entry
          rounds build delegate fuel registry
      | .looping => rounds build delegate fuel registry
      | .idle => pure registry

def runAlarmEvent (build : Build) (delegate : Registry → List AlarmCall) (fuel : Nat)
    (registry : Registry) : Outcome Registry :=
  rounds build delegate fuel { registry with phase := .looping }

/-- The deadline for which a call arms its alarm, if it does. -/
def arms (registry : Registry) : AlarmCall → Option TimeBase
  | .set _ deadline _ => some deadline
  | .update place deadline granularity _ =>
      match entryAt EpollAlarm.place place registry.alarms with
      | none => none
      | some alarm =>
          if deadline = 0 ∨ (deadline - alarm.deadline).natAbs < granularity then none
          else some deadline
  | _ => none

/-- If the call is made the checks of `set` hold, and an alarm is armed only for later. -/
def Later (build : Build) (registry : Registry) (call : AlarmCall) : Prop :=
  registry.offers call = true → registry.passes build (.call call) = true ∧
    ∀ deadline ∈ registry.arms call, registry.server.now < deadline

def dueAlarms (registry : Registry) : List EpollAlarm :=
  registry.alarms.filter fun alarm => alarm.isSet && decide (alarm.deadline ≤ registry.server.now)

theorem mem_dueAlarms {alarm : EpollAlarm} : alarm ∈ registry.dueAlarms ↔
    alarm ∈ registry.alarms ∧ alarm.isSet = true ∧ alarm.deadline ≤ registry.server.now := by
  rw [dueAlarms, List.mem_filter, Bool.and_eq_true, decide_eq_true_eq]

/-! One call of a delegate. -/

/-- A call on an alarm leaves the others, and what it returns of its own. -/
theorem on_member {place : Nat}
    {method : EpollAlarm → EpollServer → Outcome (EpollAlarm × EpollServer)}
    (called : registry.on place method = .done next) {alarm : EpollAlarm}
    (member : alarm ∈ next.alarms) :
    alarm ∈ registry.alarms ∨ ∃ before server,
      entryAt EpollAlarm.place place registry.alarms = some before ∧
      method before registry.server = .done (alarm, server) := by
  unfold on at called
  split at called
  · cases called
  · rename_i before found
    obtain ⟨⟨after, server⟩, done, same⟩ := Outcome.bind_eq_done.mp called
    cases same
    rcases mem_replaceAt.mp member with ⟨old, _⟩ | ⟨_, _, _, rfl⟩
    · exact Or.inl old
    · exact Or.inr ⟨before, server, found, done⟩

theorem cancel_unset {alarm after : EpollAlarm} {server next : EpollServer}
    (cancelled : alarm.cancel server = .done (after, next)) : after.isSet = false := by
  unfold EpollAlarm.cancel at cancelled
  split at cancelled
  · rename_i off
    cases cancelled
    exact Bool.eq_false_of_not_eq_true (by simpa using off)
  · obtain ⟨_, _, same⟩ := Outcome.bind_eq_done.mp cancelled
    cases same
    rfl

theorem on_cancel_set {place : Nat} (called : registry.on place EpollAlarm.cancel = .done next)
    {alarm : EpollAlarm} (member : alarm ∈ next.alarms) (set : alarm.isSet = true) :
    alarm ∈ registry.alarms := by
  rcases on_member called member with old | ⟨before, server, _, done⟩
  · exact old
  · rw [cancel_unset done] at set
    cases set

/-- A call leaves an alarm set as it was, or armed for the deadline it names. -/
theorem call_sets {call : AlarmCall} (called : registry.call build call = .done next)
    {alarm : EpollAlarm} (member : alarm ∈ next.alarms) (set : alarm.isSet = true) :
    alarm ∈ registry.alarms ∨ alarm.deadline ∈ registry.arms call := by
  cases call with
  | create place =>
      cases called
      rcases List.mem_cons.mp member with rfl | old
      · exact absurd set Bool.false_ne_true
      · exact Or.inl old
  | set place deadline node =>
      rw [call] at called
      refine (on_member called member).imp_right ?_
      rintro ⟨before, server, _, done⟩
      obtain ⟨_, _, later⟩ := Outcome.bind_eq_done.mp done
      obtain ⟨_, _, same⟩ := Outcome.bind_eq_done.mp later
      cases same
      rfl
  | update place deadline granularity node =>
      rw [call] at called
      rcases on_member called member with old | ⟨before, server, found, done⟩
      · exact Or.inl old
      by_cases zero : deadline = 0
      · rw [EpollAlarm.update, if_pos (beq_iff_eq.mpr zero)] at done
        rw [cancel_unset done] at set
        cases set
      by_cases near : ((deadline - before.deadline).natAbs : Int) < granularity
      · rw [EpollAlarm.update, if_neg (by simpa using zero), if_pos near] at done
        cases done
        exact Or.inl (entryAt_some found).1
      · have armed := (update_deadline zero done).2
        rw [if_neg near] at armed
        refine Or.inr ?_
        rw [arms, found, armed]
        exact if_neg (not_or.mpr ⟨zero, near⟩)
  | cancel place => exact Or.inl (on_cancel_set called member set)
  | destroy place =>
      obtain ⟨after, cancelled, same⟩ := Outcome.bind_eq_done.mp called
      cases same
      exact Or.inl (on_cancel_set cancelled (mem_dropAt.mp member).1 set)

theorem perform_cases (build : Build) (registry : Registry) (call : AlarmCall) :
    registry.perform build call = .done registry ∨
      registry.offers call = true ∧ registry.perform build call = registry.call build call := by
  have offered : (if registry.offers call then registry.call build call else .done registry) =
      .done registry ∨ registry.offers call = true ∧
        (if registry.offers call then registry.call build call else .done registry) =
          registry.call build call := by
    by_cases offers : registry.offers call = true
    · exact Or.inr ⟨offers, if_pos offers⟩
    · exact Or.inl (if_neg offers)
  unfold perform step
  cases registry.phase with
  | looping => exact Or.inl rfl
  | idle => exact offered
  | firing entry => exact offered

/-- An alarm that is set stays so, or its arming is logged as cancelled. -/
structure Spares (registry next : Registry) : Prop where
  cancelled : registry.server.log.cancelled <:+ next.server.log.cancelled
  kept : ∀ alarm ∈ registry.alarms, alarm.isSet = true →
    alarm ∈ next.alarms ∨ alarm.arming ∈ next.server.log.cancelled

theorem Touch.spares {place : Nat} (touched : Touch place registry next)
    (consistent : registry.Consistent) : Spares registry next := by
  have only {alarm other : EpollAlarm} (member : alarm ∈ registry.alarms)
      (present : other ∈ registry.alarms) (here : alarm.place = place) (there : other.place = place) :
      alarm = other :=
    List.inj_on_of_nodup_map consistent.places member present (here.trans there.symm)
  have others := touched.framed.others
  cases touched with
  | create free =>
      refine ⟨List.suffix_refl _, fun alarm member _ => Or.inl (others alarm member ?_)⟩
      rintro rfl
      exact free (List.mem_map_of_mem member)
  | remove member here off =>
      refine ⟨List.suffix_refl _, fun alarm present set => Or.inl (others alarm present ?_)⟩
      intro there
      rw [only present member there here, off] at set
      cases set
  | arm member here off _ _ =>
      refine ⟨List.suffix_refl _, fun alarm present set => Or.inl (others alarm present ?_)⟩
      intro there
      rw [only present member there here, off] at set
      cases set
  | disarm member here _ _ _ =>
      refine ⟨List.suffix_cons _ _, fun alarm present _ => ?_⟩
      by_cases there : alarm.place = place
      · rw [only present member there here]
        exact Or.inr List.mem_cons_self
      · exact Or.inl (others alarm present there)

theorem touches_spares {place : Nat} (touched : ReflTransGen (Touch place) registry next)
    (consistent : registry.Consistent) : Spares registry next := by
  induction touched with
  | refl => exact ⟨List.suffix_refl _, fun _ member _ => Or.inl member⟩
  | tail earlier last ih =>
      have spared := last.spares (touches_consistent earlier consistent)
      refine ⟨ih.cancelled.trans spared.cancelled, fun alarm member set => ?_⟩
      rcases ih.kept alarm member set with still | gone
      · exact spared.kept alarm still set
      · exact Or.inr (spared.cancelled.subset gone)

/-! What a delegate leaves of the alarms that are due. -/

structure Settles (registry next : Registry) : Prop where
  consistent : next.Consistent
  phase : next.phase = registry.phase
  now : next.server.now = registry.server.now
  invocations : next.server.log.invocations = registry.server.log.invocations
  cancelled : registry.server.log.cancelled <:+ next.server.log.cancelled
  due : next.dueAlarms ⊆ registry.dueAlarms
  settled : ∀ alarm ∈ registry.dueAlarms,
    alarm ∈ next.dueAlarms ∨ alarm.arming ∈ next.server.log.cancelled

theorem settles_refl (consistent : registry.Consistent) : Settles registry registry :=
  ⟨consistent, rfl, rfl, rfl, List.suffix_refl _, List.Subset.refl _, fun _ => Or.inl⟩

theorem Settles.trans {last : Registry} (first : Settles registry next)
    (second : Settles next last) : Settles registry last :=
  { consistent := second.consistent
    phase := second.phase.trans first.phase
    now := second.now.trans first.now
    invocations := second.invocations.trans first.invocations
    cancelled := first.cancelled.trans second.cancelled
    due := fun _ due => first.due (second.due due)
    settled := fun alarm due => by
      rcases first.settled alarm due with still | gone
      · exact second.settled alarm still
      · exact Or.inr (second.cancelled.subset gone) }

theorem call_settles (consistent : registry.Consistent) {call : AlarmCall}
    (later : registry.Later build call) (taken : registry.perform build call = .done next) :
    Settles registry next := by
  rcases perform_cases build registry call with same | ⟨offered, called⟩
  · cases same.symm.trans taken
    exact settles_refl consistent
  rw [called] at taken
  obtain ⟨passed, onlyLater⟩ := later offered
  have touched := call_touches consistent offered passed taken
  have framed := touches_framed touched
  have spared := touches_spares touched consistent
  refine
    { consistent := touches_consistent touched consistent
      phase := framed.phase
      now := framed.now
      invocations := framed.invocations
      cancelled := spared.cancelled
      due := ?_
      settled := ?_ }
  · intro alarm due
    obtain ⟨member, set, early⟩ := mem_dueAlarms.mp due
    rw [framed.now] at early
    rcases call_sets taken member set with old | armed
    · exact mem_dueAlarms.mpr ⟨old, set, early⟩
    · exact absurd (onlyLater _ armed) (not_lt.mpr early)
  · intro alarm due
    obtain ⟨member, set, early⟩ := mem_dueAlarms.mp due
    refine (spared.kept alarm member set).imp_left fun still => ?_
    exact mem_dueAlarms.mpr ⟨still, set, framed.now.symm ▸ early⟩

theorem calls_settle (consistent : registry.Consistent) {calls : List AlarmCall}
    (later : Allowed (perform build) (Later build) registry calls)
    (reached : execute (perform build) registry calls = .done next) : Settles registry next :=
  execute_invariant
    (fun _ _ _ settled allowed taken => settled.trans (call_settles settled.consistent allowed taken))
    (settles_refl consistent) later reached

/-- One of the calls is a `set` of which a check fails where it is made. -/
def SetFails (registry : Registry) (calls : List AlarmCall) : Prop :=
  ∃ before call after middle, calls = before ++ call :: after ∧
    execute (perform .debug) registry before = .done middle ∧
    middle.offers call = true ∧ middle.passes .release (.call call) = false

theorem calls_complete (consistent : registry.Consistent) {calls : List AlarmCall}
    (later : Allowed (perform build) (Later build) registry calls) :
    (∃ next, execute (perform build) registry calls = .done next) ∨
      build = .debug ∧ registry.SetFails calls ∧
        execute (perform build) registry calls = .aborted := by
  induction calls generalizing registry with
  | nil => exact Or.inl ⟨registry, rfl⟩
  | cons call calls ih =>
      have continues {next : Registry} (taken : registry.perform build call = .done next) :
          (∃ last, execute (perform build) registry (call :: calls) = .done last) ∨
            build = .debug ∧ registry.SetFails (call :: calls) ∧
              execute (perform build) registry (call :: calls) = .aborted := by
        obtain ⟨allowed, rest⟩ := later next taken
        rw [execute, taken]
        rcases ih (call_settles consistent allowed taken).consistent rest with
          done | ⟨rfl, ⟨before, fails, after, middle, rfl, reached, failed⟩, stopped⟩
        · exact Or.inl done
        · exact Or.inr ⟨rfl, ⟨call :: before, fails, after, middle, rfl,
            execute_cons.mpr ⟨next, taken, reached⟩, failed⟩, stopped⟩
      rcases perform_cases build registry call with same | ⟨offered, called⟩
      · exact continues same
      · rcases call_completes build consistent offered with ⟨next, taken⟩ | ⟨rfl, fails, stopped⟩
        · exact continues (called.trans taken)
        · rw [execute, called, stopped]
          exact Or.inr ⟨rfl, ⟨[], call, calls, registry, rfl, rfl, offered, fails⟩, rfl⟩

/-! The rounds. -/

/-- Wherever they are called, the delegates arm alarms only for later. -/
def ArmsLater (build : Build) (delegate : Registry → List AlarmCall) : Prop :=
  ∀ registry entry, registry.Consistent → registry.phase = .firing entry →
    Allowed (perform build) (Later build) registry (delegate registry)

theorem fire_due (consistent : registry.Consistent) {alarm other : EpollAlarm} {entry : AlarmEntry}
    (member : alarm ∈ registry.alarms) :
    other ∈ (registry.fire alarm entry).dueAlarms ↔ other ∈ registry.dueAlarms ∧ other ≠ alarm := by
  rw [mem_dueAlarms, mem_dueAlarms]
  constructor
  · rintro ⟨present, set, early⟩
    rcases mem_replaceAt.mp present with ⟨old, apart⟩ | ⟨_, _, _, rfl⟩
    · refine ⟨⟨old, set, early⟩, ?_⟩
      rintro rfl
      exact apart rfl
    · cases set
  · rintro ⟨⟨present, set, early⟩, apart⟩
    refine ⟨mem_replaceAt.mpr (Or.inl ⟨present, fun same => apart ?_⟩), set, early⟩
    exact List.inj_on_of_nodup_map consistent.places present member same

/-- One round, in which the delegate of `alarm` is called. -/
structure Round (alarm : EpollAlarm) (registry next : Registry) : Prop where
  consistent : next.Consistent
  looping : next.phase = .looping
  now : next.server.now = registry.server.now
  invoked : next.server.log.invocations =
    ⟨alarm.arming, alarm.deadline, registry.server.now⟩ :: registry.server.log.invocations
  cancelled : registry.server.log.cancelled <:+ next.server.log.cancelled
  due : ∀ other ∈ next.dueAlarms, other ∈ registry.dueAlarms ∧ other ≠ alarm
  settled : ∀ other ∈ registry.dueAlarms,
    other = alarm ∨ other ∈ next.dueAlarms ∨ other.arming ∈ next.server.log.cancelled

theorem round_of_settles (consistent : registry.Consistent) {alarm : EpollAlarm}
    {entry : AlarmEntry} (member : alarm ∈ registry.alarms)
    (settled : Settles (registry.fire alarm entry) next) :
    Round alarm registry (next.finish entry) := by
  have firing : next.phase = .firing entry := settled.phase
  refine
    { consistent := finish_consistent settled.consistent firing
      looping := rfl
      now := settled.now
      invoked := settled.invocations
      cancelled := settled.cancelled
      due := ?_
      settled := ?_ }
  · intro other due
    exact (fire_due consistent member).mp (settled.due due)
  · intro other due
    by_cases same : other = alarm
    · exact Or.inl same
    · exact Or.inr (settled.settled other ((fire_due consistent member).mpr ⟨due, same⟩))

theorem dueAlarms_nodup (consistent : registry.Consistent) : registry.dueAlarms.Nodup :=
  (List.Nodup.of_map _ consistent.places).filter _

theorem Round.shorter {alarm : EpollAlarm} (round : Round alarm registry next)
    (due : alarm ∈ registry.dueAlarms) : next.dueAlarms.length < registry.dueAlarms.length := by
  have apart : alarm ∉ next.dueAlarms := fun still => (round.due alarm still).2 rfl
  have unique : (alarm :: next.dueAlarms).Nodup :=
    List.nodup_cons.mpr ⟨apart, dueAlarms_nodup round.consistent⟩
  have inside : alarm :: next.dueAlarms ⊆ registry.dueAlarms := by
    intro other member
    rcases List.mem_cons.mp member with rfl | later
    · exact due
    · exact (round.due other later).1
  exact (List.subperm_of_subset unique inside).length_le

/-- What a pass leaves, and what it has invoked. -/
structure Passed (registry final : Registry) (invoked : List Invocation) : Prop where
  consistent : final.Consistent
  idle : final.phase = .idle
  now : final.server.now = registry.server.now
  finished : ∀ entry ∈ final.server.alarmMap, final.server.now < entry.key
  cancelled : registry.server.log.cancelled <:+ final.server.log.cancelled
  invocations : final.server.log.invocations = invoked ++ registry.server.log.invocations
  only : ∀ invocation ∈ invoked, ∃ alarm ∈ registry.dueAlarms, invocation.arming = alarm.arming
  each : ∀ alarm ∈ registry.dueAlarms,
    alarm.arming ∈ invoked.map Invocation.arming ∨ alarm.arming ∈ final.server.log.cancelled

theorem passed_idle (consistent : registry.Consistent) (looping : registry.phase = .looping)
    (finished : ∀ entry ∈ registry.server.alarmMap, registry.server.now < entry.key) :
    Passed registry { registry with phase := .idle } [] :=
  { consistent := phase_consistent consistent looping nofun nofun
    idle := rfl
    now := rfl
    finished := finished
    cancelled := List.suffix_refl _
    invocations := rfl
    only := nofun
    each := fun alarm due => by
      obtain ⟨member, set, early⟩ := mem_dueAlarms.mp due
      obtain ⟨entry, waiting, claimed⟩ := consistent.entry_of_set member set
      have deadline : entry.key = alarm.deadline := congrArg (·.2.1) claimed
      exact absurd (finished entry (mem_pending waiting)) (not_lt.mpr (deadline ▸ early)) }

theorem Round.passed {alarm : EpollAlarm} {final : Registry} {invoked : List Invocation}
    (round : Round alarm registry next) (due : alarm ∈ registry.dueAlarms)
    (passed : Passed next final invoked) :
    Passed registry final
      (invoked ++ [⟨alarm.arming, alarm.deadline, registry.server.now⟩]) :=
  { consistent := passed.consistent
    idle := passed.idle
    now := passed.now.trans round.now
    finished := passed.finished
    cancelled := round.cancelled.trans passed.cancelled
    invocations := by
      rw [passed.invocations, round.invoked, List.append_assoc]
      rfl
    only := fun invocation member => by
      rcases List.mem_append.mp member with later | here
      · obtain ⟨other, still, same⟩ := passed.only invocation later
        exact ⟨other, (round.due other still).1, same⟩
      · rw [List.mem_singleton.mp here]
        exact ⟨alarm, due, rfl⟩
    each := fun other otherDue => by
      rw [List.map_append, List.mem_append]
      rcases round.settled other otherDue with rfl | still | gone
      · exact Or.inl (Or.inr List.mem_cons_self)
      · exact (passed.each other still).imp_left Or.inl
      · exact Or.inr (passed.cancelled.subset gone) }

/-- The delegate that is called after some rounds of the debug build fails a check of `set`. -/
def DelegateFails (delegate : Registry → List AlarmCall) (registry : Registry) : Prop :=
  ∃ count last fired entry, rounds .debug delegate count registry = .done last ∧
    last.advance = .done fired ∧ fired.phase = .firing entry ∧ fired.SetFails (delegate fired)

section Rounds

variable {delegate : Registry → List AlarmCall} (later : ArmsLater build delegate)

include later

theorem rounds_cases (consistent : registry.Consistent) (looping : registry.phase = .looping) :
    ((∀ fuel, rounds build delegate (fuel + 1) registry = .done { registry with phase := .idle }) ∧
      ∀ entry ∈ registry.server.alarmMap, registry.server.now < entry.key) ∨
    (build = .debug ∧ DelegateFails delegate registry ∧
      ∀ fuel, rounds build delegate (fuel + 1) registry = .aborted) ∨
    ∃ alarm ∈ registry.dueAlarms, ∃ next, Round alarm registry next ∧
      ∀ fuel, rounds build delegate (fuel + 1) registry = rounds build delegate fuel next := by
  rcases advance_cases consistent looping with
    ⟨left, finished⟩ | ⟨alarm, member, entry, first, fired, due, set, claimed⟩
  · refine Or.inl ⟨fun fuel => ?_, finished⟩
    rw [rounds, left]
    rfl
  · refine Or.inr ?_
    have firedConsistent := fire_consistent consistent looping first due member set claimed
    have allowed := later _ entry firedConsistent rfl
    have unfolded (fuel : Nat) : rounds build delegate (fuel + 1) registry =
        execute (perform build) (registry.fire alarm entry) (delegate (registry.fire alarm entry)) >>=
          fun after => after.returned entry >>= fun after => rounds build delegate fuel after := by
      rw [rounds, fired]
      rfl
    simp only [unfolded]
    rcases calls_complete firedConsistent allowed with ⟨after, reached⟩ | ⟨debug, fails, stopped⟩
    · have settled := calls_settle firedConsistent allowed reached
      have deadline : entry.key = alarm.deadline := congrArg (·.2.1) claimed
      refine Or.inr ⟨alarm, mem_dueAlarms.mpr ⟨member, set, deadline ▸ due⟩, after.finish entry,
        round_of_settles consistent member settled, fun fuel => ?_⟩
      rw [reached, Outcome.done_bind, returned_effect settled.consistent settled.phase]
      rfl
    · rw [stopped]
      exact Or.inl ⟨debug, ⟨0, registry, _, entry, rfl, fired, rfl, fails⟩, fun _ => rfl⟩

theorem rounds_pass (consistent : registry.Consistent) (looping : registry.phase = .looping)
    {fuel : Nat} (enough : registry.dueAlarms.length < fuel) :
    (build = .debug ∧ DelegateFails delegate registry ∧
        rounds build delegate fuel registry = .aborted) ∨
      ∃ final invoked, rounds build delegate fuel registry = .done final ∧
        Passed registry final invoked := by
  induction fuel generalizing registry with
  | zero => exact absurd enough (Nat.not_lt_zero _)
  | succ fuel ih =>
      rcases rounds_cases later consistent looping with
        ⟨left, finished⟩ | ⟨debug, fails, stopped⟩ | ⟨alarm, due, next, round, continued⟩
      · exact Or.inr ⟨_, [], left fuel, passed_idle consistent looping finished⟩
      · exact Or.inl ⟨debug, fails, stopped fuel⟩
      · have fewer := round.shorter due
        rw [continued]
        rcases ih round.consistent round.looping (by omega) with
          ⟨rfl, ⟨count, last, fired, entry, reached, fails⟩, stopped⟩ |
            ⟨final, invoked, reached, passed⟩
        · refine Or.inl ⟨rfl, ⟨count + 1, last, fired, entry, ?_, fails⟩, stopped⟩
          rw [continued]
          exact reached
        · exact Or.inr ⟨final, _, reached, round.passed due passed⟩

end Rounds

/-- Every arming that was due comes to one end in the pass. -/
theorem Passed.once {final : Registry} {invoked : List Invocation}
    (passed : Passed registry final invoked) (consistent : registry.Consistent) {alarm : EpollAlarm}
    (due : alarm ∈ registry.dueAlarms) :
    (invoked.map Invocation.arming).count alarm.arming = 1 ∨
      (invoked.map Invocation.arming).count alarm.arming = 0 ∧
        alarm.arming ∈ final.server.log.cancelled ∧
        alarm.arming ∉ registry.server.log.cancelled := by
  have ended := (List.nodup_append.mp passed.consistent.once).2.1
  rw [AlarmLog.fired, passed.invocations, List.map_append] at ended
  obtain ⟨_, fired, apart⟩ := List.nodup_append.mp ended
  by_cases called : alarm.arming ∈ invoked.map Invocation.arming
  · exact Or.inl (List.count_eq_one_of_mem (List.nodup_append.mp fired).1 called)
  · refine Or.inr ⟨List.count_eq_zero_of_not_mem called, (passed.each alarm due).resolve_left called, ?_⟩
    intro before
    obtain ⟨member, set, _⟩ := mem_dueAlarms.mp due
    exact consistent.not_ended member set (List.mem_append_left _ before)

/-- `runAlarmEvent` returns, or a delegate that it calls fails a check of `set` in the debug build,
once it has gone round for every alarm that is due. -/
theorem alarmPass_ends (build : Build) {delegate : Registry → List AlarmCall}
    (later : ArmsLater build delegate) (consistent : registry.Consistent)
    (idle : registry.phase = .idle) {fuel : Nat} (enough : registry.dueAlarms.length < fuel) :
    (build = .debug ∧ DelegateFails delegate { registry with phase := .looping } ∧
      registry.runAlarmEvent build delegate fuel = .aborted) ∨
    ∃ final invoked, registry.runAlarmEvent build delegate fuel = .done final ∧
      final.phase = .idle ∧ final.server.now = registry.server.now ∧
      (∀ entry ∈ final.server.alarmMap, ∃ alarm ∈ final.alarms, alarm.place = entry.alarm ∧
        alarm.deadline = entry.key ∧ final.server.now < alarm.deadline) ∧
      final.server.log.invocations = invoked ++ registry.server.log.invocations ∧
      (∀ invocation ∈ invoked, ∃ alarm ∈ registry.dueAlarms, invocation.arming = alarm.arming) ∧
      ∀ alarm ∈ registry.dueAlarms,
        (invoked.map Invocation.arming).count alarm.arming = 1 ∨
          (invoked.map Invocation.arming).count alarm.arming = 0 ∧
            alarm.arming ∈ final.server.log.cancelled ∧
            alarm.arming ∉ registry.server.log.cancelled := by
  have entered : ({ registry with phase := .looping } : Registry).Consistent :=
    phase_consistent consistent idle nofun nofun
  rcases rounds_pass later entered rfl enough with stopped | ⟨final, invoked, reached, passed⟩
  · exact Or.inl stopped
  · refine Or.inr ⟨final, invoked, reached, passed.idle, passed.now, ?_, passed.invocations,
      passed.only, fun alarm due => passed.once entered due⟩
    intro entry member
    have waiting : entry ∈ final.pending := by
      rw [pending, passed.idle]
      exact member
    obtain ⟨alarm, present, _, claimed⟩ := passed.consistent.alarm_of_entry waiting
    have deadline : alarm.deadline = entry.key := congrArg (·.2.1) claimed
    exact ⟨alarm, present, congrArg (·.1) claimed, deadline, deadline ▸ passed.finished entry member⟩

-- the first of two alarms that are due is armed again and cancels the second
def rearming (registry : Registry) : List AlarmCall :=
  [.update 1 (registry.server.now + 2000) 1000 (registry.server.alarmMap.length + 10), .cancel 2]

theorem rearming_later : ArmsLater .release rearming := by
  intro registry entry consistent firing next taken
  refine ⟨fun _ => ⟨rfl, ?_⟩, fun _ _ => ⟨fun _ => ⟨rfl, nofun⟩, trivial⟩⟩
  intro deadline armed
  rw [arms] at armed
  split at armed
  · cases armed
  · split at armed
    · cases armed
    · cases armed
      exact lt_add_of_pos_right _ (by decide)

def bothDue : Registry :=
  { server := ⟨[⟨5, 1, 10⟩, ⟨5, 2, 11⟩], 9, ⟨2, [], []⟩⟩
    alarms := [⟨⟨5⟩, 2, some 11, 1⟩, ⟨⟨5⟩, 1, some 10, 0⟩]
    phase := .idle }

theorem bothDue_consistent : bothDue.Consistent :=
  @run_consistent .release bothDue ⟨0, 0, by decide⟩ (sharedPass.take 5) (by decide) rfl

theorem bothDue_passes : ∃ final, bothDue.runAlarmEvent .release rearming 3 = .done final ∧
    final.phase = .idle ∧
    ∀ entry ∈ final.server.alarmMap, ∃ alarm ∈ final.alarms, alarm.place = entry.alarm ∧
      alarm.deadline = entry.key ∧ final.server.now < alarm.deadline := by
  rcases alarmPass_ends .release rearming_later bothDue_consistent rfl
      (by decide : bothDue.dueAlarms.length < 3) with
    ⟨debug, _⟩ | ⟨final, _, reached, idle, _, remaining, _⟩
  · cases debug
  · exact ⟨final, reached, idle, remaining⟩

end Registry

end LabNetstack
