import LabNetstack.AlarmPass

/-! The clock of the tests. `MockAlarmFactory` of src/util keeps its alarms as `EpollServer` does
and has the same `runAlarmEvent`; `elapse` moves its time on and stops at each deadline on the
way. -/

namespace LabNetstack

namespace Registry

def setNow (registry : Registry) (time : TimeBase) : Registry :=
  { registry with server := { registry.server with now := time } }

-- the step of the loop of `elapse`
def stride (registry : Registry) (delta : Int) : Int :=
  match registry.server.alarmMap with
  | [] => delta
  | first :: _ => min delta (first.key - registry.server.now)

def elapse (build : Build) (delegate : Registry → List AlarmCall) :
    Nat → Registry → Int → Outcome Registry
  | 0, registry, _ => .done registry
  | fuel + 1, registry, delta =>
      if delta > 0 then do
        let step := registry.stride delta
        let registry ←
          (registry.setNow (registry.server.now + step)).runAlarmEvent build delegate fuel
        elapse build delegate fuel registry (delta - step)
      else .done registry

/-- What `runAlarmEvent` comes to, however many rounds it needs. -/
def Passes (build : Build) (delegate : Registry → List AlarmCall) (registry : Registry)
    (outcome : Outcome Registry) : Prop :=
  ∃ enough, ∀ fuel, enough ≤ fuel → registry.runAlarmEvent build delegate fuel = outcome

/-- What `elapse` comes to, however many turns it needs. -/
def Elapses (build : Build) (delegate : Registry → List AlarmCall) (registry : Registry)
    (delta : Int) (outcome : Outcome Registry) : Prop :=
  ∃ enough, ∀ fuel, enough ≤ fuel → elapse build delegate fuel registry delta = outcome

/-- A turn of `elapse` in the debug build, the first or one after turns that ended, in which a
delegate fails a check of `set`. -/
inductive TurnFails (delegate : Registry → List AlarmCall) : Registry → Int → Prop where
  | now {registry : Registry} {delta : Int}
      (fails : DelegateFails delegate
        { registry.setNow (registry.server.now + registry.stride delta) with phase := .looping }) :
      TurnFails delegate registry delta
  | later {registry next : Registry} {delta : Int}
      (passed : Passes .debug delegate
        (registry.setNow (registry.server.now + registry.stride delta)) (.done next))
      (fails : TurnFails delegate next (delta - registry.stride delta)) :
      TurnFails delegate registry delta

variable {build : Build} {delegate : Registry → List AlarmCall} {registry next : Registry}

/-! A pass that has ended does not need more rounds. -/

def Ended : Outcome Registry → Prop
  | .done final => final.phase = .idle
  | .aborted => True
  | .outOfBounds => False

theorem rounds_more {fuel : Nat} (looping : registry.phase = .looping)
    (ended : Ended (rounds build delegate fuel registry)) :
    rounds build delegate (fuel + 1) registry = rounds build delegate fuel registry := by
  induction fuel generalizing registry with
  | zero =>
      have idle : registry.phase = .idle := ended
      rw [looping] at idle
      cases idle
  | succ fuel ih =>
      rw [rounds] at ended ⊢
      rw [rounds]
      cases first : registry.advance with
      | done after =>
          rw [first] at ended
          simp only [Outcome.done_bind] at ended ⊢
          cases phase : after.phase with
          | idle => rfl
          | looping =>
              simp only [phase] at ended ⊢
              exact ih phase ended
          | firing entry =>
              simp only [phase] at ended ⊢
              cases called : execute (perform build) after (delegate after) with
              | done last =>
                  rw [called] at ended
                  simp only [Outcome.done_bind, Registry.returned] at ended ⊢
                  cases erased : last.server.erase entry.node with
                  | done server =>
                      rw [erased] at ended
                      simp only [Outcome.done_bind, Outcome.pure_eq] at ended ⊢
                      exact ih rfl ended
                  | aborted => rfl
                  | outOfBounds => rfl
              | aborted => rfl
              | outOfBounds => rfl
      | aborted => rfl
      | outOfBounds => rfl

theorem rounds_enough {fuel more : Nat} (looping : registry.phase = .looping)
    (ended : Ended (rounds build delegate fuel registry)) (enough : fuel ≤ more) :
    rounds build delegate more registry = rounds build delegate fuel registry := by
  induction enough with
  | refl => rfl
  | step _ ih =>
      rw [rounds_more looping (by rw [ih]; exact ended), ih]

theorem passes_of_rounds {fuel : Nat} {outcome : Outcome Registry}
    (reached : rounds build delegate fuel { registry with phase := .looping } = outcome)
    (ended : Ended outcome) : Passes build delegate registry outcome := by
  refine ⟨fuel, fun more enough => ?_⟩
  rw [← reached] at ended ⊢
  exact rounds_enough rfl ended enough

section Clock

variable (later : ArmsLater build delegate)

include later

theorem rounds_invocations {final : Registry} {fuel : Nat} (consistent : registry.Consistent)
    (looping : registry.phase = .looping)
    (reached : rounds build delegate fuel registry = .done final) :
    ∃ invoked, final.server.log.invocations = invoked ++ registry.server.log.invocations ∧
      ∀ invocation ∈ invoked, invocation.time = registry.server.now ∧
        ∃ alarm ∈ registry.dueAlarms, invocation.deadline = alarm.deadline := by
  induction fuel generalizing registry with
  | zero =>
      cases reached
      exact ⟨[], rfl, by simp⟩
  | succ fuel ih =>
      rcases rounds_cases later consistent looping with
        ⟨left, _⟩ | ⟨_, _, stopped⟩ | ⟨alarm, due, next, round, continued⟩
      · rw [left] at reached
        cases reached
        exact ⟨[], rfl, by simp⟩
      · rw [stopped] at reached
        cases reached
      · rw [continued] at reached
        obtain ⟨invoked, grown, exact_⟩ := ih round.consistent round.looping reached
        refine ⟨invoked ++ [⟨alarm.arming, alarm.deadline, registry.server.now⟩], ?_, ?_⟩
        · rw [grown, round.invoked, List.append_assoc, List.singleton_append]
        · intro invocation member
          rcases List.mem_append.mp member with after | here
          · obtain ⟨time, other, otherDue, deadline⟩ := exact_ invocation after
            exact ⟨time.trans round.now, other, (round.due other otherDue).1, deadline⟩
          · rw [List.mem_singleton.mp here]
            exact ⟨rfl, alarm, due, rfl⟩

/-- One turn of the loop of `elapse`: nothing is left for the time it moves to or before, and what
it called had that time as its deadline. -/
structure Tick (registry next : Registry) (time : TimeBase) (invoked : List Invocation) : Prop where
  consistent : next.Consistent
  idle : next.phase = .idle
  now : next.server.now = time
  ahead : ∀ entry ∈ next.server.alarmMap, time < entry.key
  invocations : next.server.log.invocations = invoked ++ registry.server.log.invocations
  punctual : ∀ invocation ∈ invoked, invocation.time = time ∧ invocation.deadline = time

omit later in
theorem stride_first (consistent : registry.Consistent) (delta : Int) :
    ∀ entry ∈ registry.server.alarmMap,
      registry.server.now + registry.stride delta ≤ entry.key := by
  intro entry member
  have ordered := consistent.ordered
  unfold stride
  cases shape : registry.server.alarmMap with
  | nil => simp [shape] at member
  | cons first rest =>
      rw [shape] at member ordered
      have early : first.key ≤ entry.key := by
        rcases List.mem_cons.mp member with rfl | behind
        · exact le_refl _
        · exact (List.pairwise_cons.mp ordered).1 entry behind
      exact (add_le_of_le_sub_left (min_le_right _ _)).trans early

omit later in
theorem stride_le (registry : Registry) (delta : Int) : registry.stride delta ≤ delta := by
  unfold stride
  split
  · exact le_refl _
  · exact min_le_left _ _

omit later in
theorem stride_pos (ahead : ∀ entry ∈ registry.server.alarmMap, registry.server.now < entry.key)
    {delta : Int} (positive : 0 < delta) : 0 < registry.stride delta := by
  unfold stride
  split
  · exact positive
  · next first rest shape =>
      refine lt_min positive (sub_pos.mpr (ahead first ?_))
      rw [shape]
      exact List.mem_cons_self

theorem pass_ticks (consistent : registry.Consistent) (idle : registry.phase = .idle)
    {time : TimeBase} (first : ∀ entry ∈ registry.server.alarmMap, time ≤ entry.key) :
    (build = .debug ∧ DelegateFails delegate { registry.setNow time with phase := .looping } ∧
        Passes build delegate (registry.setNow time) .aborted) ∨
      ∃ next invoked, Passes build delegate (registry.setNow time) (.done next) ∧
        Tick registry next time invoked := by
  have moved : (registry.setNow time).Consistent := { consistent with }
  have entered : ({ registry.setNow time with phase := .looping } : Registry).Consistent :=
    phase_consistent moved idle (by simp) (by simp)
  have punctual : ∀ alarm ∈ ({ registry.setNow time with phase := .looping } : Registry).dueAlarms,
      alarm.deadline = time := by
    intro alarm due
    obtain ⟨member, set, early⟩ := mem_dueAlarms.mp due
    obtain ⟨entry, waiting, claimed⟩ := entered.entry_of_set member set
    have deadline : entry.key = alarm.deadline := congrArg (·.2.1) claimed
    have inMap := mem_pending waiting
    exact le_antisymm early (deadline ▸ first entry inMap)
  rcases rounds_pass later entered rfl (Nat.lt_succ_self _) with
    ⟨debug, fails, stopped⟩ | ⟨final, _, reached, passed⟩
  · exact Or.inl ⟨debug, fails, passes_of_rounds stopped trivial⟩
  · obtain ⟨invoked, grown, called⟩ := rounds_invocations later entered rfl reached
    refine Or.inr ⟨final, invoked, passes_of_rounds reached passed.idle, ?_⟩
    refine ⟨passed.consistent, passed.idle, passed.now, ?_, grown, ?_⟩
    · intro entry member
      have after := passed.finished entry member
      rwa [passed.now] at after
    · intro invocation member
      obtain ⟨atTime, alarm, due, deadline⟩ := called invocation member
      exact ⟨atTime, deadline.trans (punctual alarm due)⟩

/-- What `elapse` leaves when it has come to `time`. -/
structure Elapsed (registry final : Registry) (time : TimeBase) (invoked : List Invocation) :
    Prop where
  idle : final.phase = .idle
  now : final.server.now = time
  ahead : ∀ entry ∈ final.server.alarmMap, time < entry.key
  invocations : final.server.log.invocations = invoked ++ registry.server.log.invocations
  punctual : ∀ invocation ∈ invoked, invocation.time = invocation.deadline
  ordered : invoked.Pairwise fun recent earlier => earlier.time ≤ recent.time

omit later in
theorem Tick.elapsed {final : Registry} {time last : TimeBase} {called invoked : List Invocation}
    (tick : Tick registry next time called) (rest : Elapsed next final last invoked)
    (after : ∀ invocation ∈ invoked, time < invocation.time) :
    Elapsed registry final last (invoked ++ called) := by
  refine ⟨rest.idle, rest.now, rest.ahead, ?_, ?_, ?_⟩
  · rw [rest.invocations, tick.invocations, List.append_assoc]
  · intro invocation member
    rcases List.mem_append.mp member with recent | early
    · exact rest.punctual invocation recent
    · obtain ⟨atTime, deadline⟩ := tick.punctual invocation early
      exact atTime.trans deadline.symm
  · refine List.pairwise_append.mpr ⟨rest.ordered, ?_, ?_⟩
    · refine List.Pairwise.imp_of_mem (fun {one other} oneMember otherMember _ => ?_)
        (List.pairwise_of_forall fun _ _ => trivial)
      rw [(tick.punctual one oneMember).1, (tick.punctual other otherMember).1]
    · intro recent member earlier early
      rw [(tick.punctual earlier early).1]
      exact le_of_lt (after recent member)

omit later in
theorem Elapses.turn {delta : Int} {outcome : Outcome Registry} (positive : 0 < delta)
    (pass : Passes build delegate
      (registry.setNow (registry.server.now + registry.stride delta)) (.done next))
    (rest : Elapses build delegate next (delta - registry.stride delta) outcome) :
    Elapses build delegate registry delta outcome := by
  obtain ⟨passFuel, passed⟩ := pass
  obtain ⟨restFuel, ended⟩ := rest
  refine ⟨max passFuel restFuel + 1, ?_⟩
  rintro (_ | fuel) enough
  · omega
  · rw [elapse, if_pos positive]
    exact Outcome.bind_of_done (passed fuel (by omega)) (ended fuel (by omega))

omit later in
theorem Elapses.aborted {delta : Int} (positive : 0 < delta)
    (pass : Passes build delegate
      (registry.setNow (registry.server.now + registry.stride delta)) .aborted) :
    Elapses build delegate registry delta .aborted := by
  obtain ⟨passFuel, stopped⟩ := pass
  refine ⟨passFuel + 1, ?_⟩
  rintro (_ | fuel) enough
  · omega
  · rw [elapse, if_pos positive]
    dsimp only
    rw [stopped fuel (by omega)]
    rfl

omit later in
/-- A turn and what comes after it, from where nothing is due. -/
theorem Tick.continues {delta : Int} {called : List Invocation} (positive : 0 < delta)
    (passed : Passes build delegate
      (registry.setNow (registry.server.now + registry.stride delta)) (.done next))
    (tick : Tick registry next (registry.server.now + registry.stride delta) called)
    (rest : (build = .debug ∧ TurnFails delegate next (delta - registry.stride delta) ∧
        Elapses build delegate next (delta - registry.stride delta) .aborted) ∨
      ∃ final invoked,
        Elapses build delegate next (delta - registry.stride delta) (.done final) ∧
        Elapsed next final (next.server.now + (delta - registry.stride delta)) invoked ∧
        ∀ invocation ∈ invoked, next.server.now < invocation.time) :
    (build = .debug ∧ TurnFails delegate registry delta ∧
        Elapses build delegate registry delta .aborted) ∨
      ∃ final invoked, Elapses build delegate registry delta (.done final) ∧
        Elapsed registry final (registry.server.now + delta) (invoked ++ called) ∧
        ∀ invocation ∈ invoked, next.server.now < invocation.time := by
  rcases rest with ⟨rfl, fails, stopped⟩ | ⟨final, invoked, ended, elapsed, after⟩
  · exact Or.inl ⟨rfl, .later passed fails, Elapses.turn positive passed stopped⟩
  · have left : next.server.now + (delta - registry.stride delta) =
        registry.server.now + delta := by
      rw [tick.now]
      ring
    rw [left] at elapsed
    exact Or.inr ⟨final, invoked, Elapses.turn positive passed ended,
      tick.elapsed elapsed (tick.now ▸ after), after⟩

omit later in
theorem Tick.nothing_due {time : TimeBase} {called : List Invocation}
    (tick : Tick registry next time called) :
    ∀ entry ∈ next.server.alarmMap, next.server.now < entry.key := by
  rw [tick.now]
  exact tick.ahead

/-- With nothing due, each turn takes the clock on. -/
theorem elapse_ahead (consistent : registry.Consistent) (idle : registry.phase = .idle)
    (ahead : ∀ entry ∈ registry.server.alarmMap, registry.server.now < entry.key) {delta : Int}
    (forward : 0 ≤ delta) :
    (build = .debug ∧ TurnFails delegate registry delta ∧
        Elapses build delegate registry delta .aborted) ∨
      ∃ final invoked, Elapses build delegate registry delta (.done final) ∧
        Elapsed registry final (registry.server.now + delta) invoked ∧
        ∀ invocation ∈ invoked, registry.server.now < invocation.time := by
  generalize size : delta.toNat = n
  induction n using Nat.strongRecOn generalizing registry delta with
  | ind n ih =>
      rcases eq_or_lt_of_le forward with rfl | positive
      · refine Or.inr ⟨registry, [], ⟨0, fun fuel _ => ?_⟩, ?_, by simp⟩
        · cases fuel <;> simp [elapse]
        · exact ⟨idle, by simp, by simpa using ahead, rfl, by simp, List.Pairwise.nil⟩
      · have longer := stride_pos ahead positive
        have shorter := registry.stride_le delta
        rcases pass_ticks later consistent idle (stride_first consistent delta) with
          ⟨debug, fails, stopped⟩ | ⟨next, called, passed, tick⟩
        · exact Or.inl ⟨debug, .now fails, Elapses.aborted positive stopped⟩
        · have rest := ih (delta - registry.stride delta).toNat (by omega) tick.consistent
            tick.idle tick.nothing_due (sub_nonneg.mpr shorter) rfl
          rcases tick.continues positive passed rest with
            stopped | ⟨final, invoked, ended, elapsed, after⟩
          · exact Or.inl stopped
          · refine Or.inr ⟨final, invoked ++ called, ended, elapsed, ?_⟩
            intro invocation member
            rcases List.mem_append.mp member with recent | early
            · have clock := after invocation recent
              rw [tick.now] at clock
              exact lt_trans (lt_add_of_pos_right _ longer) clock
            · rw [(tick.punctual invocation early).1]
              exact lt_add_of_pos_right _ longer

/-- Every alarm that `elapse` fires is fired at its own deadline and in the order of the deadlines,
also one that was overdue when it was called: the clock is put back to that time first. In the end
the clock has moved by `delta` and nothing is due. Only a check of `set` that a delegate fails stops
it, in the debug build. -/
theorem elapse_punctual (consistent : registry.Consistent) (idle : registry.phase = .idle)
    {delta : Int} (positive : 0 < delta) :
    (build = .debug ∧ TurnFails delegate registry delta ∧
        Elapses build delegate registry delta .aborted) ∨
      ∃ final invoked, Elapses build delegate registry delta (.done final) ∧
        Elapsed registry final (registry.server.now + delta) invoked := by
  rcases pass_ticks later consistent idle (stride_first consistent delta) with
    ⟨debug, fails, stopped⟩ | ⟨next, called, passed, tick⟩
  · exact Or.inl ⟨debug, .now fails, Elapses.aborted positive stopped⟩
  · have rest := elapse_ahead later tick.consistent tick.idle tick.nothing_due
      (sub_nonneg.mpr (registry.stride_le delta))
    rcases tick.continues positive passed rest with stopped | ⟨final, invoked, ended, elapsed, _⟩
    · exact Or.inl stopped
    · exact Or.inr ⟨final, invoked ++ called, ended, elapsed⟩

end Clock

theorem bothDue_elapses :
    ∃ final invoked, Elapses .release rearming bothDue 10 (.done final) ∧
      Elapsed bothDue final 19 invoked := by
  rcases elapse_punctual rearming_later bothDue_consistent rfl (by decide : (0 : Int) < 10) with
    ⟨debug, _⟩ | ended
  · cases debug
  · exact ended

end Registry

end LabNetstack
