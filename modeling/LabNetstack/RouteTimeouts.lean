import LabNetstack.EpollServer
import LabNetstack.RoutingTableCore

/-! The timeouts of routing entries, over every run of the table and its alarm factory: when they
come, and whether the entry they are for is still there. -/

namespace LabNetstack

open RoutingTable Registry

/-- The deadline of the alarm of an entry. -/
structure Route.Timed (route : Route) (now deadline : Int) : Prop where
  anchored : 0 ≤ route.anchor ∧ route.anchor ≤ route.refreshed ∧ route.refreshed ≤ now
  valid : route.isValid = true → deadline = route.anchor + validInterval
  revoked : route.isValid = false → deadline ≠ 0 → route.refreshed + validInterval ≤ deadline

theorem Route.revokeRoute_isValid (route : Route) : route.revokeRoute.isValid = false := rfl

theorem Route.revokeRoute_object (route : Route) : route.revokeRoute.object = route.object := rfl

theorem Route.refresh_entry (now : Int) (route : Route) :
    (route.refresh now).toEntry = route.toEntry := by
  unfold refresh
  split <;> rfl

theorem Route.Timed.elapse {route : Route} {now later deadline : Int}
    (timed : route.Timed now deadline) (forward : now ≤ later) : route.Timed later deadline :=
  { timed with anchored := ⟨timed.anchored.1, timed.anchored.2.1, timed.anchored.2.2.trans forward⟩ }

theorem Route.Timed.revoke {route : Route} {now deadline : Int}
    (timed : route.Timed now deadline) : route.revokeRoute.Timed now 0 where
  anchored := timed.anchored
  valid := fun valid => absurd (route.revokeRoute_isValid.symm.trans valid) nofun
  revoked := fun _ set => absurd rfl set

/-- `keepAlive` moves the deadline to where the refreshed entry has it. -/
theorem Route.Timed.refresh {route : Route} {now deadline : Int} (clock : 0 ≤ now)
    (timed : route.Timed now deadline) : (route.refresh now).Timed now
      (if (now + validInterval - deadline).natAbs < fromSeconds 1 then deadline
        else now + validInterval) := by
  have second : fromSeconds 1 = 1000000 := rfl
  have interval : validInterval = 6000000 := rfl
  obtain ⟨start, order, past⟩ := timed.anchored
  cases valid : route.isValid with
  | true =>
      have set := timed.valid valid
      have near : (now + validInterval - deadline).natAbs < fromSeconds 1 ↔
          now - route.anchor < fromSeconds 1 := by omega
      rw [if_congr near rfl rfl, Route.refresh, if_pos valid]
      refine ⟨⟨?_, ?_, le_refl now⟩, fun _ => ?_, fun revoked => ?_⟩
      · dsimp only
        split <;> omega
      · dsimp only
        split <;> omega
      · dsimp only
        split <;> omega
      · exact absurd (valid.symm.trans revoked) nofun
  | false =>
      rw [Route.refresh, if_neg (by simp [valid])]
      refine ⟨timed.anchored, fun other => absurd (valid.symm.trans other) nofun, fun _ _ => ?_⟩
      split
      · have set : deadline ≠ 0 := by omega
        exact timed.revoked valid set
      · omega

namespace Routes

variable {build : Build} {routes next : Routes}

structure Sound (routes : Routes) : Prop where
  consistent : routes.registry.Consistent
  calm : ∀ entry, routes.registry.phase ≠ .firing entry
  clock : 0 ≤ routes.now
  distinct : (routes.entries.map (·.object)).Nodup
  numbered : ∀ route ∈ routes.entries, route.object < routes.objects
  placed : ∀ alarm ∈ routes.registry.alarms, alarm.place < routes.objects
  owns : ∀ route ∈ routes.entries, ∀ place, route.ttlAlarm = some place →
    place = route.object ∧ ∃ alarm ∈ routes.registry.alarms, alarm.place = route.object
  timed : ∀ route ∈ routes.entries, ∀ alarm ∈ routes.registry.alarms,
    alarm.place = route.object →
      route.ttlAlarm = some route.object ∧ route.Timed routes.now alarm.deadline

/-- Every alarm that is waiting is that of an entry of the table. -/
def Reaches (routes : Routes) : Prop :=
  ∀ entry ∈ routes.registry.server.alarmMap, ∃ route ∈ routes.entries,
    route.ttlAlarm = some entry.alarm

theorem start_sound {now : Int} (clock : 0 ≤ now) : (start now).Sound where
  consistent := { Registry.start_consistent ⟨0, 0, by decide⟩ with }
  calm := nofun
  clock := clock
  distinct := List.nodup_nil
  numbered := List.forall_mem_nil _
  placed := List.forall_mem_nil _
  owns := List.forall_mem_nil _
  timed := List.forall_mem_nil _

/-! The calls between passes. -/

theorem Sound.elapse (sound : routes.Sound) {now : Int} (forward : routes.now ≤ now) :
    ({ routes with registry.server.now := now } : Routes).Sound :=
  { sound with
    consistent := { sound.consistent with }
    clock := sound.clock.trans forward
    timed := fun route member alarm present here =>
      (sound.timed route member alarm present here).imp_right fun timed => timed.elapse forward }

theorem Sound.clear (sound : routes.Sound) : ({ routes with entries := [] } : Routes).Sound :=
  { sound with
    distinct := List.nodup_nil
    numbered := List.forall_mem_nil _
    owns := List.forall_mem_nil _
    timed := List.forall_mem_nil _ }

/-- The state after calls of one alarm, if its entry is timed. -/
theorem Sound.touched (sound : routes.Sound) {registry : Registry} {place objects : Nat}
    {entries : List Route}
    (touched : Relation.ReflTransGen (Touch place) routes.registry registry)
    (distinct : (entries.map (·.object)).Nodup)
    (numbered : ∀ route ∈ entries, route.object < objects)
    (grown : routes.objects ≤ objects) (inside : place < objects)
    (others : ∀ route ∈ entries, route.object ≠ place → route ∈ routes.entries)
    (own : ∀ route ∈ entries, route.object = place → route.ttlAlarm = some place ∧
      ∃ alarm ∈ registry.alarms, alarm.place = place ∧ route.Timed routes.now alarm.deadline) :
    (⟨registry, entries, objects, routes.revocations⟩ : Routes).Sound := by
  have framed := touches_framed touched
  have owned := touches_owned touched
  have consistent := touches_consistent touched sound.consistent
  have now : (⟨registry, entries, objects, routes.revocations⟩ : Routes).now = routes.now :=
    framed.now
  refine ⟨consistent, ?_, now ▸ sound.clock, distinct, numbered, ?_, ?_, ?_⟩
  · intro entry
    change registry.phase ≠ _
    rw [framed.phase]
    exact sound.calm entry
  · intro alarm member
    rcases owned.alarms alarm member with old | new
    · exact lt_of_lt_of_le (sound.placed alarm old) grown
    · exact new ▸ inside
  · intro route member mine armed
    by_cases here : route.object = place
    · obtain ⟨armedHere, alarm, present, there, _⟩ := own route member here
      have same : mine = place := Option.some.inj (armed.symm.trans armedHere)
      exact ⟨same.trans here.symm, alarm, present, there.trans here.symm⟩
    · obtain ⟨same, alarm, present, there⟩ := sound.owns route (others route member here) mine armed
      exact ⟨same, alarm, framed.others alarm present (there ▸ here), there⟩
  · intro route member alarm present there
    rw [now]
    by_cases here : route.object = place
    · obtain ⟨armed, other, also, same, timed⟩ := own route member here
      have unique : alarm = other :=
        List.inj_on_of_nodup_map consistent.places present also (by rw [there, here, same])
      rw [unique]
      exact ⟨here ▸ armed, timed⟩
    · rcases owned.alarms alarm present with old | new
      · exact sound.timed route (others route member here) alarm old there
      · exact absurd (there.symm.trans new) here

theorem Sound.append (sound : routes.Sound) {route : Route}
    (object : route.object = routes.objects) :
    ((routes.entries ++ [route]).map (·.object)).Nodup ∧
      ∀ other ∈ routes.entries ++ [route], other.object < routes.objects + 1 := by
  constructor
  · rw [List.map_append, List.nodup_append']
    refine ⟨sound.distinct, List.nodup_singleton _, ?_⟩
    rw [List.map_singleton, List.disjoint_singleton, object]
    intro taken
    obtain ⟨other, member, same⟩ := List.mem_map.mp taken
    exact absurd same (ne_of_lt (sound.numbered other member))
  · intro other member
    rcases List.mem_append.mp member with old | new
    · exact Nat.lt_succ_of_lt (sound.numbered other old)
    · rw [List.mem_singleton.mp new, object]
      exact Nat.lt_succ_self _

theorem Sound.appendImmortal (sound : routes.Sound) {route : Route}
    (object : route.object = routes.objects) (immortal : route.ttlAlarm = none) :
    ({ routes with
      entries := routes.entries ++ [route], objects := routes.objects + 1 } : Routes).Sound := by
  obtain ⟨distinct, numbered⟩ := sound.append object
  refine ⟨sound.consistent, sound.calm, sound.clock, distinct, numbered, ?_, ?_, ?_⟩
  · intro alarm member
    exact Nat.lt_succ_of_lt (sound.placed alarm member)
  · intro other member place armed
    rcases List.mem_append.mp member with old | new
    · exact sound.owns other old place armed
    · rw [List.mem_singleton.mp new, immortal] at armed
      cases armed
  · intro other member alarm present here
    rcases List.mem_append.mp member with old | new
    · exact sound.timed other old alarm present here
    · rw [List.mem_singleton.mp new, object] at here
      exact absurd here (ne_of_lt (sound.placed alarm present))

theorem construct_mortal (sound : routes.Sound) (build : Build) (dest mask : IPAddress)
    (device : Nat) (metric : UInt8) {node : Nat} (fresh : routes.registry.unused node = true) :
    ∃ registry, routes.construct build dest mask device metric false node = .done
        ⟨registry, routes.entries ++ [⟨⟨routes.objects, dest, mask, device, metric,
          some routes.objects⟩, routes.now, routes.now⟩], routes.objects + 1, routes.revocations⟩ ∧
      Relation.ReflTransGen (Touch routes.objects) routes.registry registry ∧
      ∃ alarm ∈ registry.alarms, alarm.place = routes.objects ∧
        alarm.deadline = routes.now + validInterval := by
  have free : routes.objects ∉ routes.registry.alarms.map EpollAlarm.place := by
    intro taken
    obtain ⟨alarm, member, same⟩ := List.mem_map.mp taken
    exact absurd same (ne_of_lt (sound.placed alarm member))
  have initialized : routes.now + validInterval ≠ 0 := by
    have clock := sound.clock
    have interval : validInterval = 6000000 := rfl
    omega
  have created := create_consistent sound.consistent free
  have armed : ({ routes.registry with
      alarms := .create routes.objects :: routes.registry.alarms } : Registry).call build
        (.set routes.objects (routes.now + validInterval) node) = .done _ :=
    set_done build created List.mem_cons_self rfl initialized node
  refine ⟨_, ?_, .tail (.single (.create free)) (.arm List.mem_cons_self rfl rfl initialized
    (of_decide_eq_true fresh)), _, mem_replaceAt.mpr (Or.inr ⟨_, List.mem_cons_self, rfl, rfl⟩),
    rfl, rfl⟩
  simp only [construct, Bool.false_eq_true, if_false, Registry.call.eq_1, Outcome.done_bind]
  rw [← now, armed]
  rfl

theorem keepAlive_mortal (sound : routes.Sound) (build : Build) {route : Route} {alarm : Nat}
    (member : route ∈ routes.entries) (mortal : route.ttlAlarm = some alarm) {node : Nat}
    (fresh : (routes.registry.vacated route.object).unused node = true) :
    ∃ registry, routes.keepAlive build route node = .done ⟨registry,
        replaceAt (·.object) route.object (Route.refresh routes.now) routes.entries,
        routes.objects, routes.revocations⟩ ∧
      Relation.ReflTransGen (Touch route.object) routes.registry registry ∧
      ∃ after ∈ registry.alarms, after.place = route.object ∧
        (route.refresh routes.now).Timed routes.now after.deadline := by
  obtain ⟨same, before, present, here⟩ := sound.owns route member alarm mortal
  obtain ⟨_, timed⟩ := sound.timed route member before present here
  have initialized : routes.now + validInterval ≠ 0 := by
    have clock := sound.clock
    have interval : validInterval = 6000000 := rfl
    omega
  rw [← here] at fresh
  obtain ⟨registry, called, touched⟩ := update_touches sound.consistent present
    (routes.now + validInterval) (fromSeconds 1) fresh
  refine ⟨registry, ?_, here ▸ touched, ?_⟩
  · rw [same, ← here] at mortal
    rw [keepAlive, mortal]
    dsimp only [Registry.call]
    rw [called]
    rfl
  · rw [on_alarm sound.consistent present] at called
    obtain ⟨after, updated, written⟩ := Outcome.bind_eq_done.mp called
    cases written
    obtain ⟨place, moved⟩ := update_deadline initialized updated
    refine ⟨after.1, mem_replaceAt.mpr (Or.inr ⟨before, present, rfl, rfl⟩), place.trans here, ?_⟩
    rw [moved]
    exact timed.refresh sound.clock

theorem Reaches.touched (reaches : routes.Reaches) {registry : Registry} {place objects : Nat}
    {entries : List Route}
    (touched : Relation.ReflTransGen (Touch place) routes.registry registry)
    (kept : ∀ route ∈ routes.entries, ∃ after ∈ entries, after.ttlAlarm = route.ttlAlarm)
    (own : ∃ route ∈ entries, route.ttlAlarm = some place) :
    (⟨registry, entries, objects, routes.revocations⟩ : Routes).Reaches := by
  intro entry member
  rcases (touches_owned touched).entries entry member with old | new
  · obtain ⟨route, present, mine⟩ := reaches entry old
    obtain ⟨after, still, same⟩ := kept route present
    exact ⟨after, still, same.trans mine⟩
  · rw [new]
    exact own

theorem alarms_replaceAt {place : Nat} {change : Route → Route} {entries : List Route}
    (same : ∀ route, (change route).ttlAlarm = route.ttlAlarm) : ∀ route ∈ entries,
      ∃ after ∈ replaceAt (·.object) place change entries, after.ttlAlarm = route.ttlAlarm := by
  intro route member
  refine ⟨_, List.mem_map_of_mem member, ?_⟩
  split
  · exact same route
  · rfl

/-- What the calls other than `clear` and `runAlarmEvent` leave as it was. -/
structure Settled (routes next : Routes) : Prop where
  sound : next.Sound
  revocations : next.revocations = routes.revocations
  reaches : routes.Reaches → next.Reaches

theorem Sound.settled (sound : routes.Sound) : Settled routes routes := ⟨sound, rfl, id⟩

theorem construct_settled (sound : routes.Sound) {dest mask : IPAddress} {device : Nat}
    {metric : UInt8} {immortal : Bool} {node : Nat}
    (fresh : routes.registry.unused node = true)
    (taken : routes.construct build dest mask device metric immortal node = .done next) :
    Settled routes next := by
  cases immortal with
  | true =>
      cases taken
      refine ⟨sound.appendImmortal rfl rfl, rfl, ?_⟩
      intro reaches entry member
      obtain ⟨route, present, mine⟩ := reaches entry member
      exact ⟨route, List.mem_append_left _ present, mine⟩
  | false =>
      obtain ⟨registry, constructed, touched, alarm, present, place, deadline⟩ :=
        construct_mortal sound build dest mask device metric fresh
      cases constructed.symm.trans taken
      refine ⟨?_, rfl, fun reaches => ?_⟩
      · obtain ⟨distinct, numbered⟩ := @Sound.append _ sound ⟨⟨routes.objects, dest, mask, device,
          metric, some routes.objects⟩, routes.now, routes.now⟩ rfl
        refine sound.touched touched distinct numbered (Nat.le_succ _) (Nat.lt_succ_self _) ?_ ?_
        · intro route member apart
          rcases List.mem_append.mp member with old | new
          · exact old
          · rw [List.mem_singleton.mp new] at apart
            exact absurd rfl apart
        · intro route member here
          rcases List.mem_append.mp member with old | new
          · exact absurd here (ne_of_lt (sound.numbered route old))
          · rw [List.mem_singleton.mp new]
            exact ⟨rfl, alarm, present, place, ⟨sound.clock, le_refl _, le_refl _⟩,
              fun _ => deadline, fun _ _ => deadline.ge⟩
      · refine reaches.touched touched (fun other member => ?_)
          ⟨_, List.mem_append_right _ (List.mem_singleton_self _), rfl⟩
        exact ⟨other, List.mem_append_left _ member, rfl⟩

theorem keepAlive_settled (sound : routes.Sound) {route : Route} (member : route ∈ routes.entries)
    {node : Nat} (fresh : (routes.registry.vacated route.object).unused node = true)
    (taken : routes.keepAlive build route node = .done next) : Settled routes next := by
  cases mortal : route.ttlAlarm with
  | none =>
      rw [keepAlive, mortal] at taken
      cases taken
      exact sound.settled
  | some alarm =>
      have place := (sound.owns route member alarm mortal).1
      obtain ⟨registry, kept, touched, after, present, here, timed⟩ :=
        keepAlive_mortal sound build member mortal fresh
      cases kept.symm.trans taken
      have object (other : Route) : (other.refresh routes.now).object = other.object :=
        congrArg Entry.object (other.refresh_entry routes.now)
      have objects : (replaceAt (·.object) route.object (Route.refresh routes.now)
          routes.entries).map (·.object) = routes.entries.map (·.object) := map_replaceAt object _
      have changed {other : Route} (found : other ∈ replaceAt (·.object) route.object
          (Route.refresh routes.now) routes.entries) :
          other ∈ routes.entries ∧ other.object ≠ route.object ∨ other = route.refresh routes.now := by
        rcases mem_replaceAt.mp found with old | ⟨before, old, at_, rfl⟩
        · exact Or.inl old
        · rw [List.inj_on_of_nodup_map sound.distinct old member at_]
          exact Or.inr rfl
      have armed : (route.refresh routes.now).ttlAlarm = some route.object := by
        rw [route.refresh_entry, mortal, place]
      refine ⟨?_, rfl, fun reaches => ?_⟩
      · refine sound.touched touched (objects ▸ sound.distinct) ?_ (le_refl _)
          (sound.numbered route member) ?_ ?_
        · intro other found
          rcases changed found with ⟨old, _⟩ | rfl
          · exact sound.numbered other old
          · rw [object]
            exact sound.numbered route member
        · intro other found apart
          rcases changed found with ⟨old, _⟩ | rfl
          · exact old
          · exact absurd (object route) apart
        · intro other found there
          rcases changed found with ⟨_, apart⟩ | rfl
          · exact absurd there apart
          · exact ⟨armed, after, present, here, timed⟩
      · refine reaches.touched touched (alarms_replaceAt fun other => ?_) ⟨route.refresh routes.now,
          mem_replaceAt.mpr (Or.inr ⟨route, member, rfl, rfl⟩), armed⟩
        rw [other.refresh_entry]

/-! A pass over the alarms. -/

structure Due (routes : Routes) (alarm : EpollAlarm) (entry : AlarmEntry) : Prop where
  member : alarm ∈ routes.registry.alarms
  listed : entry ∈ routes.registry.server.alarmMap
  due : entry.key ≤ routes.registry.server.now
  set : alarm.isSet = true
  claimed : entry.claim = alarm.claim

/-- The table after a round of the loop. -/
def fired (routes : Routes) (alarm : EpollAlarm) (entry : AlarmEntry) (route : Route) : Routes where
  registry := (routes.registry.fire alarm entry).finish entry
  entries := replaceAt (·.object) alarm.place Route.revokeRoute routes.entries
  objects := routes.objects
  revocations := ⟨route.refreshed, routes.now⟩ :: routes.revocations

theorem rounds_cases (sound : routes.Sound) (looping : routes.registry.phase = .looping)
    (count : Nat) :
    rounds (count + 1) routes = .done { routes with registry.phase := .idle } ∧
        (∀ entry ∈ routes.registry.server.alarmMap, routes.now < entry.key) ∨
      ∃ alarm entry, routes.Due alarm entry ∧
        (rounds (count + 1) routes = .outOfBounds ∧
            alarm.place ∉ routes.entries.map (·.object) ∨
          ∃ route ∈ routes.entries, route.object = alarm.place ∧
            rounds (count + 1) routes = rounds count (routes.fired alarm entry route)) := by
  rcases advance_cases sound.consistent looping with
    ⟨left, finished⟩ | ⟨alarm, member, entry, listed, fired, due, set, claimed⟩
  · refine Or.inl ⟨?_, finished⟩
    rw [rounds, left]
    rfl
  · refine Or.inr ⟨alarm, entry, ⟨member, listed, due, set, claimed⟩, ?_⟩
    have here : entry.alarm = alarm.place := congrArg (·.1) claimed
    have consistent := fire_consistent sound.consistent looping listed due member set claimed
    have finish := returned_effect consistent rfl
    have phase : (routes.registry.fire alarm entry).phase = .firing entry := rfl
    rw [rounds, fired, Outcome.done_bind]
    simp only [phase, onAlarm, here]
    cases found : entryAt (·.object) alarm.place routes.entries with
    | none => exact Or.inl ⟨rfl, entryAt_none.mp found⟩
    | some route =>
        obtain ⟨present, object⟩ := entryAt_some found
        refine Or.inr ⟨route, present, object, ?_⟩
        simp only [Outcome.done_bind, finish]
        rfl

theorem Sound.fired (sound : routes.Sound) (looping : routes.registry.phase = .looping)
    {alarm : EpollAlarm} {entry : AlarmEntry} (due : routes.Due alarm entry) (route : Route) :
    (routes.fired alarm entry route).Sound := by
  have consistent := fire_consistent sound.consistent looping due.listed due.due due.member due.set
    due.claimed
  have objects : (routes.fired alarm entry route).entries.map (·.object) =
      routes.entries.map (·.object) := map_replaceAt Route.revokeRoute_object _
  have unset {other : EpollAlarm} (found : other ∈ (routes.fired alarm entry route).registry.alarms) :
      other ∈ routes.registry.alarms ∧ other.place ≠ alarm.place ∨
        other = { alarm with deadline := 0 } := by
    rcases mem_replaceAt.mp found with old | ⟨_, _, _, rfl⟩
    · exact Or.inl old
    · exact Or.inr rfl
  have revoked {other : Route} (found : other ∈ (routes.fired alarm entry route).entries) :
      other ∈ routes.entries ∧ other.object ≠ alarm.place ∨
        ∃ before ∈ routes.entries, before.object = alarm.place ∧ other = before.revokeRoute := by
    rcases mem_replaceAt.mp found with old | ⟨before, old, here, rfl⟩
    · exact Or.inl old
    · exact Or.inr ⟨before, old, here, rfl⟩
  refine ⟨finish_consistent consistent rfl, nofun, sound.clock, objects ▸ sound.distinct,
    ?_, ?_, ?_, ?_⟩
  · intro other found
    rcases revoked found with ⟨old, _⟩ | ⟨before, old, _, rfl⟩
    · exact sound.numbered other old
    · exact sound.numbered before old
  · intro other found
    rcases unset found with ⟨old, _⟩ | rfl
    · exact sound.placed other old
    · exact sound.placed alarm due.member
  · intro other found place mortal
    rcases revoked found with ⟨old, apart⟩ | ⟨before, old, here, rfl⟩
    · obtain ⟨same, mine, present, there⟩ := sound.owns other old place mortal
      exact ⟨same, mine, mem_replaceAt.mpr (Or.inl ⟨present, there ▸ apart⟩), there⟩
    · obtain ⟨same, _⟩ := sound.owns before old place mortal
      exact ⟨same, _, mem_replaceAt.mpr (Or.inr ⟨alarm, due.member, rfl, rfl⟩), here.symm⟩
  · intro other found mine present there
    rcases unset present with ⟨kept, away⟩ | rfl
    · rcases revoked found with ⟨old, _⟩ | ⟨before, _, here, rfl⟩
      · exact sound.timed other old mine kept there
      · exact absurd (there.trans here) away
    · rcases revoked found with ⟨_, apart⟩ | ⟨before, old, here, rfl⟩
      · exact absurd there.symm apart
      · obtain ⟨mortal, timed⟩ := sound.timed before old alarm due.member here.symm
        exact ⟨mortal, timed.revoke⟩

theorem fired_shorter (sound : routes.Sound) {alarm : EpollAlarm} {entry : AlarmEntry}
    (due : routes.Due alarm entry) (route : Route) :
    (routes.fired alarm entry route).registry.server.alarmMap.length + 1 =
      routes.registry.server.alarmMap.length :=
  (perm_cons_dropAt sound.consistent.nodes due.listed).length_eq.symm

/-- What each round keeps holds when the loop has found no alarm that is due. -/
theorem rounds_done {motive : Routes → Prop}
    (kept : ∀ routes alarm entry route, routes.Sound → routes.Due alarm entry →
      route ∈ routes.entries → route.object = alarm.place → motive routes →
        motive (routes.fired alarm entry route))
    {count : Nat} (sound : routes.Sound) (looping : routes.registry.phase = .looping)
    (initial : motive routes) (enough : routes.registry.server.alarmMap.length < count)
    (taken : rounds count routes = .done next) : ∃ last : Routes, last.Sound ∧ motive last ∧
      (∀ entry ∈ last.registry.server.alarmMap, last.now < entry.key) ∧
      next = { last with registry.phase := .idle } := by
  induction count generalizing routes with
  | zero => exact absurd enough (Nat.not_lt_zero _)
  | succ count ih =>
      rcases rounds_cases sound looping count with
        ⟨left, finished⟩ | ⟨alarm, entry, due, ⟨dangling, _⟩ | ⟨route, member, here, fires⟩⟩
      · cases left.symm.trans taken
        exact ⟨routes, sound, initial, finished, rfl⟩
      · cases dangling.symm.trans taken
      · have shorter := fired_shorter sound due route
        exact ih (sound.fired looping due route) rfl (kept routes alarm entry route sound due member
          here initial) (by omega) (fires ▸ taken)

theorem Sound.turn (sound : routes.Sound) {phase : AlarmPhase}
    (leaves : ∀ entry, phase ≠ .firing entry) :
    ({ routes with registry.phase := phase } : Routes).Sound :=
  { sound with
    consistent := phase_consistent sound.consistent rfl sound.calm leaves
    calm := leaves }

theorem pass_done {motive : Routes → Prop}
    (kept : ∀ routes alarm entry route, routes.Sound → routes.Due alarm entry →
      route ∈ routes.entries → route.object = alarm.place → motive routes →
        motive (routes.fired alarm entry route))
    (sound : routes.Sound) (initial : motive { routes with registry.phase := .looping })
    (taken : routes.runAlarmEvent = .done next) : ∃ last : Routes, last.Sound ∧ motive last ∧
      (∀ entry ∈ last.registry.server.alarmMap, last.now < entry.key) ∧
      next = { last with registry.phase := .idle } := by
  have turned : ({ routes with registry.phase := .looping } : Routes).Sound := sound.turn nofun
  exact rounds_done kept turned rfl initial (Nat.lt_succ_self _) taken

theorem pass_sound (sound : routes.Sound) (taken : routes.runAlarmEvent = .done next) :
    next.Sound := by
  obtain ⟨last, soundLast, _, _, rfl⟩ :=
    pass_done (motive := fun _ => True) (fun _ _ _ _ _ _ _ _ _ => trivial) sound trivial taken
  exact soundLast.turn nofun

/-- The factory's clock does not go back. -/
def forward (routes : Routes) (event : RouteEvent) : Prop :=
  match event with
  | .elapse now => routes.now ≤ now
  | _ => True

instance decidableForward (routes : Routes) (event : RouteEvent) :
    Decidable (routes.forward event) := by
  unfold forward
  split <;> infer_instance

theorem step_settled (sound : routes.Sound) {event : RouteEvent} (forward : routes.forward event)
    (other : event ≠ .runAlarmEvent) (stays : event ≠ .clear)
    (taken : routes.step build event = .done next) : Settled routes next := by
  cases event with
  | construct dest mask device metric immortal node =>
      rw [step] at taken
      split at taken
      · rename_i fresh
        exact construct_settled sound fresh taken
      · cases taken
        exact sound.settled
  | keepAlive object node =>
      rw [step] at taken
      split at taken
      · cases taken
        exact sound.settled
      · rename_i route found
        split at taken
        · rename_i fresh
          exact keepAlive_settled sound (entryAt_some found).1 fresh taken
        · cases taken
          exact sound.settled
  | clear => exact absurd rfl stays
  | elapse now =>
      cases taken
      exact ⟨sound.elapse forward, rfl, id⟩
  | runAlarmEvent => exact absurd rfl other

theorem step_sound (sound : routes.Sound) {event : RouteEvent} (forward : routes.forward event)
    (taken : routes.step build event = .done next) : next.Sound := by
  by_cases pass : event = .runAlarmEvent
  · subst pass
    exact pass_sound sound taken
  by_cases clears : event = .clear
  · subst clears
    cases taken
    exact sound.clear
  exact (step_settled sound forward pass clears taken).sound

/-! How long an entry stays valid. -/

/-- No entry was revoked before its interval had passed since it was last refreshed. -/
def FullInterval (routes : Routes) : Prop :=
  ∀ revocation ∈ routes.revocations, revocation.refreshed + validInterval ≤ revocation.time

/-- The interval of a valid entry has passed since a refresh, but not since one that came less
than a second later. -/
def Hasty (routes : Routes) : Prop :=
  ∃ route ∈ routes.entries, route.ttlAlarm.isSome = true ∧ route.isValid = true ∧
    route.anchor + validInterval ≤ routes.now ∧ routes.now < route.refreshed + validInterval

instance decidableHasty (routes : Routes) : Decidable routes.Hasty :=
  inferInstanceAs (Decidable (∃ route ∈ routes.entries, _))

theorem Due.deadline {alarm : EpollAlarm} {entry : AlarmEntry} (due : routes.Due alarm entry) :
    alarm.deadline ≠ 0 ∧ (alarm.deadline : Int) ≤ routes.now := by
  have key : entry.key = alarm.deadline := congrArg (·.2.1) due.claimed
  exact ⟨EpollAlarm.isSet_iff.mp due.set, key ▸ due.due⟩

theorem mem_fired {alarm : EpollAlarm} {entry : AlarmEntry} {route other : Route}
    (member : other ∈ (routes.fired alarm entry route).entries) :
    other ∈ routes.entries ∧ other.object ≠ alarm.place ∨ other.isValid = false := by
  rcases mem_replaceAt.mp member with old | ⟨before, _, _, rfl⟩
  · exact Or.inl old
  · exact Or.inr before.revokeRoute_isValid

theorem fired_patient {alarm : EpollAlarm} {entry : AlarmEntry} {route : Route}
    (sound : routes.Sound) (due : routes.Due alarm entry) (member : route ∈ routes.entries)
    (here : route.object = alarm.place) (patient : ¬routes.Hasty ∧ routes.FullInterval) :
    ¬(routes.fired alarm entry route).Hasty ∧ (routes.fired alarm entry route).FullInterval := by
  constructor
  · rintro ⟨other, found, mortal, valid, reached, early⟩
    rcases mem_fired found with ⟨old, _⟩ | revoked
    · exact patient.1 ⟨other, old, mortal, valid, reached, early⟩
    · exact absurd (valid.symm.trans revoked) nofun
  · intro revocation logged
    rcases List.mem_cons.mp logged with rfl | old
    · obtain ⟨set, reached⟩ := due.deadline
      obtain ⟨mortal, timed⟩ := sound.timed route member alarm due.member here.symm
      cases valid : route.isValid with
      | true =>
          by_contra early
          refine patient.1 ⟨route, member, by rw [mortal]; rfl, valid, ?_, not_le.mp early⟩
          rw [← timed.valid valid]
          exact reached
      | false => exact (timed.revoked valid set).trans reached
    · exact patient.2 revocation old

theorem fired_hasty {alarm : EpollAlarm} {entry : AlarmEntry} {route : Route}
    (sound : routes.Sound) (member : route ∈ routes.entries) (here : route.object = alarm.place)
    (broken : routes.Hasty ∨ ¬routes.FullInterval) :
    (routes.fired alarm entry route).Hasty ∨ ¬(routes.fired alarm entry route).FullInterval := by
  rcases broken with ⟨other, found, mortal, valid, reached, early⟩ | cut
  · by_cases same : other.object = alarm.place
    · refine Or.inr fun full => ?_
      have mine : other = route :=
        List.inj_on_of_nodup_map sound.distinct found member (same.trans here.symm)
      have kept := full ⟨route.refreshed, routes.now⟩ List.mem_cons_self
      rw [mine] at early
      exact absurd kept (not_le.mpr early)
    · exact Or.inl ⟨other, mem_replaceAt.mpr (Or.inl ⟨found, same⟩), mortal, valid, reached, early⟩
  · exact Or.inr fun full => cut fun revocation old => full revocation (List.mem_cons_of_mem _ old)

/-- The alarm of a hasty entry is due, so a loop that has ended has met it. -/
theorem Sound.not_hasty (sound : routes.Sound)
    (finished : ∀ entry ∈ routes.registry.server.alarmMap, routes.now < entry.key) :
    ¬routes.Hasty := by
  rintro ⟨route, member, mortal, valid, reached, _⟩
  obtain ⟨place, armed⟩ := Option.isSome_iff_exists.mp mortal
  obtain ⟨_, alarm, present, here⟩ := sound.owns route member place armed
  obtain ⟨_, timed⟩ := sound.timed route member alarm present here
  have deadline := timed.valid valid
  have interval : validInterval = 6000000 := rfl
  have start := timed.anchored.1
  have set : alarm.deadline ≠ 0 := fun off => absurd (deadline.symm.trans off) (by omega)
  obtain ⟨entry, waiting, claimed⟩ :=
    sound.consistent.entry_of_set present (EpollAlarm.isSet_iff.mpr set)
  have key : entry.key = alarm.deadline := congrArg (·.2.1) claimed
  have later := finished entry (mem_pending waiting)
  rw [key, deadline] at later
  exact absurd later (not_lt.mpr reached)

/-- The promise of `keepAlive` is kept through a run exactly when no pass over the alarms meets an
entry that was refreshed less than a second after the refresh its deadline was computed from, and
comes before the interval of the later one is over. -/
theorem keepAlive_interval_iff (build : Build) {now : Int} (clock : 0 ≤ now)
    (events : List RouteEvent) (environment : Allowed (step build) forward (start now) events) :
    Throughout (step build) FullInterval (start now) events ↔
      Allowed (step build) (fun routes event => event = .runAlarmEvent → ¬routes.Hasty)
        (start now) events := by
  refine throughout_iff (motive := fun routes => routes.Sound ∧ routes.FullInterval)
    (fun _ holds => holds.2) ?_ ?_ ⟨start_sound clock, nofun⟩ environment
  · rintro routes event next ⟨sound, full⟩ forward patient taken
    refine ⟨step_sound sound forward taken, ?_⟩
    by_cases pass : event = .runAlarmEvent
    · have steady := patient pass
      subst pass
      obtain ⟨last, _, kept, _, rfl⟩ := pass_done
        (motive := fun routes => ¬routes.Hasty ∧ routes.FullInterval)
        (fun _ _ _ _ => fired_patient) sound ⟨steady, full⟩ taken
      exact kept.2
    · by_cases clears : event = .clear
      · subst clears
        cases taken
        exact full
      · have settled := step_settled sound forward pass clears taken
        unfold FullInterval
        rw [settled.revocations]
        exact full
  · rintro routes event next ⟨sound, _⟩ _ hasty taken
    obtain ⟨rfl, early⟩ : event = .runAlarmEvent ∧ routes.Hasty := by simpa using hasty
    obtain ⟨last, soundLast, broken, finished, rfl⟩ := pass_done
      (motive := fun routes => routes.Hasty ∨ ¬routes.FullInterval)
      (fun _ _ _ _ sound _ => fired_hasty sound) sound (Or.inl early) taken
    exact broken.resolve_left (soundLast.not_hasty finished)

def hostRoute (node : Nat) : RouteEvent :=
  .construct (.ofInAddr ⟨10, 0, 0, 2⟩) .fullMask 1 2 false node

def steadyRun : List RouteEvent :=
  [hostRoute 1, .elapse 2000000, .keepAlive 0 2, .elapse 8000000, .runAlarmEvent]

theorem steadyRun_interval : Throughout (step .debug) FullInterval (start 0) steadyRun :=
  (keepAlive_interval_iff .debug (le_refl 0) steadyRun (by decide)).mpr (by decide)

-- the refresh half a second after the entry was made is too near to move its deadline
def nearRun : List RouteEvent :=
  [hostRoute 1, .elapse 500000, .keepAlive 0 2, .elapse 6000000, .runAlarmEvent]

theorem nearRun_early : Allowed (step .debug) forward (start 0) nearRun ∧
    (∃ final, execute (step .debug) (start 0) nearRun = .done final ∧
      final.revocations = [⟨500000, 6000000⟩]) ∧
    ¬Throughout (step .debug) FullInterval (start 0) nearRun := by
  refine ⟨by decide, ⟨_, rfl, rfl⟩, fun full => ?_⟩
  have last := full nearRun List.prefix_rfl _ rfl
  have early := last ⟨500000, 6000000⟩ List.mem_cons_self
  exact absurd early (by decide)

/-! Whether the entry is still there. -/

theorem Sound.pending (sound : routes.Sound) :
    routes.registry.pending = routes.registry.server.alarmMap := by
  unfold Registry.pending
  split
  · rename_i entry firing
    exact absurd firing (sound.calm entry)
  · rfl

theorem Reaches.fired {alarm : EpollAlarm} {entry : AlarmEntry} (reaches : routes.Reaches)
    (route : Route) : (routes.fired alarm entry route).Reaches := by
  intro other member
  obtain ⟨owner, present, mine⟩ := reaches other (mem_dropAt.mp member).1
  have kept (route : Route) : route.revokeRoute.ttlAlarm = route.ttlAlarm := rfl
  obtain ⟨after, still, same⟩ := alarms_replaceAt kept owner present
  exact ⟨after, still, same.trans mine⟩

theorem rounds_inside {count : Nat} (sound : routes.Sound)
    (looping : routes.registry.phase = .looping) (reaches : routes.Reaches) :
    rounds count routes ≠ .outOfBounds := by
  induction count generalizing routes with
  | zero => exact nofun
  | succ count ih =>
      rcases rounds_cases sound looping count with
        ⟨left, _⟩ | ⟨alarm, entry, due, ⟨_, removed⟩ | ⟨route, _, _, fires⟩⟩
      · rw [left]
        exact nofun
      · obtain ⟨owner, present, mine⟩ := reaches entry due.listed
        have place := (sound.owns owner present entry.alarm mine).1
        have here : entry.alarm = alarm.place := congrArg (·.1) due.claimed
        exact absurd (List.mem_map.mpr ⟨owner, present, place.symm.trans here⟩) removed
      · rw [fires]
        exact ih (sound.fired looping due route) rfl (reaches.fired route)

theorem step_inside (sound : routes.Sound) (reaches : routes.Reaches) (event : RouteEvent) :
    routes.step build event ≠ .outOfBounds := by
  cases event with
  | construct dest mask device metric immortal node =>
      rw [step]
      split
      · rename_i fresh
        cases immortal with
        | true => exact nofun
        | false =>
            obtain ⟨_, constructed, _⟩ :=
              construct_mortal sound build dest mask device metric fresh
            rw [constructed]
            exact nofun
      · exact nofun
  | keepAlive object node =>
      rw [step]
      split
      · exact nofun
      · rename_i route found
        split
        · rename_i fresh
          cases mortal : route.ttlAlarm with
          | none =>
              rw [keepAlive, mortal]
              exact nofun
          | some alarm =>
              obtain ⟨_, kept, _⟩ :=
                keepAlive_mortal sound build (entryAt_some found).1 mortal fresh
              rw [kept]
              exact nofun
        · exact nofun
  | clear => exact nofun
  | elapse now => exact nofun
  | runAlarmEvent =>
      have turned : ({ routes with registry.phase := .looping } : Routes).Sound := sound.turn nofun
      exact rounds_inside turned rfl reaches

/-- No alarm is waiting when the entries go. -/
def sparesAlarms (routes : Routes) (event : RouteEvent) : Prop :=
  event = .clear → ∀ alarm ∈ routes.registry.alarms, alarm.isSet = false

instance decidableSparesAlarms (routes : Routes) (event : RouteEvent) :
    Decidable (routes.sparesAlarms event) :=
  inferInstanceAs (Decidable (_ → _))

theorem Reaches.step (sound : routes.Sound) (reaches : routes.Reaches) {event : RouteEvent}
    (forward : routes.forward event) (spares : routes.sparesAlarms event)
    (taken : routes.step build event = .done next) : next.Reaches := by
  by_cases pass : event = .runAlarmEvent
  · subst pass
    obtain ⟨last, _, kept, _, rfl⟩ := pass_done (motive := Reaches)
      (fun _ _ _ route _ _ _ _ reaches => reaches.fired route) sound reaches taken
    exact kept
  by_cases clears : event = .clear
  · have off := spares clears
    subst clears
    cases taken
    intro entry waiting
    rw [← sound.pending] at waiting
    obtain ⟨alarm, member, set, _⟩ := sound.consistent.alarm_of_entry waiting
    exact absurd ((off alarm member).symm.trans set) nofun
  exact (step_settled sound forward pass clears taken).reaches reaches

/-- Timeouts reach entries of the table only, exactly when the table is never cleared or destroyed
while the alarm of an entry is set. -/
theorem timeouts_reach_iff (build : Build) {now : Int} (clock : 0 ≤ now)
    (events : List RouteEvent) (environment : Allowed (step build) forward (start now) events) :
    (Throughout (step build) Reaches (start now) events ↔
      Allowed (step build) sparesAlarms (start now) events) ∧
    (Throughout (step build) Reaches (start now) events →
      execute (step build) (start now) events ≠ .outOfBounds) := by
  have initial : (start now).Sound ∧ (start now).Reaches :=
    ⟨start_sound clock, List.forall_mem_nil _⟩
  have exactly : Throughout (step build) Reaches (start now) events ↔
      Allowed (step build) sparesAlarms (start now) events := by
    refine throughout_iff (motive := fun routes => routes.Sound ∧ routes.Reaches)
      (fun _ holds => holds.2) ?_ ?_ initial environment
    · rintro routes event next ⟨sound, reaches⟩ forward spares taken
      exact ⟨step_sound sound forward taken, reaches.step sound forward spares taken⟩
    · rintro routes event next ⟨sound, _⟩ _ hasty taken reaches
      unfold sparesAlarms at hasty
      push Not at hasty
      obtain ⟨rfl, alarm, member, set⟩ := hasty
      cases taken
      obtain ⟨entry, waiting, _⟩ :=
        sound.consistent.entry_of_set member (Bool.not_eq_false _ ▸ set)
      obtain ⟨_, absent, _⟩ := reaches entry (mem_pending waiting)
      exact absurd absent List.not_mem_nil
  refine ⟨exactly, fun holds => ?_⟩
  refine execute_inside (motive := fun routes => routes.Sound ∧ routes.Reaches)
    (fun _ event holds => step_inside holds.1 holds.2 event) ?_ initial
    (allowed_and environment (exactly.mp holds))
  rintro routes event next ⟨sound, reaches⟩ ⟨forward, spares⟩ taken
  exact ⟨step_sound sound forward taken, reaches.step sound forward spares taken⟩

def timelyRun : List RouteEvent :=
  [hostRoute 1, hostRoute 2, .elapse 6000000, .runAlarmEvent, .clear, hostRoute 3,
    .elapse 12000000, .runAlarmEvent]

theorem timelyRun_reaches : Throughout (step .debug) Reaches (start 0) timelyRun :=
  (timeouts_reach_iff .debug (le_refl 0) timelyRun (by decide)).1.mpr (by decide)

def clearedRun : List RouteEvent := [hostRoute 1, .clear, .elapse 6000000, .runAlarmEvent]

theorem clearedRun_dangles : Allowed (step .debug) forward (start 0) clearedRun ∧
    execute (step .debug) (start 0) clearedRun = .outOfBounds ∧
    ¬Throughout (step .debug) Reaches (start 0) clearedRun := by
  refine ⟨by decide, rfl, fun holds => ?_⟩
  have cleared := holds [hostRoute 1, .clear] (by decide) _ rfl
  obtain ⟨_, absent, _⟩ := cleared ⟨6000000, 0, 1⟩ List.mem_cons_self
  exact absurd absent List.not_mem_nil

end Routes

end LabNetstack
