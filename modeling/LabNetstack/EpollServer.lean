import LabNetstack.EpollServerCore
import Mathlib.Logic.Relation
import Mathlib.Tactic.Linarith

/-! The registry of alarms over whole runs. Every call of an alarm comes down to four changes,
and the registry and the alarms keep telling the same story through each of them, also while
`fire` holds an entry that no alarm claims any more. -/

namespace LabNetstack

open Relation (ReflTransGen)

def AlarmEntry.claim (entry : AlarmEntry) : Nat × TimeBase × Option Nat :=
  (entry.alarm, entry.key, some entry.node)

def EpollAlarm.claim (alarm : EpollAlarm) : Nat × TimeBase × Option Nat :=
  (alarm.place, alarm.deadline, alarm.token)

theorem EpollAlarm.isSet_iff {alarm : EpollAlarm} : alarm.isSet = true ↔ alarm.deadline ≠ 0 := by
  rw [Alarm.isSet, bne_iff_ne]

namespace Registry

variable {build : Build} {registry next : Registry}

def setAlarms (registry : Registry) : List EpollAlarm := registry.alarms.filter (·.isSet)

/-- The entries that are waiting for their turn. -/
def pending (registry : Registry) : List AlarmEntry :=
  match registry.phase with
  | .firing entry => dropAt AlarmEntry.node entry.node registry.server.alarmMap
  | _ => registry.server.alarmMap

/-- All armings so far, by what has become of them. -/
def armed (registry : Registry) : List Nat :=
  registry.setAlarms.map EpollAlarm.arming ++
    (registry.server.log.cancelled ++ registry.server.log.fired)

structure Consistent (registry : Registry) : Prop where
  places : (registry.alarms.map EpollAlarm.place).Nodup
  nodes : (registry.server.alarmMap.map AlarmEntry.node).Nodup
  ordered : registry.server.alarmMap.Pairwise fun first second => first.key ≤ second.key
  held : ∀ entry, registry.phase = .firing entry → entry ∈ registry.server.alarmMap
  claims : (registry.pending.map AlarmEntry.claim).Perm (registry.setAlarms.map EpollAlarm.claim)
  once : registry.armed.Nodup
  counted : ∀ arming ∈ registry.armed, arming < registry.server.log.armings
  due : ∀ invocation ∈ registry.server.log.invocations,
    invocation.deadline ≠ 0 ∧ invocation.deadline ≤ invocation.time

theorem start_consistent (time : Timeval) : (start time).Consistent := by
  refine ⟨List.nodup_nil, List.nodup_nil, List.Pairwise.nil, ?_, List.Perm.refl _,
    List.nodup_nil, ?_, ?_⟩
  · intro entry firing
    cases firing
  · intro arming member
    cases member
  · intro invocation member
    cases member

/-! What the alarms and the entries of a consistent registry have to do with each other. -/

theorem mem_pending {entry : AlarmEntry} (member : entry ∈ registry.pending) :
    entry ∈ registry.server.alarmMap := by
  unfold pending at member
  split at member
  · exact (mem_dropAt.mp member).1
  · exact member

theorem Consistent.entry_of_set (consistent : registry.Consistent) {alarm : EpollAlarm}
    (member : alarm ∈ registry.alarms) (set : alarm.isSet = true) :
    ∃ entry ∈ registry.pending, entry.claim = alarm.claim := by
  have claimed : alarm.claim ∈ registry.setAlarms.map EpollAlarm.claim :=
    List.mem_map_of_mem (List.mem_filter.mpr ⟨member, set⟩)
  exact List.mem_map.mp (consistent.claims.mem_iff.mpr claimed)

theorem Consistent.alarm_of_entry (consistent : registry.Consistent) {entry : AlarmEntry}
    (member : entry ∈ registry.pending) :
    ∃ alarm ∈ registry.alarms, alarm.isSet = true ∧ alarm.claim = entry.claim := by
  have claimed := consistent.claims.mem_iff.mp (List.mem_map_of_mem member)
  obtain ⟨alarm, present, same⟩ := List.mem_map.mp claimed
  obtain ⟨live, set⟩ := List.mem_filter.mp present
  exact ⟨alarm, live, set, same⟩

/-- The arming of an alarm that is set was neither cancelled nor fired. -/
theorem Consistent.not_ended (consistent : registry.Consistent) {alarm : EpollAlarm}
    (member : alarm ∈ registry.alarms) (set : alarm.isSet = true) :
    alarm.arming ∉ registry.server.log.cancelled ++ registry.server.log.fired := by
  intro ended
  have armed : alarm.arming ∈ registry.setAlarms.map EpollAlarm.arming :=
    List.mem_map_of_mem (List.mem_filter.mpr ⟨member, set⟩)
  exact (List.nodup_append.mp consistent.once).2.2 _ armed _ ended rfl

/-! How arming and disarming change the list of set alarms. -/

theorem setAlarms_arm {alarms : List EpollAlarm} {alarm after : EpollAlarm}
    (unique : (alarms.map EpollAlarm.place).Nodup) (member : alarm ∈ alarms)
    (unset : alarm.isSet = false) (set : after.isSet = true) :
    ((replaceAt EpollAlarm.place alarm.place (fun _ => after) alarms).filter (·.isSet)).Perm
      (after :: alarms.filter (·.isSet)) := by
  have changed := (replaceAt_perm unique member fun _ => after).filter (·.isSet)
  have before := (perm_cons_dropAt unique member).filter (·.isSet)
  rw [List.filter_cons_of_pos (by exact set)] at changed
  rw [List.filter_cons_of_neg (by simp [unset])] at before
  exact changed.trans (before.symm.cons after)

theorem setAlarms_disarm {alarms : List EpollAlarm} {alarm after : EpollAlarm}
    (unique : (alarms.map EpollAlarm.place).Nodup) (member : alarm ∈ alarms)
    (set : alarm.isSet = true) (unset : after.isSet = false) :
    (alarms.filter (·.isSet)).Perm
      (alarm :: (replaceAt EpollAlarm.place alarm.place (fun _ => after) alarms).filter (·.isSet)) := by
  have changed := (replaceAt_perm unique member fun _ => after).filter (·.isSet)
  have before := (perm_cons_dropAt unique member).filter (·.isSet)
  rw [List.filter_cons_of_neg (by simp [unset])] at changed
  rw [List.filter_cons_of_pos (by exact set)] at before
  exact before.trans (changed.symm.cons alarm)

/-! The changes that calls are made of. -/

def arm (registry : Registry) (alarm : EpollAlarm) (deadline : TimeBase) (node : Nat) : Registry :=
  let after := EpollAlarm.setImpl { alarm with deadline := deadline } registry.server node
  { registry with
    server := after.2
    alarms := replaceAt EpollAlarm.place alarm.place (fun _ => after.1) registry.alarms }

def unset (registry : Registry) (alarm : EpollAlarm) : List EpollAlarm :=
  replaceAt EpollAlarm.place alarm.place (fun _ => { alarm with deadline := 0 }) registry.alarms

def disarm (registry : Registry) (alarm : EpollAlarm) (node : Nat) : Registry :=
  { registry with
    server := ({ registry.server with
      alarmMap := dropAt AlarmEntry.node node registry.server.alarmMap } : EpollServer).logCancel
        alarm.arming
    alarms := registry.unset alarm }

inductive Touch (place : Nat) : Registry → Registry → Prop
  | create {registry : Registry} (free : place ∉ registry.alarms.map EpollAlarm.place) :
      Touch place registry { registry with alarms := .create place :: registry.alarms }
  | remove {registry : Registry} {alarm : EpollAlarm} (member : alarm ∈ registry.alarms)
      (here : alarm.place = place) (off : alarm.isSet = false) :
      Touch place registry { registry with alarms := dropAt EpollAlarm.place place registry.alarms }
  | arm {registry : Registry} {alarm : EpollAlarm} {deadline : TimeBase} {node : Nat}
      (member : alarm ∈ registry.alarms) (here : alarm.place = place) (off : alarm.isSet = false)
      (initialized : deadline ≠ 0) (fresh : node ∉ registry.server.alarmMap.map AlarmEntry.node) :
      Touch place registry (registry.arm alarm deadline node)
  | disarm {registry : Registry} {alarm : EpollAlarm} {entry : AlarmEntry}
      (member : alarm ∈ registry.alarms) (here : alarm.place = place) (set : alarm.isSet = true)
      (waiting : entry ∈ registry.pending) (claimed : entry.claim = alarm.claim) :
      Touch place registry (registry.disarm alarm entry.node)

theorem pending_arm (consistent : registry.Consistent) {alarm : EpollAlarm} {deadline : TimeBase}
    {node : Nat} (fresh : node ∉ registry.server.alarmMap.map AlarmEntry.node) :
    (registry.arm alarm deadline node).pending.Perm
      (⟨deadline, alarm.place, node⟩ :: registry.pending) := by
  have grown : (registry.arm alarm deadline node).server.alarmMap.Perm
      (⟨deadline, alarm.place, node⟩ :: registry.server.alarmMap) := emplace_perm _ _
  unfold pending
  change List.Perm (match registry.phase with | .firing _ => _ | _ => _) _
  cases stands : registry.phase with
  | idle => exact grown
  | looping => exact grown
  | firing entry =>
      have other : node ≠ entry.node := by
        rintro rfl
        exact fresh (List.mem_map_of_mem (consistent.held entry stands))
      have rest := grown.filter fun kept => decide (kept.node ≠ entry.node)
      rwa [List.filter_cons_of_pos (by simpa using other)] at rest

theorem pending_disarm (consistent : registry.Consistent) {alarm : EpollAlarm} {entry : AlarmEntry}
    (waiting : entry ∈ registry.pending) :
    registry.pending.Perm (entry :: (registry.disarm alarm entry.node).pending) := by
  have split : registry.pending.Perm (entry :: dropAt AlarmEntry.node entry.node registry.pending) := by
    refine perm_cons_dropAt ?_ waiting
    unfold pending
    split
    · exact nodup_map_dropAt consistent.nodes
    · exact consistent.nodes
  refine split.trans (List.Perm.of_eq (congrArg (entry :: ·) ?_))
  unfold pending
  change _ = (match registry.phase with | .firing _ => _ | _ => _)
  cases registry.phase with
  | idle => rfl
  | looping => rfl
  | firing held => exact List.filter_comm _ _ _

/-- A set alarm gives up its claim along with the entry. -/
theorem claims_drop (consistent : registry.Consistent) {alarm : EpollAlarm} {entry : AlarmEntry}
    (member : alarm ∈ registry.alarms) (set : alarm.isSet = true)
    (claimed : entry.claim = alarm.claim) (dropped : registry.pending.Perm (entry :: next.pending))
    (changed : next.alarms = registry.unset alarm) :
    (next.pending.map AlarmEntry.claim).Perm (next.setAlarms.map EpollAlarm.claim) := by
  have entries := dropped.map AlarmEntry.claim
  have alarms := (setAlarms_disarm consistent.places member set rfl :
    registry.setAlarms.Perm (alarm :: (registry.unset alarm).filter (·.isSet))).map EpollAlarm.claim
  have both := (entries.symm.trans consistent.claims).trans alarms
  rw [List.map_cons, List.map_cons, claimed] at both
  rw [setAlarms, changed]
  exact both.cons_inv

theorem armed_drop (consistent : registry.Consistent) {alarm : EpollAlarm}
    (member : alarm ∈ registry.alarms) (set : alarm.isSet = true)
    (changed : next.alarms = registry.unset alarm)
    (logged : (next.server.log.cancelled ++ next.server.log.fired).Perm
      (alarm.arming :: (registry.server.log.cancelled ++ registry.server.log.fired))) :
    next.armed.Perm registry.armed := by
  have alarms := (setAlarms_disarm consistent.places member set rfl :
    registry.setAlarms.Perm (alarm :: (registry.unset alarm).filter (·.isSet))).map EpollAlarm.arming
  rw [armed, armed, setAlarms, changed]
  refine (logged.append_left _).trans (List.perm_middle.trans ?_)
  exact (alarms.symm.append_right _)

theorem disarm_consistent (consistent : registry.Consistent) {alarm : EpollAlarm}
    {entry : AlarmEntry} (member : alarm ∈ registry.alarms) (set : alarm.isSet = true)
    (waiting : entry ∈ registry.pending) (claimed : entry.claim = alarm.claim) :
    (registry.disarm alarm entry.node).Consistent := by
  have same : (registry.disarm alarm entry.node).armed.Perm registry.armed :=
    armed_drop consistent member set rfl (List.Perm.refl _)
  refine
    { places := nodup_replaceAt (by rfl) consistent.places
      nodes := nodup_map_dropAt consistent.nodes
      ordered := pairwise_dropAt consistent.ordered
      held := ?_
      claims := claims_drop consistent member set claimed (pending_disarm consistent waiting) rfl
      once := same.nodup_iff.mpr consistent.once
      counted := fun arming present => consistent.counted arming (same.mem_iff.mp present)
      due := consistent.due }
  · intro held firing
    have stands : registry.phase = .firing held := firing
    refine mem_dropAt.mpr ⟨consistent.held held stands, fun clash => ?_⟩
    rw [pending, stands] at waiting
    exact (mem_dropAt.mp waiting).2 clash.symm

theorem arm_consistent (consistent : registry.Consistent) {alarm : EpollAlarm}
    {deadline : TimeBase} {node : Nat} (member : alarm ∈ registry.alarms)
    (off : alarm.isSet = false) (initialized : deadline ≠ 0)
    (fresh : node ∉ registry.server.alarmMap.map AlarmEntry.node) :
    (registry.arm alarm deadline node).Consistent := by
  have grown : (registry.arm alarm deadline node).server.alarmMap.Perm
      (⟨deadline, alarm.place, node⟩ :: registry.server.alarmMap) := emplace_perm _ _
  have alarms : (registry.arm alarm deadline node).setAlarms.Perm
      ((EpollAlarm.setImpl { alarm with deadline := deadline } registry.server node).1 ::
        registry.setAlarms) :=
    setAlarms_arm consistent.places member off (EpollAlarm.isSet_iff.mpr initialized)
  have armings : (registry.arm alarm deadline node).armed.Perm
      (registry.server.log.armings :: registry.armed) :=
    (alarms.map EpollAlarm.arming).append_right _
  refine
    { places := nodup_replaceAt (by rfl) consistent.places
      nodes := ?_
      ordered := emplace_ordered consistent.ordered
      held := ?_
      claims := ?_
      once := ?_
      counted := ?_
      due := consistent.due }
  · refine (grown.map AlarmEntry.node).nodup_iff.mpr ?_
    exact List.nodup_cons.mpr ⟨fresh, consistent.nodes⟩
  · intro held firing
    exact mem_emplace.mpr (Or.inr (consistent.held held firing))
  · refine ((pending_arm consistent fresh).map _).trans ?_
    refine List.Perm.trans ?_ (alarms.map _).symm
    exact consistent.claims.cons _
  · refine armings.nodup_iff.mpr (List.nodup_cons.mpr ⟨fun present => ?_, consistent.once⟩)
    exact Nat.lt_irrefl _ (consistent.counted _ present)
  · intro arming present
    rcases List.mem_cons.mp (armings.mem_iff.mp present) with rfl | earlier
    · exact Nat.lt_succ_self _
    · exact Nat.lt_succ_of_lt (consistent.counted arming earlier)

theorem create_consistent (consistent : registry.Consistent) {place : Nat}
    (free : place ∉ registry.alarms.map EpollAlarm.place) :
    ({ registry with alarms := .create place :: registry.alarms } : Registry).Consistent :=
  { consistent with places := List.nodup_cons.mpr ⟨free, consistent.places⟩ }

theorem remove_consistent (consistent : registry.Consistent) {alarm : EpollAlarm}
    (member : alarm ∈ registry.alarms) (off : alarm.isSet = false) :
    ({ registry with
      alarms := dropAt EpollAlarm.place alarm.place registry.alarms } : Registry).Consistent := by
  have split := (perm_cons_dropAt consistent.places member).filter (·.isSet)
  rw [List.filter_cons_of_neg (by simp [off])] at split
  have armings := (split.map EpollAlarm.arming).append_right
    (registry.server.log.cancelled ++ registry.server.log.fired)
  exact
    { places := nodup_map_dropAt consistent.places
      nodes := consistent.nodes
      ordered := consistent.ordered
      held := consistent.held
      claims := consistent.claims.trans (split.map _)
      once := armings.nodup_iff.mp consistent.once
      counted := fun arming present => consistent.counted arming (armings.mem_iff.mpr present)
      due := consistent.due }

theorem Touch.consistent {place : Nat} (touched : Touch place registry next)
    (consistent : registry.Consistent) : next.Consistent := by
  cases touched with
  | create free => exact create_consistent consistent free
  | remove member here off =>
      subst here
      exact remove_consistent consistent member off
  | arm member here off initialized fresh => exact arm_consistent consistent member off initialized fresh
  | disarm member here set waiting claimed => exact disarm_consistent consistent member set waiting claimed

theorem touches_consistent {place : Nat} (touched : ReflTransGen (Touch place) registry next)
    (consistent : registry.Consistent) : next.Consistent := by
  induction touched with
  | refl => exact consistent
  | tail _ last ih => exact last.consistent ih

/-- What calls of one alarm leave alone. -/
structure Framed (place : Nat) (registry next : Registry) : Prop where
  phase : next.phase = registry.phase
  now : next.server.now = registry.server.now
  invocations : next.server.log.invocations = registry.server.log.invocations
  others : ∀ alarm ∈ registry.alarms, alarm.place ≠ place → alarm ∈ next.alarms

theorem Touch.framed {place : Nat} (touched : Touch place registry next) :
    Framed place registry next := by
  cases touched with
  | create free => exact ⟨rfl, rfl, rfl, fun _ member _ => List.mem_cons_of_mem _ member⟩
  | remove _ _ _ => exact ⟨rfl, rfl, rfl, fun _ member apart => mem_dropAt.mpr ⟨member, apart⟩⟩
  | arm _ here _ _ _ =>
      exact ⟨rfl, rfl, rfl, fun _ member apart => mem_replaceAt.mpr (Or.inl ⟨member, here ▸ apart⟩)⟩
  | disarm _ here _ _ _ =>
      exact ⟨rfl, rfl, rfl, fun _ member apart => mem_replaceAt.mpr (Or.inl ⟨member, here ▸ apart⟩)⟩

theorem touches_framed {place : Nat} (touched : ReflTransGen (Touch place) registry next) :
    Framed place registry next := by
  induction touched with
  | refl => exact ⟨rfl, rfl, rfl, fun _ member _ => member⟩
  | tail _ last ih =>
      have framed := last.framed
      exact
        { phase := framed.phase.trans ih.phase
          now := framed.now.trans ih.now
          invocations := framed.invocations.trans ih.invocations
          others := fun alarm member apart =>
            framed.others alarm (ih.others alarm member apart) apart }

/-- What calls of one alarm add is its own. -/
structure Owned (place : Nat) (registry next : Registry) : Prop where
  alarms : ∀ alarm ∈ next.alarms, alarm ∈ registry.alarms ∨ alarm.place = place
  entries : ∀ entry ∈ next.server.alarmMap, entry ∈ registry.server.alarmMap ∨ entry.alarm = place

theorem Touch.owned {place : Nat} (touched : Touch place registry next) :
    Owned place registry next := by
  have replaced {alarm after other : EpollAlarm}
      (member : other ∈ replaceAt EpollAlarm.place alarm.place (fun _ => after) registry.alarms)
      (here : after.place = place) : other ∈ registry.alarms ∨ other.place = place := by
    rcases mem_replaceAt.mp member with ⟨old, _⟩ | ⟨_, _, _, rfl⟩
    · exact Or.inl old
    · exact Or.inr here
  cases touched with
  | create free =>
      refine ⟨fun alarm member => ?_, fun _ member => Or.inl member⟩
      rcases List.mem_cons.mp member with rfl | old
      · exact Or.inr rfl
      · exact Or.inl old
  | remove _ _ _ =>
      exact ⟨fun _ member => Or.inl (mem_dropAt.mp member).1, fun _ member => Or.inl member⟩
  | arm _ here _ _ _ =>
      refine ⟨fun _ member => replaced member here, fun entry member => ?_⟩
      rcases mem_emplace.mp member with rfl | old
      · exact Or.inr here
      · exact Or.inl old
  | disarm _ here _ _ _ =>
      exact ⟨fun _ member => replaced member here, fun _ member => Or.inl (mem_dropAt.mp member).1⟩

theorem touches_owned {place : Nat} (touched : ReflTransGen (Touch place) registry next) :
    Owned place registry next := by
  induction touched with
  | refl => exact ⟨fun _ member => Or.inl member, fun _ member => Or.inl member⟩
  | tail _ last ih =>
      have owned := last.owned
      refine ⟨fun alarm member => ?_, fun entry member => ?_⟩
      · exact (owned.alarms alarm member).elim (ih.alarms alarm) Or.inr
      · exact (owned.entries entry member).elim (ih.entries entry) Or.inr

/-! The calls, as changes. -/

theorem update_deadline {alarm : EpollAlarm} {server : EpollServer} {deadline granularity : Int}
    {node : Nat} {after : EpollAlarm × EpollServer} (initialized : deadline ≠ 0)
    (updated : alarm.update server deadline granularity node = .done after) :
    after.1.place = alarm.place ∧ after.1.deadline =
      if (deadline - alarm.deadline).natAbs < granularity then alarm.deadline else deadline := by
  rw [EpollAlarm.update, if_neg (by simpa using initialized)] at updated
  split at updated
  · rename_i near
    cases updated
    exact ⟨rfl, (if_pos near).symm⟩
  · rename_i far
    dsimp only at updated
    split at updated
    · obtain ⟨_, _, armed⟩ := Outcome.bind_eq_done.mp updated
      cases armed
      exact ⟨rfl, (if_neg far).symm⟩
    · cases updated
      exact ⟨rfl, (if_neg far).symm⟩

theorem on_alarm (consistent : registry.Consistent) {alarm : EpollAlarm}
    (member : alarm ∈ registry.alarms)
    (method : EpollAlarm → EpollServer → Outcome (EpollAlarm × EpollServer)) :
    registry.on alarm.place method = (method alarm registry.server >>= fun after =>
      pure { registry with
        server := after.2
        alarms := replaceAt EpollAlarm.place alarm.place (fun _ => after.1) registry.alarms }) := by
  rw [on, entryAt_of_mem consistent.places member]

theorem replace_same (consistent : registry.Consistent) {alarm : EpollAlarm}
    (member : alarm ∈ registry.alarms) :
    replaceAt EpollAlarm.place alarm.place (fun _ => alarm) registry.alarms = registry.alarms := by
  refine (List.map_congr_left fun other present => ?_).trans (List.map_id' registry.alarms)
  split
  · rename_i same
    exact List.inj_on_of_nodup_map consistent.places member present same.symm
  · rfl

theorem erase_entry {server : EpollServer} {entry : AlarmEntry} (member : entry ∈ server.alarmMap) :
    server.erase entry.node =
      .done { server with alarmMap := dropAt AlarmEntry.node entry.node server.alarmMap } :=
  if_pos (List.mem_map_of_mem member)

theorem cancelImpl_entry {server : EpollServer} {alarm : EpollAlarm} {entry : AlarmEntry}
    (member : entry ∈ server.alarmMap) (held : alarm.token = some entry.node) :
    ({ alarm with deadline := 0 } : EpollAlarm).cancelImpl server = .done (({ server with
      alarmMap := dropAt AlarmEntry.node entry.node server.alarmMap } : EpollServer).logCancel
        alarm.arming) := by
  rw [EpollAlarm.cancelImpl, held]
  change (server.erase entry.node >>= _) = _
  rw [erase_entry member]
  rfl

theorem cancel_touches (consistent : registry.Consistent) {alarm : EpollAlarm}
    (member : alarm ∈ registry.alarms) :
    ∃ next, registry.on alarm.place EpollAlarm.cancel = .done next ∧
      ReflTransGen (Touch alarm.place) registry next ∧
      ∃ after ∈ next.alarms, after.place = alarm.place ∧ after.isSet = false := by
  rw [on_alarm consistent member]
  cases set : alarm.isSet with
  | false =>
      refine ⟨registry, ?_, .refl, alarm, member, rfl, set⟩
      simp only [EpollAlarm.cancel, set, Bool.not_false, if_true, Outcome.done_bind,
        replace_same consistent member, Outcome.pure_eq]
  | true =>
      obtain ⟨entry, waiting, claimed⟩ := consistent.entry_of_set member set
      have held : alarm.token = some entry.node := (congrArg (·.2.2) claimed).symm
      refine ⟨registry.disarm alarm entry.node, ?_, .single (.disarm member rfl set waiting claimed),
        { alarm with deadline := 0 }, ?_, rfl, rfl⟩
      · simp only [EpollAlarm.cancel, set, Bool.not_true, Bool.false_eq_true, if_false]
        rw [cancelImpl_entry (mem_pending waiting) held]
        rfl
      · exact mem_replaceAt.mpr (Or.inr ⟨alarm, member, rfl, rfl⟩)

theorem vacated_unset (consistent : registry.Consistent) {alarm : EpollAlarm}
    (member : alarm ∈ registry.alarms) (off : alarm.isSet = false) :
    (registry.vacated alarm.place).server.alarmMap = registry.server.alarmMap := by
  refine List.filter_eq_self.mpr fun entry _ => List.all_eq_true.mpr fun other present => ?_
  by_cases same : other.place = alarm.place
  · rw [List.inj_on_of_nodup_map consistent.places present member same, off]
    simp
  · simp [same]

theorem vacated_set (consistent : registry.Consistent) {alarm : EpollAlarm}
    (member : alarm ∈ registry.alarms) (set : alarm.isSet = true) {own : Nat}
    (held : alarm.token = some own) :
    (registry.vacated alarm.place).server.alarmMap =
      dropAt AlarmEntry.node own registry.server.alarmMap := by
  refine List.filter_congr fun entry _ => Bool.eq_iff_iff.mpr ?_
  rw [List.all_eq_true, decide_eq_true_eq]
  constructor
  · intro spared same
    have mine := spared alarm member
    rw [set, held, same] at mine
    simp at mine
  · intro apart other present
    by_cases same : other.place = alarm.place
    · rw [List.inj_on_of_nodup_map consistent.places present member same, held]
      simp [Ne.symm apart]
    · simp [same]

theorem update_touches (consistent : registry.Consistent) {alarm : EpollAlarm}
    (member : alarm ∈ registry.alarms) (deadline : TimeBase) (granularity : Int) {node : Nat}
    (fresh : (registry.vacated alarm.place).unused node = true) :
    ∃ next, (registry.on alarm.place fun alarm server =>
        alarm.update server deadline granularity node) = .done next ∧
      ReflTransGen (Touch alarm.place) registry next := by
  by_cases uninitialized : deadline = 0
  · obtain ⟨next, called, touched, _⟩ := cancel_touches consistent member
    refine ⟨next, ?_, touched⟩
    rw [← called, on_alarm consistent member, on_alarm consistent member, EpollAlarm.update,
      if_pos (beq_iff_eq.mpr uninitialized)]
  rw [on_alarm consistent member, EpollAlarm.update, if_neg (by simpa using uninitialized)]
  by_cases near : ((deadline - alarm.deadline).natAbs : Int) < granularity
  · refine ⟨registry, ?_, .refl⟩
    simp only [near, if_true, Outcome.done_bind, replace_same consistent member, Outcome.pure_eq]
  rw [if_neg near]
  have free := of_decide_eq_true fresh
  cases set : alarm.isSet with
  | false =>
      rw [vacated_unset consistent member set] at free
      exact ⟨registry.arm alarm deadline node, rfl,
        .single (.arm member rfl set uninitialized free)⟩
  | true =>
      obtain ⟨entry, waiting, claimed⟩ := consistent.entry_of_set member set
      have held : alarm.token = some entry.node := (congrArg (·.2.2) claimed).symm
      have first : Touch alarm.place registry (registry.disarm alarm entry.node) :=
        .disarm member rfl set waiting claimed
      have still : ({ alarm with deadline := 0 } : EpollAlarm) ∈
          (registry.disarm alarm entry.node).alarms :=
        mem_replaceAt.mpr (Or.inr ⟨alarm, member, rfl, rfl⟩)
      rw [vacated_set consistent member set held] at free
      refine ⟨(registry.disarm alarm entry.node).arm { alarm with deadline := 0 } deadline node, ?_,
        .tail (.single first) (.arm still rfl rfl uninitialized free)⟩
      simp only [if_true, EpollAlarm.updateImpl]
      rw [cancelImpl_entry (mem_pending waiting) held]
      simp only [Outcome.done_bind, Outcome.pure_eq, arm, disarm, unset]
      rw [replaceAt_twice (by rfl)]

theorem set_done (build : Build) (consistent : registry.Consistent) {alarm : EpollAlarm}
    (member : alarm ∈ registry.alarms) (off : alarm.isSet = false) {deadline : TimeBase}
    (initialized : deadline ≠ 0) (node : Nat) :
    (registry.on alarm.place fun alarm server => alarm.set build server deadline node) =
      .done (registry.arm alarm deadline node) := by
  rw [on_alarm consistent member, EpollAlarm.set, dcheck_done (by simp [off]),
    dcheck_done (by simpa using initialized)]
  rfl

theorem set_touches (consistent : registry.Consistent) {alarm : EpollAlarm}
    (member : alarm ∈ registry.alarms) {deadline : TimeBase} {node : Nat}
    (fresh : node ∉ registry.server.alarmMap.map AlarmEntry.node)
    (passed : build = .release → alarm.isSet = false ∧ deadline ≠ 0)
    (called : (registry.on alarm.place fun alarm server =>
      alarm.set build server deadline node) = .done next) :
    ReflTransGen (Touch alarm.place) registry next := by
  have checks : alarm.isSet = false ∧ deadline ≠ 0 := by
    cases build with
    | release => exact passed rfl
    | debug =>
        rw [on_alarm consistent member] at called
        obtain ⟨_, reached, _⟩ := Outcome.bind_eq_done.mp called
        obtain ⟨_, first, later⟩ := Outcome.bind_eq_done.mp reached
        obtain ⟨_, second, _⟩ := Outcome.bind_eq_done.mp later
        cases set : alarm.isSet with
        | true => simp [dcheck, Outcome.require, set] at first
        | false =>
            refine ⟨rfl, ?_⟩
            rintro rfl
            simp [dcheck, Outcome.require] at second
  obtain ⟨off, initialized⟩ := checks
  rw [set_done build consistent member off initialized] at called
  cases called
  exact .single (.arm member rfl off initialized fresh)

theorem live_iff {place : Nat} :
    registry.live place = true ↔ ∃ alarm ∈ registry.alarms, alarm.place = place := by
  rw [live, decide_eq_true_eq, List.mem_map]

theorem call_touches (consistent : registry.Consistent) {call : AlarmCall}
    (offered : registry.offers call = true) (passed : registry.passes build (.call call) = true)
    (called : registry.call build call = .done next) :
    ReflTransGen (Touch call.place) registry next := by
  cases call with
  | create place =>
      cases called
      exact .single (.create (by simpa [offers, live, AlarmCall.place] using offered))
  | set place deadline node =>
      obtain ⟨present, unused⟩ := Bool.and_eq_true_iff.mp offered
      obtain ⟨alarm, member, rfl⟩ := live_iff.mp present
      refine set_touches consistent member (of_decide_eq_true unused) ?_ called
      rintro rfl
      obtain ⟨off, initialized⟩ := Bool.and_eq_true_iff.mp passed
      have here := List.all_eq_true.mp off alarm member
      simp only [bne_self_eq_false, Bool.false_or, Bool.not_eq_true'] at here
      exact ⟨here, bne_iff_ne.mp initialized⟩
  | update place deadline granularity node =>
      obtain ⟨present, unused⟩ := Bool.and_eq_true_iff.mp offered
      obtain ⟨alarm, member, rfl⟩ := live_iff.mp present
      obtain ⟨after, reached, touched⟩ := update_touches consistent member deadline granularity
        unused
      cases reached.symm.trans called
      exact touched
  | cancel place =>
      obtain ⟨alarm, member, rfl⟩ := live_iff.mp offered
      obtain ⟨after, reached, touched, _⟩ := cancel_touches consistent member
      cases reached.symm.trans called
      exact touched
  | destroy place =>
      obtain ⟨alarm, member, rfl⟩ := live_iff.mp offered
      obtain ⟨after, reached, touched, gone, still, here, off⟩ := cancel_touches consistent member
      rw [Registry.call, reached] at called
      cases called
      exact touched.tail (.remove still here off)

/-- Only a check of `set` stops a call, in the debug build. -/
theorem call_completes (build : Build) (consistent : registry.Consistent) {call : AlarmCall}
    (offered : registry.offers call = true) :
    (∃ next, registry.call build call = .done next) ∨
      build = .debug ∧ registry.passes .release (.call call) = false ∧
        registry.call build call = .aborted := by
  cases call with
  | create place => exact Or.inl ⟨_, rfl⟩
  | set place deadline node =>
      obtain ⟨alarm, member, rfl⟩ := live_iff.mp (Bool.and_eq_true_iff.mp offered).1
      rw [call, on_alarm consistent member, EpollAlarm.set]
      cases build with
      | release => exact Or.inl ⟨_, rfl⟩
      | debug =>
          cases set : alarm.isSet with
          | true =>
              refine Or.inr ⟨rfl, Bool.and_eq_false_iff.mpr (Or.inl ?_), rfl⟩
              exact List.all_eq_false.mpr ⟨alarm, member, by simp [set]⟩
          | false =>
              cases initialized : deadline != 0 with
              | false =>
                  exact Or.inr ⟨rfl, Bool.and_eq_false_iff.mpr (Or.inr initialized), rfl⟩
              | true => exact Or.inl ⟨_, rfl⟩
  | update place deadline granularity node =>
      obtain ⟨present, unused⟩ := Bool.and_eq_true_iff.mp offered
      obtain ⟨alarm, member, rfl⟩ := live_iff.mp present
      obtain ⟨after, reached, _⟩ := update_touches consistent member deadline granularity unused
      exact Or.inl ⟨after, reached⟩
  | cancel place =>
      obtain ⟨alarm, member, rfl⟩ := live_iff.mp offered
      obtain ⟨after, reached, _⟩ := cancel_touches consistent member
      exact Or.inl ⟨after, reached⟩
  | destroy place =>
      obtain ⟨alarm, member, rfl⟩ := live_iff.mp offered
      obtain ⟨after, reached, _⟩ := cancel_touches consistent member
      rw [call, reached]
      exact Or.inl ⟨_, rfl⟩

theorem call_inside (consistent : registry.Consistent) {call : AlarmCall}
    (offered : registry.offers call = true) : registry.call build call ≠ .outOfBounds := by
  rcases call_completes build consistent offered with ⟨after, reached⟩ | ⟨_, _, stopped⟩
  · rw [reached]
    exact nofun
  · rw [stopped]
    exact nofun

/-! The rounds of `runAlarmEvent`. -/

def fire (registry : Registry) (alarm : EpollAlarm) (entry : AlarmEntry) : Registry :=
  { server := registry.server.logInvocation alarm
    alarms := registry.unset alarm
    phase := .firing entry }

def finish (registry : Registry) (entry : AlarmEntry) : Registry :=
  { registry with
    server := { registry.server with
      alarmMap := dropAt AlarmEntry.node entry.node registry.server.alarmMap }
    phase := .looping }

theorem fire_consistent (consistent : registry.Consistent) {alarm : EpollAlarm}
    {entry : AlarmEntry} (looping : registry.phase = .looping)
    (first : entry ∈ registry.server.alarmMap) (due : entry.key ≤ registry.server.now)
    (member : alarm ∈ registry.alarms) (set : alarm.isSet = true)
    (claimed : entry.claim = alarm.claim) : (registry.fire alarm entry).Consistent := by
  have dropped : registry.pending.Perm (entry :: (registry.fire alarm entry).pending) := by
    rw [pending, looping]
    exact perm_cons_dropAt consistent.nodes first
  have same : (registry.fire alarm entry).armed.Perm registry.armed :=
    armed_drop consistent member set rfl List.perm_middle
  refine
    { places := nodup_replaceAt (by rfl) consistent.places
      nodes := consistent.nodes
      ordered := consistent.ordered
      held := ?_
      claims := claims_drop consistent member set claimed dropped rfl
      once := same.nodup_iff.mpr consistent.once
      counted := fun arming present => consistent.counted arming (same.mem_iff.mp present)
      due := ?_ }
  · intro held firing
    cases firing
    exact first
  · intro invocation present
    rcases List.mem_cons.mp present with rfl | earlier
    · have deadline : entry.key = alarm.deadline := congrArg (·.2.1) claimed
      exact ⟨EpollAlarm.isSet_iff.mp set, deadline ▸ due⟩
    · exact consistent.due invocation earlier

theorem finish_consistent (consistent : registry.Consistent) {entry : AlarmEntry}
    (firing : registry.phase = .firing entry) : (registry.finish entry).Consistent := by
  have same : (registry.finish entry).pending = registry.pending := by
    rw [pending, pending, firing]
    rfl
  exact
    { places := consistent.places
      nodes := nodup_map_dropAt consistent.nodes
      ordered := pairwise_dropAt consistent.ordered
      held := nofun
      claims := same ▸ consistent.claims
      once := consistent.once
      counted := consistent.counted
      due := consistent.due }

theorem phase_consistent (consistent : registry.Consistent) {before after : AlarmPhase}
    (stands : registry.phase = before) (outside : ∀ entry, before ≠ .firing entry)
    (leaves : ∀ entry, after ≠ .firing entry) :
    ({ registry with phase := after } : Registry).Consistent := by
  have same : ({ registry with phase := after } : Registry).pending = registry.pending := by
    rw [pending, pending, stands]
    cases after <;> cases before <;> simp_all
  exact
    { consistent with
      held := fun entry other => absurd other (leaves entry)
      claims := same ▸ consistent.claims }

/-- What an event can do to a consistent registry. -/
inductive Effect : AlarmEvent → Registry → Registry → Prop
  | nothing {event : AlarmEvent} {registry : Registry} : Effect event registry registry
  | called {call : AlarmCall} {registry next : Registry}
      (touched : ReflTransGen (Touch call.place) registry next) : Effect (.call call) registry next
  | ticked {time : Timeval} {registry : Registry} (idle : registry.phase = .idle) :
      Effect (.updateNow time) registry { registry with server := registry.server.updateNow time }
  | entered {registry : Registry} (idle : registry.phase = .idle) :
      Effect .runAlarmEvent registry { registry with phase := .looping }
  | left {registry : Registry} (looping : registry.phase = .looping)
      (finished : ∀ entry ∈ registry.server.alarmMap, registry.server.now < entry.key) :
      Effect .advance registry { registry with phase := .idle }
  | fired {registry : Registry} {alarm : EpollAlarm} {entry : AlarmEntry}
      (looping : registry.phase = .looping) (first : entry ∈ registry.server.alarmMap)
      (due : entry.key ≤ registry.server.now) (member : alarm ∈ registry.alarms)
      (set : alarm.isSet = true) (claimed : entry.claim = alarm.claim) :
      Effect .advance registry (registry.fire alarm entry)
  | returned {registry : Registry} {entry : AlarmEntry} (firing : registry.phase = .firing entry) :
      Effect .returned registry (registry.finish entry)

theorem Effect.consistent {event : AlarmEvent} (effect : Effect event registry next)
    (consistent : registry.Consistent) : next.Consistent := by
  cases effect with
  | nothing => exact consistent
  | called touched => exact touches_consistent touched consistent
  | ticked idle => exact { consistent with }
  | entered idle => exact phase_consistent consistent idle nofun nofun
  | left looping finished => exact phase_consistent consistent looping nofun nofun
  | fired looping first due member set claimed =>
      exact fire_consistent consistent looping first due member set claimed
  | returned firing => exact finish_consistent consistent firing

/-- The entry at the head of the map belongs to a set alarm, so `fire` reaches its delegate. -/
theorem advance_cases (consistent : registry.Consistent) (looping : registry.phase = .looping) :
    (registry.advance = .done { registry with phase := .idle } ∧
      ∀ entry ∈ registry.server.alarmMap, registry.server.now < entry.key) ∨
    ∃ alarm ∈ registry.alarms, ∃ entry ∈ registry.server.alarmMap,
      registry.advance = .done (registry.fire alarm entry) ∧
      entry.key ≤ registry.server.now ∧ alarm.isSet = true ∧ entry.claim = alarm.claim := by
  unfold advance
  cases shape : registry.server.alarmMap with
  | nil => exact Or.inl ⟨rfl, by simp⟩
  | cons entry entries =>
      have first : entry ∈ registry.server.alarmMap := by simp [shape]
      by_cases early : registry.server.now < entry.key
      · refine Or.inl ⟨if_pos early, ?_⟩
        have ordered := consistent.ordered
        rw [shape, List.pairwise_cons] at ordered
        intro other member
        rcases List.mem_cons.mp member with rfl | later
        · exact early
        · exact lt_of_lt_of_le early (ordered.1 other later)
      · have waiting : entry ∈ registry.pending := by
          rw [pending, looping]
          exact first
        obtain ⟨alarm, member, set, claimed⟩ := consistent.alarm_of_entry waiting
        have here : alarm.place = entry.alarm := congrArg (·.1) claimed
        refine Or.inr ⟨alarm, member, entry, List.mem_cons_self, ?_, not_lt.mp early, set,
          claimed.symm⟩
        simp only [early, if_false, ← here, entryAt_of_mem consistent.places member, set,
          Bool.not_true, Bool.false_eq_true]
        rfl

theorem advance_effect (consistent : registry.Consistent) (looping : registry.phase = .looping) :
    ∃ next, registry.advance = .done next ∧ Effect .advance registry next := by
  rcases advance_cases consistent looping with
    ⟨left, finished⟩ | ⟨alarm, member, entry, first, fired, due, set, claimed⟩
  · exact ⟨_, left, .left looping finished⟩
  · exact ⟨_, fired, .fired looping first due member set claimed⟩

theorem returned_effect (consistent : registry.Consistent) {entry : AlarmEntry}
    (firing : registry.phase = .firing entry) :
    registry.returned entry = .done (registry.finish entry) := by
  rw [Registry.returned, erase_entry (consistent.held entry firing)]
  rfl

theorem step_effect (consistent : registry.Consistent) {event : AlarmEvent}
    (passed : registry.passes build event = true)
    (taken : registry.step build event = .done next) : Effect event registry next := by
  unfold step at taken
  split at taken
  · cases taken
    exact .nothing
  · split at taken
    · rename_i offered
      exact .called (call_touches consistent offered passed taken)
    · cases taken
      exact .nothing
  · rename_i idle
    cases taken
    exact .ticked idle
  · rename_i idle
    cases taken
    exact .entered idle
  · rename_i looping
    obtain ⟨after, reached, effect⟩ := advance_effect consistent looping
    cases reached.symm.trans taken
    exact effect
  · rename_i firing
    cases (returned_effect consistent firing).symm.trans taken
    exact .returned firing
  · cases taken
    exact .nothing

theorem step_inside (consistent : registry.Consistent) (event : AlarmEvent) :
    registry.step build event ≠ .outOfBounds := by
  unfold step
  split
  · exact nofun
  · split
    · rename_i offered
      exact call_inside consistent offered
    · exact nofun
  · exact nofun
  · exact nofun
  · rename_i looping
    obtain ⟨after, reached, _⟩ := advance_effect consistent looping
    rw [reached]
    exact nofun
  · rename_i firing
    rw [returned_effect consistent firing]
    exact nofun
  · exact nofun

theorem run_consistent {time : Timeval} {events : List AlarmEvent}
    (passed : Allowed (step build) (fun registry event => registry.passes build event = true)
      (start time) events)
    (reached : execute (step build) (start time) events = .done registry) :
    registry.Consistent :=
  execute_invariant (fun _ _ _ consistent allowed taken =>
    (step_effect consistent allowed taken).consistent consistent) (start_consistent time) passed
    reached

def entriesOf (registry : Registry) (place : Nat) : List AlarmEntry :=
  registry.server.alarmMap.filter (·.alarm == place)

/-- Each set alarm has one entry, at its deadline, and there are no others. -/
structure Registered (registry : Registry) : Prop where
  each : ∀ alarm ∈ registry.alarms, (registry.entriesOf alarm.place).map AlarmEntry.key =
    if alarm.isSet then [alarm.deadline] else []
  owned : ∀ entry ∈ registry.server.alarmMap, ∃ alarm ∈ registry.alarms, alarm.place = entry.alarm

theorem Consistent.setAlarms_at (consistent : registry.Consistent) {alarm : EpollAlarm}
    (member : alarm ∈ registry.alarms) :
    (registry.setAlarms.filter fun other => other.place == alarm.place).Perm
      (if alarm.isSet then [alarm] else []) := by
  have split := ((perm_cons_dropAt consistent.places member).filter (·.isSet)).filter
    fun other => other.place == alarm.place
  have rest : ((dropAt EpollAlarm.place alarm.place registry.alarms).filter fun other =>
      other.place == alarm.place && other.isSet) = [] := by
    refine List.filter_eq_nil_iff.mpr fun other present => ?_
    simp [(mem_dropAt.mp present).2]
  refine split.trans (List.Perm.of_eq ?_)
  rw [List.filter_filter, List.filter_cons, rest, beq_self_eq_true, Bool.true_and]

theorem Consistent.registered (consistent : registry.Consistent)
    (idle : registry.phase = .idle) : registry.Registered := by
  have waiting : registry.pending = registry.server.alarmMap := by rw [pending, idle]
  have claims := consistent.claims
  rw [waiting] at claims
  refine ⟨fun alarm member => ?_, fun entry member => ?_⟩
  · -- the claims on one place are those of the one alarm there
    have here := (claims.filter fun claim => claim.1 == alarm.place).map fun claim => claim.2.1
    simp only [List.filter_map, List.map_map] at here
    have keys : ((registry.entriesOf alarm.place).map AlarmEntry.key).Perm
        ((if alarm.isSet then [alarm] else []).map fun only => only.deadline) :=
      here.trans ((consistent.setAlarms_at member).map _)
    cases set : alarm.isSet with
    | true =>
        rw [set] at keys
        exact List.perm_singleton.mp keys
    | false =>
        rw [set] at keys
        exact List.perm_nil.mp keys
  · obtain ⟨alarm, present, _, claimed⟩ := consistent.alarm_of_entry (waiting ▸ member)
    exact ⟨alarm, present, congrArg (·.1) claimed⟩

/-- Between passes the map holds the set alarms, and a delegate is only called for an alarm that
is set and due, once for each time it was armed and never after that arming was cancelled. -/
theorem alarms_registered (build : Build) (time : Timeval) (events : List AlarmEvent)
    (passed : Allowed (step build) (fun registry event => registry.passes build event = true)
      (start time) events) :
    execute (step build) (start time) events ≠ .outOfBounds ∧
    ∀ registry, execute (step build) (start time) events = .done registry →
      (registry.phase = .idle → registry.Registered) ∧
      (∀ invocation ∈ registry.server.log.invocations,
        invocation.deadline ≠ 0 ∧ invocation.deadline ≤ invocation.time) ∧
      registry.server.log.fired.Nodup ∧
      ∀ arming ∈ registry.server.log.fired, arming ∉ registry.server.log.cancelled := by
  constructor
  · exact execute_inside (fun _ event consistent => step_inside consistent event)
      (fun _ _ _ consistent allowed taken =>
        (step_effect consistent allowed taken).consistent consistent) (start_consistent time) passed
  · intro registry reached
    have consistent := run_consistent passed reached
    have ended := (List.nodup_append.mp consistent.once).2.1
    obtain ⟨_, fired, apart⟩ := List.nodup_append.mp ended
    refine ⟨consistent.registered, consistent.due, fired, ?_⟩
    intro arming present cancelled
    exact apart arming cancelled arming present rfl

-- both alarms are due, and the delegate of the first cancels the second and arms its own again
def sharedPass : List AlarmEvent :=
  [.call (.create 1), .call (.create 2), .call (.set 1 5 10), .call (.set 2 5 11),
    .updateNow ⟨0, 9000, by decide⟩, .runAlarmEvent, .advance, .call (.cancel 2),
    .call (.update 1 2000 1000 11), .returned, .advance]

def sharedEnd : Registry :=
  { server := ⟨[⟨2000, 1, 11⟩], 9, ⟨3, [1], [⟨0, 5, 9⟩]⟩⟩
    alarms := [⟨⟨0⟩, 2, some 11, 1⟩, ⟨⟨2000⟩, 1, some 11, 2⟩]
    phase := .idle }

theorem sharedPass_registered :
    execute (step .release) (start ⟨0, 0, by decide⟩) sharedPass = .done sharedEnd ∧
      sharedEnd.Registered := by
  have reached : execute (step .release) (start ⟨0, 0, by decide⟩) sharedPass = .done sharedEnd := rfl
  refine ⟨reached, ?_⟩
  exact ((alarms_registered .release _ sharedPass (by decide)).2 sharedEnd reached).1 rfl

end Registry

end LabNetstack
