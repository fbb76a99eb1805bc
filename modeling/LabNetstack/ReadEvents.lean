import LabNetstack.Executions
import LabNetstack.Tables
import Mathlib.Logic.Function.Basic

/-! `EpollServer::registerRead` and `runReadEvent`, with devices that are destroyed and descriptors
that the kernel gives out again. Closing a descriptor takes it off the interest list of the kernel;
nothing takes it off `cb_map_`. -/

namespace LabNetstack

/-- A `Device`, with the descriptor of its `pcap_`. -/
structure OpenDevice where
  place : Nat
  fd : Nat
deriving DecidableEq, Repr

def eventsSize : Nat := 256

-- `events` is what `runReadEvent` has yet to go through. No code reads `calls`, which lists the
-- descriptor of each event and that of the device whose `onReadable` was called for it
structure ReadLoop where
  cbMap : Nat → Option Nat
  interest : Nat → Bool
  events : List Nat
  devices : List OpenDevice
  calls : List (Nat × Nat)

-- `rv` is whether `epoll_ctl` succeeds if it is called
inductive ReadLoopEvent where
  | construct (place fd : Nat)
  | registerRead (place fd : Nat) (rv : Bool)
  | destroy (place fd : Nat)
  | wait (ready : List Nat)
  | round
deriving DecidableEq, Repr

namespace ReadLoop

def start : ReadLoop := ⟨fun _ => none, fun _ => false, [], [], []⟩

def registerRead (loop : ReadLoop) (fd cb : Nat) (rv : Bool) : Bool × ReadLoop :=
  match loop.cbMap fd with
  | some _ => (true, { loop with cbMap := Function.update loop.cbMap fd (some cb) })
  | none =>
      let loop := { loop with cbMap := Function.update loop.cbMap fd (some cb) }
      if rv then (true, { loop with interest := Function.update loop.interest fd true })
      else (false, loop)

/-- A round of the loop of `runReadEvent`. -/
def round (loop : ReadLoop) : Outcome ReadLoop :=
  match loop.events with
  | [] => .done loop
  | fd :: events =>
      match loop.cbMap fd with
      | none => .done { loop with events := events }
      | some cb =>
          match entryAt OpenDevice.place cb loop.devices with
          | none => .outOfBounds
          | some device =>
              .done { loop with events := events, calls := loop.calls ++ [(fd, device.fd)] }

-- the kernel gives out a descriptor that is free, and reports only what it watches
def offers (loop : ReadLoop) : ReadLoopEvent → Bool
  | .construct place fd =>
      decide (place ∉ loop.devices.map OpenDevice.place ∧ fd ∉ loop.devices.map OpenDevice.fd)
  | .registerRead place fd _ | .destroy place fd => decide (⟨place, fd⟩ ∈ loop.devices)
  | .wait ready =>
      loop.events.isEmpty && ready.all loop.interest && decide (ready.length ≤ eventsSize)
  | .round => true

/-- One event. What the state does not offer does not happen. -/
def step (loop : ReadLoop) (event : ReadLoopEvent) : Outcome ReadLoop :=
  if loop.offers event then
    match event with
    | .construct place fd => .done { loop with devices := ⟨place, fd⟩ :: loop.devices }
    | .registerRead place fd rv => .done (loop.registerRead fd place rv).2
    | .destroy place fd => .done
        { loop with
          devices := dropAt OpenDevice.place place loop.devices
          interest := Function.update loop.interest fd false }
    | .wait ready => .done { loop with events := ready }
    | .round => loop.round
  else .done loop

variable {loop next : ReadLoop} {event : ReadLoopEvent} {place fd : Nat}

theorem registerRead_eq (loop : ReadLoop) (fd cb : Nat) (rv : Bool) :
    loop.registerRead fd cb rv = ((loop.cbMap fd).isSome || rv,
      { loop with
        cbMap := Function.update loop.cbMap fd (some cb)
        interest := if (loop.cbMap fd).isNone && rv then Function.update loop.interest fd true
          else loop.interest }) := by
  unfold registerRead
  cases loop.cbMap fd with
  | some other => rfl
  | none => cases rv <;> rfl

/-! The device that is called. -/

/-- The callback under a descriptor is the device that has it. -/
def Answered (loop : ReadLoop) (fd : Nat) : Prop :=
  ∃ cb, loop.cbMap fd = some cb ∧ (⟨cb, fd⟩ : OpenDevice) ∈ loop.devices

structure Sound (loop : ReadLoop) : Prop where
  places : (loop.devices.map OpenDevice.place).Nodup
  watched : ∀ fd, loop.interest fd = true → loop.Answered fd
  pending : ∀ fd ∈ loop.events, loop.Answered fd
  owned : ∀ call ∈ loop.calls, call.1 = call.2

theorem start_sound : start.Sound :=
  ⟨List.nodup_nil, by simp [start], by simp [start], by simp [start]⟩

theorem Answered.registerRead {other : Nat} (answered : loop.Answered other)
    (member : (⟨place, fd⟩ : OpenDevice) ∈ loop.devices) (rv : Bool) :
    (loop.registerRead fd place rv).2.Answered other := by
  rw [registerRead_eq]
  by_cases here : other = fd
  · subst here
    exact ⟨place, Function.update_self .., member⟩
  · obtain ⟨cb, stored, owner⟩ := answered
    exact ⟨cb, (Function.update_of_ne here ..).trans stored, owner⟩

theorem Answered.destroy {other : Nat} (answered : loop.Answered other) (sound : loop.Sound)
    (member : (⟨place, fd⟩ : OpenDevice) ∈ loop.devices) (apart : other ≠ fd) :
    ({ loop with
      devices := dropAt OpenDevice.place place loop.devices
      interest := Function.update loop.interest fd false } : ReadLoop).Answered other := by
  obtain ⟨cb, stored, owner⟩ := answered
  refine ⟨cb, stored, mem_dropAt.mpr ⟨owner, fun same => apart ?_⟩⟩
  have alike : (⟨cb, other⟩ : OpenDevice) = ⟨place, fd⟩ :=
    List.inj_on_of_nodup_map sound.places owner member same
  exact congrArg OpenDevice.fd alike

theorem Sound.registerRead (sound : loop.Sound)
    (member : (⟨place, fd⟩ : OpenDevice) ∈ loop.devices) (rv : Bool) :
    (loop.registerRead fd place rv).2.Sound := by
  have watched : ∀ other, (loop.registerRead fd place rv).2.interest other = true →
      (loop.registerRead fd place rv).2.Answered other := by
    intro other watched
    by_cases here : other = fd
    · subst here
      rw [registerRead_eq]
      exact ⟨place, Function.update_self .., member⟩
    · refine (sound.watched other ?_).registerRead member rv
      rw [registerRead_eq] at watched
      dsimp only at watched
      split at watched
      · rwa [Function.update_of_ne here] at watched
      · exact watched
  have pending : ∀ other ∈ loop.events, (loop.registerRead fd place rv).2.Answered other :=
    fun other waiting => (sound.pending other waiting).registerRead member rv
  rw [registerRead_eq] at watched pending ⊢
  exact ⟨sound.places, watched, pending, sound.owned⟩

/-- No device is destroyed while an event of it waits for its round. -/
def spares (loop : ReadLoop) : ReadLoopEvent → Bool
  | .destroy _ fd => decide (fd ∉ loop.events)
  | _ => true

theorem round_sound (sound : loop.Sound) : ∃ next, loop.round = .done next ∧ next.Sound := by
  cases shape : loop.events with
  | nil => exact ⟨loop, by rw [round, shape], sound⟩
  | cons fd events =>
      obtain ⟨cb, stored, owner⟩ := sound.pending fd (by simp [shape])
      have found : entryAt OpenDevice.place cb loop.devices = some ⟨cb, fd⟩ :=
        entryAt_of_mem sound.places owner
      refine ⟨{ loop with events := events, calls := loop.calls ++ [(fd, fd)] }, ?_, ?_⟩
      · simp only [round, shape, stored, found]
      · refine { sound with pending := fun other waiting => ?_, owned := fun call made => ?_ }
        · exact sound.pending other (by simp [shape, waiting])
        · rcases List.mem_append.mp made with earlier | last
          · exact sound.owned call earlier
          · rw [List.mem_singleton.mp last]

theorem step_sound (sound : loop.Sound) (spared : loop.spares event = true) :
    ∃ next, loop.step event = .done next ∧ next.Sound := by
  unfold step
  cases offered : loop.offers event with
  | false => exact ⟨loop, rfl, sound⟩
  | true =>
      cases event with
      | construct place fd =>
          have free := (of_decide_eq_true offered).1
          have grown {other : Nat} : loop.Answered other → ({ loop with
              devices := ⟨place, fd⟩ :: loop.devices } : ReadLoop).Answered other :=
            fun ⟨cb, stored, owner⟩ => ⟨cb, stored, List.mem_cons_of_mem _ owner⟩
          exact ⟨_, rfl, List.nodup_cons.mpr ⟨free, sound.places⟩,
            fun other watched => grown (sound.watched other watched),
            fun other waiting => grown (sound.pending other waiting), sound.owned⟩
      | registerRead place fd rv =>
          exact ⟨_, rfl, sound.registerRead (of_decide_eq_true offered) rv⟩
      | destroy place fd =>
          have member := of_decide_eq_true offered
          refine ⟨_, rfl, nodup_map_dropAt sound.places,
            fun other watched => ?_, fun other waiting => ?_, sound.owned⟩
          · have apart : other ≠ fd := by
              rintro rfl
              simp at watched
            have before : loop.interest other = true :=
              (Function.update_of_ne apart ..).symm.trans watched
            exact (sound.watched other before).destroy sound member apart
          · refine (sound.pending other waiting).destroy sound member ?_
            rintro rfl
            exact of_decide_eq_true spared waiting
      | wait ready =>
          simp only [offers, Bool.and_eq_true, List.all_eq_true] at offered
          exact ⟨_, rfl, { sound with
            pending := fun fd waiting => sound.watched fd (offered.1.2 fd waiting) }⟩
      | round => exact round_sound sound

/-- If no device is destroyed while an event of it waits for its round, every event is handed to
the device that has the descriptor, whatever descriptors and addresses are used again. -/
theorem readEvents_owned (events : List ReadLoopEvent)
    (spared : Attempted step (fun loop event => loop.spares event = true) start events) :
    ∃ final, execute step start events = .done final ∧ ∀ call ∈ final.calls, call.1 = call.2 := by
  obtain ⟨final, reached, sound⟩ :=
    attempted_completes (fun _ _ sound spared => step_sound sound spared) start_sound spared
  exact ⟨final, reached, sound.owned⟩

def sharedNumber : List ReadLoopEvent :=
  [.construct 1 5, .registerRead 1 5 true, .wait [5], .round, .destroy 1 5, .construct 2 5,
    .registerRead 2 5 true, .construct 1 6, .registerRead 1 6 true, .wait [6], .round]

theorem sharedNumber_owned :
    ∃ final, execute step start sharedNumber = .done final ∧ ∀ call ∈ final.calls, call.1 = call.2 :=
  readEvents_owned sharedNumber (by decide)

-- the event of a device that is destroyed in the round before is handed to it all the same
example : execute step start [.construct 1 5, .registerRead 1 5 true, .wait [5], .destroy 1 5,
    .round] = .outOfBounds := rfl

/-! The descriptors that are watched. -/

def Registered (fd : Nat) (past : List ReadLoopEvent) : Prop :=
  ∃ place rv, .registerRead place fd rv ∈ past

/-- The first registration under the descriptor succeeded, and the device that had it then still
has it. -/
def Watched (fd : Nat) (past : List ReadLoopEvent) : Prop :=
  ∃ before after place, past = before ++ .registerRead place fd true :: after ∧
    ¬Registered fd before ∧ ∀ other, .destroy other fd ∉ after

variable {past : List ReadLoopEvent}

theorem registered_append : Registered fd (past ++ [event]) ↔
    Registered fd past ∨ ∃ place rv, event = .registerRead place fd rv := by
  simp only [Registered, List.mem_append, List.mem_singleton, exists_or]
  constructor
  · rintro (earlier | ⟨place, rv, same⟩)
    · exact Or.inl earlier
    · exact Or.inr ⟨place, rv, same.symm⟩
  · rintro (earlier | ⟨place, rv, same⟩)
    · exact Or.inl earlier
    · exact Or.inr ⟨place, rv, same.symm⟩

theorem watched_append : Watched fd (past ++ [event]) ↔
    (Watched fd past ∧ ∀ other, event ≠ .destroy other fd) ∨
      ¬Registered fd past ∧ ∃ place, event = .registerRead place fd true := by
  constructor
  · rintro ⟨before, after, place, split, first, kept⟩
    rcases List.eq_nil_or_concat after with rfl | ⟨rest, last, rfl⟩
    · obtain ⟨rfl, same⟩ := List.append_inj' split rfl
      exact Or.inr ⟨first, place, List.singleton_inj.mp same⟩
    · rw [List.concat_eq_append, ← List.cons_append, ← List.append_assoc] at split
      obtain ⟨rfl, same⟩ := List.append_inj' split rfl
      cases List.singleton_inj.mp same
      refine Or.inl ⟨⟨before, rest, place, rfl, first, fun other member => ?_⟩,
        fun other destroyed => ?_⟩
      · exact kept other (by simp [member])
      · exact kept other (by simp [destroyed])
  · rintro (⟨⟨before, after, place, rfl, first, kept⟩, spared⟩ | ⟨first, place, rfl⟩)
    · refine ⟨before, after ++ [event], place, by simp, first, fun other member => ?_⟩
      rcases List.mem_append.mp member with earlier | last
      · exact kept other earlier
      · exact spared other (List.mem_singleton.mp last).symm
    · exact ⟨past, [], place, rfl, first, by simp⟩

/-- What the server and the kernel know of the past. -/
structure Remembers (past : List ReadLoopEvent) (loop : ReadLoop) : Prop where
  registered : ∀ fd, (loop.cbMap fd).isSome = true ↔ Registered fd past
  watched : ∀ fd, loop.interest fd = true ↔ Watched fd past

theorem Remembers.same (remembers : Remembers past loop) (cbMap : next.cbMap = loop.cbMap)
    (interest : next.interest = loop.interest)
    (unregistered : ∀ place fd rv, event ≠ .registerRead place fd rv)
    (undestroyed : ∀ place fd, event ≠ .destroy place fd) : Remembers (past ++ [event]) next where
  registered fd := by
    rw [cbMap, remembers.registered, registered_append]
    simp [unregistered]
  watched fd := by
    rw [interest, remembers.watched, watched_append]
    simp [unregistered, undestroyed]

theorem Remembers.registerRead (remembers : Remembers past loop) (place fd : Nat) (rv : Bool) :
    Remembers (past ++ [.registerRead place fd rv]) (loop.registerRead fd place rv).2 := by
  rw [registerRead_eq]
  refine ⟨fun other => ?_, fun other => ?_⟩
  · rw [registered_append]
    by_cases here : other = fd
    · subst here
      simp
    · have apart : ¬∃ p r, ReadLoopEvent.registerRead place fd rv = .registerRead p other r := by
        rintro ⟨p, r, same⟩
        cases same
        exact here rfl
      simp only [Function.update_of_ne here, remembers.registered, apart, or_false]
  · rw [watched_append, ← remembers.watched, ← remembers.registered]
    by_cases here : other = fd
    · subst here
      have unwatched : loop.cbMap other = none → loop.interest other = false := by
        intro unknown
        refine Bool.eq_false_iff.mpr fun watched => ?_
        obtain ⟨before, after, place, rfl, _, _⟩ := (remembers.watched other).mp watched
        have known := (remembers.registered other).mpr ⟨place, true, by simp⟩
        rw [unknown] at known
        cases known
      cases known : loop.cbMap other with
      | some cb => simp
      | none => cases rv <;> simp [unwatched known]
    · have apart : ¬∃ p, ReadLoopEvent.registerRead place fd rv = .registerRead p other true := by
        rintro ⟨p, same⟩
        cases same
        exact here rfl
      simp only [apart, and_false, or_false]
      split <;> simp [Function.update_of_ne here]

theorem Remembers.destroy (remembers : Remembers past loop) (place fd : Nat) :
    Remembers (past ++ [.destroy place fd]) { loop with
      devices := dropAt OpenDevice.place place loop.devices
      interest := Function.update loop.interest fd false } := by
  refine ⟨fun other => ?_, fun other => ?_⟩
  · rw [registered_append, remembers.registered]
    simp
  · rw [watched_append, ← remembers.watched]
    by_cases here : other = fd
    · subst here
      simp
    · have apart : ∀ p, ReadLoopEvent.destroy place fd ≠ .destroy p other := by
        rintro p same
        cases same
        exact here rfl
      simp [Function.update_of_ne here, apart]

theorem round_maps (taken : loop.round = .done next) :
    next.cbMap = loop.cbMap ∧ next.interest = loop.interest := by
  unfold round at taken
  split at taken
  · cases taken
    exact ⟨rfl, rfl⟩
  · split at taken
    · cases taken
      exact ⟨rfl, rfl⟩
    · split at taken
      · cases taken
      · cases taken
        exact ⟨rfl, rfl⟩

theorem Remembers.step (remembers : Remembers past loop) (offered : loop.offers event = true)
    (taken : loop.step event = .done next) : Remembers (past ++ [event]) next := by
  unfold ReadLoop.step at taken
  rw [if_pos offered] at taken
  cases event with
  | construct place fd =>
      cases taken
      exact remembers.same rfl rfl (by simp) (by simp)
  | registerRead place fd rv =>
      cases taken
      exact remembers.registerRead place fd rv
  | destroy place fd =>
      cases taken
      exact remembers.destroy place fd
  | wait ready =>
      cases taken
      exact remembers.same rfl rfl (by simp) (by simp)
  | round =>
      obtain ⟨cbMap, interest⟩ := round_maps taken
      exact remembers.same cbMap interest (by simp) (by simp)

/-- A descriptor is watched exactly if its first registration succeeded and it has not been closed
since, while every registration after the first returns true. -/
theorem registerRead_watched_iff (events : List ReadLoopEvent) (final : ReadLoop) (fd : Nat)
    (offered : Allowed step (fun loop event => loop.offers event = true) start events)
    (reached : execute step start events = .done final) :
    (final.interest fd = true ↔ Watched fd events) ∧ ∀ place rv,
      ((final.registerRead fd place rv).1 = true ↔ Registered fd events ∨ rv = true) := by
  have initial : Remembers [] start := by
    refine ⟨fun fd => ?_, fun fd => ?_⟩
    · simp [start, Registered]
    · simp [start, Watched]
  have remembers : Remembers events final :=
    execute_record (fun _ _ _ _ known permitted taken => known.step permitted taken) initial offered
      reached
  refine ⟨remembers.watched fd, fun place rv => ?_⟩
  rw [registerRead_eq, Bool.or_eq_true, remembers.registered]

-- the second device that has the descriptor 5
theorem sharedNumber_deaf : ∃ final, execute step start sharedNumber = .done final ∧
    (final.registerRead 5 2 false).1 = true ∧ ¬Watched 5 sharedNumber := by
  obtain ⟨watched, returned⟩ := registerRead_watched_iff sharedNumber _ 5 (by decide) rfl
  refine ⟨_, rfl, (returned 2 false).mpr (Or.inl ⟨1, true, by decide⟩), fun hears => ?_⟩
  have none := watched.mpr hears
  revert none
  decide

end ReadLoop

end LabNetstack
