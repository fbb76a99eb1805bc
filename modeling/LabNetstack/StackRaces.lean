import LabNetstack.StackRacesCore

/-! What `mutex_` shelters from races. -/

namespace LabNetstack

namespace StackRaces

open StackCode Interleaving

variable {function : StackFunction} {fd : FileDescriptor}

/-! The mutex is locked and unlocked in turn. -/

theorem guarded_bracketed {α : Type} {body : α → StackCode}
    (inside : ∀ socket, Bracketed StackAccess.locked true (body socket ++ [.unlock]) = true)
    (found : Option α) :
    Bracketed StackAccess.locked false (guarded function fd found body) = true := by
  cases found with
  | none => rfl
  | some socket => exact inside socket

theorem typed_bracketed {body : Nat → SocketFields → StackCode}
    (inside : ∀ address fields,
      Bracketed StackAccess.locked true (body address fields ++ [.unlock]) = true)
    (found : FoundSocket) :
    Bracketed StackAccess.locked false (typed function fd found body) = true := by
  refine guarded_bracketed ?_ found
  exact fun socket => inside socket.1 socket.2

theorem close_bracketed (fd : FileDescriptor) (found : FoundSocket) :
    Bracketed StackAccess.locked false (StackCode.close fd found) = true := by
  refine typed_bracketed ?_ found
  intro address fields
  rw [List.append_assoc]
  induction released fields with
  | nil => rfl
  | cons session sessions ih => exact ih

theorem call_bracketed (build : Build) (call : SocketCall) :
    Bracketed StackAccess.locked false (call.code build) = true := by
  cases call with
  | realSocket => rfl
  | socket fd address => cases build <;> rfl
  | bind fd found => exact guarded_bracketed (fun _ => rfl) found
  | listen fd backlog found =>
      rw [SocketCall.code, StackCode.listen]
      refine typed_bracketed ?_ found
      intro address fields
      cases fields.type <;> rfl
  | connect fd session found =>
      rw [SocketCall.code, StackCode.connect]
      refine typed_bracketed ?_ found
      intro address fields
      cases fields.type <;> rfl
  | accept fd found waits =>
      rw [SocketCall.code, StackCode.accept]
      refine typed_bracketed ?_ found
      intro address fields
      cases fields.type with
      | unspecified | active => rfl
      | passive =>
          dsimp only
          rw [List.append_assoc]
          refine bracketed_repeat ?_ rfl waits
          exact fun _ after => after
  | write fd found waits =>
      rw [SocketCall.code, StackCode.write]
      refine typed_bracketed ?_ found
      intro address fields
      cases fields.type with
      | unspecified | passive => rfl
      | active =>
          refine bracketed_repeat ?_ rfl waits
          exact fun _ after => after
  | close fd found => exact close_bracketed fd found
  | closeAllFDs rounds =>
      refine bracketed_append (bracketed_flatMap (fun round => ?_) rounds) rfl
      exact close_bracketed round.1 round.2
  | canClose => rfl

theorem arrival_bracketed (arrival : Arrival) :
    Bracketed StackAccess.locked false (onReceivePacket arrival) = true := by
  cases arrival with
  | session session => rfl
  | listener address fields session =>
      unfold onReceivePacket queued
      dsimp only
      split <;> rfl
  | reset => rfl

theorem fire_bracketed (alarm : FiredAlarm) :
    Bracketed StackAccess.locked false (fire alarm) = true := by
  cases alarm with
  | retransmission session sent => cases sent <;> rfl
  | probe => rfl

theorem code_bracketed (build : Build) (thread : Nat) (program : StackCode)
    (mine : code build thread program) : Bracketed StackAccess.locked false program = true := by
  cases thread with
  | zero =>
      obtain ⟨arrivals, alarms, rfl⟩ := mine
      have received := bracketed_flatMap arrival_bracketed arrivals
      have fired := bracketed_flatMap fire_bracketed alarms
      exact bracketed_append rfl (bracketed_append received (bracketed_append fired rfl))
  | succ thread =>
      obtain ⟨call, rfl⟩ := mine
      exact call_bracketed build call

/-! The objects that are only touched under the mutex. -/

def keepsShelter : Instruction StackAccess → Bool
  | .access site => site.locked || !site.object.sheltered
  | _ => true

theorem guarded_shelter {α : Type} {body : α → StackCode}
    (inside : ∀ socket, (body socket).all keepsShelter = true) (found : Option α) :
    (guarded function fd found body).all keepsShelter = true := by
  cases found with
  | none => rfl
  | some socket =>
      rw [guarded, List.all_append, List.all_cons, List.all_cons, inside]
      rfl

theorem typed_shelter {body : Nat → SocketFields → StackCode}
    (inside : ∀ address fields, (body address fields).all keepsShelter = true)
    (found : FoundSocket) : (typed function fd found body).all keepsShelter = true := by
  refine guarded_shelter ?_ found
  exact fun socket => inside socket.1 socket.2

theorem flatMap_shelter {α : Type} {piece : α → StackCode} (items : List α)
    (inside : ∀ item ∈ items, (piece item).all keepsShelter = true) :
    (items.flatMap piece).all keepsShelter = true := by
  rw [List.all_flatMap]
  exact List.all_eq_true.mpr inside

theorem repeat_shelter {piece : StackCode} (inside : piece.all keepsShelter = true) (count : Nat) :
    (List.replicate count piece).flatten.all keepsShelter = true := by
  induction count with
  | zero => rfl
  | succ count ih => rw [List.replicate_succ, List.flatten_cons, List.all_append, inside, ih]; rfl

theorem close_shelter (fd : FileDescriptor) (found : FoundSocket) :
    (StackCode.close fd found).all keepsShelter = true := by
  refine typed_shelter ?_ found
  intro address fields
  rw [List.all_append, flatMap_shelter _ fun _ _ => rfl]
  rfl

theorem call_shelter (build : Build) (call : SocketCall) :
    (call.code build).all keepsShelter = true := by
  cases call with
  | realSocket => rfl
  | socket fd address => cases build <;> rfl
  | bind fd found => exact guarded_shelter (fun _ => rfl) found
  | listen fd backlog found =>
      rw [SocketCall.code, StackCode.listen]
      refine typed_shelter ?_ found
      intro address fields
      cases fields.type <;> rfl
  | connect fd session found =>
      rw [SocketCall.code, StackCode.connect]
      refine typed_shelter ?_ found
      intro address fields
      cases fields.type <;> rfl
  | accept fd found waits =>
      rw [SocketCall.code, StackCode.accept]
      refine typed_shelter ?_ found
      intro address fields
      cases fields.type with
      | unspecified | active => rfl
      | passive =>
          dsimp only
          rw [List.all_append, repeat_shelter rfl]
          rfl
  | write fd found waits =>
      rw [SocketCall.code, StackCode.write]
      refine typed_shelter ?_ found
      intro address fields
      cases fields.type with
      | unspecified | passive => rfl
      | active => exact repeat_shelter rfl waits
  | close fd found => exact close_shelter fd found
  | closeAllFDs rounds =>
      rw [SocketCall.code, StackCode.closeAllFDs, List.all_append, flatMap_shelter]
      · rfl
      · exact fun round _ => close_shelter round.1 round.2
  | canClose => rfl

theorem arrival_shelter (arrival : Arrival) :
    (onReceivePacket arrival).all keepsShelter = true := by
  cases arrival with
  | session session => rfl
  | listener address fields session =>
      unfold onReceivePacket queued
      dsimp only
      split <;> rfl
  | reset => rfl

theorem fire_shelter (alarm : FiredAlarm) : (fire alarm).all keepsShelter = true := by
  cases alarm with
  | retransmission session sent => cases sent <;> rfl
  | probe => rfl

theorem code_shelter {build : Build} {thread : Nat} {program : StackCode} {site : StackAccess}
    (mine : code build thread program) (member : .access site ∈ program)
    (sheltered : site.object.sheltered = true) : site.locked = true := by
  have kept : program.all keepsShelter = true := by
    cases thread with
    | zero =>
        obtain ⟨arrivals, alarms, rfl⟩ := mine
        rw [runEventLoop, List.all_append, List.all_append, List.all_append,
          flatMap_shelter arrivals fun arrival _ => arrival_shelter arrival,
          flatMap_shelter alarms fun alarm _ => fire_shelter alarm]
        rfl
    | succ thread =>
        obtain ⟨call, rfl⟩ := mine
        exact call_shelter build call
  have held := List.all_eq_true.mp kept _ member
  simpa [keepsShelter, sheltered] using held

/-! The others. -/

/-- After the calls of `setup` two threads come to the accesses at `place` and `spot` of their
code, one after the other. -/
theorem raced_at {build : Build} (setup : List SocketCall) {i j place spot : Nat}
    {one other : StackCode} {first second : StackAccess} (apart : i ≠ j) (mine : code build i one)
    (yours : code build j other) (here : one[place]? = some (.access first))
    (there : other[spot]? = some (.access second))
    (able : first.locked = false ∨ (other.take spot).all Instruction.isAccess = true)
    (same : second.object = first.object) (conflict : (first.writes || second.writes) = true)
    (replayed : (replay StackMemory.effect StackMemory.start
      (setup.flatMap (SocketCall.code build) ++ (one.take place ++ other.take spot))).isSome =
        true) :
    Raced build first.object := by
  have ours : ∀ call ∈ setup.map fun call => (1, call.code build), code build call.1 call.2 := by
    intro call member
    obtain ⟨origin, _, rfl⟩ := List.mem_map.mp member
    exact ⟨origin, rfl⟩
  have shape : (setup.map fun call => (1, call.code build)).flatMap Prod.snd =
      setup.flatMap (SocketCall.code build) := by
    rw [List.flatMap_map]
  rw [← shape] at replayed
  obtain ⟨events, permitted, stands, meets⟩ := reach_both apart (code_bracketed build) ours mine
    yours here there able replayed
  exact ⟨events, i, j, first, second, apart, permitted, stands, meets, rfl, same, conflict⟩

-- a socket as `_socket` leaves it
def newFields : SocketFields := ⟨.unspecified, none, [], 0⟩

theorem raced_sheltered {build : Build} {object : SharedObject} (raced : Raced build object) :
    object.sheltered = false := by
  obtain ⟨events, i, j, first, second, apart, permitted, stands, meets, rfl, same, _⟩ := raced
  obtain ⟨⟨one, mine, member⟩, ⟨other, yours, present⟩, notBoth⟩ :=
    meet_unlocked apart (code_bracketed build) permitted stands meets
  refine Bool.eq_false_iff.mpr fun sheltered => notBoth ⟨code_shelter mine member sheltered, ?_⟩
  exact code_shelter yours present (by rw [same]; exact sheltered)

section Raced

variable (build : Build)

theorem connect_code (fd : FileDescriptor) (session address : Nat) :
    code build 1 (StackCode.connect fd session (some (address, newFields))) :=
  ⟨.connect fd session _, rfl⟩

theorem round_code (alarms : List FiredAlarm) : code build 0 (runEventLoop [] alarms) :=
  ⟨[], alarms, rfl⟩

/-- `ownFD` looks into the map while a `_close` that has the mutex erases an entry. -/
theorem fdSet_raced : Raced build .fdSet := by
  have bind : code build 2 (StackCode.bind 0 (some 0)) := ⟨.bind 0 _, rfl⟩
  have close : code build 1 (StackCode.close 0 (some (0, newFields))) := ⟨.close 0 _, rfl⟩
  have owning : (StackCode.bind 0 (some 0))[0]? =
    some (reads .bind .fdSet false (.owned 0)) := rfl
  have erasing : (StackCode.close 0 (some (0, newFields)))[4]? =
    some (updates .close .fdSet true (.erase 0)) := rfl
  exact raced_at [.socket 0 0] (by decide) bind close owning erasing (Or.inl rfl)
    rfl rfl (by cases build <;> rfl)

theorem rand_raced : Raced build .rand := by
  have socket (thread : Nat) :
      code build (thread + 1) (StackCode.socket build (.ofNat thread) thread) :=
    ⟨.socket (.ofNat thread) thread, rfl⟩
  -- the debug build looks for the descriptor first
  cases build with
  | debug =>
      have drawing (fd : FileDescriptor) (address : Nat) :
        (StackCode.socket .debug fd address)[1]? =
          some (updates .socket .rand false .nothing) := rfl
      exact raced_at [] (by decide) (socket 0) (socket 1) (drawing _ _) (drawing _ _)
        (Or.inl rfl) rfl rfl rfl
  | release =>
      have drawing (fd : FileDescriptor) (address : Nat) :
        (StackCode.socket .release fd address)[0]? =
          some (updates .socket .rand false .nothing) := rfl
      exact raced_at [] (by decide) (socket 0) (socket 1) (drawing _ _) (drawing _ _)
        (Or.inl rfl) rfl rfl rfl

theorem garbage_raced : Raced build .garbage := by
  let connected : SocketFields := ⟨.active, some 0, [], 0⟩
  have canClose : code build 2 StackCode.canClose := ⟨.canClose, rfl⟩
  have close : code build 1 (StackCode.close 0 (some (0, connected))) := ⟨.close 0 _, rfl⟩
  have asking : StackCode.canClose[0]? = some (reads .canClose .garbage false .nothing) := rfl
  have closing : (StackCode.close 0 (some (0, connected)))[5]? =
    some (updates .close .garbage true .nothing) := rfl
  exact raced_at [.socket 0 0, .connect 0 0 (some (0, newFields))] (by decide) canClose
    close asking closing (Or.inl rfl) rfl rfl (by cases build <;> rfl)

theorem alarmMap_raced : Raced build .alarmMap := by
  have reading : (runEventLoop [] [])[1]? =
    some (reads .runEventLoop .alarmMap false .nothing) := rfl
  have arming : (StackCode.connect 0 0 (some (0, newFields)))[6]? =
    some (updates .connect .alarmMap true (.arm 0)) := rfl
  exact raced_at [.socket 0 0] (by decide) (round_code build []) (connect_code build 0 0 0) reading
    arming (Or.inl rfl) rfl rfl (by cases build <;> rfl)

theorem now_raced : Raced build .now := by
  have telling : (runEventLoop [] [])[0]? =
    some (updates .runEventLoop .now false .nothing) := rfl
  have asking : (StackCode.connect 0 0 (some (0, newFields)))[5]? =
    some (reads .connect .now true .nothing) := rfl
  exact raced_at [.socket 0 0] (by decide) (round_code build []) (connect_code build 0 0 0) telling
    asking (Or.inl rfl) rfl rfl (by cases build <;> rfl)

/-- The alarm of the new send buffer goes off while `sendSYN` is under way. -/
theorem sendBuffer_raced (session : Nat) : Raced build (.sendBuffer session) := by
  have sending : (StackCode.connect 0 session (some (0, newFields)))[11]? =
    some (updates .connect (.sendBuffer session) true (.sendSYN session)) := rfl
  have firing : (runEventLoop [] [.retransmission session false])[5]? =
    some (updates .runEventLoop (.sendBuffer session) false .nothing) := rfl
  refine raced_at [.socket 0 0] (by decide) (connect_code build 0 session 0)
    (round_code build _) sending firing (Or.inr rfl) rfl rfl ?_
  cases build <;> simp [replay, runEventLoop, fire, SocketCall.code, StackCode.socket,
    StackCode.connect, typed, guarded, reads, updates, newFields, StackMemory.effect,
    StackMemory.check, StackMemory.start, entryAt]

theorem ipBuffer_raced : Raced build .ipBuffer := by
  have sending : (runEventLoop [] [.retransmission 0 true])[6]? =
    some (updates .runEventLoop .ipBuffer false .nothing) := rfl
  have opening : (StackCode.connect 1 1 (some (1, newFields)))[12]? =
    some (updates .connect .ipBuffer true .nothing) := rfl
  exact raced_at [.socket 0 0, .connect 0 0 (some (0, newFields)), .socket 1 1] (by decide)
    (round_code build _) (connect_code build 1 1 1) sending opening
    (Or.inl rfl) rfl rfl (by cases build <;> rfl)

end Raced

/-- The mutex shelters the sockets, the sessions without their send buffers and the tables of the
dispatchers, and nothing else. -/
theorem raced_iff (build : Build) (object : SharedObject) :
    Raced build object ↔ object.sheltered = false := by
  refine ⟨raced_sheltered, fun unsheltered => ?_⟩
  cases object with
  | struct | listeners | established | session => cases unsheltered
  | fdSet => exact fdSet_raced build
  | rand => exact rand_raced build
  | garbage => exact garbage_raced build
  | alarmMap => exact alarmMap_raced build
  | now => exact now_raced build
  | sendBuffer session => exact sendBuffer_raced build session
  | ipBuffer => exact ipBuffer_raced build

end StackRaces

end LabNetstack
