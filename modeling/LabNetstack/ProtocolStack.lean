import LabNetstack.ProtocolStackCore
import LabNetstack.SocketSession

/-! What the calls and packets do to the tables of the stack, and who owns its sessions. -/

namespace LabNetstack

namespace SocketSession

theorem open_named {env : Surroundings} {local_ peer : SocketAddress} {now : TimeBase}
    {initial : SequenceNumber} {session : SocketSession}
    (opened : (create local_ peer now).open_ env initial = .done session) :
    session.getLocalAddress = local_ ∧ session.getRemoteAddress = peer := by
  have taken : (create local_ peer now).step env (.open_ initial) = .done session := opened
  have reached : run env (create local_ peer now) [.open_ initial] = .done session :=
    execute_cons.mpr ⟨session, taken, rfl⟩
  have factory := (run_traced reached).factory
  simp only [getLocalAddress, getRemoteAddress, factory, and_self]

end SocketSession

namespace SocketStruct

-- what `_close` moves to the garbage
def released (st : SocketStruct) : List (Owned SocketSession) :=
  match st.type with
  | .unspecified => []
  | .active => st.session.toList
  | .passive => st.pending

structure WellKept (st : SocketStruct) : Prop where
  active : st.type = .active ↔ st.session.isSome = true
  idle : st.type ≠ .passive → st.pending = [] ∧ st.backlog = 0
  room : st.pending.length ≤ st.backlog.toNat

theorem create_wellKept (address : SocketAddress) : (create address).WellKept :=
  ⟨by simp [create], fun _ => ⟨rfl, rfl⟩, Nat.zero_le _⟩

theorem WellKept.unspecified {st : SocketStruct} (kept : st.WellKept)
    (unspecified : st.type = .unspecified) :
    st.session = none ∧ st.pending = [] ∧ st.backlog = 0 := by
  have idle := kept.idle (by rw [unspecified]; decide)
  refine ⟨?_, idle⟩
  cases owned : st.session with
  | none => rfl
  | some session =>
      have active := kept.active.mpr (by rw [owned]; rfl)
      rw [unspecified] at active
      cases active

theorem WellKept.bound {st : SocketStruct} (kept : st.WellKept) (address : SocketAddress) :
    (st.bound address).WellKept :=
  ⟨kept.active, kept.idle, kept.room⟩

theorem WellKept.listening {st : SocketStruct} (kept : st.WellKept)
    (unspecified : st.type = .unspecified) (backlog : UInt32) :
    (st.listening backlog).WellKept := by
  obtain ⟨noSession, noPending, _⟩ := kept.unspecified unspecified
  refine ⟨?_, fun idle => absurd rfl idle, ?_⟩
  · simp [SocketStruct.listening, noSession]
  · simp [SocketStruct.listening, noPending]

theorem WellKept.connected {st : SocketStruct} (kept : st.WellKept)
    (unspecified : st.type = .unspecified) (session : Owned SocketSession) :
    (st.connected session).WellKept := by
  obtain ⟨_, idle⟩ := kept.unspecified unspecified
  exact ⟨by simp [SocketStruct.connected], fun _ => idle, kept.room⟩

theorem WellKept.queueing {st : SocketStruct} (kept : st.WellKept)
    (room : st.pending.length < st.backlog.toNat) (session : Owned SocketSession) :
    (st.queueing session).WellKept := by
  refine ⟨kept.active, fun idle => ?_, ?_⟩
  · rw [(kept.idle idle).2] at room
    exact absurd room (Nat.not_lt_zero _)
  · rw [SocketStruct.queueing, List.length_append]
    exact room

/-- A well kept socket leaves none of its sessions behind. -/
theorem WellKept.released_eq {st : SocketStruct} (kept : st.WellKept) : st.released = st.held := by
  have noSession : st.type ≠ .active → st.session = none := by
    intro inactive
    rw [← Option.not_isSome_iff_eq_none, ← kept.active]
    exact inactive
  unfold released held
  cases kind : st.type with
  | unspecified =>
      rw [noSession (by rw [kind]; decide), (kept.idle (by rw [kind]; decide)).1]
      rfl
  | active => rw [(kept.idle (by rw [kind]; decide)).1, List.append_nil]
  | passive =>
      rw [noSession (by rw [kind]; decide)]
      rfl

end SocketStruct

namespace ProtocolStack

-- a socket is written and the dispatcher is told a session
def taking (stack : ProtocolStack) (st : Owned SocketStruct) (object : SocketStruct)
    (local_ peer : SocketAddress) (address : Nat) : ProtocolStack :=
  { stack.storeStruct st.address object with
    dispatcher := stack.dispatcher.addSession local_ peer address }

/-! Everything an event can do to the stack. -/

inductive Moves (stack : ProtocolStack) : StackEvent → ProtocolStack → Prop where
  | stay {event : StackEvent} (resetDispatcher : ResetDispatcher) :
      Moves stack event { stack with resetDispatcher := resetDispatcher }
  | socket {domain type protocol : Int32} {fd : FileDescriptor} {port : SocketPort} {address : Nat} :
      Moves stack (.socket domain type protocol fd port address) { stack with
        fdSet := (fd, ⟨address, SocketStruct.create ⟨stack.defaultIP, port⟩⟩) ::
          dropAt descriptor fd stack.fdSet }
  | bind {fd : FileDescriptor} {saddr : Sockaddr} {len : UInt32} {st : Owned SocketStruct}
      (member : (fd, st) ∈ stack.fdSet) :
      Moves stack (.bind fd saddr len) (stack.storeStruct st.address
        (st.object.bound (SocketAddress.ofSockaddr saddr len)))
  | listen {fd : FileDescriptor} {backlog : Int32} {st : Owned SocketStruct}
      (member : (fd, st) ∈ stack.fdSet) (unspecified : st.object.type = .unspecified)
      (size : UInt32) :
      Moves stack (.listen fd backlog) { stack.storeStruct st.address (st.object.listening size) with
        listenDispatcher := stack.listenDispatcher.addListener st.object.bindAddress st.address }
  | connect {env : Surroundings} {fd : FileDescriptor} {saddr : Sockaddr} {len : UInt32}
      {address : Nat} {initial : SequenceNumber} {now : TimeBase} {st : Owned SocketStruct}
      (found : stack.lookupStruct fd = some st) (unspecified : st.object.type = .unspecified)
      (session : SocketSession)
      (named : session.getLocalAddress = st.object.bindAddress ∧
        session.getRemoteAddress = SocketAddress.ofSockaddr saddr len) :
      Moves stack (.connect env fd saddr len address initial now)
        (stack.taking st (st.object.connected ⟨address, session⟩) st.object.bindAddress
          (SocketAddress.ofSockaddr saddr len) address)
  | close {env : Surroundings} {fd : FileDescriptor} {st : Owned SocketStruct}
      (found : stack.lookupStruct fd = some st) (moved : List (Owned SocketSession))
      (same : moved.map Owned.address = st.object.released.map Owned.address) :
      Moves stack (.close env fd) { stack with
        fdSet := dropAt descriptor fd stack.fdSet, garbage := stack.garbage ++ moved }
  | queue {leftovers : ChainLeftovers} {packet : Buffer} {source destination : IPAddress}
      {address : Nat} {now : TimeBase} {fd : FileDescriptor} {st : Owned SocketStruct}
      (member : (fd, st) ∈ stack.fdSet)
      (room : st.object.pending.length < st.object.backlog.toNat)
      (local_ peer : SocketAddress) (session : SocketSession) :
      Moves stack (.receive leftovers packet source destination address now)
        (stack.taking st (st.object.queueing ⟨address, session⟩) local_ peer address)

theorem lookupStruct_mem {stack : ProtocolStack} {fd : FileDescriptor} {st : Owned SocketStruct}
    (found : stack.lookupStruct fd = some st) : (fd, st) ∈ stack.fdSet := by
  obtain ⟨entry, present, rfl⟩ := Option.map_eq_some_iff.mp found
  obtain ⟨member, here⟩ := entryAt_some present
  rw [← here]
  exact member

theorem loadStruct_mem {stack : ProtocolStack} {address : Nat} {object : SocketStruct}
    (loaded : stack.loadStruct address = .done object) :
    ∃ fd, (fd, ⟨address, object⟩) ∈ stack.fdSet := by
  unfold loadStruct at loaded
  split at loaded
  · next entry present =>
      cases loaded
      obtain ⟨member, rfl⟩ := entryAt_some present
      exact ⟨entry.1, member⟩
  · cases loaded

theorem closeAll_addresses {env : Surroundings} {sessions moved : List (Owned SocketSession)}
    (closed : closeAll env sessions = .done moved) :
    moved.map Owned.address = sessions.map Owned.address := by
  induction sessions generalizing moved with
  | nil =>
      cases closed
      rfl
  | cons session rest ih =>
      rw [closeAll, Outcome.bind_eq_done] at closed
      obtain ⟨first, _, later⟩ := closed
      obtain ⟨others, more, result⟩ := Outcome.bind_eq_done.mp later
      cases result
      rw [List.map_cons, List.map_cons, ih more]

theorem closeSessions_addresses {env : Surroundings} {st : SocketStruct}
    {moved : List (Owned SocketSession)} (closed : closeSessions env st = .done moved) :
    moved.map Owned.address = st.released.map Owned.address := by
  unfold closeSessions at closed
  unfold SocketStruct.released
  cases kind : st.type with
  | unspecified =>
      rw [kind] at closed
      cases closed
      rfl
  | active =>
      simp only [kind] at closed
      cases owned : st.session with
      | none =>
          rw [owned] at closed
          cases closed
      | some session =>
          rw [owned] at closed
          exact closeAll_addresses closed
  | passive =>
      rw [kind] at closed
      exact closeAll_addresses closed

/-! Everything a packet can do to it. -/

inductive Receives (build : Build) (leftovers : ChainLeftovers) (stack : ProtocolStack)
    (packet : Buffer) (source destination : IPAddress) (address : Nat) :
    Dispatch → ProtocolStack → Prop where
  | delivered {segment : Segment} {session : Nat}
      (parsed : Segment.parse build leftovers.segment source destination packet = .done segment)
      (found : stack.dispatcher.lookupSession segment.destination segment.source = some session) :
      Receives build leftovers stack packet source destination address (.delivered session) stack
  | dropped : Receives build leftovers stack packet source destination address .dropped stack
  | reset (sent : List SentPacket) (resetDispatcher : ResetDispatcher) :
      Receives build leftovers stack packet source destination address (.reset sent)
        { stack with resetDispatcher := resetDispatcher }
  | queued {first second : Segment} {fd : FileDescriptor} {st : Owned SocketStruct}
      (parsed : Segment.parse build leftovers.segment source destination packet = .done first)
      (unknown : stack.dispatcher.lookupSession first.destination first.source = none)
      (again : Segment.parse build leftovers.listen source destination packet = .done second)
      (member : (fd, st) ∈ stack.fdSet)
      (room : st.object.pending.length < st.object.backlog.toNat) (session : SocketSession) :
      Receives build leftovers stack packet source destination address
        (.queued ⟨second.destination, second.source, address⟩)
        (stack.taking st (st.object.queueing ⟨address, session⟩) second.destination second.source
          address)

section Received

variable {build : Build} {leftovers : ChainLeftovers} {stack next : ProtocolStack} {packet : Buffer}
  {source destination : IPAddress} {address : Nat} {now : TimeBase} {dispatch : Dispatch}

theorem listen_receives {first : Segment}
    (parsed : Segment.parse build leftovers.segment source destination packet = .done first)
    (unknown : stack.dispatcher.lookupSession first.destination first.source = none)
    (taken : ListenDispatcher.onReceivePacket build leftovers stack packet source destination address
      now = .done (dispatch, next)) :
    Receives build leftovers stack packet source destination address dispatch next := by
  obtain ⟨second, again, taken⟩ := Outcome.bind_eq_done.mp taken
  dsimp only at taken
  split at taken
  · obtain ⟨⟨sent, resetDispatcher⟩, _, result⟩ := Outcome.bind_eq_done.mp taken
    cases result
    exact .reset sent resetDispatcher
  · next socket listening =>
      obtain ⟨object, loaded, taken⟩ := Outcome.bind_eq_done.mp taken
      obtain ⟨fd, member⟩ := loadStruct_mem loaded
      split at taken
      · cases taken
        exact .dropped
      · next full =>
          obtain ⟨session, _, result⟩ := Outcome.bind_eq_done.mp taken
          cases result
          exact .queued parsed unknown again member (Nat.lt_of_not_le full) session

theorem onReceivePacket_receives
    (taken : stack.onReceivePacket build leftovers packet source destination address now =
      .done (dispatch, next)) :
    Receives build leftovers stack packet source destination address dispatch next := by
  obtain ⟨first, parsed, taken⟩ := Outcome.bind_eq_done.mp taken
  dsimp only at taken
  split at taken
  · next unknown => exact listen_receives parsed unknown taken
  · next session found =>
      obtain ⟨object, _, result⟩ := Outcome.bind_eq_done.mp taken
      cases result
      exact .delivered parsed found

theorem Receives.moves (receives : Receives build leftovers stack packet source destination address
    dispatch next) :
    Moves stack (.receive leftovers packet source destination address now) next := by
  cases receives with
  | delivered _ _ => exact .stay stack.resetDispatcher
  | dropped => exact .stay stack.resetDispatcher
  | reset _ resetDispatcher => exact .stay resetDispatcher
  | queued _ _ _ member room session => exact .queue member room _ _ session

end Received

theorem close_removes {env : Surroundings} {stack next : ProtocolStack} {fd : FileDescriptor}
    {reply : Reply} {st : Owned SocketStruct} (taken : stack.close env fd = .done (reply, next))
    (found : stack.lookupStruct fd = some st) :
    ∃ moved : List (Owned SocketSession),
      moved.map Owned.address = st.object.released.map Owned.address ∧
      next = { stack with
        fdSet := dropAt descriptor fd stack.fdSet, garbage := stack.garbage ++ moved } := by
  simp only [close, found] at taken
  obtain ⟨moved, closed, result⟩ := Outcome.bind_eq_done.mp taken
  cases result
  exact ⟨moved, closeSessions_addresses closed, rfl⟩

theorem close_moves {env : Surroundings} {stack next : ProtocolStack} {fd : FileDescriptor}
    {reply : Reply} (taken : stack.close env fd = .done (reply, next)) :
    Moves stack (.close env fd) next := by
  cases found : stack.lookupStruct fd with
  | none =>
      simp only [close, found] at taken
      cases taken
      exact .stay stack.resetDispatcher
  | some st =>
      obtain ⟨moved, same, rfl⟩ := close_removes taken found
      exact .close found moved same

theorem connect_opens {build : Build} {env : Surroundings} {stack next : ProtocolStack}
    {fd : FileDescriptor} {saddr : Sockaddr} {len : UInt32} {address : Nat}
    {initial : SequenceNumber} {now : TimeBase} {reply : Reply} {st : Owned SocketStruct}
    (taken : stack.connect build env fd saddr len address initial now = .done (reply, next))
    (found : stack.lookupStruct fd = some st) (unspecified : st.object.type = .unspecified) :
    ∃ session : SocketSession,
      (session.getLocalAddress = st.object.bindAddress ∧
        session.getRemoteAddress = SocketAddress.ofSockaddr saddr len) ∧
      next = stack.taking st (st.object.connected ⟨address, session⟩) st.object.bindAddress
        (SocketAddress.ofSockaddr saddr len) address := by
  simp only [connect, found, unspecified, beq_iff_eq, reduceCtorEq, ↓reduceIte] at taken
  obtain ⟨_, _, opening⟩ := Outcome.bind_eq_done.mp taken
  obtain ⟨session, opened, result⟩ := Outcome.bind_eq_done.mp opening
  cases result
  exact ⟨session, SocketSession.open_named opened, rfl⟩

theorem connect_moves {build : Build} {env : Surroundings} {stack next : ProtocolStack}
    {fd : FileDescriptor} {saddr : Sockaddr} {len : UInt32} {address : Nat}
    {initial : SequenceNumber} {now : TimeBase} {reply : Reply}
    (taken : stack.connect build env fd saddr len address initial now = .done (reply, next)) :
    Moves stack (.connect env fd saddr len address initial now) next := by
  cases found : stack.lookupStruct fd with
  | none =>
      simp only [connect, found] at taken
      cases taken
      exact .stay stack.resetDispatcher
  | some st =>
      cases kind : st.object.type with
      | unspecified =>
          obtain ⟨session, named, rfl⟩ := connect_opens taken found kind
          exact .connect found kind session named
      | passive =>
          simp only [connect, found, kind, beq_self_eq_true, ↓reduceIte] at taken
          cases taken
          exact .stay stack.resetDispatcher
      | active =>
          simp only [connect, found, kind, beq_iff_eq, reduceCtorEq, ↓reduceIte] at taken
          cases taken
          exact .stay stack.resetDispatcher

theorem step_moves {build : Build} {stack next : ProtocolStack} {event : StackEvent}
    (taken : stack.step build event = .done next) : Moves stack event next := by
  cases event with
  | socket domain type protocol fd port address =>
      obtain ⟨⟨reply, _⟩, made, rfl⟩ := Outcome.map_eq_done.mp taken
      unfold socket at made
      split at made
      · cases made
        exact .stay stack.resetDispatcher
      · obtain ⟨_, _, result⟩ := Outcome.bind_eq_done.mp made
        cases result
        exact .socket
  | bind fd saddr len =>
      obtain ⟨⟨reply, _⟩, made, rfl⟩ := Outcome.map_eq_done.mp taken
      unfold bind at made
      split at made
      · cases made
        exact .stay stack.resetDispatcher
      · next st found =>
          cases made
          exact .bind (lookupStruct_mem found)
  | listen fd backlog =>
      obtain ⟨⟨reply, _⟩, made, rfl⟩ := Outcome.map_eq_done.mp taken
      unfold listen at made
      split at made
      · cases made
        exact .stay stack.resetDispatcher
      · next st found =>
          dsimp only at made
          split at made
          · cases made
            exact .stay stack.resetDispatcher
          · next unspecified =>
              cases made
              exact .listen (lookupStruct_mem found) (by simpa using unspecified) _
  | connect env fd saddr len address initial now =>
      obtain ⟨⟨reply, _⟩, made, rfl⟩ := Outcome.map_eq_done.mp taken
      exact connect_moves made
  | close env fd =>
      obtain ⟨⟨reply, _⟩, made, rfl⟩ := Outcome.map_eq_done.mp taken
      exact close_moves made
  | receive leftovers packet source destination address now =>
      obtain ⟨⟨dispatch, _⟩, made, rfl⟩ := Outcome.map_eq_done.mp taken
      exact (onReceivePacket_receives made).moves

/-! Ownership. The kernel gives out descriptors that are not in use, and the allocator addresses
at which nothing lives. -/

def sessionAddresses (stack : ProtocolStack) : List Nat := stack.sessions.map Owned.address

def lawful (stack : ProtocolStack) : StackEvent → Prop
  | .socket _ _ _ fd _ address =>
      stack.ownFD fd = false ∧ address ∉ stack.fdSet.map structAddress
  | .connect _ _ _ _ address _ _ => address ∉ stack.sessionAddresses
  | .receive _ _ _ _ address _ => address ∉ stack.sessionAddresses
  | _ => True

instance (stack : ProtocolStack) (event : StackEvent) : Decidable (stack.lawful event) :=
  event.casesOn (motive := fun event => Decidable (stack.lawful event))
    (fun _ _ _ fd _ address => inferInstanceAs
      (Decidable (stack.ownFD fd = false ∧ address ∉ stack.fdSet.map structAddress)))
    (fun _ _ _ => isTrue trivial)
    (fun _ _ => isTrue trivial)
    (fun _ _ _ _ address _ _ => inferInstanceAs (Decidable (address ∉ stack.sessionAddresses)))
    (fun _ _ => isTrue trivial)
    (fun _ _ _ _ address _ => inferInstanceAs (Decidable (address ∉ stack.sessionAddresses)))

structure Consistent (stack : ProtocolStack) : Prop where
  descriptors : (stack.fdSet.map descriptor).Nodup
  structs : (stack.fdSet.map structAddress).Nodup
  kept : ∀ entry ∈ stack.fdSet, entry.2.object.WellKept
  sessions : stack.sessionAddresses.Nodup
  referenced : ∀ elem ∈ stack.dispatcher.established, elem.session ∈ stack.sessionAddresses

theorem create_consistent (defaultIP : IPAddress) (buffer : List UInt8) :
    (create defaultIP buffer).Consistent :=
  ⟨List.nodup_nil, List.nodup_nil, by simp [create], List.nodup_nil, by simp [create]⟩

section Stores

variable {stack : ProtocolStack} {fd : FileDescriptor} {st : Owned SocketStruct}

theorem sessions_split {fdSet others : List (FileDescriptor × Owned SocketStruct)}
    {entry : FileDescriptor × Owned SocketStruct} (split : fdSet.Perm (entry :: others))
    (garbage : List (Owned SocketSession)) :
    ((fdSet.flatMap (fun entry => entry.2.object.held) ++ garbage).map Owned.address).Perm
      (entry.2.object.held.map Owned.address ++
        (others.flatMap (fun entry => entry.2.object.held) ++ garbage).map Owned.address) := by
  have exchanged :=
    ((split.flatMap_right fun entry => entry.2.object.held).append_right garbage).map Owned.address
  simp only [List.flatMap_cons, List.append_assoc, List.map_append] at exchanged ⊢
  exact exchanged

/-- Writing to a socket exchanges the sessions it holds and leaves the others alone. -/
theorem storeStruct_sessions (structs : (stack.fdSet.map structAddress).Nodup)
    (member : (fd, st) ∈ stack.fdSet) (object : SocketStruct) :
    ∃ rest : List Nat, stack.sessionAddresses.Perm (st.object.held.map Owned.address ++ rest) ∧
      (stack.storeStruct st.address object).sessionAddresses.Perm
        (object.held.map Owned.address ++ rest) :=
  ⟨_, sessions_split (perm_cons_dropAt structs member) stack.garbage,
    sessions_split (replaceAt_perm structs member _) stack.garbage⟩

theorem storeStruct_descriptors (address : Nat) (object : SocketStruct) :
    (stack.storeStruct address object).fdSet.map descriptor = stack.fdSet.map descriptor := by
  apply map_replaceAt
  intro entry
  rfl

theorem storeStruct_structs (address : Nat) (object : SocketStruct) :
    (stack.storeStruct address object).fdSet.map structAddress =
      stack.fdSet.map structAddress := by
  apply map_replaceAt
  intro entry
  rfl

theorem storeStruct_kept (kept : ∀ entry ∈ stack.fdSet, entry.2.object.WellKept)
    {object : SocketStruct} (good : object.WellKept) :
    ∀ entry ∈ (stack.storeStruct st.address object).fdSet, entry.2.object.WellKept := by
  intro entry present
  rcases mem_replaceAt.mp present with old | ⟨_, _, _, rfl⟩
  · exact kept entry old.1
  · exact good

/-- A socket that holds the same sessions after a write. -/
theorem Consistent.store (consistent : stack.Consistent) (member : (fd, st) ∈ stack.fdSet)
    {object : SocketStruct} (good : object.WellKept) (held : object.held = st.object.held) :
    (stack.storeStruct st.address object).Consistent := by
  obtain ⟨rest, before, after⟩ := storeStruct_sessions consistent.structs member object
  rw [held] at after
  have same := after.trans before.symm
  refine ⟨?_, ?_, storeStruct_kept consistent.kept good, ?_, ?_⟩
  · rw [storeStruct_descriptors]
    exact consistent.descriptors
  · rw [storeStruct_structs]
    exact consistent.structs
  · exact same.nodup_iff.mpr consistent.sessions
  · exact fun elem present => same.mem_iff.mpr (consistent.referenced elem present)

/-- A socket that takes a new session, which the dispatcher is told. -/
theorem Consistent.take (consistent : stack.Consistent) (member : (fd, st) ∈ stack.fdSet)
    {object : SocketStruct} (good : object.WellKept) {address : Nat}
    (held : (object.held.map Owned.address).Perm (address :: st.object.held.map Owned.address))
    (fresh : address ∉ stack.sessionAddresses) (local_ peer : SocketAddress) :
    (stack.taking st object local_ peer address).Consistent := by
  obtain ⟨rest, before, after⟩ := storeStruct_sessions consistent.structs member object
  have grown : (stack.storeStruct st.address object).sessionAddresses.Perm
      (address :: stack.sessionAddresses) :=
    (after.trans (held.append_right rest)).trans (before.symm.cons address)
  refine ⟨?_, ?_, storeStruct_kept consistent.kept good, ?_, ?_⟩
  · change ((stack.storeStruct st.address object).fdSet.map descriptor).Nodup
    rw [storeStruct_descriptors]
    exact consistent.descriptors
  · change ((stack.storeStruct st.address object).fdSet.map structAddress).Nodup
    rw [storeStruct_structs]
    exact consistent.structs
  · exact grown.nodup_iff.mpr (List.nodup_cons.mpr ⟨fresh, consistent.sessions⟩)
  · intro elem present
    rcases List.mem_append.mp present with old | new
    · exact grown.mem_iff.mpr (List.mem_cons_of_mem address (consistent.referenced elem old))
    · rw [List.mem_singleton.mp new]
      exact grown.mem_iff.mpr List.mem_cons_self

end Stores

theorem ownFD_iff (stack : ProtocolStack) (fd : FileDescriptor) :
    stack.ownFD fd = false ↔ fd ∉ stack.fdSet.map descriptor := by
  rw [ownFD, lookupStruct, Option.isSome_map, ← entryAt_none, Option.isSome_eq_false_iff,
    Option.isNone_iff_eq_none]

section Steps

variable {stack : ProtocolStack}

theorem Consistent.socket (consistent : stack.Consistent) {fd : FileDescriptor} {address : Nat}
    (unowned : stack.ownFD fd = false) (fresh : address ∉ stack.fdSet.map structAddress)
    (bindAddress : SocketAddress) :
    Consistent { stack with
      fdSet := (fd, ⟨address, SocketStruct.create bindAddress⟩) ::
        dropAt descriptor fd stack.fdSet } := by
  have absent := (ownFD_iff stack fd).mp unowned
  rw [dropAt_absent absent]
  refine ⟨?_, ?_, ?_, consistent.sessions, consistent.referenced⟩
  · exact List.nodup_cons.mpr ⟨absent, consistent.descriptors⟩
  · exact List.nodup_cons.mpr ⟨fresh, consistent.structs⟩
  · intro entry present
    rcases List.mem_cons.mp present with rfl | old
    · exact SocketStruct.create_wellKept bindAddress
    · exact consistent.kept entry old

/-- Closing moves the sessions of a socket to the garbage and forgets none. -/
theorem Consistent.close (consistent : stack.Consistent) {fd : FileDescriptor}
    {st : Owned SocketStruct} (member : (fd, st) ∈ stack.fdSet)
    {moved : List (Owned SocketSession)}
    (same : moved.map Owned.address = st.object.released.map Owned.address) :
    Consistent { stack with
      fdSet := dropAt descriptor fd stack.fdSet, garbage := stack.garbage ++ moved } := by
  have before := sessions_split (perm_cons_dropAt consistent.descriptors member) stack.garbage
  have after : (sessionAddresses { stack with
      fdSet := dropAt descriptor fd stack.fdSet, garbage := stack.garbage ++ moved }).Perm
      stack.sessionAddresses := by
    refine List.Perm.trans ?_ before.symm
    rw [← (consistent.kept _ member).released_eq, ← same, ← List.map_append]
    refine List.Perm.map Owned.address ?_
    rw [ProtocolStack.sessions, ← List.append_assoc]
    exact List.perm_append_comm
  refine ⟨nodup_map_dropAt consistent.descriptors, nodup_map_dropAt consistent.structs, ?_,
    after.nodup_iff.mpr consistent.sessions, ?_⟩
  · exact fun entry present => consistent.kept entry (mem_dropAt.mp present).1
  · exact fun elem present => after.mem_iff.mpr (consistent.referenced elem present)

/-- Every lawful event keeps the stack consistent. -/
theorem Consistent.moves {event : StackEvent} {next : ProtocolStack}
    (consistent : stack.Consistent) (environment : stack.lawful event)
    (moves : Moves stack event next) : next.Consistent := by
  cases moves with
  | stay resetDispatcher =>
      exact ⟨consistent.descriptors, consistent.structs, consistent.kept, consistent.sessions,
        consistent.referenced⟩
  | socket => exact consistent.socket environment.1 environment.2 _
  | bind member => exact consistent.store member ((consistent.kept _ member).bound _) rfl
  | listen member unspecified size =>
      have stored :=
        consistent.store member ((consistent.kept _ member).listening unspecified size) rfl
      exact ⟨stored.descriptors, stored.structs, stored.kept, stored.sessions, stored.referenced⟩
  | @connect _ fd _ _ _ _ _ st found unspecified session named =>
      have member := lookupStruct_mem found
      have kept : st.object.WellKept := consistent.kept (fd, st) member
      refine consistent.take member (kept.connected unspecified _) ?_ environment _ _
      rw [SocketStruct.held, SocketStruct.held, (kept.unspecified unspecified).1]
      exact List.Perm.refl _
  | close found moved same => exact consistent.close (lookupStruct_mem found) same
  | queue member room local_ peer session =>
      refine consistent.take member ((consistent.kept _ member).queueing room _) ?_ environment _ _
      rw [SocketStruct.held, SocketStruct.queueing, ← List.append_assoc, List.map_append]
      exact List.perm_append_singleton _ _

theorem run_consistent {build : Build} {defaultIP : IPAddress} {buffer : List UInt8}
    {events : List StackEvent}
    (environment : Allowed (step build) lawful (create defaultIP buffer) events)
    (reached : (create defaultIP buffer).run build events = .done stack) : stack.Consistent :=
  execute_invariant (fun _ _ _ consistent environment taken =>
    consistent.moves environment (step_moves taken)) (create_consistent defaultIP buffer)
    environment reached

/-- The owners of the sessions the dispatcher knows: each is the session of one open socket, or
waits at one, or is garbage, and only active sockets have one of their own. -/
theorem sessions_owned (build : Build) (defaultIP : IPAddress) (buffer : List UInt8)
    (events : List StackEvent) (stack : ProtocolStack)
    (environment : Allowed (step build) lawful (create defaultIP buffer) events)
    (reached : (create defaultIP buffer).run build events = .done stack) :
    (∀ elem ∈ stack.dispatcher.established, stack.sessionAddresses.count elem.session = 1) ∧
    ∀ entry ∈ stack.fdSet,
      (entry.2.object.type = .active ↔ entry.2.object.session.isSome = true) := by
  have consistent := run_consistent environment reached
  refine ⟨fun elem member => ?_, fun entry member => (consistent.kept entry member).active⟩
  exact List.count_eq_one_of_mem consistent.sessions (consistent.referenced elem member)

end Steps

def sampleHost : IPAddress := IPAddress.ofInAddr ⟨10, 0, 0, 1⟩

def samplePeer : IPAddress := IPAddress.ofInAddr ⟨10, 0, 0, 2⟩

-- ports in network order: 20480 is port 80
def sampleServer : Sockaddr := ⟨2, 20480, ⟨10, 0, 0, 2⟩⟩

def anyInterface : Sockaddr := ⟨2, 20480, ⟨0, 0, 0, 0⟩⟩

def sampleLeftovers : ChainLeftovers := ⟨⟨0, 0, 0, 0, 0⟩, ⟨0, 0, 0, 0, 0⟩, ⟨0, 0, 0, 0, 0⟩⟩

-- a SYN from port 5000 to port 80
def requestPacket : Buffer :=
  ⟨[19, 136, 0, 80, 0, 0, 0, 7, 0, 0, 0, 0, 80, 2, 255, 255, 0, 0, 0, 0], by decide⟩

def busyRun : List StackEvent :=
  [.socket 2 1 0 3 50000 1, .bind 3 anyInterface 16, .listen 3 1, .socket 2 1 0 4 50001 2,
    .connect SendBuffer.quietHost 4 sampleServer 16 10 7 0,
    .receive sampleLeftovers requestPacket samplePeer sampleHost 11 20,
    .close SendBuffer.quietHost 4]

theorem busyRun_lawful : Allowed (step .debug) lawful (create sampleHost []) busyRun := by
  decide

theorem busyRun_owned :
    ∃ stack, (create sampleHost []).run .debug busyRun = .done stack ∧
      stack.dispatcher.established.map EstablishedSocket.session = [10, 11] ∧
      stack.garbage.map Owned.address = [10] ∧
      ∀ elem ∈ stack.dispatcher.established, stack.sessionAddresses.count elem.session = 1 :=
  ⟨_, rfl, rfl, rfl, (sessions_owned .debug sampleHost [] busyRun _ busyRun_lawful rfl).1⟩

end ProtocolStack

end LabNetstack
