import LabNetstack.ProtocolStack
import LabNetstack.StackRaces

/-! The calls taken apart into accesses do, one after the other, what they do to the stack as a
whole. -/

namespace LabNetstack

open StackCode

def SocketStruct.fields (st : SocketStruct) : SocketFields :=
  ⟨st.type, st.session.map Owned.address, st.pending.map Owned.address, st.backlog.toNat⟩

def OpenSocket.of (entry : FileDescriptor × Owned SocketStruct) : OpenSocket :=
  ⟨entry.1, entry.2.address, entry.2.object.fields⟩

-- whether the session has sent its SYN
def SocketSession.begun (session : Owned SocketSession) : Nat × Bool :=
  (session.address, session.object.sendBuffer.syn != .none)

namespace StackMemory

structure Shows (memory : StackMemory) (stack : ProtocolStack) : Prop where
  sockets : memory.sockets = stack.fdSet.map OpenSocket.of
  listening : memory.listening = stack.listenDispatcher.vector.map ListeningSocket.socket
  dispatched : memory.dispatched = stack.dispatcher.established.map EstablishedSocket.session
  sessions : memory.sessions.Perm (stack.sessions.map SocketSession.begun)

variable {memory : StackMemory} {stack : ProtocolStack} {fd : FileDescriptor}
  {st : Owned SocketStruct}

theorem start_shows (defaultIP : IPAddress) (buffer : List UInt8) :
    start.Shows (ProtocolStack.create defaultIP buffer) :=
  ⟨rfl, rfl, rfl, List.Perm.refl _⟩

theorem Shows.entryAt_fd (shows : memory.Shows stack) (fd : FileDescriptor) :
    entryAt OpenSocket.fd fd memory.sockets =
      (entryAt ProtocolStack.descriptor fd stack.fdSet).map OpenSocket.of := by
  rw [shows.sockets, entryAt, List.find?_map]
  rfl

theorem Shows.entryAt_address (shows : memory.Shows stack) (address : Nat) :
    entryAt OpenSocket.address address memory.sockets =
      (entryAt ProtocolStack.structAddress address stack.fdSet).map OpenSocket.of := by
  rw [shows.sockets, entryAt, List.find?_map]
  rfl

/-! The accesses before the first write of a call. -/

section Guards

variable {function : StackFunction} {α : Type} {body : α → StackCode}

theorem foreign_replay (shows : memory.Shows stack) (unowned : stack.lookupStruct fd = none) :
    replay effect memory [reads function .fdSet false (.foreign fd)] = some memory := by
  have absent : (entryAt OpenSocket.fd fd memory.sockets).isNone = true := by
    rw [shows.entryAt_fd, Option.map_eq_none_iff.mp unowned]
    rfl
  change (memory.check (entryAt OpenSocket.fd fd memory.sockets).isNone).bind some = some memory
  rw [check, if_pos absent]
  rfl

theorem guarded_replay (shows : memory.Shows stack) (found : stack.lookupStruct fd = some st)
    (socket : α) : replay effect memory (guarded function fd (some socket) body) =
      replay effect memory (body socket) := by
  obtain ⟨entry, present, _⟩ := Option.map_eq_some_iff.mp found
  have owned : (entryAt OpenSocket.fd fd memory.sockets).isSome = true := by
    rw [shows.entryAt_fd, present]
    rfl
  change (memory.check (entryAt OpenSocket.fd fd memory.sockets).isSome).bind
    (fun next => replay effect next (body socket ++ [.unlock])) = _
  rw [check, if_pos owned, Option.bind_some, replay_append]
  exact Option.bind_fun_some (replay effect memory (body socket))

theorem located_replay (shows : memory.Shows stack) (found : stack.lookupStruct fd = some st)
    (writes : Bool) (object : SharedObject) (locked : Bool) :
    memory.effect ⟨function, object, writes, locked, .located fd st.address⟩ = some memory := by
  obtain ⟨entry, present, rfl⟩ := Option.map_eq_some_iff.mp found
  have located : ((entryAt OpenSocket.fd fd memory.sockets).map OpenSocket.address ==
      some entry.2.address) = true := by
    rw [shows.entryAt_fd, present]
    exact beq_self_eq_true (some entry.2.address)
  exact if_pos located

theorem fields_replay (shows : memory.Shows stack) (consistent : stack.Consistent)
    (member : (fd, st) ∈ stack.fdSet) (writes : Bool) (object : SharedObject) (locked : Bool) :
    memory.effect ⟨function, object, writes, locked, .fields st.address st.object.fields⟩ =
      some memory := by
  have here : entryAt ProtocolStack.structAddress st.address stack.fdSet = some (fd, st) :=
    entryAt_of_mem consistent.structs member
  have read : ((entryAt OpenSocket.address st.address memory.sockets).map OpenSocket.fields ==
      some st.object.fields) = true := by
    rw [shows.entryAt_address, here]
    exact beq_self_eq_true (some st.object.fields)
  exact if_pos read

theorem typed_replay (shows : memory.Shows stack) (consistent : stack.Consistent)
    (found : stack.lookupStruct fd = some st) (body : Nat → SocketFields → StackCode) :
    replay effect memory (typed function fd (some (st.address, st.object.fields)) body) =
      replay effect memory (body st.address st.object.fields) := by
  rw [typed, guarded_replay shows found]
  change (memory.effect _).bind (fun next => (effect next _).bind _) = _
  rw [located_replay shows found, Option.bind_some,
    fields_replay shows consistent (ProtocolStack.lookupStruct_mem found), Option.bind_some]

end Guards

/-! What the writes show. -/

theorem Shows.stored (shows : memory.Shows stack) (object : SocketStruct) (address : Nat) :
    replaceAt OpenSocket.address address
        (fun socket => { socket with fields := object.fields }) memory.sockets =
      (stack.storeStruct address object).fdSet.map OpenSocket.of := by
  rw [shows.sockets, ProtocolStack.storeStruct, replaceAt, replaceAt, List.map_map, List.map_map]
  refine List.map_congr_left fun entry _ => ?_
  rw [Function.comp_apply, Function.comp_apply]
  by_cases here : ProtocolStack.structAddress entry = address
  · rw [if_pos here, if_pos (show (OpenSocket.of entry).address = address from here)]
    rfl
  · rw [if_neg here, if_neg (show ¬(OpenSocket.of entry).address = address from here)]

theorem Shows.unchanged (shows : memory.Shows stack) (consistent : stack.Consistent)
    (member : (fd, st) ∈ stack.fdSet) {object : SocketStruct}
    (same : object.fields = st.object.fields) :
    memory.sockets = (stack.storeStruct st.address object).fdSet.map OpenSocket.of := by
  rw [← shows.stored, shows.sockets, replaceAt, List.map_map]
  refine List.map_congr_left fun entry present => ?_
  rw [Function.comp_apply]
  split
  · rename_i here
    rw [List.inj_on_of_nodup_map consistent.structs present member here, same]
    rfl
  · rfl

theorem sessions_exchange {fdSet others : List (FileDescriptor × Owned SocketStruct)}
    {entry : FileDescriptor × Owned SocketStruct} (split : fdSet.Perm (entry :: others))
    (garbage : List (Owned SocketSession)) :
    (fdSet.flatMap (fun entry => entry.2.object.held) ++ garbage).Perm
      (entry.2.object.held ++ (others.flatMap (fun entry => entry.2.object.held) ++ garbage)) := by
  have exchanged := (split.flatMap_right fun entry => entry.2.object.held).append_right garbage
  rw [List.flatMap_cons, List.append_assoc] at exchanged
  exact exchanged

theorem storeStruct_exchange (consistent : stack.Consistent) (member : (fd, st) ∈ stack.fdSet)
    (object : SocketStruct) :
    ∃ rest, stack.sessions.Perm (st.object.held ++ rest) ∧
      (stack.storeStruct st.address object).sessions.Perm (object.held ++ rest) :=
  ⟨_, sessions_exchange (perm_cons_dropAt consistent.structs member) stack.garbage,
    sessions_exchange (replaceAt_perm consistent.structs member _) stack.garbage⟩

theorem Shows.holds (shows : memory.Shows stack) (consistent : stack.Consistent)
    (member : (fd, st) ∈ stack.fdSet) {object : SocketStruct}
    (same : object.held = st.object.held) :
    memory.sessions.Perm
      ((stack.storeStruct st.address object).sessions.map SocketSession.begun) := by
  obtain ⟨rest, before, after⟩ := storeStruct_exchange consistent member object
  rw [same] at after
  exact shows.sessions.trans ((before.trans after.symm).map SocketSession.begun)

/-- A socket takes a session. -/
theorem Shows.takes (shows : memory.Shows stack) (consistent : stack.Consistent)
    (member : (fd, st) ∈ stack.fdSet) {object : SocketStruct} {session : Owned SocketSession}
    (held : object.held.Perm (session :: st.object.held)) :
    (SocketSession.begun session :: memory.sessions).Perm
      ((stack.storeStruct st.address object).sessions.map SocketSession.begun) := by
  obtain ⟨rest, before, after⟩ := storeStruct_exchange consistent member object
  have grown : (session :: stack.sessions).Perm (stack.storeStruct st.address object).sessions :=
    (before.cons session).trans ((held.append_right rest).symm.trans after.symm)
  exact (shows.sessions.cons _).trans (grown.map SocketSession.begun)

theorem Shows.unknown (shows : memory.Shows stack) {address : Nat}
    (fresh : address ∉ stack.sessionAddresses) : address ∉ memory.sessions.map Prod.fst := by
  have addresses := shows.sessions.map Prod.fst
  rw [List.map_map] at addresses
  exact fun present => fresh (addresses.mem_iff.mp present)

end StackMemory

/-- The thread and the code of an event. A packet comes in a round of the event loop. -/
def StackEvent.runs (build : Build) : StackEvent → Nat × StackCode → Prop
  | .socket _ _ _ fd _ address, call =>
      call = (1, SocketCall.realSocket.code build) ∨ call = (1, StackCode.socket build fd address)
  | .bind fd _ _, call => ∃ found, call = (1, StackCode.bind fd found)
  | .listen fd backlog, call => ∃ found, call = (1, StackCode.listen fd backlog found)
  | .connect _ fd _ _ address _ _, call => ∃ found, call = (1, StackCode.connect fd address found)
  | .close _ fd, call => ∃ found, call = (1, StackCode.close fd found)
  | .receive _ _ _ _ _ _, call => ∃ arrival, call = (0, runEventLoop [arrival] [])

theorem StackEvent.runs_code {build : Build} {event : StackEvent} {call : Nat × StackCode}
    (runs : event.runs build call) : StackRaces.code build call.1 call.2 := by
  cases event with
  | socket domain type protocol fd port address =>
      rcases runs with rfl | rfl
      · exact ⟨.realSocket, rfl⟩
      · exact ⟨.socket fd address, rfl⟩
  | bind fd saddr len =>
      obtain ⟨found, rfl⟩ := runs
      exact ⟨.bind fd found, rfl⟩
  | listen fd backlog =>
      obtain ⟨found, rfl⟩ := runs
      exact ⟨.listen fd backlog found, rfl⟩
  | connect env fd saddr len address initial now =>
      obtain ⟨found, rfl⟩ := runs
      exact ⟨.connect fd address found, rfl⟩
  | close env fd =>
      obtain ⟨found, rfl⟩ := runs
      exact ⟨.close fd found, rfl⟩
  | receive leftovers packet source destination address now =>
      obtain ⟨arrival, rfl⟩ := runs
      exact ⟨[arrival], [], rfl⟩

namespace StackMemory

variable {memory : StackMemory} {stack next : ProtocolStack} {build : Build}

/-- The event runs code that takes the memory to one that shows the stack after it. -/
def Replayed (build : Build) (memory : StackMemory) (event : StackEvent) (next : ProtocolStack) :
    Prop :=
  ∃ call after, event.runs build call ∧ replay effect memory call.2 = some after ∧
    after.Shows next

theorem socket_replayed (shows : memory.Shows stack) {domain type protocol : Int32}
    {fd : FileDescriptor} {port : SocketPort} {address : Nat} {reply : Reply}
    (unowned : stack.ownFD fd = false)
    (taken : stack.socket build domain type protocol fd port address = .done (reply, next)) :
    Replayed build memory (.socket domain type protocol fd port address) next := by
  unfold ProtocolStack.socket at taken
  split at taken
  · cases taken
    exact ⟨_, memory, Or.inl rfl, rfl, shows⟩
  · obtain ⟨_, _, result⟩ := Outcome.bind_eq_done.mp taken
    cases result
    have missing := (ProtocolStack.ownFD_iff stack fd).mp unowned
    have absent : entryAt OpenSocket.fd fd memory.sockets = none := by
      rw [shows.entryAt_fd, entryAt_none.mpr missing]
      rfl
    refine ⟨_, { memory with
      sockets := ⟨fd, address, ⟨.unspecified, none, [], 0⟩⟩ :: memory.sockets }, Or.inr rfl, ?_, ?_⟩
    · cases build <;> simp [StackCode.socket, reads, updates, replay, effect, check, absent]
    · rw [ProtocolStack.removeStruct, dropAt_absent missing]
      refine ⟨?_, shows.listening, shows.dispatched, shows.sessions⟩
      dsimp only
      rw [List.map_cons, shows.sockets]
      rfl

theorem bind_replayed (shows : memory.Shows stack) (consistent : stack.Consistent)
    {fd : FileDescriptor} {saddr : Sockaddr} {len : UInt32} {reply : Reply}
    (taken : stack.bind fd saddr len = .done (reply, next)) :
    Replayed build memory (.bind fd saddr len) next := by
  unfold ProtocolStack.bind at taken
  split at taken
  · next unowned =>
      cases taken
      exact ⟨_, memory, ⟨none, rfl⟩, foreign_replay shows unowned, shows⟩
  · next st found =>
      cases taken
      have member := ProtocolStack.lookupStruct_mem found
      refine ⟨_, memory, ⟨some st.address, rfl⟩, ?_, shows.unchanged consistent member rfl,
        shows.listening, shows.dispatched, shows.holds consistent member rfl⟩
      dsimp only
      rw [StackCode.bind, guarded_replay shows found]
      change (memory.effect _).bind (fun next => some next) = some memory
      rw [located_replay shows found]
      rfl

theorem listen_replayed (shows : memory.Shows stack) (consistent : stack.Consistent)
    {fd : FileDescriptor} {backlog : Int32} {reply : Reply}
    (taken : stack.listen fd backlog = .done (reply, next)) :
    Replayed build memory (.listen fd backlog) next := by
  unfold ProtocolStack.listen at taken
  split at taken
  · next unowned =>
      cases taken
      exact ⟨_, memory, ⟨none, rfl⟩, foreign_replay shows unowned, shows⟩
  · next st found =>
      dsimp only at taken
      split at taken
      · next typed =>
          cases taken
          refine ⟨_, memory, ⟨some (st.address, st.object.fields), rfl⟩, ?_, shows⟩
          rw [StackCode.listen, typed_replay shows consistent found]
          cases kind : st.object.type with
          | unspecified => simp [kind] at typed
          | passive | active => simp [kind, SocketStruct.fields, replay]
      · next unspecified =>
          cases taken
          have kind : st.object.fields.type = .unspecified := by
            change st.object.type = .unspecified
            simpa using unspecified
          have member := ProtocolStack.lookupStruct_mem found
          have listening := congrArg (· ++ [st.address]) shows.listening
          refine ⟨_, { memory with
            sockets := _, listening := memory.listening ++ [st.address] },
            ⟨some (st.address, st.object.fields), rfl⟩, ?_, shows.stored _ st.address, ?_,
            shows.dispatched, shows.holds consistent member rfl⟩
          · rw [StackCode.listen, typed_replay shows consistent found]
            simp only [kind]
            rfl
          · dsimp only [ListenDispatcher.addListener]
            rw [List.map_append]
            exact listening

theorem made_begun {env : Surroundings} {local_ peer : SocketAddress} {now : TimeBase}
    {event : SessionEvent} {session : SocketSession}
    (taken : (SocketSession.create local_ peer now).step env event = .done session)
    (address : Nat) :
    SocketSession.begun ⟨address, session⟩ = (address, SocketSession.synchronizes event) := by
  have before : (SocketSession.create local_ peer now).sendBuffer.syn = .none :=
    (SocketSession.create_traced local_ peer now).syn
  rw [SocketSession.begun, (SocketSession.step_drives taken).syn, before]
  cases SocketSession.synchronizes event <;> rfl

theorem connect_replayed (shows : memory.Shows stack) (consistent : stack.Consistent)
    {env : Surroundings} {fd : FileDescriptor} {saddr : Sockaddr} {len : UInt32} {address : Nat}
    {initial : SequenceNumber} {now : TimeBase} {reply : Reply}
    (fresh : address ∉ stack.sessionAddresses)
    (taken : stack.connect build env fd saddr len address initial now = .done (reply, next)) :
    Replayed build memory (.connect env fd saddr len address initial now) next := by
  unfold ProtocolStack.connect at taken
  split at taken
  · next unowned =>
      cases taken
      exact ⟨_, memory, ⟨none, rfl⟩, foreign_replay shows unowned, shows⟩
  · next st found =>
      have refused (other : st.object.type ≠ .unspecified) :
          Replayed build memory (.connect env fd saddr len address initial now) stack := by
        refine ⟨_, memory, ⟨some (st.address, st.object.fields), rfl⟩, ?_, shows⟩
        dsimp only
        rw [StackCode.connect, typed_replay shows consistent found]
        cases kind : st.object.type with
        | unspecified => exact absurd kind other
        | passive | active => simp [kind, SocketStruct.fields, replay]
      cases kind : st.object.type with
      | passive =>
          simp only [kind, beq_self_eq_true, ↓reduceIte] at taken
          cases taken
          exact refused (by rw [kind]; decide)
      | active =>
          simp only [kind, beq_iff_eq, reduceCtorEq, ↓reduceIte] at taken
          cases taken
          exact refused (by rw [kind]; decide)
      | unspecified =>
          simp only [kind, beq_iff_eq, reduceCtorEq, ↓reduceIte] at taken
          obtain ⟨_, _, opening⟩ := Outcome.bind_eq_done.mp taken
          obtain ⟨session, opened, result⟩ := Outcome.bind_eq_done.mp opening
          cases result
          have kind : st.object.fields.type = .unspecified := kind
          have member := ProtocolStack.lookupStruct_mem found
          have alone := ((consistent.kept _ member).unspecified kind).1
          have marked : replaceAt Prod.fst address (fun _ => (address, true))
              ((address, false) :: memory.sessions) = (address, true) :: memory.sessions := by
            rw [replaceAt, List.map_cons, if_pos rfl]
            exact congrArg (_ :: ·) (replaceAt_absent (shows.unknown fresh))
          have held : (st.object.connected ⟨address, session⟩).held.Perm
              (⟨address, session⟩ :: st.object.held) := by
            rw [SocketStruct.held, SocketStruct.held, alone]
            exact List.Perm.refl _
          refine ⟨_, { memory with
            sockets := _
            dispatched := memory.dispatched ++ [address]
            sessions := (address, true) :: memory.sessions },
            ⟨some (st.address, st.object.fields), rfl⟩, ?_,
            shows.stored (st.object.connected ⟨address, session⟩) st.address, shows.listening, ?_,
            ?_⟩
          · rw [StackCode.connect, typed_replay shows consistent found]
            simp only [kind]
            exact congrArg (fun sessions => some (StackMemory.mk _ _ _ sessions)) marked
          · dsimp only [SegmentDispatcher.addSession]
            rw [List.map_append, shows.dispatched]
            rfl
          · have taken : (SocketSession.create st.object.bindAddress
                (SocketAddress.ofSockaddr saddr len) now).step env (.open_ initial) =
                .done session := opened
            have begun := shows.takes consistent member held
            rw [made_begun taken address] at begun
            exact begun

theorem closeAll_begun {env : Surroundings} {sessions moved : List (Owned SocketSession)}
    (closed : ProtocolStack.closeAll env sessions = .done moved) :
    moved.map SocketSession.begun = sessions.map SocketSession.begun := by
  induction sessions generalizing moved with
  | nil =>
      cases closed
      rfl
  | cons session rest ih =>
      rw [ProtocolStack.closeAll, Outcome.bind_eq_done] at closed
      obtain ⟨first, ended, later⟩ := closed
      obtain ⟨others, more, result⟩ := Outcome.bind_eq_done.mp later
      cases result
      have taken : session.object.step env .close = .done first := ended
      have same : first.sendBuffer.syn = session.object.sendBuffer.syn :=
        (SocketSession.step_drives taken).syn
      rw [List.map_cons, List.map_cons, ih more, SocketSession.begun, same]
      rfl

theorem closeSessions_begun {env : Surroundings} {st : SocketStruct}
    {moved : List (Owned SocketSession)}
    (closed : ProtocolStack.closeSessions env st = .done moved) :
    moved.map SocketSession.begun = st.released.map SocketSession.begun := by
  unfold ProtocolStack.closeSessions at closed
  unfold SocketStruct.released
  cases kind : st.type with
  | unspecified =>
      rw [kind] at closed
      cases closed
      rfl
  | active =>
      simp only [kind] at closed
      cases owned : st.session with
      | none =>
          rw [owned] at closed
          cases closed
      | some session =>
          rw [owned] at closed
          exact closeAll_begun closed
  | passive =>
      rw [kind] at closed
      exact closeAll_begun closed

theorem close_replayed (shows : memory.Shows stack) (consistent : stack.Consistent)
    {env : Surroundings} {fd : FileDescriptor} {reply : Reply}
    (taken : stack.close env fd = .done (reply, next)) :
    Replayed build memory (.close env fd) next := by
  unfold ProtocolStack.close at taken
  split at taken
  · next unowned =>
      cases taken
      exact ⟨_, memory, ⟨none, rfl⟩, foreign_replay shows unowned, shows⟩
  · next st found =>
      obtain ⟨moved, closed, result⟩ := Outcome.bind_eq_done.mp taken
      cases result
      have member := ProtocolStack.lookupStruct_mem found
      have dropped : dropAt OpenSocket.fd fd memory.sockets =
          (dropAt ProtocolStack.descriptor fd stack.fdSet).map OpenSocket.of := by
        rw [shows.sockets, dropAt, List.filter_map]
        rfl
      refine ⟨_, { memory with sockets := dropAt OpenSocket.fd fd memory.sockets },
        ⟨some (st.address, st.object.fields), rfl⟩, ?_, dropped, shows.listening,
        shows.dispatched, ?_⟩
      · rw [StackCode.close, typed_replay shows consistent found]
        induction StackCode.released st.object.fields with
        | nil => rfl
        | cons session sessions ih => exact ih
      · have kept := closeSessions_begun closed
        rw [(consistent.kept _ member).released_eq] at kept
        have before := (sessions_exchange (perm_cons_dropAt consistent.descriptors member)
          stack.garbage).map SocketSession.begun
        refine shows.sessions.trans (before.trans ?_)
        rw [List.map_append, ← kept, ← List.map_append]
        refine List.Perm.map SocketSession.begun ?_
        exact List.perm_append_comm.trans (List.Perm.of_eq (List.append_assoc _ _ _))

/-! A packet. -/

theorem round_replay (memory : StackMemory) {arrival : Arrival} {body : StackCode}
    (shape : onReceivePacket arrival = .lock :: body ++ [.unlock]) :
    replay effect memory (runEventLoop [arrival] []) = replay effect memory body := by
  change replay effect memory ([arrival].flatMap onReceivePacket ++ _) = _
  rw [List.flatMap_singleton, shape, List.append_assoc, replay_append]
  exact Option.bind_fun_some (replay effect memory body)

theorem listener_replayed (shows : memory.Shows stack) (consistent : stack.Consistent)
    {leftovers : ChainLeftovers} {packet : Buffer} {source destination : IPAddress} {address : Nat}
    {now : TimeBase} {dispatch : Dispatch}
    (taken : ListenDispatcher.onReceivePacket build leftovers stack packet source destination
      address now = .done (dispatch, next)) :
    Replayed build memory (.receive leftovers packet source destination address now) next := by
  obtain ⟨segment, _, taken⟩ := Outcome.bind_eq_done.mp taken
  dsimp only at taken
  split at taken
  · obtain ⟨⟨sent, resetDispatcher⟩, _, result⟩ := Outcome.bind_eq_done.mp taken
    cases result
    exact ⟨_, memory, ⟨.reset, rfl⟩, rfl, shows.sockets, shows.listening, shows.dispatched,
      shows.sessions⟩
  · next socket listening =>
      obtain ⟨object, loaded, taken⟩ := Outcome.bind_eq_done.mp taken
      obtain ⟨fd, member⟩ := ProtocolStack.loadStruct_mem loaded
      have known : memory.listening.contains socket = true := by
        obtain ⟨elem, present, here⟩ := Option.map_eq_some_iff.mp listening
        rw [shows.listening, ← here]
        simpa using ⟨elem, List.mem_of_find?_eq_some present, rfl⟩
      -- the way up to the test of the backlog
      have arrives :
          replay effect memory (runEventLoop [.listener socket object.fields address] []) =
            replay effect memory (queued socket object.fields address) := by
        rw [round_replay memory rfl]
        change (memory.check (memory.listening.contains socket)).bind (fun next =>
          (effect next _).bind _) = _
        have read : memory.effect ⟨.onReceivePacket, .struct socket, false, true,
            .fields socket object.fields⟩ = some memory :=
          fields_replay shows consistent member _ _ _
        rw [check, if_pos known, Option.bind_some]
        change (memory.effect _).bind _ = _
        rw [read, Option.bind_some]
      have size : object.fields.pending.length = object.pending.length := List.length_map _
      split at taken
      · next full =>
          cases taken
          refine ⟨_, memory, ⟨.listener socket object.fields address, rfl⟩, ?_, shows⟩
          dsimp only
          rw [arrives, queued, if_pos (by rw [size]; exact full)]
          rfl
      · next room =>
          obtain ⟨session, opened, result⟩ := Outcome.bind_eq_done.mp taken
          cases result
          have held : (object.queueing ⟨address, session⟩).held.Perm
              (⟨address, session⟩ :: object.held) := by
            rw [SocketStruct.held, SocketStruct.queueing, ← List.append_assoc]
            exact List.perm_append_singleton _ _
          have taken : (SocketSession.create segment.destination segment.source now).step
              SendBuffer.quietHost (.openWith segment) = .done session := opened
          have fields : (object.queueing ⟨address, session⟩).fields =
              { object.fields with pending := object.fields.pending ++ [address] } := by
            simp [SocketStruct.fields, SocketStruct.queueing]
          have stored := shows.stored (object.queueing ⟨address, session⟩) socket
          rw [fields] at stored
          refine ⟨_, { memory with
            sockets := _
            dispatched := memory.dispatched ++ [address]
            sessions := (address, false) :: memory.sessions },
            ⟨.listener socket object.fields address, rfl⟩, ?_, stored, shows.listening, ?_, ?_⟩
          · dsimp only
            rw [arrives, queued, if_neg (by rw [size]; exact room)]
            rfl
          · dsimp only [SegmentDispatcher.addSession]
            rw [List.map_append, shows.dispatched]
            rfl
          · have begun := shows.takes consistent member held
            rw [made_begun taken address] at begun
            exact begun

theorem receive_replayed (shows : memory.Shows stack) (consistent : stack.Consistent)
    {leftovers : ChainLeftovers} {packet : Buffer} {source destination : IPAddress} {address : Nat}
    {now : TimeBase} {dispatch : Dispatch}
    (taken : stack.onReceivePacket build leftovers packet source destination address now =
      .done (dispatch, next)) :
    Replayed build memory (.receive leftovers packet source destination address now) next := by
  obtain ⟨segment, _, taken⟩ := Outcome.bind_eq_done.mp taken
  dsimp only at taken
  split at taken
  · exact listener_replayed shows consistent taken
  · next session found =>
      obtain ⟨object, _, result⟩ := Outcome.bind_eq_done.mp taken
      cases result
      have known : memory.dispatched.contains session = true := by
        obtain ⟨elem, present, here⟩ := Option.map_eq_some_iff.mp found
        rw [shows.dispatched, ← here]
        simpa using ⟨elem, List.mem_of_find?_eq_some present, rfl⟩
      refine ⟨_, memory, ⟨.session session, rfl⟩, ?_, shows⟩
      dsimp only
      rw [round_replay memory rfl]
      change (memory.check (memory.dispatched.contains session)).bind some = some memory
      rw [check, if_pos known]
      rfl

theorem step_replayed (shows : memory.Shows stack) (consistent : stack.Consistent)
    {event : StackEvent} (environment : stack.lawful event)
    (taken : stack.step build event = .done next) : Replayed build memory event next := by
  cases event with
  | socket domain type protocol fd port address =>
      obtain ⟨⟨reply, _⟩, made, rfl⟩ := Outcome.map_eq_done.mp taken
      exact socket_replayed shows environment.1 made
  | bind fd saddr len =>
      obtain ⟨⟨reply, _⟩, made, rfl⟩ := Outcome.map_eq_done.mp taken
      exact bind_replayed shows consistent made
  | listen fd backlog =>
      obtain ⟨⟨reply, _⟩, made, rfl⟩ := Outcome.map_eq_done.mp taken
      exact listen_replayed shows consistent made
  | connect env fd saddr len address initial now =>
      obtain ⟨⟨reply, _⟩, made, rfl⟩ := Outcome.map_eq_done.mp taken
      exact connect_replayed shows consistent environment made
  | close env fd =>
      obtain ⟨⟨reply, _⟩, made, rfl⟩ := Outcome.map_eq_done.mp taken
      exact close_replayed shows consistent made
  | receive leftovers packet source destination address now =>
      obtain ⟨⟨dispatch, _⟩, made, rfl⟩ := Outcome.map_eq_done.mp taken
      exact receive_replayed shows consistent made

theorem calls_replayed {events : List StackEvent} {stack final : ProtocolStack}
    {memory : StackMemory} (shows : memory.Shows stack) (consistent : stack.Consistent)
    (environment : Allowed (ProtocolStack.step build) ProtocolStack.lawful stack events)
    (reached : stack.run build events = .done final) :
    ∃ calls after, List.Forall₂ (StackEvent.runs build) events calls ∧
      replay effect memory (calls.flatMap Prod.snd) = some after ∧ after.Shows final := by
  induction events generalizing stack memory with
  | nil =>
      cases reached
      exact ⟨[], memory, .nil, rfl, shows⟩
  | cons event events ih =>
      obtain ⟨next, taken, later⟩ := execute_cons.mp reached
      obtain ⟨lawful, rest⟩ := environment next taken
      obtain ⟨call, between, runs, first, shown⟩ := step_replayed shows consistent lawful taken
      obtain ⟨calls, after, others, replayed, last⟩ :=
        ih shown (consistent.moves lawful (ProtocolStack.step_moves taken)) rest later
      refine ⟨call :: calls, after, .cons runs others, ?_, last⟩
      rw [List.flatMap_cons, replay_append, first]
      exact replayed

theorem runs_codes {events : List StackEvent} {calls : List (Nat × StackCode)}
    (runs : List.Forall₂ (StackEvent.runs build) events calls) :
    ∀ call ∈ calls, StackRaces.code build call.1 call.2 := by
  induction runs with
  | nil => exact fun call absent => absurd absent List.not_mem_nil
  | cons ran _ ih =>
      intro call member
      rcases List.mem_cons.mp member with rfl | later
      · exact StackEvent.runs_code ran
      · exact ih call later

/-- Every run of calls and packets one after the other is a run of the threads, and it leaves what
the calls and packets as a whole leave. -/
theorem run_interleaved (build : Build) (defaultIP : IPAddress) (buffer : List UInt8)
    (events : List StackEvent) (final : ProtocolStack)
    (environment : Allowed (ProtocolStack.step build) ProtocolStack.lawful
      (ProtocolStack.create defaultIP buffer) events)
    (reached : (ProtocolStack.create defaultIP buffer).run build events = .done final) :
    ∃ schedule after,
      Permitted (Interleaving.step effect) (Interleaving.calls (StackRaces.code build))
        (Interleaving.start start) schedule ∧
      runEvents (Interleaving.step effect) (Interleaving.start start) schedule =
        Interleaving.start after ∧
      after.Shows final := by
  obtain ⟨calls, after, runs, replayed, shown⟩ := calls_replayed (start_shows defaultIP buffer)
    (ProtocolStack.create_consistent defaultIP buffer) environment reached
  obtain ⟨schedule, permitted, ended⟩ :=
    Interleaving.run_calls (StackRaces.code_bracketed build) (runs_codes runs) replayed
  exact ⟨schedule, after, permitted, ended, shown⟩

end StackMemory

end LabNetstack
