import LabNetstack.ProtocolStack
import LabNetstack.SegmentParse

/-! Which session or socket the dispatchers find for a packet. -/

namespace LabNetstack

theorem IPAddress.equal_iff (lhs rhs : IPAddress) : lhs.equal rhs = true ↔
    lhs.family = rhs.family ∧ (lhs.family ≠ .ipUnspec → lhs.v4 = rhs.v4) := by
  unfold IPAddress.equal
  by_cases same : lhs.family = rhs.family
  · cases family : lhs.family <;> simp [← same, family]
  · simp [same]

namespace SocketAddress

theorem equal_iff (lhs rhs : SocketAddress) : lhs.equal rhs = true ↔
    lhs.port = rhs.port ∧ lhs.host.equal rhs.host = true := by
  simp [equal]

theorem equal_refl (address : SocketAddress) : address.equal address = true := by
  rw [equal_iff, IPAddress.equal_iff]
  exact ⟨rfl, rfl, fun _ => rfl⟩

theorem equal_symm {lhs rhs : SocketAddress} (same : lhs.equal rhs = true) :
    rhs.equal lhs = true := by
  rw [equal_iff, IPAddress.equal_iff] at same ⊢
  obtain ⟨port, family, v4⟩ := same
  exact ⟨port.symm, family.symm, fun known => (v4 (family ▸ known)).symm⟩

theorem equal_trans {first second third : SocketAddress} (left : first.equal second = true)
    (right : second.equal third = true) : first.equal third = true := by
  rw [equal_iff, IPAddress.equal_iff] at left right ⊢
  refine ⟨left.1.trans right.1, left.2.1.trans right.2.1, fun known => ?_⟩
  exact (left.2.2 known).trans (right.2.2 (left.2.1 ▸ known))

theorem equal_congr {lhs rhs : SocketAddress} (same : lhs.equal rhs = true)
    (other : SocketAddress) : other.equal lhs = other.equal rhs := by
  rw [Bool.eq_iff_iff]
  exact ⟨fun left => equal_trans left same, fun right => equal_trans right (equal_symm same)⟩

end SocketAddress

namespace SegmentDispatcher

variable {dispatcher : SegmentDispatcher} {to_ from_ : SocketAddress}

theorem lookupSession_none : dispatcher.lookupSession to_ from_ = none ↔
    ∀ elem ∈ dispatcher.established, (elem.local_.equal to_ && elem.peer.equal from_) = false := by
  simp only [lookupSession, Option.map_eq_none_iff, List.find?_eq_none, Bool.not_eq_true]

theorem lookupSession_mem {session : Nat}
    (found : dispatcher.lookupSession to_ from_ = some session) :
    ∃ elem ∈ dispatcher.established, elem.session = session := by
  obtain ⟨elem, first, rfl⟩ := Option.map_eq_some_iff.mp found
  exact ⟨elem, List.mem_of_find?_eq_some first, rfl⟩

theorem lookupSession_congr {otherTo otherFrom : SocketAddress} (to_Same : to_.equal otherTo = true)
    (from_Same : from_.equal otherFrom = true) :
    dispatcher.lookupSession to_ from_ = dispatcher.lookupSession otherTo otherFrom := by
  simp only [lookupSession, SocketAddress.equal_congr to_Same, SocketAddress.equal_congr from_Same]

/-- The table is searched from its front, so a new entry hides none that is there. -/
theorem lookupSession_add (local_ peer : SocketAddress) (session : Nat) :
    (dispatcher.addSession local_ peer session).lookupSession to_ from_ =
      (dispatcher.lookupSession to_ from_).or
        (if local_.equal to_ && peer.equal from_ then some session else none) := by
  simp only [lookupSession, addSession, List.find?_append, Option.map_or]
  congr 1
  cases hit : local_.equal to_ && peer.equal from_ <;> simp [List.find?, hit]

theorem lookupSession_added (local_ peer : SocketAddress) (session : Nat)
    (unknown : dispatcher.lookupSession local_ peer = none) :
    (dispatcher.addSession local_ peer session).lookupSession local_ peer = some session := by
  simp [lookupSession_add, unknown, SocketAddress.equal_refl]

theorem lookupSession_kept {local_ peer : SocketAddress} {session added : Nat}
    (found : dispatcher.lookupSession to_ from_ = some session) :
    (dispatcher.addSession local_ peer added).lookupSession to_ from_ = some session := by
  rw [lookupSession_add, found, Option.some_or]

end SegmentDispatcher

namespace ProtocolStack

/-! Active sockets. -/

-- the session a packet from the peer of the socket is handed to is the socket's own
def ReceivesOwn (stack : ProtocolStack) : Prop :=
  ∀ entry ∈ stack.fdSet, entry.2.object.type = .active →
    ∀ session, entry.2.object.session = some session →
      stack.dispatcher.lookupSession session.object.getLocalAddress
        session.object.getRemoteAddress = some session.address

-- no call of `_connect` starts a session for a pair of addresses the dispatcher knows
def connectsUnknown (stack : ProtocolStack) : StackEvent → Prop
  | .connect _ fd saddr len _ _ _ => ∀ st, stack.lookupStruct fd = some st →
      st.object.type = .unspecified →
      stack.dispatcher.lookupSession st.object.bindAddress (SocketAddress.ofSockaddr saddr len) = none
  | _ => True

instance (stack : ProtocolStack) (event : StackEvent) : Decidable (stack.connectsUnknown event) :=
  event.casesOn (motive := fun event => Decidable (stack.connectsUnknown event))
    (fun _ _ _ _ _ _ => isTrue trivial)
    (fun _ _ _ => isTrue trivial)
    (fun _ _ => isTrue trivial)
    (fun _ fd saddr len _ _ _ => inferInstanceAs
      (Decidable (∀ st ∈ stack.lookupStruct fd, st.object.type = .unspecified →
        stack.dispatcher.lookupSession st.object.bindAddress (SocketAddress.ofSockaddr saddr len) =
          none)))
    (fun _ _ => isTrue trivial)
    (fun _ _ _ _ _ _ => isTrue trivial)

section Active

variable {stack next : ProtocolStack} {event : StackEvent}

theorem ReceivesOwn.store (own : stack.ReceivesOwn) {address : Nat} {object : SocketStruct}
    (stored : object.type = .active → ∀ session, object.session = some session →
      stack.dispatcher.lookupSession session.object.getLocalAddress
        session.object.getRemoteAddress = some session.address) :
    (stack.storeStruct address object).ReceivesOwn := by
  intro entry present
  rcases mem_replaceAt.mp present with old | ⟨_, _, _, rfl⟩
  · exact own entry old.1
  · exact stored

theorem ReceivesOwn.add (own : stack.ReceivesOwn) (local_ peer : SocketAddress) (address : Nat) :
    ReceivesOwn { stack with dispatcher := stack.dispatcher.addSession local_ peer address } :=
  fun entry present active session owned =>
    SegmentDispatcher.lookupSession_kept (own entry present active session owned)

theorem ReceivesOwn.moves (own : stack.ReceivesOwn) (unknown : stack.connectsUnknown event)
    (moves : Moves stack event next) : next.ReceivesOwn := by
  cases moves with
  | stay _ => exact own
  | socket =>
      intro entry present active
      rcases List.mem_cons.mp present with rfl | old
      · cases active
      · exact own entry (mem_dropAt.mp old).1 active
  | bind member => exact own.store (own _ member)
  | @listen _ _ st member unspecified size =>
      have stored : (stack.storeStruct st.address (st.object.listening size)).ReceivesOwn :=
        own.store fun active => by cases active
      exact stored
  | @connect _ _ _ _ address _ _ st found unspecified session named =>
      refine (own.add st.object.bindAddress _ address).store fun _ other owned => ?_
      cases owned
      rw [named.1, named.2]
      exact SegmentDispatcher.lookupSession_added _ _ _ (unknown st found unspecified)
  | close found moved same =>
      exact fun entry present => own entry (mem_dropAt.mp present).1
  | queue member room local_ peer session =>
      exact (own.add local_ peer _).store (own.add local_ peer _ _ member)

/-- A known pair of addresses goes on to lead to the older session. -/
theorem connect_shadowed {build : Build} (consistent : stack.Consistent)
    (environment : stack.lawful event) (known : ¬stack.connectsUnknown event)
    (taken : stack.step build event = .done next) : ¬next.ReceivesOwn := by
  cases event with
  | connect env fd saddr len address initial now =>
      simp only [connectsUnknown, not_forall] at known
      obtain ⟨st, found, unspecified, known⟩ := known
      obtain ⟨⟨reply, _⟩, made, rfl⟩ := Outcome.map_eq_done.mp taken
      obtain ⟨session, named, rfl⟩ := connect_opens made found unspecified
      obtain ⟨older, leads⟩ := Option.ne_none_iff_exists'.mp known
      have fresh : older ≠ address := by
        obtain ⟨elem, member, rfl⟩ := SegmentDispatcher.lookupSession_mem leads
        intro same
        exact environment (same ▸ consistent.referenced elem member)
      have present : (fd, ⟨st.address, st.object.connected ⟨address, session⟩⟩) ∈
          (stack.storeStruct st.address (st.object.connected ⟨address, session⟩)).fdSet :=
        (replaceAt_perm consistent.structs (lookupStruct_mem found) _).mem_iff.mpr List.mem_cons_self
      intro own
      have leadsOwn := own _ present rfl ⟨address, session⟩ rfl
      rw [named.1, named.2] at leadsOwn
      exact fresh (Option.some.inj ((SegmentDispatcher.lookupSession_kept leads).symm.trans leadsOwn))
  | _ => exact absurd trivial known

end Active

/-- Every active socket receives its own traffic throughout a run exactly when no `_connect` of the
run is for a pair of addresses that was ever registered before. -/
theorem activeTraffic_iff (build : Build) (defaultIP : IPAddress) (buffer : List UInt8)
    (events : List StackEvent)
    (environment : Allowed (step build) lawful (create defaultIP buffer) events) :
    Throughout (step build) ReceivesOwn (create defaultIP buffer) events ↔
      Allowed (step build) connectsUnknown (create defaultIP buffer) events := by
  refine throughout_iff (motive := fun stack => stack.Consistent ∧ stack.ReceivesOwn)
    (fun _ holds => holds.2) ?_ ?_ ⟨create_consistent defaultIP buffer, ?_⟩ environment
  · intro stack event next holds environment unknown taken
    exact ⟨holds.1.moves environment (step_moves taken), holds.2.moves unknown (step_moves taken)⟩
  · intro stack event next holds environment known taken
    exact connect_shadowed holds.1 environment known taken
  · intro entry present
    simp [create] at present

theorem busyRun_receivesOwn :
    Throughout (step .debug) ReceivesOwn (create sampleHost []) busyRun :=
  (activeTraffic_iff .debug sampleHost [] busyRun busyRun_lawful).mpr (by decide)

-- port 50000 of the host
def sampleClient : Sockaddr := ⟨2, 20675, ⟨10, 0, 0, 1⟩⟩

def reconnectRun : List StackEvent :=
  [.socket 2 1 0 3 50001 1, .bind 3 sampleClient 16,
    .connect SendBuffer.quietHost 3 sampleServer 16 10 7 0, .close SendBuffer.quietHost 3,
    .socket 2 1 0 3 50002 1, .bind 3 sampleClient 16,
    .connect SendBuffer.quietHost 3 sampleServer 16 11 8 20]

theorem reconnectRun_shadowed :
    Allowed (step .debug) lawful (create sampleHost []) reconnectRun ∧
    ∃ stack st session, (create sampleHost []).run .debug reconnectRun = .done stack ∧
      stack.lookupStruct 3 = some st ∧ st.object.type = .active ∧
      st.object.session = some session ∧ session.address = 11 ∧
      stack.dispatcher.lookupSession session.object.getLocalAddress
        session.object.getRemoteAddress = some 10 := by
  exact ⟨by decide, _, _, _, rfl, rfl, rfl, rfl, rfl, rfl⟩

/-! Listening sockets. -/

def Listens (stack : ProtocolStack) (address : Nat) : Prop :=
  ∃ entry ∈ stack.fdSet, structAddress entry = address ∧ entry.2.object.type = .passive

-- no call of `_close` is for a listening socket
def sparesListeners (stack : ProtocolStack) : StackEvent → Prop
  | .close _ fd => ∀ st, stack.lookupStruct fd = some st → st.object.type ≠ .passive
  | _ => True

instance (stack : ProtocolStack) (event : StackEvent) : Decidable (stack.sparesListeners event) :=
  event.casesOn (motive := fun event => Decidable (stack.sparesListeners event))
    (fun _ _ _ _ _ _ => isTrue trivial)
    (fun _ _ _ => isTrue trivial)
    (fun _ _ => isTrue trivial)
    (fun _ _ _ _ _ _ _ => isTrue trivial)
    (fun _ fd => inferInstanceAs
      (Decidable (∀ st ∈ stack.lookupStruct fd, st.object.type ≠ .passive)))
    (fun _ _ _ _ _ _ => isTrue trivial)

section Listening

variable {stack next : ProtocolStack} {event : StackEvent} {fd : FileDescriptor}
  {st : Owned SocketStruct}

theorem listens_of_mem (consistent : stack.Consistent) (member : (fd, st) ∈ stack.fdSet) :
    stack.Listens st.address ↔ st.object.type = .passive := by
  constructor
  · rintro ⟨entry, present, here, passive⟩
    cases List.inj_on_of_nodup_map consistent.structs present member here
    exact passive
  · intro passive
    exact ⟨(fd, st), member, rfl, passive⟩

/-- Writing to a socket decides whether that one listens. -/
theorem listens_store (member : (fd, st) ∈ stack.fdSet) (object : SocketStruct) (address : Nat) :
    (stack.storeStruct st.address object).Listens address ↔
      if address = st.address then object.type = .passive else stack.Listens address := by
  split
  next here =>
    subst here
    constructor
    · rintro ⟨entry, present, same, passive⟩
      rcases mem_replaceAt.mp present with ⟨_, elsewhere⟩ | ⟨_, _, _, rfl⟩
      · exact absurd same elsewhere
      · exact passive
    · intro passive
      exact ⟨(fd, ⟨st.address, object⟩), mem_replaceAt.mpr (Or.inr ⟨(fd, st), member, rfl, rfl⟩), rfl,
        passive⟩
  next elsewhere =>
    constructor
    · rintro ⟨entry, present, same, passive⟩
      rcases mem_replaceAt.mp present with ⟨old, _⟩ | ⟨before, _, here, rfl⟩
      · exact ⟨entry, old, same, passive⟩
      · exact absurd (same.symm.trans here) elsewhere
    · rintro ⟨entry, old, rfl, passive⟩
      exact ⟨entry, mem_replaceAt.mpr (Or.inl ⟨old, elsewhere⟩), rfl, passive⟩

/-- A write that leaves the type of a socket as it is. -/
theorem listens_store_same (consistent : stack.Consistent) (member : (fd, st) ∈ stack.fdSet)
    {object : SocketStruct} (same : object.type = .passive ↔ st.object.type = .passive)
    (address : Nat) :
    (stack.storeStruct st.address object).Listens address ↔ stack.Listens address := by
  rw [listens_store member]
  split
  next here => rw [here, listens_of_mem consistent member, same]
  next => rfl

theorem listens_drop (consistent : stack.Consistent) (member : (fd, st) ∈ stack.fdSet)
    (garbage : List (Owned SocketSession)) (address : Nat) :
    Listens { stack with fdSet := dropAt descriptor fd stack.fdSet, garbage := garbage } address ↔
      address ≠ st.address ∧ stack.Listens address := by
  constructor
  · rintro ⟨entry, present, rfl, passive⟩
    obtain ⟨old, other⟩ := mem_dropAt.mp present
    refine ⟨fun here => other ?_, entry, old, rfl, passive⟩
    rw [List.inj_on_of_nodup_map consistent.structs old member here]
    rfl
  · rintro ⟨elsewhere, entry, old, rfl, passive⟩
    refine ⟨entry, mem_dropAt.mpr ⟨old, fun same => elsewhere ?_⟩, rfl, passive⟩
    rw [List.inj_on_of_nodup_map consistent.descriptors old member same]
    rfl

-- the table of listeners is the open listening sockets
def ListsOpen (stack : ProtocolStack) : Prop :=
  ∀ address, address ∈ stack.listenDispatcher.vector.map ListeningSocket.socket ↔
    stack.Listens address

theorem ListsOpen.moves (lists : stack.ListsOpen) (consistent : stack.Consistent)
    (environment : stack.lawful event) (spares : stack.sparesListeners event)
    (moves : Moves stack event next) : next.ListsOpen := by
  intro address
  cases moves with
  | stay _ => exact lists address
  | @socket _ _ _ fd port place =>
      rw [lists address]
      have absent := (ownFD_iff stack fd).mp environment.1
      simp only [Listens, dropAt_absent absent, List.mem_cons, exists_eq_or_imp]
      constructor
      · exact Or.inr
      · rintro (⟨_, passive⟩ | old)
        · cases passive
        · exact old
  | @bind _ saddr len st member =>
      have same : (st.object.bound (SocketAddress.ofSockaddr saddr len)).type = .passive ↔
          st.object.type = .passive := Iff.rfl
      exact (lists address).trans (listens_store_same consistent member same address).symm
  | @listen _ _ st member unspecified size =>
      have stored := listens_store member (st.object.listening size) address
      refine Iff.trans ?_ stored.symm
      simp only [ListenDispatcher.addListener, List.map_append, List.mem_append, lists address]
      by_cases here : address = st.address
      · simp only [here, List.map_cons, List.map_nil, List.mem_singleton, or_true, ↓reduceIte]
        exact iff_of_true trivial rfl
      · simp only [here, List.map_cons, List.map_nil, List.mem_singleton, or_false, ↓reduceIte]
  | @connect _ fd _ _ place _ _ st found unspecified session named =>
      have same : (st.object.connected ⟨place, session⟩).type = .passive ↔
          st.object.type = .passive := by
        rw [unspecified]
        exact iff_of_false (fun active => by cases active) (fun idle => by cases idle)
      exact (lists address).trans
        (listens_store_same consistent (lookupStruct_mem found) same address).symm
  | @close _ fd st found moved _ =>
      have member := lookupStruct_mem found
      rw [listens_drop consistent member]
      refine (lists address).trans ⟨fun listens => ⟨?_, listens⟩, And.right⟩
      intro here
      rw [here, listens_of_mem consistent member] at listens
      exact spares st found listens
  | @queue _ _ _ _ place _ fd st member room local_ peer session =>
      have same : (st.object.queueing ⟨place, session⟩).type = .passive ↔
          st.object.type = .passive := Iff.rfl
      exact (lists address).trans (listens_store_same consistent member same address).symm

theorem close_dangles {build : Build} (consistent : stack.Consistent) (lists : stack.ListsOpen)
    (closes : ¬stack.sparesListeners event) (taken : stack.step build event = .done next) :
    ¬∀ elem ∈ next.listenDispatcher.vector, next.Listens elem.socket := by
  cases event with
  | close env fd =>
      simp only [sparesListeners, not_forall, not_not] at closes
      obtain ⟨st, found, passive⟩ := closes
      have member := lookupStruct_mem found
      obtain ⟨⟨reply, _⟩, made, rfl⟩ := Outcome.map_eq_done.mp taken
      obtain ⟨moved, _, rfl⟩ := close_removes made found
      have listed := (lists st.address).mpr ((listens_of_mem consistent member).mpr passive)
      obtain ⟨elem, present, here⟩ := List.mem_map.mp listed
      intro open_
      have listens := (listens_drop consistent member _ _).mp (open_ elem present)
      exact listens.1 here
  | _ => exact absurd trivial closes

end Listening

/-- Every listener the dispatcher knows is an open listening socket throughout a run exactly when
the run closes no listening socket. -/
theorem listenersOpen_iff (build : Build) (defaultIP : IPAddress) (buffer : List UInt8)
    (events : List StackEvent)
    (environment : Allowed (step build) lawful (create defaultIP buffer) events) :
    Throughout (step build)
        (fun stack => ∀ elem ∈ stack.listenDispatcher.vector, stack.Listens elem.socket)
        (create defaultIP buffer) events ↔
      Allowed (step build) sparesListeners (create defaultIP buffer) events := by
  refine throughout_iff (motive := fun stack => stack.Consistent ∧ stack.ListsOpen)
    ?_ ?_ ?_ ⟨create_consistent defaultIP buffer, ?_⟩ environment
  · intro stack holds elem member
    exact (holds.2 elem.socket).mp (List.mem_map_of_mem member)
  · intro stack event next holds environment spares taken
    exact ⟨holds.1.moves environment (step_moves taken),
      holds.2.moves holds.1 environment spares (step_moves taken)⟩
  · intro stack event next holds _ closes taken
    exact close_dangles holds.1 holds.2 closes taken
  · intro address
    simp [create, Listens]

theorem busyRun_listens :
    Throughout (step .debug)
      (fun stack => ∀ elem ∈ stack.listenDispatcher.vector, stack.Listens elem.socket)
      (create sampleHost []) busyRun :=
  (listenersOpen_iff .debug sampleHost [] busyRun busyRun_lawful).mpr (by decide)

def closedListener : List StackEvent :=
  [.socket 2 1 0 3 50000 1, .bind 3 anyInterface 16, .listen 3 1, .close SendBuffer.quietHost 3]

/-- The packet finds the closed socket and its queue is read where the socket was. -/
theorem closedListener_dangles :
    Allowed (step .debug) lawful (create sampleHost []) closedListener ∧
    ∃ stack, (create sampleHost []).run .debug closedListener = .done stack ∧
      stack.fdSet = [] ∧ stack.listenDispatcher.vector.map ListeningSocket.socket = [1] ∧
      stack.onReceivePacket .debug sampleLeftovers requestPacket samplePeer sampleHost 11 20 =
        .outOfBounds := by
  exact ⟨by decide, _, rfl, rfl, rfl, rfl⟩

end ProtocolStack

end LabNetstack
