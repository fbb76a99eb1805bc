import LabNetstack.ProtocolStackDispatch

/-! What packets make the listening sockets do: the sessions they create over a run, and the
packets that ask for no connection. -/

namespace LabNetstack

open ProtocolStack (sampleHost samplePeer sampleLeftovers requestPacket anyInterface)

/-- Two readings of one packet find the same ports. A debug build stops at a packet without them,
and a release build takes what was on the stack. -/
theorem Segment.parse_agree {build : Build} {leftovers otherLeftovers : Leftovers}
    {source destination : IPAddress} {packet : Buffer} {first second : Segment}
    (ports : build = .debug ∨ 4 ≤ packet.bytes.length)
    (parsed : parse build leftovers source destination packet = .done first)
    (again : parse build otherLeftovers source destination packet = .done second) :
    second.destination = first.destination ∧ second.source = first.source := by
  have enough : 4 ≤ packet.bytes.length := by
    rcases ports with rfl | enough
    · by_contra few
      have stopped := (parse_short leftovers source destination packet (by omega)).1
      cases stopped.symm.trans parsed
    · exact enough
  have one := parse_addresses enough parsed
  have other := parse_addresses enough again
  exact ⟨other.2.trans one.2.symm, other.1.trans one.1.symm⟩

/-! The stack, and the sessions `ListenDispatcher` has created so far. -/

structure Recorded where
  stack : ProtocolStack
  created : List EstablishedSocket

namespace Recorded

def create (defaultIP : IPAddress) (buffer : List UInt8) : Recorded :=
  ⟨ProtocolStack.create defaultIP buffer, []⟩

def note (created : List EstablishedSocket) : Dispatch → List EstablishedSocket
  | .queued entry => created ++ [entry]
  | _ => created

def step (build : Build) (recorded : Recorded) : StackEvent → Outcome Recorded
  | .receive leftovers packet source destination address now => do
      let (dispatch, stack) ←
        recorded.stack.onReceivePacket build leftovers packet source destination address now
      pure ⟨stack, note recorded.created dispatch⟩
  | event => do
      let stack ← recorded.stack.step build event
      pure ⟨stack, recorded.created⟩

-- a packet without ports stops a debug build
def carriesPorts (build : Build) : StackEvent → Prop
  | .receive _ packet _ _ _ _ => build = .debug ∨ 4 ≤ packet.bytes.length
  | _ => True

instance (build : Build) (event : StackEvent) : Decidable (carriesPorts build event) :=
  event.casesOn (motive := fun event => Decidable (carriesPorts build event))
    (fun _ _ _ _ _ _ => isTrue trivial)
    (fun _ _ _ => isTrue trivial)
    (fun _ _ => isTrue trivial)
    (fun _ _ _ _ _ _ _ => isTrue trivial)
    (fun _ _ => isTrue trivial)
    (fun _ packet _ _ _ _ => inferInstanceAs
      (Decidable (build = .debug ∨ 4 ≤ packet.bytes.length)))

def lawful (build : Build) (recorded : Recorded) (event : StackEvent) : Prop :=
  recorded.stack.lawful event ∧ carriesPorts build event

instance (build : Build) (recorded : Recorded) (event : StackEvent) :
    Decidable (recorded.lawful build event) :=
  inferInstanceAs (Decidable (_ ∧ _))

def samePair (one other : EstablishedSocket) : Bool :=
  one.local_.equal other.local_ && one.peer.equal other.peer

structure OnePerPair (recorded : Recorded) : Prop where
  consistent : recorded.stack.Consistent
  leads : ∀ entry ∈ recorded.created,
    recorded.stack.dispatcher.lookupSession entry.local_ entry.peer = some entry.session
  distinct : recorded.created.Pairwise fun one other => samePair one other = false

/-- The step of the stack, and what it adds to the record. -/
theorem step_cases {build : Build} {recorded next : Recorded} {event : StackEvent}
    (taken : recorded.step build event = .done next) :
    recorded.stack.step build event = .done next.stack ∧
      (next.created = recorded.created ∨
        ∃ leftovers packet source destination address now entry,
          event = .receive leftovers packet source destination address now ∧
          ProtocolStack.Receives build leftovers recorded.stack packet source destination address
            (.queued entry) next.stack ∧
          next.created = recorded.created ++ [entry]) := by
  cases event with
  | receive leftovers packet source destination address now =>
      obtain ⟨⟨dispatch, stack⟩, received, result⟩ := Outcome.bind_eq_done.mp taken
      cases result
      refine ⟨Outcome.map_eq_done.mpr ⟨_, received, rfl⟩, ?_⟩
      have receives := ProtocolStack.onReceivePacket_receives received
      cases dispatch with
      | queued entry =>
          exact Or.inr ⟨leftovers, packet, source, destination, address, now, entry, rfl, receives, rfl⟩
      | delivered _ => exact Or.inl rfl
      | dropped => exact Or.inl rfl
      | reset _ => exact Or.inl rfl
  | _ =>
      obtain ⟨stack, stepped, result⟩ := Outcome.bind_eq_done.mp taken
      cases result
      exact ⟨stepped, Or.inl rfl⟩

theorem step_recorded {build : Build} {stack next : ProtocolStack} {event : StackEvent}
    (taken : stack.step build event = .done next) (created : List EstablishedSocket) :
    ∃ after, step build ⟨stack, created⟩ event = .done ⟨next, after⟩ := by
  cases event with
  | receive leftovers packet source destination address now =>
      obtain ⟨⟨dispatch, _⟩, received, rfl⟩ := Outcome.map_eq_done.mp taken
      exact ⟨note created dispatch, Outcome.bind_eq_done.mpr ⟨_, received, rfl⟩⟩
  | _ => exact ⟨created, Outcome.bind_eq_done.mpr ⟨next, taken, rfl⟩⟩

/-- The record is kept along every run of the stack, and changes none. -/
theorem run_recorded {build : Build} {stack final : ProtocolStack} {events : List StackEvent}
    (created : List EstablishedSocket) : stack.run build events = .done final ↔
      ∃ after, execute (step build) ⟨stack, created⟩ events = .done ⟨final, after⟩ := by
  unfold ProtocolStack.run
  induction events generalizing stack created with
  | nil =>
      constructor
      · intro reached
        cases reached
        exact ⟨created, rfl⟩
      · rintro ⟨after, reached⟩
        cases reached
        rfl
  | cons event events ih =>
      rw [execute_cons]
      constructor
      · rintro ⟨next, taken, later⟩
        obtain ⟨noted, recorded⟩ := step_recorded taken created
        obtain ⟨after, reached⟩ := (ih noted).mp later
        exact ⟨after, execute_cons.mpr ⟨⟨next, noted⟩, recorded, reached⟩⟩
      · rintro ⟨after, reached⟩
        obtain ⟨⟨next, noted⟩, recorded, later⟩ := execute_cons.mp reached
        exact ⟨next, (step_cases recorded).1, (ih noted).mpr ⟨after, later⟩⟩

end Recorded

namespace ProtocolStack

/-- No event takes an entry of the dispatcher away or hides it. -/
theorem Moves.leads {stack next : ProtocolStack} {event : StackEvent} (moves : Moves stack event next)
    {to_ from_ : SocketAddress} {session : Nat}
    (found : stack.dispatcher.lookupSession to_ from_ = some session) :
    next.dispatcher.lookupSession to_ from_ = some session := by
  cases moves with
  | stay _ => exact found
  | socket => exact found
  | bind _ => exact found
  | listen _ _ _ => exact found
  | connect _ _ _ _ => exact SegmentDispatcher.lookupSession_kept found
  | close _ _ _ => exact found
  | queue _ _ _ _ _ => exact SegmentDispatcher.lookupSession_kept found

theorem onReceivePacket_delivered {build : Build} {leftovers : ChainLeftovers}
    {stack : ProtocolStack} {packet : Buffer} {source destination : IPAddress} {segment : Segment}
    {session : Nat} (consistent : stack.Consistent) (address : Nat) (now : TimeBase)
    (parsed : Segment.parse build leftovers.segment source destination packet = .done segment)
    (found : stack.dispatcher.lookupSession segment.destination segment.source = some session) :
    stack.onReceivePacket build leftovers packet source destination address now =
      .done (.delivered session, stack) := by
  obtain ⟨elem, member, rfl⟩ := SegmentDispatcher.lookupSession_mem found
  obtain ⟨owned, present, here⟩ := List.mem_map.mp (consistent.referenced elem member)
  have loaded : stack.loadSession elem.session = .done owned.object := by
    rw [loadSession, ← here, entryAt_of_mem consistent.sessions present]
  simp only [onReceivePacket, SegmentDispatcher.onReceivePacket, parsed, Outcome.done_bind, found,
    loaded]
  rfl

end ProtocolStack

namespace Recorded

theorem OnePerPair.queued {build : Build} {leftovers : ChainLeftovers} {recorded next : Recorded}
    {packet : Buffer} {source destination : IPAddress} {address : Nat} {entry : EstablishedSocket}
    (unique : recorded.OnePerPair) (ports : build = .debug ∨ 4 ≤ packet.bytes.length)
    (consistent : next.stack.Consistent)
    (receives : ProtocolStack.Receives build leftovers recorded.stack packet source destination address
      (.queued entry) next.stack)
    (record : next.created = recorded.created ++ [entry]) : next.OnePerPair := by
  generalize after : next.stack = stack at receives
  cases receives with
  | @queued first second fd st parsed unknown again member room session =>
      obtain ⟨sameTo, sameFrom⟩ := Segment.parse_agree ports parsed again
      rw [← sameTo, ← sameFrom] at unknown
      refine ⟨consistent, ?_, ?_⟩
      · rw [record, after]
        intro other listed
        rcases List.mem_append.mp listed with old | new
        · exact SegmentDispatcher.lookupSession_kept (unique.leads other old)
        · cases List.mem_singleton.mp new
          exact SegmentDispatcher.lookupSession_added _ _ _ unknown
      · rw [record, List.pairwise_append]
        refine ⟨unique.distinct, List.pairwise_singleton _ _, ?_⟩
        intro old listed new isNew
        cases List.mem_singleton.mp isNew
        -- an older session of the pair would have been found first
        by_contra same
        rw [samePair, Bool.not_eq_false, Bool.and_eq_true] at same
        have leads := unique.leads old listed
        rw [SegmentDispatcher.lookupSession_congr same.1 same.2, unknown] at leads
        cases leads

theorem OnePerPair.step {build : Build} {recorded next : Recorded} {event : StackEvent}
    (unique : recorded.OnePerPair) (environment : recorded.lawful build event)
    (taken : recorded.step build event = .done next) : next.OnePerPair := by
  obtain ⟨stepped, record⟩ := step_cases taken
  have moves := ProtocolStack.step_moves stepped
  have consistent := unique.consistent.moves environment.1 moves
  rcases record with same | ⟨_, _, _, _, _, _, _, rfl, receives, record⟩
  · refine ⟨consistent, ?_, ?_⟩
    · rw [same]
      exact fun entry listed => moves.leads (unique.leads entry listed)
    · rw [same]
      exact unique.distinct
  · exact unique.queued environment.2 consistent receives record

/-- The sessions that listening sockets create over a run are for different pairs of addresses. A
packet of a known pair is delivered and creates nothing, and it goes to the session created for
its pair. No queue outgrows its backlog. -/
theorem passiveSessions_onePerPair (build : Build) (defaultIP : IPAddress) (buffer : List UInt8)
    (events : List StackEvent) (recorded : Recorded)
    (environment : Allowed (step build) (lawful build) (create defaultIP buffer) events)
    (reached : execute (step build) (create defaultIP buffer) events = .done recorded) :
    (recorded.created.Pairwise fun one other => samePair one other = false) ∧
    (∀ leftovers packet source destination address now segment,
      Segment.parse build leftovers.segment source destination packet = .done segment →
      ∀ entry ∈ recorded.stack.dispatcher.established,
        (entry.local_.equal segment.destination && entry.peer.equal segment.source) = true →
        ∃ session, recorded.stack.onReceivePacket build leftovers packet source destination address now
            = .done (.delivered session, recorded.stack) ∧
          ∀ own ∈ recorded.created, samePair own entry = true → session = own.session) ∧
    ∀ entry ∈ recorded.stack.fdSet, entry.2.object.type = .passive →
      entry.2.object.pending.length ≤ entry.2.object.backlog.toNat := by
  have unique : recorded.OnePerPair := execute_invariant
    (fun _ _ _ unique environment taken => OnePerPair.step unique environment taken)
    ⟨ProtocolStack.create_consistent defaultIP buffer, by simp [create], List.Pairwise.nil⟩
    environment reached
  refine ⟨unique.distinct, ?_, fun entry present _ => (unique.consistent.kept entry present).room⟩
  intro leftovers packet source destination address now segment parsed entry member hit
  cases found : recorded.stack.dispatcher.lookupSession segment.destination segment.source with
  | none =>
      rw [SegmentDispatcher.lookupSession_none.mp found entry member] at hit
      cases hit
  | some session =>
      refine ⟨session,
        ProtocolStack.onReceivePacket_delivered unique.consistent address now parsed found, ?_⟩
      intro own listed same
      rw [samePair, Bool.and_eq_true] at same
      rw [Bool.and_eq_true] at hit
      have leads := unique.leads own listed
      rw [SegmentDispatcher.lookupSession_congr (SocketAddress.equal_trans same.1 hit.1)
        (SocketAddress.equal_trans same.2 hit.2), found] at leads
      exact Option.some.inj leads

def repeatedRequest : List StackEvent :=
  [.socket 2 1 0 3 50000 1, .bind 3 anyInterface 16, .listen 3 2,
    .receive sampleLeftovers requestPacket samplePeer sampleHost 11 0,
    .receive sampleLeftovers requestPacket samplePeer sampleHost 12 20]

theorem repeatedRequest_onePerPair :
    ∃ recorded, execute (step .release) (create sampleHost []) repeatedRequest = .done recorded ∧
      recorded.created.map EstablishedSocket.session = [11] ∧
      ∃ session, recorded.stack.onReceivePacket .release sampleLeftovers requestPacket samplePeer
        sampleHost 12 40 = .done (.delivered session, recorded.stack) ∧ session = 11 := by
  have environment : Allowed (step .release) (lawful .release) (create sampleHost [])
      repeatedRequest := by decide
  refine ⟨_, rfl, rfl, ?_⟩
  have facts := passiveSessions_onePerPair .release sampleHost [] repeatedRequest _ environment rfl
  obtain ⟨session, delivered, own⟩ := facts.2.1 sampleLeftovers requestPacket samplePeer sampleHost
    12 40 _ (Segment.parse_eq _ _ _ _ _ (by decide)) _ List.mem_cons_self (by decide)
  exact ⟨session, delivered, own _ List.mem_cons_self (by decide)⟩

-- each `parse` of a packet without a destination port takes what it finds on the stack
def shortPackets : List StackEvent :=
  let leftovers : ChainLeftovers := ⟨⟨0, 81, 0, 0, 0⟩, ⟨0, 80, 0, 0, 0⟩, ⟨0, 0, 0, 0, 0⟩⟩
  [.socket 2 1 0 3 50000 1, .bind 3 anyInterface 16, .listen 3 2,
    .receive leftovers ⟨[19, 136, 0], by decide⟩ samplePeer sampleHost 11 0,
    .receive leftovers ⟨[19, 136, 0], by decide⟩ samplePeer sampleHost 12 20]

theorem shortPackets_samePair :
    Allowed (step .release) (fun recorded event => recorded.stack.lawful event)
        (create sampleHost []) shortPackets ∧
      ∃ recorded, execute (step .release) (create sampleHost []) shortPackets = .done recorded ∧
        recorded.created = [⟨⟨sampleHost, 80⟩, ⟨samplePeer, 5000⟩, 11⟩,
          ⟨⟨sampleHost, 80⟩, ⟨samplePeer, 5000⟩, 12⟩] := by
  refine ⟨by decide, _, rfl, rfl⟩

end Recorded

/-! Packets that ask for no connection. -/

-- the segments `onSegmentArrival_LISTEN` opens a connection for
def Segment.isRequest (segment : Segment) : Bool :=
  !segment.isRST && !segment.isACK && segment.isSYN

namespace ListenDispatcher

def Untouched (stack next : ProtocolStack) (socket : Nat) : Prop :=
  SocketStruct.pending <$> next.loadStruct socket = SocketStruct.pending <$> stack.loadStruct socket ∧
    next.dispatcher = stack.dispatcher

/-- A segment that asks for no connection leaves a listening socket as it is exactly when the
queue of the socket is full already. -/
theorem discarded_untouched_iff (build : Build) (leftovers : ChainLeftovers) (stack : ProtocolStack)
    (packet : Buffer) (source destination : IPAddress) (address : Nat) (now : TimeBase)
    (segment : Segment) (socket : Nat) (st : SocketStruct)
    (parsed : Segment.parse build leftovers.listen source destination packet = .done segment)
    (listening : stack.listenDispatcher.lookupSession segment.destination = some socket)
    (loaded : stack.loadStruct socket = .done st) :
    ∃ dispatch next,
      onReceivePacket build leftovers stack packet source destination address now =
        .done (dispatch, next) ∧
      ((segment.isRequest = false → Untouched stack next socket) ↔
        (segment.isRequest = false → st.backlog.toNat ≤ st.pending.length)) := by
  simp only [onReceivePacket, parsed, Outcome.done_bind, listening, loaded]
  by_cases full : st.backlog.toNat ≤ st.pending.length
  · rw [if_pos full]
    exact ⟨_, _, rfl, iff_of_true (fun _ => ⟨rfl, rfl⟩) fun _ => full⟩
  · rw [if_neg full]
    refine ⟨_, _, rfl, imp_congr_right fun _ => iff_of_false ?_ full⟩
    rintro ⟨_, same⟩
    have longer := congrArg (fun dispatcher => dispatcher.established.length) same
    simp [SegmentDispatcher.addSession, ProtocolStack.storeStruct] at longer

def listeningCalls : List StackEvent :=
  [.socket 2 1 0 3 50000 1, .bind 3 anyInterface 16, .listen 3 1]

-- a RST from port 5001 to port 80
def strayPacket : Buffer :=
  ⟨[19, 137, 0, 80, 0, 0, 0, 7, 0, 0, 0, 0, 80, 4, 255, 255, 0, 0, 0, 0], by decide⟩

theorem strayPacket_parsed : Segment.parse .debug sampleLeftovers.listen samplePeer sampleHost
    strayPacket = .done (Segment.parsed .debug samplePeer sampleHost strayPacket) :=
  Segment.parse_eq _ _ _ _ _ (by decide)

def fullListener : List StackEvent :=
  listeningCalls ++ [.receive sampleLeftovers requestPacket samplePeer sampleHost 11 0]

theorem fullListener_untouched :
    ∃ stack dispatch next,
      (ProtocolStack.create sampleHost []).run .debug fullListener = .done stack ∧
      onReceivePacket .debug sampleLeftovers stack strayPacket samplePeer sampleHost 12 20 =
        .done (dispatch, next) ∧ Untouched stack next 1 := by
  obtain ⟨stack, st, reached, listening, loaded, full⟩ : ∃ stack st,
      (ProtocolStack.create sampleHost []).run .debug fullListener = .done stack ∧
      stack.listenDispatcher.lookupSession ⟨sampleHost, 80⟩ = some 1 ∧
      stack.loadStruct 1 = .done st ∧ st.backlog.toNat ≤ st.pending.length :=
    ⟨_, _, rfl, rfl, rfl, by decide⟩
  obtain ⟨dispatch, next, taken, law⟩ := discarded_untouched_iff .debug sampleLeftovers stack
    strayPacket samplePeer sampleHost 12 20 _ 1 st strayPacket_parsed listening loaded
  exact ⟨stack, dispatch, next, reached, taken, law.mpr (fun _ => full) rfl⟩

/-- The stray segment takes the only place, and the request that follows is dropped. -/
theorem strayPacket_fills :
    ∃ stack segment filled,
      (ProtocolStack.create sampleHost []).run .debug listeningCalls = .done stack ∧
      Segment.parse .debug sampleLeftovers.listen samplePeer sampleHost strayPacket =
        .done segment ∧
      segment.isRequest = false ∧
      onReceivePacket .debug sampleLeftovers stack strayPacket samplePeer sampleHost 11 0 =
        .done (.queued ⟨segment.destination, segment.source, 11⟩, filled) ∧
      (fun st => st.pending.length) <$> stack.loadStruct 1 = .done 0 ∧
      (fun st => st.pending.length) <$> filled.loadStruct 1 = .done 1 ∧
      stack.dispatcher.established.length = 0 ∧ filled.dispatcher.established.length = 1 ∧
      filled.onReceivePacket .debug sampleLeftovers requestPacket samplePeer sampleHost 12 20 =
        .done (.dropped, filled) :=
  ⟨_, _, _, rfl, strayPacket_parsed, rfl, rfl, rfl, rfl, rfl, rfl, rfl⟩

end ListenDispatcher

end LabNetstack
