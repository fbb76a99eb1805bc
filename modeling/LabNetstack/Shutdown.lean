import LabNetstack.ProtocolStack

/-! The end of the process: `closeAllFDs` retires every session, and the exit routine waits for
`canClose`. Sessions change on their own all the while, retired or not. -/

namespace LabNetstack

namespace SocketSession

-- `close` sends a FIN and waits
def lingers (session : SocketSession) : Bool :=
  match session.state with
  | .synReceived | .established | .closeWait => true
  | _ => false

/-- Whether a session is closed after an event, from its state before. -/
def endsClosed (session : SocketSession) : SessionEvent → Bool
  | .open_ _ | .openWith _ => false
  | .listen segment _ =>
      session.isClosed && (segment.isRST || segment.isACK || !segment.isSYN)
  | .close => !session.lingers
  | .enterCLOSED => true
  | .fire _ => session.isClosed

theorem close_isClosed {env : Surroundings} {session after : SocketSession}
    (closed : session.close env = .done after) : after.isClosed = !session.lingers := by
  unfold close at closed
  unfold lingers
  cases state : session.state <;> rw [state] at closed <;> cases closed <;> rfl

theorem step_isClosed {env : Surroundings} {session after : SocketSession} {event : SessionEvent}
    (stepped : session.step env event = .done after) :
    after.isClosed = session.endsClosed event := by
  cases event with
  | open_ initial =>
      simp only [step, open_] at stepped
      split at stepped <;> cases stepped
      rfl
  | openWith segment =>
      simp only [step, openWith] at stepped
      split at stepped <;> cases stepped
      rfl
  | listen segment initial =>
      cases stepped
      unfold onSegmentArrivalLISTEN endsClosed
      cases rst : segment.isRST <;> cases ack : segment.isACK <;> cases syn : segment.isSYN <;>
        simp [isClosed, sendSegmentNow, rst, ack, syn]
  | close => exact close_isClosed stepped
  | enterCLOSED =>
      cases stepped
      rfl
  | fire now =>
      cases stepped
      rfl

end SocketSession

namespace ProtocolStack

-- `close` leaves a session closed unless it lingers
def Closes (before after : Owned SocketSession) : Prop :=
  after.object.isClosed = !before.object.lingers

theorem closeAll_closed {env : Surroundings} {sessions moved : List (Owned SocketSession)}
    (closed : closeAll env sessions = .done moved) :
    List.Forall₂ Closes sessions moved := by
  induction sessions generalizing moved with
  | nil =>
      cases closed
      exact .nil
  | cons session rest ih =>
      rw [closeAll, Outcome.bind_eq_done] at closed
      obtain ⟨first, ended, later⟩ := closed
      obtain ⟨others, more, result⟩ := Outcome.bind_eq_done.mp later
      cases result
      exact .cons (SocketSession.close_isClosed ended) (ih more)

theorem closeSessions_closed {env : Surroundings} {st : SocketStruct}
    {moved : List (Owned SocketSession)} (closed : closeSessions env st = .done moved) :
    List.Forall₂ Closes st.released moved := by
  unfold closeSessions at closed
  unfold SocketStruct.released
  cases kind : st.type with
  | unspecified =>
      rw [kind] at closed
      cases closed
      exact .nil
  | active =>
      simp only [kind] at closed
      cases owned : st.session with
      | none =>
          rw [owned] at closed
          cases closed
      | some session =>
          rw [owned] at closed
          exact closeAll_closed closed
  | passive =>
      rw [kind] at closed
      exact closeAll_closed closed

variable {stack : ProtocolStack}

theorem storeSession_sessions (address : Nat) (object : SocketSession) :
    (stack.storeSession address object).sessions =
      replaceAt Owned.address address (fun _ => ⟨address, object⟩) stack.sessions := by
  simp only [sessions, storeSession, replaceAt, List.map_append, List.flatMap_map,
    List.map_flatMap]
  refine congrArg (· ++ _) (List.flatMap_congr fun entry _ => ?_)
  rw [SocketStruct.held, SocketStruct.held, List.map_append, ← Option.toList_map]

theorem Consistent.storeSession (consistent : stack.Consistent) (address : Nat)
    (object : SocketSession) : (stack.storeSession address object).Consistent := by
  have addresses : (stack.storeSession address object).sessionAddresses =
      stack.sessionAddresses := by
    rw [sessionAddresses, storeSession_sessions]
    apply replaceAt_keys
    rfl
  refine ⟨?_, ?_, ?_, ?_, ?_⟩
  · rw [ProtocolStack.storeSession, List.map_map]
    exact consistent.descriptors
  · rw [ProtocolStack.storeSession, List.map_map]
    exact consistent.structs
  · intro entry member
    obtain ⟨before, present, rfl⟩ := List.mem_map.mp member
    have kept := consistent.kept before present
    refine ⟨?_, ?_, ?_⟩
    · rw [Option.isSome_map]
      exact kept.active
    · intro idle
      rw [List.map_eq_nil_iff]
      exact kept.idle idle
    · rw [List.length_map]
      exact kept.room
  · rw [addresses]
    exact consistent.sessions
  · rw [addresses]
    exact consistent.referenced

theorem Consistent.loadSession_of_mem (consistent : stack.Consistent)
    {owner : Owned SocketSession} (member : owner ∈ stack.sessions) :
    stack.loadSession owner.address = .done owner.object := by
  rw [loadSession, entryAt_of_mem consistent.sessions member]

end ProtocolStack

/-- The stack, and the addresses of the sessions that `_close` has retired so far. -/
structure Shutdown where
  stack : ProtocolStack
  retired : List Nat

-- `envs` are the surroundings of the `_close` of each descriptor
inductive ShutdownEvent where
  | call (event : StackEvent)
  | session (env : Surroundings) (address : Nat) (event : SessionEvent)
  | closeAllFDs (envs : FileDescriptor → Surroundings)

namespace Shutdown

def start (defaultIP : IPAddress) (buffer : List UInt8) : Shutdown :=
  ⟨.create defaultIP buffer, []⟩

def releasedBy (stack : ProtocolStack) (fd : FileDescriptor) : List (Owned SocketSession) :=
  match stack.lookupStruct fd with
  | none => []
  | some st => st.object.released

def close (env : Surroundings) (shutdown : Shutdown) (fd : FileDescriptor) : Outcome Shutdown := do
  let (_, stack) ← shutdown.stack.close env fd
  pure ⟨stack, shutdown.retired ++ (releasedBy shutdown.stack fd).map Owned.address⟩

-- the loop of `closeAllFDs`, for a number of rounds
def closeRounds (envs : FileDescriptor → Surroundings) : Nat → Shutdown → Outcome Shutdown
  | 0, shutdown => .done shutdown
  | rounds + 1, shutdown =>
      match shutdown.stack.fdSet with
      | [] => .done shutdown
      | entry :: _ => shutdown.close (envs entry.1) entry.1 >>= closeRounds envs rounds

def closeAllFDs (envs : FileDescriptor → Surroundings) (shutdown : Shutdown) : Outcome Shutdown :=
  closeRounds envs shutdown.stack.fdSet.length shutdown

def step (build : Build) (shutdown : Shutdown) : ShutdownEvent → Outcome Shutdown
  | .call (.close env fd) => shutdown.close env fd
  | .call event => do
      let stack ← shutdown.stack.step build event
      pure { shutdown with stack := stack }
  | .session env address event => do
      let object ← shutdown.stack.loadSession address
      let object ← object.step env event
      pure { shutdown with stack := shutdown.stack.storeSession address object }
  | .closeAllFDs envs => shutdown.closeAllFDs envs

/-- What the exit routine waits for. -/
def allClosed (shutdown : Shutdown) : Bool :=
  shutdown.retired.all fun address =>
    match shutdown.stack.loadSession address with
    | .done session => session.isClosed
    | _ => false

/-- The garbage is what was retired. -/
def Tracked (shutdown : Shutdown) : Prop :=
  shutdown.stack.garbage.map Owned.address = shutdown.retired

def Exact (shutdown : Shutdown) : Prop :=
  shutdown.stack.canClose = true ↔ shutdown.allClosed = true

/-! The events that keep the answer exact, from the state they meet. -/

def lawful (shutdown : Shutdown) : ShutdownEvent → Prop
  | .call event => shutdown.stack.lawful event
  | _ => True

instance (shutdown : Shutdown) (event : ShutdownEvent) : Decidable (shutdown.lawful event) :=
  event.casesOn (motive := fun event => Decidable (shutdown.lawful event))
    (fun event => inferInstanceAs (Decidable (shutdown.stack.lawful event)))
    (fun _ _ _ => isTrue trivial)
    (fun _ => isTrue trivial)

/-- Of sessions that are retired together, one is not closed by that. -/
def Lasting (sessions : List (Owned SocketSession)) : Prop :=
  sessions = [] ∨ ∃ owner ∈ sessions, owner.object.lingers = true

instance (sessions : List (Owned SocketSession)) : Decidable (Lasting sessions) :=
  inferInstanceAs (Decidable (_ ∨ _))

def isOpen (shutdown : Shutdown) (address : Nat) : Bool :=
  match shutdown.stack.loadSession address with
  | .done session => !session.isClosed
  | _ => false

def endsClosed (shutdown : Shutdown) (address : Nat) (event : SessionEvent) : Bool :=
  match shutdown.stack.loadSession address with
  | .done session => session.endsClosed event
  | _ => false

-- the first sessions to be retired do not all close, nor does the last that is open later
def leavesOpen (shutdown : Shutdown) : ShutdownEvent → Prop
  | .call (.close _ fd) => shutdown.retired = [] → Lasting (releasedBy shutdown.stack fd)
  | .call _ => True
  | .session _ address event =>
      address ∈ shutdown.retired → shutdown.endsClosed address event = true →
        ∃ other ∈ shutdown.retired, other ≠ address ∧ shutdown.isOpen other = true
  | .closeAllFDs _ => shutdown.retired = [] →
      Lasting (shutdown.stack.fdSet.flatMap fun entry => entry.2.object.released)

instance (shutdown : Shutdown) (event : ShutdownEvent) : Decidable (shutdown.leavesOpen event) :=
  match event with
  | .call (.close _ fd) => inferInstanceAs (Decidable
      (shutdown.retired = [] → Lasting (releasedBy shutdown.stack fd)))
  | .call (.socket ..) | .call (.bind ..) | .call (.listen ..) | .call (.connect ..)
  | .call (.receive ..) => isTrue trivial
  | .session _ address event => inferInstanceAs (Decidable
      (address ∈ shutdown.retired → shutdown.endsClosed address event = true →
        ∃ other ∈ shutdown.retired, other ≠ address ∧ shutdown.isOpen other = true))
  | .closeAllFDs _ => inferInstanceAs (Decidable (shutdown.retired = [] →
      Lasting (shutdown.stack.fdSet.flatMap fun entry => entry.2.object.released)))

variable {build : Build} {shutdown next : Shutdown}

/-- What the invariant is: the garbage is what was retired, in a consistent stack. -/
structure Kept (shutdown : Shutdown) : Prop where
  consistent : shutdown.stack.Consistent
  tracked : shutdown.Tracked

theorem Kept.retired_nil (kept : shutdown.Kept) :
    shutdown.retired = [] ↔ shutdown.stack.garbage = [] := by
  rw [← kept.tracked, List.map_eq_nil_iff]

theorem Kept.loaded (kept : shutdown.Kept) {owner : Owned SocketSession}
    (member : owner ∈ shutdown.stack.garbage) :
    shutdown.stack.loadSession owner.address = .done owner.object :=
  kept.consistent.loadSession_of_mem (List.mem_append_right _ member)

theorem Kept.allClosed_eq (kept : shutdown.Kept) :
    shutdown.allClosed = shutdown.stack.garbage.all fun owner => owner.object.isClosed := by
  rw [allClosed, ← kept.tracked, List.all_map, Bool.eq_iff_iff, List.all_eq_true, List.all_eq_true]
  refine forall₂_congr fun owner member => ?_
  rw [Function.comp_apply, kept.loaded member]

/-- Nothing ever leaves the garbage, so `canClose` asks whether nothing was retired. -/
theorem Kept.exact_iff (kept : shutdown.Kept) : shutdown.Exact ↔ shutdown.stack.garbage = [] ∨
    ∃ owner ∈ shutdown.stack.garbage, owner.object.isClosed = false := by
  rw [Exact, ProtocolStack.canClose, List.isEmpty_iff, kept.allClosed_eq]
  by_cases none : shutdown.stack.garbage = []
  · simp [none]
  · simp [none]

theorem Kept.isOpen_iff (kept : shutdown.Kept) {address : Nat} :
    (∃ other ∈ shutdown.retired, other ≠ address ∧ shutdown.isOpen other = true) ↔
      ∃ owner ∈ shutdown.stack.garbage, owner.address ≠ address ∧
        owner.object.isClosed = false := by
  rw [← kept.tracked]
  simp only [List.mem_map, exists_exists_and_eq_and]
  refine exists_congr fun owner => and_congr_right fun member => ?_
  rw [isOpen, kept.loaded member, Bool.not_eq_true']

/-! Sessions that are retired. -/

structure Retires (sessions : List (Owned SocketSession)) (shutdown next : Shutdown) : Prop where
  kept : next.Kept
  garbage : ∃ moved : List (Owned SocketSession),
    next.stack.garbage = shutdown.stack.garbage ++ moved ∧
    List.Forall₂ ProtocolStack.Closes sessions moved

theorem Retires.trans {first second : List (Owned SocketSession)} {last : Shutdown}
    (early : Retires first shutdown next) (late : Retires second next last) :
    Retires (first ++ second) shutdown last := by
  obtain ⟨moved, grown, closed⟩ := early.garbage
  obtain ⟨more, grownMore, closedMore⟩ := late.garbage
  refine ⟨late.kept, moved ++ more, ?_, List.rel_append closed closedMore⟩
  rw [grownMore, grown, List.append_assoc]

theorem lasting_iff {sessions moved : List (Owned SocketSession)}
    (closed : List.Forall₂ ProtocolStack.Closes sessions moved) :
    Lasting sessions ↔ moved = [] ∨ ∃ owner ∈ moved, owner.object.isClosed = false := by
  have empty : sessions = [] ↔ moved = [] := by
    rw [← List.length_eq_zero_iff, ← List.length_eq_zero_iff, closed.length_eq]
  rw [Lasting, empty]
  refine or_congr_right ?_
  clear empty
  induction closed with
  | nil => simp
  | @cons before after _ _ same _ ih =>
      have opens : after.object.isClosed = false ↔ before.object.lingers = true := by
        rw [same, Bool.not_eq_false']
      rw [List.exists_mem_cons_iff, List.exists_mem_cons_iff, ih, opens]

theorem Retires.exact_iff {sessions : List (Owned SocketSession)} (kept : shutdown.Kept)
    (exact_ : shutdown.Exact) (retires : Retires sessions shutdown next) :
    next.Exact ↔ (shutdown.retired = [] → Lasting sessions) := by
  obtain ⟨moved, grown, closed⟩ := retires.garbage
  rw [retires.kept.exact_iff, grown, lasting_iff closed, kept.retired_nil]
  rcases kept.exact_iff.mp exact_ with none | ⟨owner, member, opened⟩
  · simp [none]
  · refine iff_of_true (Or.inr ⟨owner, List.mem_append_left _ member, opened⟩) ?_
    intro none
    rw [none] at member
    cases member

theorem close_retires {env : Surroundings} {fd : FileDescriptor} (kept : shutdown.Kept)
    (taken : shutdown.close env fd = .done next) :
    Retires (releasedBy shutdown.stack fd) shutdown next ∧
      next.stack.fdSet = dropAt ProtocolStack.descriptor fd shutdown.stack.fdSet := by
  obtain ⟨⟨reply, stack⟩, closed, written⟩ := Outcome.bind_eq_done.mp taken
  cases written
  have environment : shutdown.stack.lawful (.close env fd) := trivial
  have consistent := kept.consistent.moves environment (ProtocolStack.close_moves closed)
  cases found : shutdown.stack.lookupStruct fd with
  | none =>
      have nothing : releasedBy shutdown.stack fd = [] := by rw [releasedBy, found]
      simp only [ProtocolStack.close, found] at closed
      cases closed
      rw [nothing, List.map_nil, List.append_nil]
      refine ⟨⟨⟨consistent, kept.tracked⟩, [], (List.append_nil _).symm, .nil⟩, ?_⟩
      exact (dropAt_absent (entryAt_none.mp (Option.map_eq_none_iff.mp found))).symm
  | some st =>
      have released : releasedBy shutdown.stack fd = st.object.released := by
        rw [releasedBy, found]
      simp only [ProtocolStack.close, found] at closed
      obtain ⟨moved, ended, result⟩ := Outcome.bind_eq_done.mp closed
      cases result
      rw [released]
      refine ⟨⟨⟨consistent, ?_⟩, moved, rfl, ProtocolStack.closeSessions_closed ended⟩, rfl⟩
      change (shutdown.stack.garbage ++ moved).map Owned.address = _
      rw [List.map_append, ProtocolStack.closeSessions_addresses ended, kept.tracked]

/-- As many rounds as there are descriptors leave none, and retire what all of them hold. -/
theorem closeRounds_retires {envs : FileDescriptor → Surroundings} {rounds : Nat}
    (kept : shutdown.Kept) (enough : shutdown.stack.fdSet.length ≤ rounds)
    (taken : closeRounds envs rounds shutdown = .done next) :
    Retires (shutdown.stack.fdSet.flatMap fun entry => entry.2.object.released) shutdown next ∧
      next.stack.fdSet = [] := by
  induction rounds generalizing shutdown with
  | zero =>
      have none := List.length_eq_zero_iff.mp (Nat.le_zero.mp enough)
      cases taken
      rw [none]
      exact ⟨⟨kept, [], (List.append_nil _).symm, .nil⟩, rfl⟩
  | succ rounds ih =>
      rw [closeRounds] at taken
      split at taken
      · rename_i none
        cases taken
        rw [none]
        exact ⟨⟨kept, [], (List.append_nil _).symm, .nil⟩, rfl⟩
      · rename_i entry rest shape
        obtain ⟨middle, closed, later⟩ := Outcome.bind_eq_done.mp taken
        obtain ⟨retires, left⟩ := close_retires kept closed
        have unique := kept.consistent.descriptors
        rw [shape, List.map_cons, List.nodup_cons] at unique
        have others : middle.stack.fdSet = rest := by
          rw [left, shape, dropAt, List.filter_cons_of_neg (by simp [ProtocolStack.descriptor])]
          exact dropAt_absent unique.1
        have first : releasedBy shutdown.stack entry.1 = entry.2.object.released := by
          rw [releasedBy, ProtocolStack.lookupStruct, shape]
          simp [entryAt, ProtocolStack.descriptor]
        rw [shape, List.length_cons] at enough
        rw [shape, List.flatMap_cons, ← first, ← others]
        obtain ⟨rest, empty⟩ := ih retires.kept (others ▸ Nat.le_of_succ_le_succ enough) later
        exact ⟨retires.trans rest, empty⟩

/-! Events that retire nothing. -/

/-- No other call touches the garbage. -/
theorem moves_garbage {stack after : ProtocolStack} {event : StackEvent}
    (moves : ProtocolStack.Moves stack event after) (other : ∀ env fd, event ≠ .close env fd) :
    after.garbage = stack.garbage := by
  cases moves with
  | close => exact absurd rfl (other _ _)
  | _ => rfl

theorem step_call {event : StackEvent} (other : ∀ env fd, event ≠ .close env fd) :
    shutdown.step build (.call event) = (shutdown.stack.step build event >>= fun stack =>
      pure { shutdown with stack := stack }) := by
  cases event with
  | close => exact absurd rfl (other _ _)
  | _ => rfl

theorem leavesOpen_call {event : StackEvent} (other : ∀ env fd, event ≠ .close env fd) :
    shutdown.leavesOpen (.call event) := by
  cases event with
  | close => exact absurd rfl (other _ _)
  | _ => trivial

/-- What an event comes to, where the answer was exact before. -/
def Decides (shutdown : Shutdown) (event : ShutdownEvent) (next : Shutdown) : Prop :=
  next.Kept ∧ (next.Exact ↔ shutdown.leavesOpen event)

theorem call_decides {event : StackEvent} (kept : shutdown.Kept) (exact_ : shutdown.Exact)
    (environment : shutdown.stack.lawful event)
    (taken : shutdown.step build (.call event) = .done next) :
    shutdown.Decides (.call event) next := by
  by_cases closes : ∃ env fd, event = .close env fd
  · obtain ⟨env, fd, rfl⟩ := closes
    have retires := (close_retires kept taken).1
    exact ⟨retires.kept, retires.exact_iff kept exact_⟩
  · have other : ∀ env fd, event ≠ .close env fd := fun env fd same => closes ⟨env, fd, same⟩
    rw [step_call other] at taken
    obtain ⟨stack, moved, written⟩ := Outcome.bind_eq_done.mp taken
    cases written
    have moves := ProtocolStack.step_moves moved
    have garbage := moves_garbage moves other
    have keptNext : Kept { shutdown with stack := stack } :=
      ⟨kept.consistent.moves environment moves, by rw [Tracked, garbage]; exact kept.tracked⟩
    refine ⟨keptNext, iff_of_true ?_ (leavesOpen_call other)⟩
    rw [keptNext.exact_iff, garbage]
    exact kept.exact_iff.mp exact_

theorem session_decides {env : Surroundings} {address : Nat} {event : SessionEvent}
    (kept : shutdown.Kept) (exact_ : shutdown.Exact)
    (taken : shutdown.step build (.session env address event) = .done next) :
    shutdown.Decides (.session env address event) next := by
  obtain ⟨before, loaded, later⟩ := Outcome.bind_eq_done.mp taken
  obtain ⟨after, stepped, written⟩ := Outcome.bind_eq_done.mp later
  cases written
  have keptNext : Kept { shutdown with stack := shutdown.stack.storeSession address after } := by
    refine ⟨kept.consistent.storeSession address after, ?_⟩
    refine Eq.trans ?_ kept.tracked
    apply replaceAt_keys
    rfl
  refine ⟨keptNext, ?_⟩
  have ends : shutdown.endsClosed address event = after.isClosed := by
    rw [endsClosed, loaded]
    exact (SocketSession.step_isClosed stepped).symm
  have written : ∀ owner, owner ∈ (shutdown.stack.storeSession address after).garbage ↔
      owner ∈ shutdown.stack.garbage ∧ owner.address ≠ address ∨
        ∃ before ∈ shutdown.stack.garbage, before.address = address ∧
          ⟨address, after⟩ = owner := fun owner => mem_replaceAt
  have empty : (shutdown.stack.storeSession address after).garbage = [] ↔
      shutdown.stack.garbage = [] := List.map_eq_nil_iff
  rw [keptNext.exact_iff, leavesOpen, ends, kept.isOpen_iff, empty, ← kept.tracked, List.mem_map]
  constructor
  · rintro (none | ⟨owner, member, opened⟩) ⟨here, present, rfl⟩ closed
    · rw [none] at present
      cases present
    · rcases (written owner).mp member with ⟨old, apart⟩ | ⟨_, _, _, rfl⟩
      · exact ⟨owner, old, apart, opened⟩
      · exact absurd (closed.symm.trans opened) (by decide)
  · intro spares
    by_cases present : ∃ here ∈ shutdown.stack.garbage, here.address = address
    · obtain ⟨here, member, same⟩ := present
      cases closed : after.isClosed with
      | true =>
          obtain ⟨owner, old, apart, opened⟩ := spares ⟨here, member, same⟩ closed
          exact Or.inr ⟨owner, (written owner).mpr (Or.inl ⟨old, apart⟩), opened⟩
      | false =>
          have stored := (written ⟨address, after⟩).mpr (Or.inr ⟨here, member, same, rfl⟩)
          exact Or.inr ⟨⟨address, after⟩, stored, closed⟩
    · rcases kept.exact_iff.mp exact_ with none | ⟨owner, member, opened⟩
      · exact Or.inl none
      · have apart : owner.address ≠ address := fun same => present ⟨owner, member, same⟩
        exact Or.inr ⟨owner, (written owner).mpr (Or.inl ⟨member, apart⟩), opened⟩

theorem step_decides {event : ShutdownEvent} (kept : shutdown.Kept) (exact_ : shutdown.Exact)
    (environment : shutdown.lawful event) (taken : shutdown.step build event = .done next) :
    shutdown.Decides event next := by
  cases event with
  | call event => exact call_decides kept exact_ environment taken
  | session env address event => exact session_decides kept exact_ taken
  | closeAllFDs envs =>
      have retires := (closeRounds_retires kept (Nat.le_refl _) taken).1
      exact ⟨retires.kept, retires.exact_iff kept exact_⟩

theorem start_kept (defaultIP : IPAddress) (buffer : List UInt8) :
    (start defaultIP buffer).Kept :=
  ⟨ProtocolStack.create_consistent defaultIP buffer, rfl⟩

/-- The answer is exact over a run exactly when the first sessions to be retired are not all closed
by that, and no event after it closes the last retired session that is open. -/
theorem shutdown_exact_iff (build : Build) (defaultIP : IPAddress) (buffer : List UInt8)
    (events : List ShutdownEvent)
    (environment : Allowed (step build) lawful (start defaultIP buffer) events) :
    Throughout (step build) Exact (start defaultIP buffer) events ↔
      Allowed (step build) leavesOpen (start defaultIP buffer) events := by
  refine throughout_iff (motive := fun shutdown => shutdown.Kept ∧ shutdown.Exact)
    (fun _ invariant => invariant.2) ?_ ?_ ⟨start_kept defaultIP buffer, Iff.rfl⟩ environment
  · intro shutdown event next invariant lawful leaves taken
    obtain ⟨kept, exactly⟩ := step_decides invariant.1 invariant.2 lawful taken
    exact ⟨kept, exactly.mpr leaves⟩
  · intro shutdown event next invariant lawful closes taken
    exact mt (step_decides invariant.1 invariant.2 lawful taken).2.mp closes

-- the peer answers with a SYN of its own, so that the close only sends a FIN
def answeredRun : List ShutdownEvent :=
  let peer : SegmentFactory :=
    ⟨⟨ProtocolStack.samplePeer, 80⟩, ⟨ProtocolStack.sampleHost, 50001⟩⟩
  [.call (.socket 2 1 0 4 50001 2),
    .call (.connect SendBuffer.quietHost 4 ProtocolStack.sampleServer 16 10 7 0),
    .session SendBuffer.quietHost 10 (.listen (peer.createControl 5 0 Segment.SYN) 9),
    .closeAllFDs fun _ => SendBuffer.quietHost]

theorem answeredRun_exact :
    Throughout (step .debug) Exact (start ProtocolStack.sampleHost []) answeredRun :=
  (shutdown_exact_iff .debug ProtocolStack.sampleHost [] answeredRun (by decide)).mpr (by decide)

-- a connection is given up before the peer answers, which closes it at once
def abandonedRun : List ShutdownEvent :=
  [.call (.socket 2 1 0 4 50001 2),
    .call (.connect SendBuffer.quietHost 4 ProtocolStack.sampleServer 16 10 7 0),
    .closeAllFDs fun _ => SendBuffer.quietHost]

theorem abandonedRun_inexact :
    ∃ shutdown, execute (step .debug) (start ProtocolStack.sampleHost []) abandonedRun =
        .done shutdown ∧
      shutdown.retired = [10] ∧ shutdown.allClosed = true ∧ shutdown.stack.canClose = false :=
  ⟨_, rfl, rfl, rfl, rfl⟩

end Shutdown

end LabNetstack
