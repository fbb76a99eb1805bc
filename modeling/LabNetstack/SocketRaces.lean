import LabNetstack.ProtocolStack

/-! Calls of several threads on the same descriptors. A call looks whether it owns its descriptor
before it takes the mutex, and a call that waits for a message gives the mutex back and keeps its
pointer to the socket. -/

namespace LabNetstack

-- `sent` is whether the first `send` of `_write` takes any byte
inductive PosixCall where
  | bind (socket : FileDescriptor) (saddr : Sockaddr) (len : UInt32)
  | listen (socket : FileDescriptor) (backlog : Int32)
  | connect (env : Surroundings) (socket : FileDescriptor) (saddr : Sockaddr) (len : UInt32)
      (address : Nat) (initial : SequenceNumber) (now : TimeBase)
  | accept (socket : FileDescriptor)
  | write (fildes : FileDescriptor) (sent : Bool)
  | close (env : Surroundings) (fildes : FileDescriptor)

def PosixCall.fd : PosixCall → FileDescriptor
  | bind socket _ _ | listen socket _ | connect _ socket _ _ _ _ _ | accept socket => socket
  | write fildes _ | close _ fildes => fildes

/-- A call has passed `ownFD` and not taken the mutex yet, or it is in `waitMessage` with the
address of its socket. -/
inductive CallPhase where
  | checked
  | waiting (st : Nat)
deriving DecidableEq, Repr

-- no code reads `closedSince`: a `_close` of the descriptor has run since `ownFD`
structure CallInProgress where
  thread : Nat
  call : PosixCall
  phase : CallPhase
  closedSince : Bool

structure Threads where
  stack : ProtocolStack
  calls : List CallInProgress

-- the message that ends a wait, and whether `send` then takes any byte
structure Wakeup where
  writable : Bool
  error : Bool
  sent : Bool
deriving DecidableEq, Repr

inductive ThreadEvent where
  | enter (thread : Nat) (call : PosixCall)
  | lock (thread : Nat)
  | resume (thread : Nat) (wakeup : Wakeup)

namespace Threads

def callOf (threads : Threads) (thread : Nat) : Option CallInProgress :=
  entryAt CallInProgress.thread thread threads.calls

def finish (threads : Threads) (current : CallInProgress) (stack : ProtocolStack) : Threads :=
  ⟨stack, dropAt CallInProgress.thread current.thread threads.calls⟩

def wait (threads : Threads) (current : CallInProgress) (st : Nat) : Threads :=
  { threads with
    calls := { current with phase := .waiting st } ::
      dropAt CallInProgress.thread current.thread threads.calls }

def noteClose (threads : Threads) (fd : FileDescriptor) : Threads :=
  { threads with
    calls := threads.calls.map fun current =>
      { current with closedSince := current.closedSince || current.call.fd == fd } }

-- the part of a call under the mutex, up to its end or its first wait
def locked (build : Build) (threads : Threads) (current : CallInProgress) : Outcome Threads :=
  match threads.stack.lookupStruct current.call.fd with
  -- `lookupStruct` or, in `_bind`, `fd_set_[socket]` gives a null pointer, and it is followed
  | none => .outOfBounds
  | some st =>
      match current.call with
      | .bind socket saddr len => do
          let (_, stack) ← threads.stack.bind socket saddr len
          pure (threads.finish current stack)
      | .listen socket backlog => do
          let (_, stack) ← threads.stack.listen socket backlog
          pure (threads.finish current stack)
      | .connect env socket saddr len address initial now => do
          let (_, stack) ← threads.stack.connect build env socket saddr len address initial now
          pure (threads.finish current stack)
      | .accept _ =>
          if st.object.type != .passive then .done (threads.finish current threads.stack)
          else .done (threads.wait current st.address)
      | .write _ sent =>
          if st.object.type != .active then .done (threads.finish current threads.stack)
          else if sent then .done (threads.finish current threads.stack)
          else .done (threads.wait current st.address)
      | .close env fildes => do
          let (_, stack) ← threads.stack.close env fildes
          pure ((threads.finish current stack).noteClose fildes)

-- a waiting call has the mutex again; the loop of `_accept` has no way out
def resumed (threads : Threads) (current : CallInProgress) (st : Nat) (wakeup : Wakeup) :
    Outcome Threads := do
  let _ ← threads.stack.loadStruct st
  match current.call with
  | .write _ _ =>
      if wakeup.writable && wakeup.sent || wakeup.error then
        pure (threads.finish current threads.stack)
      else pure threads
  | _ => pure threads

/-- One step of one thread. -/
def step (build : Build) (threads : Threads) : ThreadEvent → Outcome Threads
  | .enter thread call =>
      if (threads.callOf thread).isNone && threads.stack.ownFD call.fd then
        .done { threads with calls := ⟨thread, call, .checked, false⟩ :: threads.calls }
      else .done threads
  | .lock thread =>
      match threads.callOf thread with
      | some ⟨thread, call, .checked, closed⟩ =>
          threads.locked build ⟨thread, call, .checked, closed⟩
      | _ => .done threads
  | .resume thread wakeup =>
      match threads.callOf thread with
      | some ⟨thread, call, .waiting st, closed⟩ =>
          threads.resumed ⟨thread, call, .waiting st, closed⟩ st wakeup
      | _ => .done threads

/-- The call whose socket an event uses. -/
def acting (threads : Threads) : ThreadEvent → Option CallInProgress
  | .enter _ _ => none
  | .lock thread => (threads.callOf thread).filter fun current => current.phase == .checked
  | .resume thread _ => (threads.callOf thread).filter fun current => current.phase != .checked

def addressOf (stack : ProtocolStack) (fd : FileDescriptor) : Option Nat :=
  (stack.lookupStruct fd).map Owned.address

/-- The pointer the call uses, null if there is none. -/
def pointer (threads : Threads) (current : CallInProgress) : Option Nat :=
  match current.phase with
  | .checked => addressOf threads.stack current.call.fd
  | .waiting st => some st

def present (threads : Threads) (current : CallInProgress) : Bool :=
  (threads.pointer current).isSome &&
    threads.pointer current == addressOf threads.stack current.call.fd

def UsesPresent (threads : Threads) (event : ThreadEvent) : Prop :=
  ∀ current, threads.acting event = some current → threads.present current = true

def Unclosed (threads : Threads) (event : ThreadEvent) : Prop :=
  ∀ current, threads.acting event = some current → current.closedSince = false

/-- The socket of a call is there as long as its descriptor was not closed. -/
def Linked (threads : Threads) : Prop :=
  ∀ current ∈ threads.calls, threads.present current = true ↔ current.closedSince = false

variable {build : Build} {threads next : Threads}

theorem acting_mem {event : ThreadEvent} {current : CallInProgress}
    (acts : threads.acting event = some current) : current ∈ threads.calls := by
  cases event with
  | enter => cases acts
  | lock thread =>
      obtain ⟨found, _⟩ := Option.filter_eq_some_iff.mp acts
      exact (entryAt_some found).1
  | resume thread wakeup =>
      obtain ⟨found, _⟩ := Option.filter_eq_some_iff.mp acts
      exact (entryAt_some found).1

theorem Linked.agree (linked : threads.Linked) (event : ThreadEvent) :
    threads.UsesPresent event ↔ threads.Unclosed event := by
  refine forall_congr' fun current => forall_congr' fun acts => ?_
  exact linked current (acting_mem acts)

/-! What each step does to the sockets under their descriptors. -/

theorem storeStruct_addressOf (stack : ProtocolStack) (address : Nat) (object : SocketStruct)
    (fd : FileDescriptor) : addressOf (stack.storeStruct address object) fd = addressOf stack fd := by
  rw [addressOf, ProtocolStack.lookupStruct, ProtocolStack.storeStruct, replaceAt, entryAt_map,
    addressOf, ProtocolStack.lookupStruct]
  · cases entryAt ProtocolStack.descriptor fd stack.fdSet with
    | none => rfl
    | some entry =>
        simp only [Option.map_some, Option.some.injEq]
        split <;> rfl
  · intro entry
    split <;> rfl

def keepsSockets : StackEvent → Bool
  | .bind _ _ _ | .listen _ _ | .connect _ _ _ _ _ _ _ => true
  | _ => false

theorem moves_addressOf {stack after : ProtocolStack} {event : StackEvent}
    (moves : ProtocolStack.Moves stack event after) (keeps : keepsSockets event = true)
    (fd : FileDescriptor) : addressOf after fd = addressOf stack fd := by
  cases moves with
  | stay => rfl
  | bind => exact storeStruct_addressOf _ _ _ _
  | listen => exact storeStruct_addressOf _ _ _ _
  | connect => exact storeStruct_addressOf _ _ _ _
  | socket => cases keeps
  | close => cases keeps
  | queue => cases keeps

theorem close_addressOf {env : Surroundings} {stack after : ProtocolStack} {fd : FileDescriptor}
    {reply : Reply} {st : Owned SocketStruct} (found : stack.lookupStruct fd = some st)
    (closed : stack.close env fd = .done (reply, after)) (other : FileDescriptor) :
    addressOf after other = if other = fd then none else addressOf stack other := by
  obtain ⟨moved, _, rfl⟩ := ProtocolStack.close_removes closed found
  rw [addressOf, ProtocolStack.lookupStruct, entryAt_dropAt]
  split <;> rfl

theorem present_congr {stack : ProtocolStack} {calls : List CallInProgress}
    {current : CallInProgress}
    (same : addressOf stack current.call.fd = addressOf threads.stack current.call.fd) :
    present ⟨stack, calls⟩ current = threads.present current := by
  simp only [present, pointer, same]

theorem linked_finish (linked : threads.Linked) (current : CallInProgress) {stack : ProtocolStack}
    (same : ∀ fd, addressOf stack fd = addressOf threads.stack fd) :
    (threads.finish current stack).Linked := by
  intro other member
  rw [finish, present_congr (same _)]
  exact linked other (mem_dropAt.mp member).1

theorem linked_wait (linked : threads.Linked) {current : CallInProgress} {st : Owned SocketStruct}
    (member : current ∈ threads.calls) (checked : current.phase = .checked)
    (found : threads.stack.lookupStruct current.call.fd = some st) :
    (threads.wait current st.address).Linked := by
  have here : addressOf threads.stack current.call.fd = some st.address := by
    rw [addressOf, found]
    rfl
  intro other present
  rcases List.mem_cons.mp present with rfl | kept
  · have before := linked current member
    rw [Threads.present, pointer, checked, here] at before
    rw [← before]
    simp [Threads.present, pointer, wait, here]
  · exact linked other (mem_dropAt.mp kept).1

theorem linked_close (linked : threads.Linked) (current : CallInProgress) {fd : FileDescriptor}
    {stack : ProtocolStack}
    (removed : ∀ other, addressOf stack other =
      if other = fd then none else addressOf threads.stack other) :
    ((threads.finish current stack).noteClose fd).Linked := by
  intro marked member
  obtain ⟨before, kept, rfl⟩ := List.mem_map.mp member
  have linkedBefore := linked before (mem_dropAt.mp kept).1
  by_cases closes : before.call.fd = fd
  · have gone : addressOf stack before.call.fd = none := by rw [removed, if_pos closes]
    refine iff_of_false ?_ (by simp [closes])
    cases before.phase <;> simp [present, pointer, noteClose, finish, gone]
  · have same : addressOf stack before.call.fd = addressOf threads.stack before.call.fd := by
      rw [removed, if_neg closes]
    simp only [beq_false_of_ne closes, Bool.or_false, ← linkedBefore]
    change present ⟨stack, _⟩ before = true ↔ _
    rw [present_congr same]

theorem linked_called (build : Build) (linked : threads.Linked) (current : CallInProgress)
    (event : StackEvent) {call : Outcome (Reply × ProtocolStack)} (keeps : keepsSockets event = true)
    (steps : threads.stack.step build event = Prod.snd <$> call)
    (taken : (do let (_, stack) ← call; pure (threads.finish current stack)) = .done next) :
    next.Linked := by
  obtain ⟨⟨reply, stack⟩, made, written⟩ := Outcome.bind_eq_done.mp taken
  cases written
  have called : threads.stack.step build event = .done stack :=
    steps.trans (Outcome.map_eq_done.mpr ⟨_, made, rfl⟩)
  exact linked_finish linked current (moves_addressOf (ProtocolStack.step_moves called) keeps)

theorem linked_locked (linked : threads.Linked) {current : CallInProgress}
    (member : current ∈ threads.calls) (checked : current.phase = .checked)
    (taken : threads.locked build current = .done next) : next.Linked := by
  unfold locked at taken
  split at taken
  · cases taken
  rename_i st found
  split at taken
  · rename_i socket saddr len _
    exact linked_called build linked current (.bind socket saddr len) rfl rfl taken
  · rename_i socket backlog _
    exact linked_called build linked current (.listen socket backlog) rfl rfl taken
  · rename_i env socket saddr len address initial now _
    exact linked_called build linked current
      (.connect env socket saddr len address initial now) rfl rfl taken
  · split at taken
    · cases taken
      exact linked_finish linked current fun _ => rfl
    · cases taken
      exact linked_wait linked member checked found
  · split at taken
    · cases taken
      exact linked_finish linked current fun _ => rfl
    · split at taken
      · cases taken
        exact linked_finish linked current fun _ => rfl
      · cases taken
        exact linked_wait linked member checked found
  · rename_i env fildes shape
    obtain ⟨⟨reply, stack⟩, closed, written⟩ := Outcome.bind_eq_done.mp taken
    cases written
    have here : threads.stack.lookupStruct fildes = some st := by
      rw [shape] at found
      exact found
    exact linked_close linked current (close_addressOf here closed)

theorem linked_resumed (linked : threads.Linked) {current : CallInProgress} {st : Nat}
    {wakeup : Wakeup} (taken : threads.resumed current st wakeup = .done next) : next.Linked := by
  obtain ⟨_, _, later⟩ := Outcome.bind_eq_done.mp taken
  split at later
  · split at later
    · cases later
      exact linked_finish linked current fun _ => rfl
    · cases later
      exact linked
  · cases later
    exact linked

theorem linked_enter (linked : threads.Linked) {thread : Nat} {call : PosixCall}
    (owned : threads.stack.ownFD call.fd = true) :
    Linked { threads with calls := ⟨thread, call, .checked, false⟩ :: threads.calls } := by
  intro current member
  rcases List.mem_cons.mp member with rfl | earlier
  · refine iff_of_true ?_ rfl
    simpa [present, pointer, addressOf, ProtocolStack.ownFD] using owned
  · exact linked current earlier

theorem linked_step (linked : threads.Linked) {event : ThreadEvent}
    (taken : threads.step build event = .done next) : next.Linked := by
  cases event with
  | enter thread call =>
      rw [step] at taken
      split at taken
      · rename_i passes
        cases taken
        exact linked_enter linked (Bool.and_eq_true_iff.mp passes).2
      · cases taken
        exact linked
  | lock thread =>
      rw [step] at taken
      split at taken
      · rename_i found
        exact linked_locked linked (entryAt_some found).1 rfl taken
      · cases taken
        exact linked
  | resume thread wakeup =>
      rw [step] at taken
      split at taken
      · exact linked_resumed linked taken
      · cases taken
        exact linked

/-- Every call finds its socket exactly when no step of a call comes after a `_close` of its
descriptor that ran since its `ownFD`. -/
theorem sockets_present_iff (build : Build) (stack : ProtocolStack) (events : List ThreadEvent) :
    Attempted (step build) UsesPresent ⟨stack, []⟩ events ↔
      Attempted (step build) Unclosed ⟨stack, []⟩ events :=
  attempted_congr (motive := Linked) (fun _ event linked => linked.agree event)
    (fun _ _ _ linked taken => linked_step linked taken) nofun

def listeningStack : ProtocolStack :=
  { ProtocolStack.create ProtocolStack.sampleHost [] with
    fdSet := [(3, ⟨1, (SocketStruct.create ⟨ProtocolStack.sampleHost, 80⟩).listening 1⟩)]
    listenDispatcher := ⟨[⟨⟨ProtocolStack.sampleHost, 80⟩, 1⟩]⟩ }

-- the descriptor is closed after the check of a second call, or under a call that waits
theorem closed_between :
    (ProtocolStack.create ProtocolStack.sampleHost []).run .debug
        [.socket 2 1 0 3 80 1, .listen 3 1] = .done listeningStack ∧
      ¬Attempted (step .debug) UsesPresent ⟨listeningStack, []⟩
        [.enter 1 (.listen 3 1), .enter 2 (.close SendBuffer.quietHost 3), .lock 2, .lock 1] ∧
      ¬Attempted (step .debug) UsesPresent ⟨listeningStack, []⟩
        [.enter 1 (.accept 3), .lock 1, .enter 2 (.close SendBuffer.quietHost 3), .lock 2,
          .resume 1 ⟨false, false, false⟩] := by
  refine ⟨rfl, ?_, ?_⟩
  · intro attempted
    have last := ((attempted.2 _ rfl).2 _ rfl).2 _ rfl
    exact absurd (last.1 _ rfl) (by decide)
  · intro attempted
    have last := (((attempted.2 _ rfl).2 _ rfl).2 _ rfl).2 _ rfl
    exact absurd (last.1 _ rfl) (by decide)

end Threads

end LabNetstack
