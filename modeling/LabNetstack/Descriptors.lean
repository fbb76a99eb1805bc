import LabNetstack.DescriptorTable
import LabNetstack.ProtocolStack

/-! The descriptors under the sockets. `_socket` has the kernel duplicate a descriptor of /dev/null,
and `_close` does not give the duplicate back. -/

namespace LabNetstack

structure Process (limit : Nat) where
  table : DescriptorTable limit
  nullFD : Nat
  stack : ProtocolStack

-- `opens` is any other call of the process that takes a descriptor
inductive ProcessEvent where
  | opens
  | call (event : StackEvent)

def ProcessEvent.takes : ProcessEvent → Bool
  | opens | call (.socket ..) => true
  | _ => false

namespace Process

open ProtocolStack

variable {limit : Nat}

def fdOf : Option Nat → FileDescriptor
  | some number => Int32.ofNat number
  | none => -1

-- the first test of `_socket`
def handedOn (domain type protocol : Int32) : Bool :=
  domain != 2 || type != 1 || (protocol != 0 && protocol != 6)

def start (table : DescriptorTable limit) (nullFD : Nat) (defaultIP : IPAddress)
    (buffer : List UInt8) : Process limit :=
  ⟨table, nullFD, ProtocolStack.create defaultIP buffer⟩

-- `_socket` gets the descriptor that `dup(null_fd_)` returns
def answered (process : Process limit) : StackEvent → StackEvent
  | .socket domain type protocol _ port address =>
      .socket domain type protocol (fdOf (process.table.dup process.nullFD).1) port address
  | event => event

-- what is not the stack's goes to `__real_socket` and `__real_close`
def tableAfter (process : Process limit) : StackEvent → DescriptorTable limit
  | .socket domain type protocol _ _ _ =>
      if handedOn domain type protocol then process.table.allocate.2
      else (process.table.dup process.nullFD).2
  | .close _ fildes =>
      if process.stack.ownFD fildes || fildes < 0 then process.table
      else process.table.release fildes.toNatClampNeg
  | _ => process.table

def step (build : Build) (process : Process limit) : ProcessEvent → Outcome (Process limit)
  | .opens => .done { process with table := process.table.allocate.2 }
  | .call event => do
      let stack ← process.stack.step build (process.answered event)
      pure ⟨process.tableAfter event, process.nullFD, stack⟩

variable {process next : Process limit} {build : Build}

theorem step_call {event : StackEvent} :
    process.step build (.call event) = .done next ↔
      ∃ stack, process.stack.step build (process.answered event) = .done stack ∧
        ⟨process.tableAfter event, process.nullFD, stack⟩ = next := by
  simp only [step, Outcome.bind_eq_done, Outcome.pure_eq, Outcome.done.injEq]

/-! `_socket` by its two ways. -/

def adding (stack : ProtocolStack) (fd : FileDescriptor) (port : SocketPort) (address : Nat) :
    ProtocolStack :=
  { stack with
    fdSet := (fd, ⟨address, SocketStruct.create ⟨stack.defaultIP, port⟩⟩) ::
      dropAt descriptor fd stack.fdSet }

section Socket

variable {stack after : ProtocolStack} {domain type protocol : Int32} {fd : FileDescriptor}
  {port : SocketPort} {address : Nat}

theorem socket_handedOn (elsewhere : handedOn domain type protocol = true)
    (taken : stack.step build (.socket domain type protocol fd port address) = .done after) :
    after = stack := by
  obtain ⟨⟨reply, _⟩, made, rfl⟩ := Outcome.map_eq_done.mp taken
  unfold ProtocolStack.socket at made
  rw [if_pos (by exact elsewhere)] at made
  cases made
  rfl

theorem socket_own (own : handedOn domain type protocol = false) :
    stack.step build (.socket domain type protocol fd port address) =
      (dcheck build (!stack.ownFD fd) >>= fun _ => .done (adding stack fd port address)) := by
  have here : ¬(domain != 2 || type != 1 || (protocol != 0 && protocol != 6)) = true := by
    exact Bool.eq_false_iff.mp own
  rw [ProtocolStack.step, ProtocolStack.socket, if_neg here]
  cases dcheck build (!stack.ownFD fd) <;> rfl

theorem socket_added (own : handedOn domain type protocol = false)
    (taken : stack.step build (.socket domain type protocol fd port address) = .done after) :
    after = adding stack fd port address := by
  rw [socket_own own] at taken
  obtain ⟨_, _, made⟩ := Outcome.bind_eq_done.mp taken
  cases made
  rfl

end Socket

/-! The kernel never gives out a number that the stack owns. -/

def Backed (process : Process limit) : Prop :=
  ∀ fd ∈ process.stack.fdSet.map descriptor,
    fd = -1 ∨ ∃ number ∈ process.table.opened, fd = Int32.ofNat number

theorem moves_descriptors {stack after : ProtocolStack} {event : StackEvent}
    (other : ∀ domain type protocol fd port address,
      event ≠ .socket domain type protocol fd port address)
    (moves : Moves stack event after) :
    after.fdSet.map descriptor ⊆ stack.fdSet.map descriptor := by
  cases moves with
  | stay resetDispatcher => exact List.Subset.refl _
  | socket => exact absurd rfl (other _ _ _ _ _ _)
  | bind member =>
      rw [storeStruct_descriptors]
      exact List.Subset.refl _
  | listen member unspecified size =>
      change (ProtocolStack.storeStruct _ _ _).fdSet.map descriptor ⊆ _
      rw [storeStruct_descriptors]
      exact List.Subset.refl _
  | connect found unspecified session named =>
      change (ProtocolStack.storeStruct _ _ _).fdSet.map descriptor ⊆ _
      rw [storeStruct_descriptors]
      exact List.Subset.refl _
  | close found moved same =>
      exact List.map_subset descriptor fun entry member => (mem_dropAt.mp member).1
  | queue member room local_ peer session =>
      change (ProtocolStack.storeStruct _ _ _).fdSet.map descriptor ⊆ _
      rw [storeStruct_descriptors]
      exact List.Subset.refl _

theorem Backed.mono {table : DescriptorTable limit} {stack : ProtocolStack}
    (backed : process.Backed) (kept : process.table.opened ⊆ table.opened)
    (fewer : stack.fdSet.map descriptor ⊆ process.stack.fdSet.map descriptor) (nullFD : Nat) :
    (⟨table, nullFD, stack⟩ : Process limit).Backed := by
  intro fd member
  rcases backed fd (fewer member) with failed | ⟨number, opened, same⟩
  · exact Or.inl failed
  · exact Or.inr ⟨number, kept opened, same⟩

theorem Backed.socket (backed : process.Backed) (port : SocketPort) (address : Nat) :
    (⟨(process.table.dup process.nullFD).2, process.nullFD,
      adding process.stack (fdOf (process.table.dup process.nullFD).1) port address⟩ :
        Process limit).Backed := by
  intro fd member
  rcases List.mem_cons.mp member with rfl | old
  · rcases process.table.dup_cases process.nullFD with same | ⟨fresh, next, made, _, _, opened⟩
    · rw [same]
      exact Or.inl rfl
    · rw [made]
      refine Or.inr ⟨fresh, ?_, rfl⟩
      rw [opened]
      exact List.mem_cons_self
  · have before : fd ∈ process.stack.fdSet.map descriptor :=
      List.map_subset descriptor (fun entry member => (mem_dropAt.mp member).1) old
    rcases backed fd before with failed | ⟨number, present, rfl⟩
    · exact Or.inl failed
    · refine Or.inr ⟨number, ?_, rfl⟩
      rcases process.table.dup_cases process.nullFD with same | ⟨_, next, made, _, _, opened⟩
      · rw [same]
        exact present
      · rw [made, opened]
        exact List.mem_cons_of_mem _ present

theorem Backed.step (backed : process.Backed) {event : ProcessEvent}
    (taken : process.step build event = .done next) : next.Backed := by
  cases event with
  | opens =>
      cases taken
      exact backed.mono (fun number member => DescriptorTable.mem_allocate member)
        (List.Subset.refl _) process.nullFD
  | call event =>
      obtain ⟨stack, moved, rfl⟩ := step_call.mp taken
      cases event with
      | socket domain type protocol fd port address =>
          cases kind : handedOn domain type protocol with
          | true =>
              rw [socket_handedOn kind moved, tableAfter, if_pos kind]
              exact backed.mono (fun number member => DescriptorTable.mem_allocate member)
                (List.Subset.refl _) process.nullFD
          | false =>
              rw [socket_added kind moved, tableAfter, if_neg (by rw [kind]; decide)]
              exact backed.socket port address
      | close env fildes =>
          have fewer := moves_descriptors (by simp [answered]) (step_moves moved)
          rw [tableAfter]
          split
          · exact backed.mono (List.Subset.refl _) fewer process.nullFD
          · rename_i released
            rw [Bool.or_eq_true, not_or, decide_eq_true_eq, Bool.not_eq_true] at released
            intro fd member
            rcases backed fd (fewer member) with failed | ⟨number, opened, rfl⟩
            · exact Or.inl failed
            · refine Or.inr ⟨number, DescriptorTable.mem_release.mpr ⟨?_, opened⟩, rfl⟩
              -- a number that is given back is not the stack's
              rintro rfl
              rw [Int32.ofNat_toNatClampNeg fildes (Int32.not_lt.mp released.2)] at member
              exact (ownFD_iff process.stack fildes).mp released.1 (fewer member)
      | _ =>
          exact backed.mono (List.Subset.refl _)
            (moves_descriptors (by simp [answered]) (step_moves moved)) process.nullFD

theorem reached_backed {table : DescriptorTable limit} {nullFD : Nat} {defaultIP : IPAddress}
    {buffer : List UInt8} {events : List ProcessEvent}
    (reached : execute (Process.step build) (start table nullFD defaultIP buffer) events =
      .done process) : process.Backed :=
  execute_invariant (fun _ _ _ backed (_ : True) taken => Backed.step backed taken)
    (fun _ member => by simp [start, create] at member)
    (allowed_of_forall (fun _ _ => trivial) _ _) reached

theorem Backed.dup_unowned (backed : process.Backed) (small : limit ≤ 2 ^ 31) {number : Nat}
    (given : (process.table.dup process.nullFD).1 = some number) :
    process.stack.ownFD (Int32.ofNat number) = false := by
  rw [ownFD_iff]
  intro owned
  rcases process.table.dup_cases process.nullFD with same | ⟨fresh, next, made, below, free, _⟩
  · rw [same] at given
    cases given
  · rw [made] at given
    cases given
    rcases backed _ owned with failed | ⟨other, opened, equal⟩
    · have value := Int32.toInt_ofNat_of_lt (Nat.lt_of_lt_of_le below small)
      rw [failed] at value
      simp at value
    · have inside := Nat.lt_of_lt_of_le (process.table.inside other opened) small
      have values := congrArg Int32.toNatClampNeg equal
      rw [Int32.toNatClampNeg_ofNat_of_lt (Nat.lt_of_lt_of_le below small),
        Int32.toNatClampNeg_ofNat_of_lt inside] at values
      rw [values] at free
      exact free opened

/-- The check of `_socket` that the descriptor is not in use fails exactly if `dup` fails and the
socket that it made at an earlier failure, under the descriptor -1, is still there. -/
theorem socket_aborts_iff (small : limit ≤ 2 ^ 31) (build : Build) (table : DescriptorTable limit)
    (nullFD : Nat) (defaultIP : IPAddress) (buffer : List UInt8) (events : List ProcessEvent)
    (reached : execute (Process.step build) (start table nullFD defaultIP buffer) events =
      .done process)
    {domain type protocol : Int32} (own : handedOn domain type protocol = false)
    (fd : FileDescriptor) (port : SocketPort) (address : Nat) :
    process.step .debug (.call (.socket domain type protocol fd port address)) = .aborted ↔
      (process.table.dup process.nullFD).1 = none ∧ process.stack.ownFD (-1) = true := by
  have backed := reached_backed reached
  have checked : process.step .debug (.call (.socket domain type protocol fd port address)) =
      .aborted ↔ process.stack.ownFD (fdOf (process.table.dup process.nullFD).1) = true := by
    rw [Process.step, answered, socket_own own]
    cases process.stack.ownFD (fdOf (process.table.dup process.nullFD).1) <;>
      simp [dcheck, Outcome.require]
  rw [checked]
  cases given : (process.table.dup process.nullFD).1 with
  | none => exact (and_iff_right rfl).symm
  | some number =>
      have unowned : process.stack.ownFD (fdOf (some number)) = false :=
        backed.dup_unowned small given
      rw [unowned]
      exact iff_of_false Bool.false_ne_true (fun both => by cases both.1)

-- nothing can be opened beside /dev/null
def fullTable : DescriptorTable 1 := ⟨[0], by decide, by decide⟩

def newSocket (address : Nat) : ProcessEvent := .call (.socket 2 1 0 0 50000 address)

theorem secondFailure_aborts :
    ∃ process, execute (Process.step .debug) (start fullTable 0 sampleHost []) [newSocket 1] =
      .done process ∧ process.step .debug (newSocket 2) = .aborted := by
  refine ⟨_, rfl, ?_⟩
  exact (socket_aborts_iff (by decide) .debug fullTable 0 sampleHost [] [newSocket 1] rfl rfl 0
    50000 2).mpr ⟨rfl, rfl⟩

/-! What `_close` takes from the stack stays with the kernel. -/

def closesOwned (process : Process limit) : ProcessEvent → Bool
  | .call (.close _ fildes) => process.stack.ownFD fildes
  | _ => true

structure Holding (process : Process limit) (nullFD count : Nat) : Prop where
  null : process.nullFD = nullFD
  open_ : nullFD ∈ process.table.opened
  count : process.table.opened.length = min limit count

theorem Holding.allocate {nullFD count : Nat} (holding : process.Holding nullFD count)
    (stack : ProtocolStack) :
    (⟨process.table.allocate.2, process.nullFD, stack⟩ : Process limit).Holding nullFD
      (count + 1) := by
  refine ⟨holding.null, DescriptorTable.mem_allocate holding.open_, ?_⟩
  rw [DescriptorTable.allocate_length, holding.count]
  omega

theorem Holding.step {nullFD count : Nat} (holding : process.Holding nullFD count)
    {event : ProcessEvent} (owned : process.closesOwned event = true)
    (taken : process.step build event = .done next) :
    next.Holding nullFD (count + if event.takes then 1 else 0) := by
  cases event with
  | opens =>
      cases taken
      exact holding.allocate process.stack
  | call event =>
      obtain ⟨stack, _, rfl⟩ := step_call.mp taken
      cases event with
      | socket domain type protocol fd port address =>
          have known : process.nullFD ∈ process.table.opened := by
            rw [holding.null]
            exact holding.open_
          rw [tableAfter, DescriptorTable.dup, if_pos known, ite_self]
          exact holding.allocate stack
      | close env fildes =>
          have mine : process.stack.ownFD fildes = true := owned
          rw [tableAfter, mine, Bool.true_or, if_pos rfl]
          exact ⟨holding.null, holding.open_, holding.count⟩
      | _ => exact ⟨holding.null, holding.open_, holding.count⟩

theorem Holding.run {nullFD count : Nat} {events : List ProcessEvent}
    (holding : process.Holding nullFD count)
    (owned : Allowed (Process.step build) (fun process event => process.closesOwned event = true)
      process events)
    (reached : execute (Process.step build) process events = .done next) :
    next.Holding nullFD (count + events.countP ProcessEvent.takes) := by
  induction events generalizing process count with
  | nil =>
      cases reached
      exact holding
  | cons event events ih =>
      obtain ⟨after, taken, later⟩ := execute_cons.mp reached
      obtain ⟨first, rest⟩ := owned after taken
      rw [List.countP_cons, Nat.add_comm (events.countP _), ← Nat.add_assoc]
      exact ih (holding.step first taken) rest later

/-- If every socket is closed once and nothing else is, the descriptors of the process run out after
as many calls that take one as were free at the start, however many sockets were closed. -/
theorem socket_exhausted_iff (build : Build) (table : DescriptorTable limit) (nullFD : Nat)
    (null : nullFD ∈ table.opened) (defaultIP : IPAddress) (buffer : List UInt8)
    (events : List ProcessEvent)
    (owned : Allowed (Process.step build) (fun process event => process.closesOwned event = true)
      (start table nullFD defaultIP buffer) events)
    (reached : execute (Process.step build) (start table nullFD defaultIP buffer) events =
      .done process) :
    (process.table.dup process.nullFD).1 = none ↔
      limit ≤ table.opened.length + events.countP ProcessEvent.takes := by
  have bounded := table.length_le
  have initial : (start table nullFD defaultIP buffer).Holding nullFD table.opened.length :=
    ⟨rfl, null, by rw [Nat.min_eq_right bounded]; rfl⟩
  have holding := initial.run owned reached
  have known : process.nullFD ∈ process.table.opened := by
    rw [holding.null]
    exact holding.open_
  have full : process.table.lowest = none ↔ process.table.opened.length = limit :=
    DescriptorTable.lowest_none_iff
  rw [DescriptorTable.dup, if_pos known, DescriptorTable.allocate_none_iff, full, holding.count]
  omega

def smallTable : DescriptorTable 3 := ⟨[0], by decide, by decide⟩

def closedSockets : List ProcessEvent :=
  [newSocket 1, .call (.close SendBuffer.quietHost 1), newSocket 2,
    .call (.close SendBuffer.quietHost 2)]

theorem closedSockets_exhaust :
    ∃ process, execute (Process.step .debug) (start smallTable 0 sampleHost []) closedSockets =
      .done process ∧ process.stack.fdSet.length = 0 ∧
        (process.table.dup process.nullFD).1 = none := by
  refine ⟨_, rfl, rfl, ?_⟩
  exact (socket_exhausted_iff .debug smallTable 0 (by decide) sampleHost [] closedSockets
    (by decide) rfl).mpr (by decide)

/-! The sessions that the dispatcher knows. A socket under the descriptor -1 gives way to the next
one there, with what it holds. -/

def Referenced (process : Process limit) : Prop :=
  ∀ elem ∈ process.stack.dispatcher.established, elem.session ∈ process.stack.sessionAddresses

-- the allocator gives out addresses at which nothing lives
def freshAddress (process : Process limit) : ProcessEvent → Prop
  | .call (.socket _ _ _ _ _ address) => address ∉ process.stack.fdSet.map structAddress
  | .call (.connect _ _ _ _ address _ _) | .call (.receive _ _ _ _ address _) =>
      address ∉ process.stack.sessionAddresses
  | _ => True

instance (process : Process limit) : ∀ event, Decidable (process.freshAddress event)
  | .call (.socket _ _ _ _ _ address) =>
      inferInstanceAs (Decidable (address ∉ process.stack.fdSet.map structAddress))
  | .call (.connect _ _ _ _ address _ _) | .call (.receive _ _ _ _ address _) =>
      inferInstanceAs (Decidable (address ∉ process.stack.sessionAddresses))
  | .call (.bind ..) | .call (.listen ..) | .call (.close ..) | .opens => isTrue trivial

/-- No socket that holds a session is overwritten. -/
def replacesNone (process : Process limit) : ProcessEvent → Prop
  | .call (.socket domain type protocol _ _ _) =>
      handedOn domain type protocol = false → (process.table.dup process.nullFD).1 = none →
        ∀ st, process.stack.lookupStruct (-1) = some st → st.object.held = []
  | _ => True

/-- The dispatcher knows every session that a socket holds. -/
def Known (stack : ProtocolStack) : Prop :=
  ∀ entry ∈ stack.fdSet, ∀ session ∈ entry.2.object.held,
    session.address ∈ stack.dispatcher.established.map EstablishedSocket.session

section Known

variable {stack after : ProtocolStack} {fd : FileDescriptor} {st : Owned SocketStruct}

theorem Known.store (known : Known stack) (member : (fd, st) ∈ stack.fdSet)
    (object : SocketStruct) (dispatcher : SegmentDispatcher)
    (more : stack.dispatcher.established.map EstablishedSocket.session ⊆
      dispatcher.established.map EstablishedSocket.session)
    (held : ∀ session ∈ object.held, session ∈ st.object.held ∨
      session.address ∈ dispatcher.established.map EstablishedSocket.session)
    (listenDispatcher : ListenDispatcher) :
    Known { stack.storeStruct st.address object with
      dispatcher := dispatcher, listenDispatcher := listenDispatcher } := by
  intro entry present session holds
  rcases mem_replaceAt.mp present with old | ⟨before, _, _, rfl⟩
  · exact more (known entry old.1 session holds)
  · rcases held session holds with kept | new
    · exact more (known (fd, st) member session kept)
    · exact new

theorem Known.moves {event : StackEvent} (known : Known stack) (moves : Moves stack event after) :
    Known after := by
  cases moves with
  | stay resetDispatcher => exact known
  | socket =>
      intro entry present session holds
      rcases List.mem_cons.mp present with rfl | old
      · simp [SocketStruct.create, SocketStruct.held] at holds
      · exact known entry (mem_dropAt.mp old).1 session holds
  | @bind _ saddr len st member =>
      exact known.store member (st.object.bound (SocketAddress.ofSockaddr saddr len))
        stack.dispatcher (List.Subset.refl _) (fun _ holds => Or.inl holds) stack.listenDispatcher
  | @listen _ _ st member unspecified size =>
      exact known.store member (st.object.listening size) stack.dispatcher (List.Subset.refl _)
        (fun _ holds => Or.inl holds) _
  | @connect _ _ _ _ address _ _ st found unspecified session named =>
      refine known.store (lookupStruct_mem found) _ _ ?_ ?_ stack.listenDispatcher
      · rw [SegmentDispatcher.addSession, List.map_append]
        exact List.subset_append_left _ _
      · intro other holds
        rcases List.mem_append.mp holds with own | pending
        · obtain rfl : ⟨address, session⟩ = other := Option.some.inj (Option.mem_toList.mp own)
          right
          simp [SegmentDispatcher.addSession]
        · exact Or.inl (List.mem_append_right _ pending)
  | close found moved same =>
      intro entry present session holds
      exact known entry (mem_dropAt.mp present).1 session holds
  | @queue _ _ _ _ address _ _ st member room local_ peer session =>
      refine known.store member _ _ ?_ ?_ stack.listenDispatcher
      · rw [SegmentDispatcher.addSession, List.map_append]
        exact List.subset_append_left _ _
      · intro other holds
        rcases List.mem_append.mp holds with own | pending
        · exact Or.inl (List.mem_append_left _ own)
        · rcases List.mem_append.mp pending with old | new
          · exact Or.inl (List.mem_append_right _ old)
          · rw [List.mem_singleton.mp new]
            right
            simp [SegmentDispatcher.addSession]

end Known

section Adding

variable {stack : ProtocolStack} {fd : FileDescriptor} {st : Owned SocketStruct}

theorem adding_sessions (consistent : stack.Consistent) (member : (fd, st) ∈ stack.fdSet)
    (port : SocketPort) (address : Nat) :
    stack.sessionAddresses.Perm
      (st.object.held.map Owned.address ++ (adding stack fd port address).sessionAddresses) :=
  sessions_split (perm_cons_dropAt consistent.descriptors member) stack.garbage

theorem adding_consistent (consistent : stack.Consistent) (member : (fd, st) ∈ stack.fdSet)
    (idle : st.object.held = []) (port : SocketPort) {address : Nat}
    (fresh : address ∉ stack.fdSet.map structAddress) :
    (adding stack fd port address).Consistent := by
  have same := adding_sessions consistent member port address
  rw [idle, List.map_nil, List.nil_append] at same
  have fewer : dropAt descriptor fd stack.fdSet ⊆ stack.fdSet :=
    fun entry present => (mem_dropAt.mp present).1
  refine ⟨?_, ?_, ?_, same.nodup_iff.mp consistent.sessions, ?_⟩
  · refine List.nodup_cons.mpr ⟨?_, nodup_map_dropAt consistent.descriptors⟩
    intro present
    obtain ⟨entry, kept, equal⟩ := List.mem_map.mp present
    exact (mem_dropAt.mp kept).2 equal
  · exact List.nodup_cons.mpr ⟨fun present => fresh (List.map_subset structAddress fewer present),
      nodup_map_dropAt consistent.structs⟩
  · intro entry present
    rcases List.mem_cons.mp present with rfl | old
    · exact SocketStruct.create_wellKept _
    · exact consistent.kept entry (fewer old)
  · exact fun elem present => same.mem_iff.mp (consistent.referenced elem present)

theorem adding_forgets (consistent : stack.Consistent) (known : Known stack)
    (member : (fd, st) ∈ stack.fdSet) (busy : st.object.held ≠ []) (port : SocketPort)
    (address : Nat) :
    ∃ elem ∈ (adding stack fd port address).dispatcher.established,
      elem.session ∉ (adding stack fd port address).sessionAddresses := by
  obtain ⟨session, holds⟩ := List.exists_mem_of_ne_nil _ busy
  obtain ⟨elem, present, equal⟩ := List.mem_map.mp (known (fd, st) member session holds)
  refine ⟨elem, present, ?_⟩
  have distinct := (adding_sessions consistent member port address).nodup_iff.mp consistent.sessions
  rw [equal]
  exact fun later => List.disjoint_of_nodup_append distinct (List.mem_map_of_mem holds) later

end Adding

structure Sound (process : Process limit) : Prop where
  backed : process.Backed
  consistent : process.stack.Consistent
  known : Known process.stack

theorem start_sound (table : DescriptorTable limit) (nullFD : Nat) (defaultIP : IPAddress)
    (buffer : List UInt8) : (start table nullFD defaultIP buffer).Sound := by
  refine ⟨?_, create_consistent defaultIP buffer, ?_⟩
  · intro fd member
    simp [start, create] at member
  · intro entry member
    simp [start, create] at member

theorem Sound.socket_consistent (sound : process.Sound) (small : limit ≤ 2 ^ 31) {address : Nat}
    (fresh : address ∉ process.stack.fdSet.map structAddress)
    (replaced : (process.table.dup process.nullFD).1 = none →
      ∀ st, process.stack.lookupStruct (-1) = some st → st.object.held = [])
    (port : SocketPort) :
    (adding process.stack (fdOf (process.table.dup process.nullFD).1) port address).Consistent := by
  cases given : (process.table.dup process.nullFD).1 with
  | some number => exact sound.consistent.socket (sound.backed.dup_unowned small given) fresh _
  | none =>
      cases found : process.stack.lookupStruct (-1) with
      | none =>
          have unowned : process.stack.ownFD (-1) = false := by
            rw [ownFD, found, Option.isSome_none]
          exact sound.consistent.socket unowned fresh _
      | some st =>
          exact adding_consistent sound.consistent (lookupStruct_mem found)
            (replaced given st found) port fresh

theorem Sound.step (sound : process.Sound) (small : limit ≤ 2 ^ 31) {event : ProcessEvent}
    (fresh : process.freshAddress event) (replaced : process.replacesNone event)
    (taken : process.step build event = .done next) : next.Sound := by
  have backed := sound.backed.step taken
  cases event with
  | opens =>
      cases taken
      exact ⟨backed, sound.consistent, sound.known⟩
  | call event =>
      obtain ⟨stack, moved, rfl⟩ := step_call.mp taken
      have moves := step_moves moved
      refine ⟨backed, ?_, sound.known.moves moves⟩
      cases event with
      | socket domain type protocol fd port address =>
          cases kind : handedOn domain type protocol with
          | true =>
              rw [socket_handedOn kind moved]
              exact sound.consistent
          | false =>
              rw [socket_added kind moved]
              exact sound.socket_consistent small fresh (replaced kind) port
      | connect env fd saddr len address initial now =>
          refine sound.consistent.moves ?_ moves
          exact fresh
      | receive leftovers packet source destination address now =>
          refine sound.consistent.moves ?_ moves
          exact fresh
      | _ =>
          refine sound.consistent.moves ?_ moves
          trivial

theorem Sound.forgets (sound : process.Sound) {event : ProcessEvent}
    (replaced : ¬process.replacesNone event) (taken : process.step build event = .done next) :
    ¬next.Referenced := by
  cases event with
  | opens => exact absurd trivial replaced
  | call event =>
      obtain ⟨stack, moved, rfl⟩ := step_call.mp taken
      cases event with
      | socket domain type protocol fd port address =>
          simp only [replacesNone, not_forall] at replaced
          obtain ⟨own, failed, st, found, busy⟩ := replaced
          rw [answered, failed] at moved
          obtain ⟨elem, present, lost⟩ := adding_forgets sound.consistent sound.known
            (lookupStruct_mem found) busy port address
          rw [socket_added own moved]
          exact fun referenced => lost (referenced elem present)
      | _ => exact absurd trivial replaced

/-- In the release build a second failure of `dup` puts the new socket in the place of the one that
the first failure left under -1. The dispatcher keeps to sessions that exist exactly as long as no
socket that is lost in this way holds one. -/
theorem sessions_referenced_iff (small : limit ≤ 2 ^ 31) (build : Build)
    (table : DescriptorTable limit) (nullFD : Nat) (defaultIP : IPAddress) (buffer : List UInt8)
    (events : List ProcessEvent)
    (environment : Allowed (Process.step build) freshAddress
      (start table nullFD defaultIP buffer) events) :
    Throughout (Process.step build) Referenced (start table nullFD defaultIP buffer) events ↔
      Allowed (Process.step build) replacesNone (start table nullFD defaultIP buffer) events :=
  throughout_iff (fun _ sound => sound.consistent.referenced)
    (fun _ _ _ sound fresh replaced taken => Sound.step sound small fresh replaced taken)
    (fun _ _ _ sound _ replaced taken => Sound.forgets sound replaced taken)
    (start_sound table nullFD defaultIP buffer) environment

def failedTwice : List ProcessEvent :=
  [newSocket 1, .call (.connect SendBuffer.quietHost (-1) sampleServer 16 10 7 0), newSocket 2]

theorem failedTwice_forgets :
    Allowed (Process.step .release) freshAddress (start fullTable 0 sampleHost []) failedTwice ∧
      ¬Throughout (Process.step .release) Referenced (start fullTable 0 sampleHost [])
        failedTwice := by
  have environment : Allowed (Process.step .release) freshAddress
    (start fullTable 0 sampleHost []) failedTwice := by decide
  refine ⟨environment, fun safe => ?_⟩
  have allowed := (sessions_referenced_iff (by decide) .release fullTable 0 sampleHost []
    failedTwice environment).mp safe
  obtain ⟨_, afterFirst⟩ := allowed _ rfl
  obtain ⟨_, afterSecond⟩ := afterFirst _ rfl
  obtain ⟨replaced, _⟩ := afterSecond _ rfl
  cases replaced rfl rfl _ rfl

end Process

end LabNetstack
