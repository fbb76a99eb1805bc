import LabNetstack.BuildAgreement
import LabNetstack.ProtocolStackCore
import LabNetstack.SendBuffer

/-! `_bind` and `_connect` with an address that the constructor of `SocketAddress` does not take. -/

namespace LabNetstack

def Sockaddr.Rejected (saddr : Sockaddr) (len : UInt32) : Prop :=
  len < 16 ∨ saddr.family = 10 ∧ len < 28 ∨ 128 < len ∨ saddr.family ≠ 2

theorem SocketAddress.ofSockaddr_rejected {saddr : Sockaddr} {len : UInt32}
    (rejected : saddr.Rejected len) : ofSockaddr saddr len = unspecified := by
  unfold ofSockaddr
  split
  · rfl
  · rename_i inRange
    simp only [Bool.or_eq_true, Bool.and_eq_true, decide_eq_true_eq, beq_iff_eq, not_or] at inRange
    obtain ⟨⟨⟨long, _⟩, v6⟩, short⟩ := inRange
    rcases rejected with tooShort | v6Short | tooLong | family
    · exact absurd tooShort long
    · exact absurd v6Short v6
    · exact absurd tooLong short
    · rw [if_neg (by simpa using family)]

namespace ProtocolStack

/-- The segment that `_connect` sends. -/
def synTo (st : SocketStruct) (peer : SocketAddress) (initial : SequenceNumber) : Segment :=
  (⟨st.bindAddress, peer⟩ : SegmentFactory).createControl initial 0 Segment.SYN

/-- The session that `_connect` opens. -/
def opened (env : Surroundings) (st : SocketStruct) (peer : SocketAddress)
    (initial : SequenceNumber) (now : TimeBase) : SocketSession where
  state := .synSent
  sendBuffer := (SocketSession.create st.bindAddress peer now).sendBuffer.sendSYN env initial

def connectedTo (env : Surroundings) (stack : ProtocolStack) (st : Owned SocketStruct)
    (peer : SocketAddress) (address : Nat) (initial : SequenceNumber) (now : TimeBase) :
    ProtocolStack :=
  { stack.storeStruct st.address
      (st.object.connected ⟨address, opened env st.object peer initial now⟩) with
    dispatcher := stack.dispatcher.addSession st.object.bindAddress peer address }

/-- `_connect` with the packet that `sendSegment` makes of the SYN. -/
def connectWriting (build : Build) (env : Surroundings) (leftovers : Leftovers)
    (packet : List UInt8) (stack : ProtocolStack) (socket : FileDescriptor) (saddr : Sockaddr)
    (len : UInt32) (address : Nat) (initial : SequenceNumber) (now : TimeBase) :
    Outcome (Reply × ProtocolStack) := do
  let (reply, after) ← stack.connect build env socket saddr len address initial now
  match reply, stack.lookupStruct socket with
  | .returned _, some st => do
      let segment := synTo st.object (SocketAddress.ofSockaddr saddr len) initial
      let _ ← segment.writeSegmentTo build leftovers (DataWriter.create packet kMaxTCPPacketLength)
      pure (reply, after)
  | _, _ => pure (reply, after)

/-- The call fails, and neither the sockets nor the tables nor what was sent have changed. -/
def FailsCleanly (stack : ProtocolStack) (outcome : Outcome (Reply × ProtocolStack)) : Prop :=
  ∃ errno, outcome = .done (.failed errno, stack)

variable {stack : ProtocolStack} {socket : FileDescriptor} {st : Owned SocketStruct}

/-- The segment is the one that the session hands over. -/
theorem opened_calls (env : Surroundings) (st : SocketStruct) (peer : SocketAddress)
    (initial : SequenceNumber) (now : TimeBase) :
    (opened env st peer initial now).sendBuffer.calls.map PacketCall.segment =
      [synTo st peer initial] := by
  simp only [opened, SocketSession.create, SendBuffer.create_eq]
  rfl

theorem connect_commits (build : Build) (env : Surroundings)
    (owned : stack.lookupStruct socket = some st) (free : st.object.type = .unspecified)
    (saddr : Sockaddr) (len : UInt32) (address : Nat) (initial : SequenceNumber) (now : TimeBase) :
    stack.connect build env socket saddr len address initial now = .done (.returned 0,
      stack.connectedTo env st (SocketAddress.ofSockaddr saddr len) address initial now) := by
  simp only [connect, owned, free]
  rw [if_neg nofun, if_neg nofun, dcheck_done (by decide)]
  rfl

theorem connect_refuses (build : Build) (env : Surroundings)
    (owned : stack.lookupStruct socket = some st) (taken : st.object.type ≠ .unspecified)
    (saddr : Sockaddr) (len : UInt32) (address : Nat) (initial : SequenceNumber) (now : TimeBase) :
    ∃ errno, stack.connect build env socket saddr len address initial now =
      .done (.failed errno, stack) := by
  cases type : st.object.type with
  | passive =>
      simp only [connect, owned, type]
      exact ⟨.eopnotsupp, rfl⟩
  | active =>
      simp only [connect, owned, type]
      exact ⟨.eisconn, rfl⟩
  | unspecified => exact absurd type taken

theorem synTo_encodable (st : SocketStruct) (peer : SocketAddress) (initial : SequenceNumber) :
    BuildAgreement.Encodable (synTo st peer initial) := by
  have empty : (synTo st peer initial).dataLength.toNat = 0 := rfl
  rw [BuildAgreement.Encodable, empty]
  exact ⟨by decide, fun _ => Nat.zero_le _⟩

/-- A release build writes whatever lies on the stack for the addresses. -/
theorem synTo_release (leftovers : Leftovers) (st : SocketStruct) (peer : SocketAddress)
    (initial : SequenceNumber) {packet : List UInt8} (allocated : packet.length = 1480) :
    ∃ written, (synTo st peer initial).writeSegmentTo .release leftovers
      (DataWriter.create packet kMaxTCPPacketLength) = .done written := by
  let somewhere : SocketAddress → SocketAddress :=
    fun address => ⟨.ofInAddr ⟨0, 0, 0, 0⟩, address.port⟩
  let segment : Segment := { synTo st peer initial with
    source := somewhere st.bindAddress, destination := somewhere peer }
  have same : (synTo st peer initial).writeSegmentTo .release leftovers
      (DataWriter.create packet kMaxTCPPacketLength) = segment.writeSegmentTo .release leftovers
        (DataWriter.create packet kMaxTCPPacketLength) := rfl
  have bothV4 : segment.BothV4 := ⟨rfl, rfl⟩
  have empty : segment.dataLength.toNat = 0 := rfl
  rw [same, Segment.create_filled allocated, Segment.writeSegmentTo_carried .release leftovers bothV4
    allocated (by omega) (by omega)]
  exact ⟨_, rfl⟩

theorem synTo_debug (leftovers : Leftovers) (st : SocketStruct) {peer : SocketAddress}
    (unknown : peer.host.family ≠ .ipV4) (initial : SequenceNumber) {packet : List UInt8}
    (allocated : packet.length = 1480) :
    (synTo st peer initial).writeSegmentTo .debug leftovers
      (DataWriter.create packet kMaxTCPPacketLength) = .aborted := by
  by_contra checked
  rw [Segment.create_filled allocated] at checked
  have bothV4 := BuildAgreement.writeSegmentTo_bothV4 (synTo_encodable st peer initial) allocated
    checked
  exact unknown bothV4.destination

/-- What becomes of a socket that is neither listening nor connected. -/
def afterRejected (build : Build) (env : Surroundings) (stack : ProtocolStack)
    (st : Owned SocketStruct) (address : Nat) (initial : SequenceNumber) (now : TimeBase) :
    Outcome (Reply × ProtocolStack) :=
  match build with
  | .debug => .aborted
  | .release => .done (.returned 0,
      stack.connectedTo env st SocketAddress.unspecified address initial now)

theorem rejected_address_iff (build : Build) (env : Surroundings) (leftovers : Leftovers)
    (owned : stack.lookupStruct socket = some st) {saddr : Sockaddr} {len : UInt32}
    (rejected : saddr.Rejected len) {packet : List UInt8} (allocated : packet.length = 1480)
    (address : Nat) (initial : SequenceNumber) (now : TimeBase) :
    (stack.bind socket saddr len = .done (.returned 0,
        stack.storeStruct st.address (st.object.bound SocketAddress.unspecified)) ∧
      ¬FailsCleanly stack (stack.bind socket saddr len)) ∧
    (FailsCleanly stack (stack.connectWriting build env leftovers packet socket saddr len address
        initial now) ↔ st.object.type ≠ .unspecified) ∧
    (st.object.type = .unspecified →
      stack.connectWriting build env leftovers packet socket saddr len address initial now =
        afterRejected build env stack st address initial now) := by
  have unspecified := SocketAddress.ofSockaddr_rejected rejected
  have bound : stack.bind socket saddr len = .done (.returned 0,
      stack.storeStruct st.address (st.object.bound SocketAddress.unspecified)) := by
    simp only [ProtocolStack.bind, owned, unspecified]
  have committed (free : st.object.type = .unspecified) :
      stack.connectWriting build env leftovers packet socket saddr len address initial now =
        afterRejected build env stack st address initial now := by
    rw [connectWriting, connect_commits build env owned free]
    simp only [Outcome.done_bind, owned, unspecified]
    cases build with
    | debug =>
        rw [synTo_debug leftovers st.object (by decide) initial allocated]
        rfl
    | release =>
        obtain ⟨written, done⟩ :=
          synTo_release leftovers st.object SocketAddress.unspecified initial allocated
        rw [done]
        rfl
  refine ⟨⟨bound, ?_⟩, ⟨?_, ?_⟩, committed⟩
  · rintro ⟨errno, failed⟩
    cases bound.symm.trans failed
  · rintro ⟨errno, failed⟩ free
    rw [committed free] at failed
    cases build <;> cases failed
  · intro taken
    obtain ⟨errno, refused⟩ := connect_refuses build env owned taken saddr len address initial now
    refine ⟨errno, ?_⟩
    rw [connectWriting, refused]
    rfl

def oneSocket (type : SocketType) : ProtocolStack :=
  { create (.ofInAddr ⟨10, 0, 0, 1⟩) [] with
    fdSet := [(3, ⟨1, { SocketStruct.create ⟨.ofInAddr ⟨10, 0, 0, 1⟩, 80⟩ with type := type }⟩)] }

-- an address of IPv6, with room for one of IPv4
def otherFamily : Sockaddr := ⟨10, 0, ⟨0, 0, 0, 0⟩⟩

theorem listeningSocket_unchanged : FailsCleanly (oneSocket .passive)
    ((oneSocket .passive).connectWriting .release ⟨fun _ => true, fun _ => []⟩ ⟨0, 0, 0, 0, 0⟩
      (List.replicate 1480 0) 3 otherFamily 16 2 100 0) :=
  (rejected_address_iff .release _ _ rfl (Or.inr (Or.inl ⟨rfl, by decide⟩)) List.length_replicate 2
    100 0).2.1.mpr nofun

theorem freeSocket_committed : otherFamily.Rejected 16 ∧
    (oneSocket .unspecified).bind 3 otherFamily 16 = .done (.returned 0,
      (oneSocket .unspecified).storeStruct 1
        ((SocketStruct.create ⟨.ofInAddr ⟨10, 0, 0, 1⟩, 80⟩).bound SocketAddress.unspecified)) ∧
    ∃ after, (oneSocket .unspecified).connectWriting .release ⟨fun _ => true, fun _ => []⟩
        ⟨0, 0, 0, 0, 0⟩ (List.replicate 1480 0) 3 otherFamily 16 2 100 0 =
          .done (.returned 0, after) ∧
      after.dispatcher.established =
        [⟨⟨.ofInAddr ⟨10, 0, 0, 1⟩, 80⟩, SocketAddress.unspecified, 2⟩] ∧
      after.fdSet.map (fun entry => entry.2.object.type) = [.active] := by
  refine ⟨Or.inr (Or.inl ⟨rfl, by decide⟩), rfl, ?_⟩
  have owned : (oneSocket .unspecified).lookupStruct 3 = some
      ⟨1, SocketStruct.create ⟨.ofInAddr ⟨10, 0, 0, 1⟩, 80⟩⟩ := rfl
  obtain ⟨_, written⟩ := synTo_release ⟨0, 0, 0, 0, 0⟩
    (SocketStruct.create ⟨.ofInAddr ⟨10, 0, 0, 1⟩, 80⟩) (SocketAddress.ofSockaddr otherFamily 16) 100
    (List.length_replicate : (List.replicate 1480 (0 : UInt8)).length = 1480)
  rw [connectWriting, connect_commits .release _ owned rfl, Outcome.done_bind]
  simp only [owned, written, Outcome.done_bind]
  exact ⟨_, rfl, rfl, rfl⟩

end ProtocolStack

end LabNetstack
