import LabNetstack.ResetDispatcherCore
import LabNetstack.SocketSessionCore
import LabNetstack.Tables

/-! `ProtocolStack` of src/posix: the descriptors it owns, and its chain of dispatchers. What the
operating system and the allocator return is an argument: a descriptor, a port, an address. -/

namespace LabNetstack

abbrev FileDescriptor := Int32

-- what a `std::unique_ptr` points to
structure Owned (α : Type) where
  address : Nat
  object : α

structure Sockaddr where
  family : UInt16
  port : UInt16
  address : InAddr
deriving DecidableEq, Repr

namespace SocketAddress

def unspecified : SocketAddress := ⟨IPAddress.unspecified, 0⟩

-- `AF_INET` is 2 and `AF_INET6` is 10
def ofSockaddr (saddr : Sockaddr) (len : UInt32) : SocketAddress :=
  if len < 16 || (saddr.family == 2 && len < 16) || (saddr.family == 10 && len < 28) || len > 128 then
    unspecified
  else if saddr.family == 2 then ⟨IPAddress.ofInAddr saddr.address, ntohs saddr.port⟩
  else unspecified

end SocketAddress

inductive SocketType where
  | passive
  | active
  | unspecified
deriving DecidableEq, Repr

structure SocketStruct where
  session : Option (Owned SocketSession)
  backlog : UInt32
  pending : List (Owned SocketSession)
  bindAddress : SocketAddress
  type : SocketType

namespace SocketStruct

def create (address : SocketAddress) : SocketStruct :=
  { session := none, backlog := 0, pending := [], bindAddress := address, type := .unspecified }

def held (st : SocketStruct) : List (Owned SocketSession) := st.session.toList ++ st.pending

/-! What the calls and a packet write to it. -/

def bound (st : SocketStruct) (address : SocketAddress) : SocketStruct :=
  { st with bindAddress := address }

def listening (st : SocketStruct) (backlog : UInt32) : SocketStruct :=
  { st with type := .passive, backlog := backlog }

def connected (st : SocketStruct) (session : Owned SocketSession) : SocketStruct :=
  { st with type := .active, session := some session }

def queueing (st : SocketStruct) (session : Owned SocketSession) : SocketStruct :=
  { st with pending := st.pending ++ [session] }

end SocketStruct

/-! The tables of the dispatchers. They refer to sessions and sockets by address. -/

structure EstablishedSocket where
  local_ : SocketAddress
  peer : SocketAddress
  session : Nat
deriving DecidableEq, Repr

structure SegmentDispatcher where
  established : List EstablishedSocket
deriving DecidableEq, Repr

namespace SegmentDispatcher

def lookupSession (dispatcher : SegmentDispatcher) (to_ from_ : SocketAddress) : Option Nat :=
  (dispatcher.established.find? fun elem =>
    elem.local_.equal to_ && elem.peer.equal from_).map EstablishedSocket.session

def addSession (dispatcher : SegmentDispatcher) (local_ peer : SocketAddress) (session : Nat) :
    SegmentDispatcher :=
  ⟨dispatcher.established ++ [⟨local_, peer, session⟩]⟩

end SegmentDispatcher

structure ListeningSocket where
  target : SocketAddress
  socket : Nat
deriving DecidableEq, Repr

structure ListenDispatcher where
  vector : List ListeningSocket
deriving DecidableEq, Repr

namespace ListenDispatcher

def matchesListener (to_ listener : SocketAddress) : Bool :=
  let portMatch := to_.port == listener.port
  let ipMatch := listener.host.isInaddrAny || to_.host.equal listener.host
  portMatch && ipMatch

def lookupSession (dispatcher : ListenDispatcher) (to_ : SocketAddress) : Option Nat :=
  (dispatcher.vector.find? fun elem => matchesListener to_ elem.target).map ListeningSocket.socket

def addListener (dispatcher : ListenDispatcher) (target : SocketAddress) (socket : Nat) :
    ListenDispatcher :=
  ⟨dispatcher.vector ++ [⟨target, socket⟩]⟩

end ListenDispatcher

structure ProtocolStack where
  defaultIP : IPAddress
  fdSet : List (FileDescriptor × Owned SocketStruct)
  garbage : List (Owned SocketSession)
  resetDispatcher : ResetDispatcher
  listenDispatcher : ListenDispatcher
  dispatcher : SegmentDispatcher

inductive Errno where
  | einval
  | eopnotsupp
  | eisconn
deriving DecidableEq, Repr

-- `real` is the call that the C library makes instead
inductive Reply where
  | real
  | returned (value : Int32)
  | failed (errno : Errno)
deriving DecidableEq, Repr

inductive Dispatch where
  | delivered (session : Nat)
  | queued (entry : EstablishedSocket)
  | dropped
  | reset (sent : List SentPacket)
deriving DecidableEq, Repr

-- the uninitialised locals in each of the three calls of `Segment::parse`
structure ChainLeftovers where
  segment : Leftovers
  listen : Leftovers
  reset : Leftovers
deriving DecidableEq, Repr

namespace ProtocolStack

def create (defaultIP : IPAddress) (buffer : List UInt8) : ProtocolStack :=
  { defaultIP := defaultIP, fdSet := [], garbage := [], resetDispatcher := ⟨buffer⟩,
    listenDispatcher := ⟨[]⟩, dispatcher := ⟨[]⟩ }

/-! Objects by address. The stack holds them through its descriptors and its garbage. -/

def descriptor (entry : FileDescriptor × Owned SocketStruct) : FileDescriptor := entry.1

def structAddress (entry : FileDescriptor × Owned SocketStruct) : Nat := entry.2.address

def sessions (stack : ProtocolStack) : List (Owned SocketSession) :=
  stack.fdSet.flatMap (fun entry => entry.2.object.held) ++ stack.garbage

def loadStruct (stack : ProtocolStack) (address : Nat) : Outcome SocketStruct :=
  match entryAt structAddress address stack.fdSet with
  | some entry => .done entry.2.object
  | none => .outOfBounds

def storeStruct (stack : ProtocolStack) (address : Nat) (object : SocketStruct) : ProtocolStack :=
  { stack with
    fdSet := replaceAt structAddress address (fun entry => (entry.1, ⟨entry.2.address, object⟩))
      stack.fdSet }

def loadSession (stack : ProtocolStack) (address : Nat) : Outcome SocketSession :=
  match entryAt Owned.address address stack.sessions with
  | some session => .done session.object
  | none => .outOfBounds

def storeSession (stack : ProtocolStack) (address : Nat) (object : SocketSession) : ProtocolStack :=
  let written := fun (owner : Owned SocketSession) =>
    if owner.address = address then ⟨address, object⟩ else owner
  { stack with
    fdSet := stack.fdSet.map fun entry => (entry.1, ⟨entry.2.address, { entry.2.object with
      session := entry.2.object.session.map written
      pending := entry.2.object.pending.map written }⟩)
    garbage := stack.garbage.map written }

/-! The calls of the application. -/

def lookupStruct (stack : ProtocolStack) (fd : FileDescriptor) : Option (Owned SocketStruct) :=
  (entryAt descriptor fd stack.fdSet).map Prod.snd

def ownFD (stack : ProtocolStack) (fd : FileDescriptor) : Bool := (stack.lookupStruct fd).isSome

def removeStruct (stack : ProtocolStack) (fd : FileDescriptor) : ProtocolStack :=
  { stack with fdSet := dropAt descriptor fd stack.fdSet }

-- `AF_INET` is 2, `SOCK_STREAM` is 1 and `IPPROTO_TCP` is 6; `fd` is what `dup` returns
def socket (build : Build) (stack : ProtocolStack) (domain type protocol : Int32)
    (fd : FileDescriptor) (port : SocketPort) (address : Nat) : Outcome (Reply × ProtocolStack) :=
  if domain != 2 || type != 1 || (protocol != 0 && protocol != 6) then .done (.real, stack)
  else do
    dcheck build (!stack.ownFD fd)
    let socketAddress : SocketAddress := ⟨stack.defaultIP, port⟩
    pure (.returned fd, { stack with
      fdSet := (fd, ⟨address, SocketStruct.create socketAddress⟩) ::
        (stack.removeStruct fd).fdSet })

def bind (stack : ProtocolStack) (socket : FileDescriptor) (saddr : Sockaddr) (len : UInt32) :
    Outcome (Reply × ProtocolStack) :=
  match stack.lookupStruct socket with
  | none => .done (.real, stack)
  | some st => .done (.returned 0, stack.storeStruct st.address
      (st.object.bound (SocketAddress.ofSockaddr saddr len)))

def listen (stack : ProtocolStack) (socket : FileDescriptor) (backlog : Int32) :
    Outcome (Reply × ProtocolStack) :=
  match stack.lookupStruct socket with
  | none => .done (.real, stack)
  | some st =>
      let backlog := if backlog ≤ 0 then 1 else backlog
      if st.object.type != .unspecified then .done (.failed .einval, stack)
      else
        let stack := stack.storeStruct st.address (st.object.listening backlog.toUInt32)
        .done (.returned 0, { stack with
          listenDispatcher := stack.listenDispatcher.addListener st.object.bindAddress st.address })

def connect (build : Build) (env : Surroundings) (stack : ProtocolStack) (socket : FileDescriptor)
    (saddr : Sockaddr) (len : UInt32) (address : Nat) (initial : SequenceNumber) (now : TimeBase) :
    Outcome (Reply × ProtocolStack) :=
  match stack.lookupStruct socket with
  | none => .done (.real, stack)
  | some st =>
      let peer := SocketAddress.ofSockaddr saddr len
      if st.object.type == .passive then .done (.failed .eopnotsupp, stack)
      else if st.object.type == .active then .done (.failed .eisconn, stack)
      else do
        dcheck build (st.object.type == .unspecified)
        let session ← (SocketSession.create st.object.bindAddress peer now).open_ env initial
        let stack := stack.storeStruct st.address (st.object.connected ⟨address, session⟩)
        pure (.returned 0, { stack with
          dispatcher := stack.dispatcher.addSession st.object.bindAddress peer address })

def closeAll (env : Surroundings) : List (Owned SocketSession) → Outcome (List (Owned SocketSession))
  | [] => .done []
  | e :: rest => do
      let closed ← e.object.close env
      let others ← closeAll env rest
      pure (⟨e.address, closed⟩ :: others)

-- the `switch` of `_close`
def closeSessions (env : Surroundings) (st : SocketStruct) : Outcome (List (Owned SocketSession)) :=
  match st.type with
  | .unspecified => .done []
  | .active =>
      match st.session with
      | none => .outOfBounds
      | some session => closeAll env [session]
  | .passive => closeAll env st.pending

-- neither dispatcher is told that the socket is gone
def close (env : Surroundings) (stack : ProtocolStack) (fildes : FileDescriptor) :
    Outcome (Reply × ProtocolStack) :=
  match stack.lookupStruct fildes with
  | none => .done (.real, stack)
  | some st => do
      let moved ← closeSessions env st.object
      let stack := { stack with garbage := stack.garbage ++ moved }
      pure (.returned 0, stack.removeStruct fildes)

def canClose (stack : ProtocolStack) : Bool := stack.garbage.isEmpty

end ProtocolStack

/-! A packet goes down the chain until a dispatcher knows it. -/

namespace ListenDispatcher

def onReceivePacket (build : Build) (leftovers : ChainLeftovers) (stack : ProtocolStack)
    (packet : Buffer) (source destination : IPAddress) (address : Nat) (now : TimeBase) :
    Outcome (Dispatch × ProtocolStack) := do
  let segment ← Segment.parse build leftovers.listen source destination packet
  let to_ := segment.destination
  let from_ := segment.source
  match stack.listenDispatcher.lookupSession to_ with
  | none => do
      let (sent, resetDispatcher) ←
        stack.resetDispatcher.onReceivePacket build leftovers.reset packet source destination
      pure (.reset sent, { stack with resetDispatcher := resetDispatcher })
  | some socket => do
      let st ← stack.loadStruct socket
      if st.backlog.toNat ≤ st.pending.length then pure (.dropped, stack)
      else do
        let session ← (SocketSession.create to_ from_ now).openWith segment
        let stack := stack.storeStruct socket (st.queueing ⟨address, session⟩)
        pure (.queued ⟨to_, from_, address⟩, { stack with
          dispatcher := stack.dispatcher.addSession to_ from_ address })

end ListenDispatcher

namespace SegmentDispatcher

-- `onSegmentArrival` leaves the session as it is
def onReceivePacket (build : Build) (leftovers : ChainLeftovers) (stack : ProtocolStack)
    (packet : Buffer) (source destination : IPAddress) (address : Nat) (now : TimeBase) :
    Outcome (Dispatch × ProtocolStack) := do
  let segment ← Segment.parse build leftovers.segment source destination packet
  let to_ := segment.destination
  let from_ := segment.source
  match stack.dispatcher.lookupSession to_ from_ with
  | none =>
      ListenDispatcher.onReceivePacket build leftovers stack packet source destination address now
  | some session => do
      let object ← stack.loadSession session
      let _arrived := object.onSegmentArrival segment
      pure (.delivered session, stack)

end SegmentDispatcher

/-! What can happen to the stack. -/

inductive StackEvent where
  | socket (domain type protocol : Int32) (fd : FileDescriptor) (port : SocketPort) (address : Nat)
  | bind (socket : FileDescriptor) (saddr : Sockaddr) (len : UInt32)
  | listen (socket : FileDescriptor) (backlog : Int32)
  | connect (env : Surroundings) (socket : FileDescriptor) (saddr : Sockaddr) (len : UInt32)
      (address : Nat) (initial : SequenceNumber) (now : TimeBase)
  | close (env : Surroundings) (fildes : FileDescriptor)
  | receive (leftovers : ChainLeftovers) (packet : Buffer) (source destination : IPAddress)
      (address : Nat) (now : TimeBase)

namespace ProtocolStack

def onReceivePacket (build : Build) (leftovers : ChainLeftovers) (stack : ProtocolStack)
    (packet : Buffer) (source destination : IPAddress) (address : Nat) (now : TimeBase) :
    Outcome (Dispatch × ProtocolStack) :=
  SegmentDispatcher.onReceivePacket build leftovers stack packet source destination address now

def step (build : Build) (stack : ProtocolStack) : StackEvent → Outcome ProtocolStack
  | .socket domain type protocol fd port address =>
      Prod.snd <$> stack.socket build domain type protocol fd port address
  | .bind socket saddr len => Prod.snd <$> stack.bind socket saddr len
  | .listen socket backlog => Prod.snd <$> stack.listen socket backlog
  | .connect env socket saddr len address initial now =>
      Prod.snd <$> stack.connect build env socket saddr len address initial now
  | .close env fildes => Prod.snd <$> stack.close env fildes
  | .receive leftovers packet source destination address now =>
      Prod.snd <$> stack.onReceivePacket build leftovers packet source destination address now

def run (build : Build) (stack : ProtocolStack) (events : List StackEvent) : Outcome ProtocolStack :=
  execute (step build) stack events

end ProtocolStack

end LabNetstack
