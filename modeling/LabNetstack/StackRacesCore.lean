import LabNetstack.LockedPrograms
import LabNetstack.ProtocolStackCore

/-! What the threads of a process touch in `ProtocolStack`, access by access, and where they hold
`mutex_`. Thread 0 runs the event loop, the others call the socket functions. A call of `operator[]`
of a map counts as a write. -/

namespace LabNetstack

/-- `struct` is a `SocketStruct`, `session` a session without its send buffer and control block, and
`sendBuffer` these two. -/
inductive SharedObject where
  | fdSet
  | struct (address : Nat)
  | garbage
  | rand
  | listeners
  | established
  | alarmMap
  | now
  | session (address : Nat)
  | sendBuffer (session : Nat)
  | ipBuffer
deriving DecidableEq, Repr

def SharedObject.sheltered : SharedObject → Bool
  | struct _ | listeners | established | session _ => true
  | _ => false

inductive StackFunction where
  | socket
  | bind
  | listen
  | connect
  | accept
  | write
  | close
  | closeAllFDs
  | canClose
  | onReceivePacket
  | runEventLoop
deriving DecidableEq, Repr

-- what the branches depend on of a `SocketStruct`; sessions are given by address
structure SocketFields where
  type : SocketType
  session : Option Nat
  pending : List Nat
  backlog : Nat
deriving DecidableEq, Repr

/-- What an access does to the data that the branches depend on, or what it finds there. -/
inductive StackNote where
  | nothing
  | owned (fd : FileDescriptor)
  | foreign (fd : FileDescriptor)
  | noSocket
  | insert (fd : FileDescriptor) (address : Nat)
  | erase (fd : FileDescriptor)
  | located (fd : FileDescriptor) (address : Nat)
  | fields (address : Nat) (fields : SocketFields)
  | become (address : Nat) (fields : SocketFields)
  | listen (address : Nat)
  | listener (address : Nat)
  | dispatch (session : Nat)
  | dispatched (session : Nat)
  | arm (session : Nat)
  | sendSYN (session : Nat)
  | due (session : Nat) (sent : Bool)
deriving DecidableEq, Repr

structure StackAccess where
  function : StackFunction
  object : SharedObject
  writes : Bool
  locked : Bool
  note : StackNote
deriving DecidableEq, Repr

structure OpenSocket where
  fd : FileDescriptor
  address : Nat
  fields : SocketFields
deriving DecidableEq, Repr

/-- Every session is there with whether it has sent its SYN. Its retransmission alarm is set. -/
structure StackMemory where
  sockets : List OpenSocket
  listening : List Nat
  dispatched : List Nat
  sessions : List (Nat × Bool)
deriving DecidableEq, Repr

namespace StackMemory

def start : StackMemory := ⟨[], [], [], []⟩

def check (memory : StackMemory) (holds : Bool) : Option StackMemory :=
  if holds then some memory else none

/-- The kernel gives out descriptors that the stack does not own. A socket that is gone when a call
has the mutex is a null pointer, and the process stops there. -/
def effect (memory : StackMemory) (access : StackAccess) : Option StackMemory :=
  match access.note with
  | .nothing => some memory
  | .owned fd => memory.check (entryAt OpenSocket.fd fd memory.sockets).isSome
  | .foreign fd => memory.check (entryAt OpenSocket.fd fd memory.sockets).isNone
  | .noSocket => memory.check memory.sockets.isEmpty
  | .insert fd address =>
      { memory with sockets := ⟨fd, address, ⟨.unspecified, none, [], 0⟩⟩ :: memory.sockets }.check
        (entryAt OpenSocket.fd fd memory.sockets).isNone
  | .erase fd => some { memory with sockets := dropAt OpenSocket.fd fd memory.sockets }
  | .located fd address => memory.check
      ((entryAt OpenSocket.fd fd memory.sockets).map OpenSocket.address == some address)
  | .fields address fields => memory.check
      ((entryAt OpenSocket.address address memory.sockets).map OpenSocket.fields == some fields)
  | .become address fields => some { memory with
      sockets := replaceAt OpenSocket.address address
        (fun socket => { socket with fields := fields }) memory.sockets }
  | .listen address => some { memory with listening := memory.listening ++ [address] }
  | .listener address => memory.check (memory.listening.contains address)
  | .dispatch session => some { memory with dispatched := memory.dispatched ++ [session] }
  | .dispatched session => memory.check (memory.dispatched.contains session)
  | .arm session => some { memory with sessions := (session, false) :: memory.sessions }
  | .sendSYN session => some { memory with
      sessions := replaceAt Prod.fst session (fun _ => (session, true)) memory.sessions }
  | .due session sent => memory.check (memory.sessions.contains (session, sent))

end StackMemory

abbrev StackCode := List (Instruction StackAccess)

/-- The socket of a call with its address, none if the stack does not own the descriptor. -/
abbrev FoundSocket := Option (Nat × SocketFields)

namespace StackCode

def reads (function : StackFunction) (object : SharedObject) (locked : Bool)
    (note : StackNote) : Instruction StackAccess := .access ⟨function, object, false, locked, note⟩

def updates (function : StackFunction) (object : SharedObject) (locked : Bool)
    (note : StackNote) : Instruction StackAccess := .access ⟨function, object, true, locked, note⟩

/-- The test of `ownFD` comes before the lock. -/
def guarded (function : StackFunction) (fd : FileDescriptor) {α : Type} (found : Option α)
    (body : α → StackCode) : StackCode :=
  match found with
  | none => [reads function .fdSet false (.foreign fd)]
  | some socket => reads function .fdSet false (.owned fd) :: .lock :: body socket ++ [.unlock]

/-- The calls that look at the type of their socket. -/
def typed (function : StackFunction) (fd : FileDescriptor) (found : FoundSocket)
    (body : Nat → SocketFields → StackCode) : StackCode :=
  guarded function fd found fun (address, fields) =>
    reads function .fdSet true (.located fd address) ::
      reads function (.struct address) true (.fields address fields) :: body address fields

def socket (build : Build) (fd : FileDescriptor) (address : Nat) : StackCode :=
  (match build with
    | .debug => [reads .socket .fdSet false (.foreign fd)]
    | .release => []) ++
  [updates .socket .rand false .nothing, updates .socket .fdSet false (.insert fd address)]

def bind (fd : FileDescriptor) (found : Option Nat) : StackCode :=
  guarded .bind fd found fun address =>
    [updates .bind .fdSet true (.located fd address),
      updates .bind (.struct address) true .nothing]

def listen (fd : FileDescriptor) (backlog : Int32) (found : FoundSocket) : StackCode :=
  typed .listen fd found fun address fields =>
    match fields.type with
    | .unspecified =>
        [updates .listen (.struct address) true (.become address { fields with
            type := .passive
            backlog := (if backlog ≤ 0 then 1 else backlog).toUInt32.toNat }),
          updates .listen .listeners true (.listen address)]
    | _ => []

-- the constructor of the send buffer sets its alarm, and `open` begins with the look at the session
def connect (fd : FileDescriptor) (session : Nat) (found : FoundSocket) : StackCode :=
  typed .connect fd found fun address fields =>
    match fields.type with
    | .unspecified =>
        [updates .connect (.struct address) true (.become address { fields with
            type := .active
            session := some session }),
          reads .connect .now true .nothing, updates .connect .alarmMap true (.arm session),
          updates .connect (.struct address) true .nothing,
          updates .connect .established true (.dispatch session),
          reads .connect (.session session) true .nothing,
          updates .connect .rand true .nothing,
          updates .connect (.sendBuffer session) true (.sendSYN session),
          updates .connect .ipBuffer true .nothing,
          updates .connect (.session session) true .nothing]
    | _ => []

-- the loop has no way out: after `waits` turns the call waits once more
def accept (fd : FileDescriptor) (found : FoundSocket) (waits : Nat) : StackCode :=
  typed .accept fd found fun address fields =>
    match fields.type with
    | .passive =>
        (List.replicate waits
          [updates .accept (.struct address) true .nothing, .unlock, .lock]).flatten ++
          [updates .accept (.struct address) true .nothing]
    | _ => []

def write (fd : FileDescriptor) (found : FoundSocket) (waits : Nat) : StackCode :=
  typed .write fd found fun address fields =>
    match fields.type with
    | .active => (List.replicate waits [updates .write (.struct address) true .nothing, .unlock,
        .lock, reads .write (.struct address) true .nothing]).flatten
    | _ => []

def released (fields : SocketFields) : List Nat :=
  match fields.type with
  | .unspecified => []
  | .active => fields.session.toList
  | .passive => fields.pending

-- no session gets past `SYN_SENT` and `LISTEN`, so that its `close` leaves the send buffer alone
def close (fd : FileDescriptor) (found : FoundSocket) : StackCode :=
  typed .close fd found fun address fields =>
    (released fields).flatMap (fun session => [updates .close (.session session) true .nothing,
      updates .close .garbage true .nothing, updates .close (.struct address) true .nothing]) ++
    [updates .close .fdSet true (.erase fd), updates .close (.struct address) true .nothing]

def closeAllFDs (rounds : List (FileDescriptor × FoundSocket)) : StackCode :=
  rounds.flatMap (fun (fd, found) => [reads .closeAllFDs .fdSet false .nothing,
    reads .closeAllFDs .fdSet false (.owned fd)] ++ close fd found) ++
  [reads .closeAllFDs .fdSet false .noSocket]

def canClose : StackCode := [reads .canClose .garbage false .nothing]

end StackCode

/-- The calls with what they find, and how often they wait. `realSocket` is a socket of another
kind, which is left to the C library. -/
inductive SocketCall where
  | realSocket
  | socket (fd : FileDescriptor) (address : Nat)
  | bind (fd : FileDescriptor) (found : Option Nat)
  | listen (fd : FileDescriptor) (backlog : Int32) (found : FoundSocket)
  | connect (fd : FileDescriptor) (session : Nat) (found : FoundSocket)
  | accept (fd : FileDescriptor) (found : FoundSocket) (waits : Nat)
  | write (fd : FileDescriptor) (found : FoundSocket) (waits : Nat)
  | close (fd : FileDescriptor) (found : FoundSocket)
  | closeAllFDs (rounds : List (FileDescriptor × FoundSocket))
  | canClose
deriving DecidableEq, Repr

def SocketCall.code (build : Build) : SocketCall → StackCode
  | realSocket => []
  | socket fd address => StackCode.socket build fd address
  | bind fd found => StackCode.bind fd found
  | listen fd backlog found => StackCode.listen fd backlog found
  | connect fd session found => StackCode.connect fd session found
  | accept fd found waits => StackCode.accept fd found waits
  | write fd found waits => StackCode.write fd found waits
  | close fd found => StackCode.close fd found
  | closeAllFDs rounds => StackCode.closeAllFDs rounds
  | canClose => StackCode.canClose

/-- The ways of a segment through the dispatchers. -/
inductive Arrival where
  | session (session : Nat)
  | listener (address : Nat) (fields : SocketFields) (session : Nat)
  | reset
deriving DecidableEq, Repr

-- `sent` is whether the send buffer has sent its SYN
inductive FiredAlarm where
  | retransmission (session : Nat) (sent : Bool)
  | probe
deriving DecidableEq, Repr

namespace StackCode

def queued (address : Nat) (fields : SocketFields) (session : Nat) : StackCode :=
  if fields.backlog ≤ fields.pending.length then []
  else [reads .onReceivePacket .now true .nothing,
    updates .onReceivePacket .alarmMap true (.arm session),
    updates .onReceivePacket (.struct address) true
      (.become address { fields with pending := fields.pending ++ [session] }),
    updates .onReceivePacket (.session session) true .nothing,
    updates .onReceivePacket .established true (.dispatch session)]

def onReceivePacket (arrival : Arrival) : StackCode :=
  .lock :: (match arrival with
    | .session session =>
        [reads .onReceivePacket .established true (.dispatched session),
          reads .onReceivePacket (.session session) true .nothing]
    | .listener address fields session =>
        reads .onReceivePacket .established true .nothing ::
          reads .onReceivePacket .listeners true (.listener address) ::
          reads .onReceivePacket (.struct address) true (.fields address fields) ::
          queued address fields session
    | .reset =>
        [reads .onReceivePacket .established true .nothing,
          reads .onReceivePacket .listeners true .nothing,
          updates .onReceivePacket .ipBuffer true .nothing]) ++ [.unlock]

def fire : FiredAlarm → StackCode
  | .retransmission session sent =>
      [reads .runEventLoop .alarmMap false (.due session sent),
        reads .runEventLoop .now false .nothing,
        updates .runEventLoop (.sendBuffer session) false .nothing] ++
      ((if sent then [updates .runEventLoop .ipBuffer false .nothing] else []) ++
      [reads .runEventLoop .now false .nothing, updates .runEventLoop .alarmMap false .nothing,
        updates .runEventLoop .alarmMap false .nothing])
  | .probe =>
      [reads .runEventLoop .alarmMap false .nothing, reads .runEventLoop .now false .nothing,
        reads .runEventLoop .now false .nothing, updates .runEventLoop .alarmMap false .nothing,
        updates .runEventLoop .alarmMap false .nothing]

/-- A round of the event loop, with the segments it reads and the alarms it fires. -/
def runEventLoop (arrivals : List Arrival) (alarms : List FiredAlarm) : StackCode :=
  [updates .runEventLoop .now false .nothing, reads .runEventLoop .alarmMap false .nothing,
    reads .runEventLoop .now false .nothing] ++
  (arrivals.flatMap onReceivePacket ++ (alarms.flatMap fire ++
    [reads .runEventLoop .alarmMap false .nothing, reads .runEventLoop .now false .nothing]))

end StackCode

namespace StackRaces

open StackCode Interleaving

/-- The code that a thread may run. -/
def code (build : Build) : Nat → StackCode → Prop
  | 0, program => ∃ arrivals alarms, program = runEventLoop arrivals alarms
  | _ + 1, program => ∃ call : SocketCall, program = call.code build

/-- Two threads can come to two accesses to the object at the same time, one of them a write. -/
def Raced (build : Build) (object : SharedObject) : Prop :=
  ∃ events i j first second, i ≠ j ∧
    Permitted (Interleaving.step StackMemory.effect) (calls (code build))
      (Interleaving.start StackMemory.start) events ∧
    (runEvents (Interleaving.step StackMemory.effect)
      (Interleaving.start StackMemory.start) events).At i first ∧
    (runEvents (Interleaving.step StackMemory.effect)
      (Interleaving.start StackMemory.start) events).At j second ∧
    first.object = object ∧ second.object = object ∧ (first.writes || second.writes) = true

end StackRaces

end LabNetstack
