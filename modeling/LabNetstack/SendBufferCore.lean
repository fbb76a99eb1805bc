import LabNetstack.AlarmCore
import LabNetstack.BoundedQueue
import LabNetstack.ControlBlockCore
import LabNetstack.Transitions

/-! `SendBuffer` of src/tcp, over whatever holds its bytes, and over a byte queue.
`calls` lists what it has handed to `IPLayer::sendPacket`. -/

namespace LabNetstack

def kSendBufferSize : Nat := 1024 * 256

def kMaxBytesInFlight : UInt64 := kMaxSegmentSize * 10

inductive CtlState where
  | none
  | sent
  | acked
deriving DecidableEq, Repr

inductive SendCheck where
  | sendSYNBeforeFIN
  | sendDataBeforeFIN
  | acknowledgeSYN
  | acknowledgeOrder
  | acknowledgeEmpty
  | transmitFIN
  | alarmUnset
  | alarmDeadline
deriving DecidableEq, Repr

structure PacketCall where
  source : IPAddress
  destination : IPAddress
  segment : Segment
  accepted : Bool
deriving DecidableEq, Repr

-- `failedChecks` is for the operations that go on after a `DCHECK` that is false
structure SendBufferOver (Store : Type) where
  buffer : Store
  tcb : ControlBlock
  syn : CtlState
  fin : CtlState
  bytesInFlight : UInt64
  source : IPAddress
  destination : IPAddress
  factory : SegmentFactory
  alarm : Alarm
  calls : List PacketCall
  failedChecks : List SendCheck

structure SendBuffer.Opening where
  factory : SegmentFactory
  tcb : ControlBlock
  now : TimeBase
  source : IPAddress
  destination : IPAddress
  initial : SequenceNumber

/-- What a send buffer calls of the buffer it holds, and what a `DCHECK` does. -/
structure BufferOperations (m : Type → Type) (Store : Type) where
  empty : Store → Bool
  full : Store → Bool
  write : Store → Buffer → m (UInt64 × Store)
  consume : Store → UInt64 → m (UInt64 × Store)
  check : SendBufferOver Store → SendCheck → Bool → m (SendBufferOver Store)

-- `accepts` is the result of the n-th call of `sendPacket`
structure SendOperations (m : Type → Type) (Store : Type) extends BufferOperations m Store where
  readOffset : Store → UInt64 → UInt64 → m (UInt64 × List UInt8)
  accepts : Nat → Bool

namespace SendBufferOver

variable {m : Type → Type} [Monad m] {Store : Type}

-- `Alarm::set` on the retransmission alarm
def setAlarm (ops : BufferOperations m Store) (self : SendBufferOver Store) (deadline : TimeBase) :
    m (SendBufferOver Store) := do
  let self ← ops.check self .alarmUnset (!self.alarm.isSet)
  let self ← ops.check self .alarmDeadline (deadline != 0)
  pure { self with alarm := self.alarm.set deadline }

def create (ops : BufferOperations m Store) (buffer : Store) (factory : SegmentFactory)
    (tcb : ControlBlock) (now : TimeBase) : m (SendBufferOver Store) :=
  let self : SendBufferOver Store :=
    { buffer := buffer
      tcb := tcb
      syn := .none
      fin := .none
      bytesInFlight := 0
      source := IPAddress.unspecified
      destination := IPAddress.unspecified
      factory := factory
      alarm := ⟨0⟩
      calls := []
      failedChecks := [] }
  self.setAlarm ops (now + fromSeconds 1)

def setSource (self : SendBufferOver Store) (source : IPAddress) : SendBufferOver Store :=
  { self with source := source }

def setDestination (self : SendBufferOver Store) (destination : IPAddress) :
    SendBufferOver Store :=
  { self with destination := destination }

def synAcked (self : SendBufferOver Store) : Bool := self.syn == .acked

def sendSegment (accepts : Nat → Bool) (self : SendBufferOver Store) (segment : Segment) :
    Bool × SendBufferOver Store :=
  let accepted := accepts self.calls.length
  (accepted, { self with
    calls := self.calls ++ [⟨self.source, self.destination, segment, accepted⟩] })

/-! One round of the loop in `transmit`, and whether another one follows. -/

def transmitRound (ops : SendOperations m Store) (self : SendBufferOver Store) :
    m (Bool × SendBufferOver Store) := do
  let (length, buf) ← ops.readOffset self.buffer self.bytesInFlight kMaxSegmentSize
  let seq : SequenceNumber := (self.tcb.send.unack.toUInt64 + self.bytesInFlight).toUInt32
  let self := { self with bytesInFlight := self.bytesInFlight + length }
  let piggyback := self.fin == .sent &&
    self.tcb.send.equal (seq.toUInt64 + length + 1).toUInt32 self.tcb.send.next
  if !piggyback && length == 0 then pure (false, self)
  else
    let flags := if piggyback then Segment.ACK ||| Segment.FIN else Segment.ACK
    let segment := self.factory.createSegment seq self.tcb.receive.next flags ⟨buf, 0⟩ length
    let (sent, self) := self.sendSegment ops.accepts segment
    if !sent then pure (false, self)
    else if length == 0 then do
      let self ← ops.check self .transmitFIN (self.fin == .sent)
      pure (false, self)
    else pure (true, self)

def transmitLoop (ops : SendOperations m Store) :
    Nat → SendBufferOver Store → m (SendBufferOver Store)
  | 0, self => pure self
  | fuel + 1, self =>
      if self.bytesInFlight < kMaxBytesInFlight then do
        let (again, self) ← self.transmitRound ops
        if again then transmitLoop ops fuel self else pure self
      else pure self

def transmitSYN (accepts : Nat → Bool) (self : SendBufferOver Store) : SendBufferOver Store :=
  if self.tcb.receive.synReceived then
    (self.sendSegment accepts (self.factory.createControl self.tcb.send.initial
      self.tcb.receive.next (Segment.SYN ||| Segment.ACK))).2
  else
    (self.sendSegment accepts (self.factory.createControl self.tcb.send.initial 0 Segment.SYN)).2

-- a round that goes on sends at least one byte, so the fuel is never used up
def transmit (ops : SendOperations m Store) (self : SendBufferOver Store) :
    m (SendBufferOver Store) :=
  match self.syn with
  | .none => pure self
  | .sent => pure (self.transmitSYN ops.accepts)
  | .acked => transmitLoop ops kMaxBytesInFlight.toNat self

def sendSYN (ops : SendOperations m Store) (self : SendBufferOver Store)
    (initial : SequenceNumber) : m (SendBufferOver Store) := do
  let self ← ops.check self .sendSYNBeforeFIN (self.fin == .none)
  let self := { self with
    tcb.send := { self.tcb.send with initial := initial, next := initial + 1, unack := initial }
    syn := .sent }
  self.transmit ops

def sendData (ops : SendOperations m Store) (self : SendBufferOver Store) (data : Buffer) :
    m (UInt64 × SendBufferOver Store) := do
  let self ← ops.check self .sendDataBeforeFIN (self.fin == .none)
  if ops.full self.buffer then pure (0, self)
  else
    let (consumed, buffer) ← ops.write self.buffer data
    let self := { self with
      buffer := buffer
      tcb.send.next := (self.tcb.send.next.toUInt64 + consumed).toUInt32 }
    if self.synAcked then
      let self ← self.transmit ops
      pure (consumed, self)
    else pure (consumed, self)

def sendFIN (ops : SendOperations m Store) (self : SendBufferOver Store) :
    m (SendBufferOver Store) :=
  let self := { self with fin := .sent, tcb.send.next := self.tcb.send.next + 1 }
  if ops.empty self.buffer then self.transmit ops else pure self

/-! `acknowledge`, cut at its three conditional blocks. -/

def acknowledgeSYN (ops : BufferOperations m Store) (self : SendBufferOver Store)
    (ack : SequenceNumber) : m (SendBufferOver Store) :=
  if self.syn == .sent then do
    let self ← ops.check self .acknowledgeSYN
      (self.tcb.send.greaterThan ack self.tcb.send.initial)
    pure { self with syn := .acked, tcb.send.unack := self.tcb.send.initial + 1 }
  else pure self

def acknowledgeData (ops : BufferOperations m Store) (self : SendBufferOver Store)
    (now : TimeBase) (consumed : UInt64) : m (SendBufferOver Store) := do
  let (removed, buffer) ← ops.consume self.buffer consumed
  let self := { self with
    tcb.send.unack := (self.tcb.send.unack.toUInt64 + removed).toUInt32
    buffer := buffer
    bytesInFlight := self.bytesInFlight - consumed }
  if self.bytesInFlight == 0 then
    pure { self with alarm := self.alarm.update (now + fromSeconds 1) }
  else pure self

def acknowledgeFIN (ops : BufferOperations m Store) (self : SendBufferOver Store)
    (ack : SequenceNumber) : m (SendBufferOver Store) :=
  if self.fin == .sent && self.tcb.send.equal ack self.tcb.send.next then do
    let self ← ops.check self .acknowledgeEmpty (ops.empty self.buffer)
    pure { self with
      fin := .acked
      alarm := self.alarm.cancel
      tcb.send.unack := self.tcb.send.unack + 1 }
  else pure self

def acknowledge (ops : SendOperations m Store) (self : SendBufferOver Store)
    (ack : SequenceNumber) (now : TimeBase) : m (SendBufferOver Store) := do
  let self ← self.acknowledgeSYN ops.toBufferOperations ack
  let self ← ops.check self .acknowledgeOrder
    (self.tcb.send.greaterOrEqual ack self.tcb.send.unack)
  let consumed := (ack - self.tcb.send.unack).toUInt64
  let self ← self.acknowledgeData ops.toBufferOperations now consumed
  let self ← self.acknowledgeFIN ops.toBufferOperations ack
  if consumed > 0 then self.transmit ops else pure self

def retransmit (ops : SendOperations m Store) (self : SendBufferOver Store) (now : TimeBase) :
    m (SendBufferOver Store) := do
  let self ← ({ self with bytesInFlight := 0 } : SendBufferOver Store).transmit ops
  self.setAlarm ops.toBufferOperations (now + fromSeconds 1)

-- `Alarm::fire` on the retransmission alarm
def fire (ops : SendOperations m Store) (self : SendBufferOver Store) (now : TimeBase) :
    m (SendBufferOver Store) :=
  if self.alarm.isSet then
    ({ self with alarm := ⟨0⟩ } : SendBufferOver Store).retransmit ops now
  else pure self

def opened (ops : SendOperations m Store) (buffer : Store) (opening : SendBuffer.Opening) :
    m (SendBufferOver Store) := do
  let self ← create ops.toBufferOperations buffer opening.factory opening.tcb opening.now
  let self := self.setSource opening.source
  let self := self.setDestination opening.destination
  self.sendSYN ops opening.initial

end SendBufferOver

/-! Over a queue `failedChecks` lists the `DCHECK`s that were false; execution goes on after one as
it does in a release build. -/

abbrev SendBuffer := SendBufferOver (BoundedQueue UInt8 kSendBufferSize)

-- `accepts` is the result of the n-th call of `sendPacket`, and `beyond` what a
-- `read_offset` copies that starts past the queued bytes
structure Surroundings where
  accepts : Nat → Bool
  beyond : Nat → List UInt8

namespace SendBuffer

def check (self : SendBuffer) (site : SendCheck) (condition : Bool) : SendBuffer :=
  if condition then self else { self with failedChecks := self.failedChecks ++ [site] }

def readOffset (env : Surroundings) (buffer : BoundedQueue UInt8 kSendBufferSize)
    (offset length : UInt64) : List UInt8 :=
  if offset.toNat ≤ buffer.remaining then buffer.peek offset.toNat length.toNat
  else (env.beyond offset.toNat).take length.toNat

def queue : BufferOperations Id (BoundedQueue UInt8 kSendBufferSize) where
  empty := BoundedQueue.isEmpty
  full := BoundedQueue.isFull
  write buffer data := pure
    (UInt64.ofNat (buffer.accepted data.bytes).length, buffer.write data.bytes)
  consume buffer count := pure
    (UInt64.ofNat (min count.toNat buffer.remaining), buffer.consume count.toNat)
  check self site condition := pure (check self site condition)

def operations (env : Surroundings) : SendOperations Id (BoundedQueue UInt8 kSendBufferSize) where
  toBufferOperations := queue
  readOffset buffer offset length :=
    let buf := readOffset env buffer offset length
    pure (UInt64.ofNat buf.length, buf)
  accepts := env.accepts

def setAlarm (self : SendBuffer) (deadline : TimeBase) : SendBuffer :=
  (SendBufferOver.setAlarm queue self deadline).run

def create (factory : SegmentFactory) (tcb : ControlBlock) (now : TimeBase) : SendBuffer :=
  (SendBufferOver.create queue BoundedQueue.nil factory tcb now).run

def sendSegment (env : Surroundings) (self : SendBuffer) (segment : Segment) : Bool × SendBuffer :=
  SendBufferOver.sendSegment env.accepts self segment

def transmitRound (env : Surroundings) (self : SendBuffer) : Bool × SendBuffer :=
  (SendBufferOver.transmitRound (operations env) self).run

def transmitLoop (env : Surroundings) (fuel : Nat) (self : SendBuffer) : SendBuffer :=
  (SendBufferOver.transmitLoop (operations env) fuel self).run

def transmitSYN (env : Surroundings) (self : SendBuffer) : SendBuffer :=
  SendBufferOver.transmitSYN env.accepts self

def transmit (env : Surroundings) (self : SendBuffer) : SendBuffer :=
  (SendBufferOver.transmit (operations env) self).run

def sendSYN (env : Surroundings) (self : SendBuffer) (initial : SequenceNumber) : SendBuffer :=
  (SendBufferOver.sendSYN (operations env) self initial).run

def sendData (env : Surroundings) (self : SendBuffer) (data : Buffer) : UInt64 × SendBuffer :=
  (SendBufferOver.sendData (operations env) self data).run

def sendFIN (env : Surroundings) (self : SendBuffer) : SendBuffer :=
  (SendBufferOver.sendFIN (operations env) self).run

def acknowledgeSYN (self : SendBuffer) (ack : SequenceNumber) : SendBuffer :=
  (SendBufferOver.acknowledgeSYN queue self ack).run

def acknowledgeData (self : SendBuffer) (now : TimeBase) (consumed : UInt64) : SendBuffer :=
  (SendBufferOver.acknowledgeData queue self now consumed).run

def acknowledgeFIN (self : SendBuffer) (ack : SequenceNumber) : SendBuffer :=
  (SendBufferOver.acknowledgeFIN queue self ack).run

def acknowledge (env : Surroundings) (self : SendBuffer) (ack : SequenceNumber) (now : TimeBase) :
    SendBuffer :=
  (SendBufferOver.acknowledge (operations env) self ack now).run

def retransmit (env : Surroundings) (self : SendBuffer) (now : TimeBase) : SendBuffer :=
  (SendBufferOver.retransmit (operations env) self now).run

def fire (env : Surroundings) (self : SendBuffer) (now : TimeBase) : SendBuffer :=
  (SendBufferOver.fire (operations env) self now).run

def opened (env : Surroundings) (opening : Opening) : SendBuffer :=
  (SendBufferOver.opened (operations env) BoundedQueue.nil opening).run

end SendBuffer

/-! What can happen to a send buffer once its SYN is under way. `receive` is
the session moving the receive half of the control block. -/

inductive SendEvent where
  | sendData (data : Buffer)
  | sendFIN
  | acknowledge (ack : SequenceNumber) (now : TimeBase)
  | transmit
  | retransmit (now : TimeBase)
  | receive (space : ReceiveSpace)
deriving DecidableEq, Repr

namespace SendBuffer

def step (env : Surroundings) (self : SendBuffer) : SendEvent → SendBuffer
  | .sendData data => (self.sendData env data).2
  | .sendFIN => self.sendFIN env
  | .acknowledge ack now => self.acknowledge env ack now
  | .transmit => self.transmit env
  | .retransmit now => self.retransmit env now
  | .receive space => { self with tcb.receive := space }

def run (env : Surroundings) (self : SendBuffer) (events : List SendEvent) : SendBuffer :=
  runEvents (step env) self events

-- the calls that one event adds
def emitted (env : Surroundings) (self : SendBuffer) (event : SendEvent) : List PacketCall :=
  (self.step env event).calls.drop self.calls.length

-- the bytes that one event adds to the stream: those `sendData` reports as taken
def accepted (env : Surroundings) (self : SendBuffer) : SendEvent → List UInt8
  | .sendData data => data.bytes.take (self.sendData env data).1.toNat
  | _ => []

def stream (env : Surroundings) (self : SendBuffer) : List SendEvent → List UInt8
  | [] => []
  | event :: events => self.accepted env event ++ (self.step env event).stream env events

end SendBuffer

end LabNetstack
