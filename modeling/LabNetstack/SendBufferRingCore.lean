import LabNetstack.ConnectionCore
import LabNetstack.Executions
import LabNetstack.RingBufferCore

/-! `SendBuffer` of src/tcp over the `RingBuffer` it holds, with every `DCHECK` of both, and a
connection driven by it. `accepts` is the result of the n-th call of `sendPacket`. -/

namespace LabNetstack

abbrev RingSendBuffer := SendBufferOver RingBuffer

namespace RingSendBuffer

def ring (build : Build) : BufferOperations Outcome RingBuffer where
  empty := RingBuffer.empty
  full := RingBuffer.full
  write buffer data := buffer.write build data
  consume buffer count := buffer.consume build count
  check self _ condition := do
    dcheck build condition
    pure self

def operations (build : Build) (accepts : Nat → Bool) : SendOperations Outcome RingBuffer where
  toBufferOperations := ring build
  readOffset buffer offset length := buffer.readOffset build offset length
  accepts := accepts

section Calls

variable (build : Build) (accepts : Nat → Bool)

-- `memory` is what the fresh storage of the ring buffer holds
def opened (memory : Nat → UInt8) (opening : SendBuffer.Opening) : Outcome RingSendBuffer := do
  let buffer ← RingBuffer.create (UInt64.ofNat kSendBufferSize) memory
  SendBufferOver.opened (operations build accepts) buffer opening

def sendData (self : RingSendBuffer) (data : Buffer) : Outcome (UInt64 × RingSendBuffer) :=
  SendBufferOver.sendData (operations build accepts) self data

def sendFIN (self : RingSendBuffer) : Outcome RingSendBuffer :=
  SendBufferOver.sendFIN (operations build accepts) self

def transmit (self : RingSendBuffer) : Outcome RingSendBuffer :=
  SendBufferOver.transmit (operations build accepts) self

def acknowledge (self : RingSendBuffer) (ack : SequenceNumber) (now : TimeBase) :
    Outcome RingSendBuffer :=
  SendBufferOver.acknowledge (operations build accepts) self ack now

def fire (self : RingSendBuffer) (now : TimeBase) : Outcome RingSendBuffer :=
  SendBufferOver.fire (operations build accepts) self now

end Calls

end RingSendBuffer

-- no code reads `written`: the bytes that `sendData` has reported as taken
structure RingConnection where
  sender : RingSendBuffer
  receiver : Receiver
  replies : List SequenceNumber
  written : List UInt8

namespace RingConnection

def start (build : Build) (accepts : Nat → Bool) (memory : Nat → UInt8)
    (opening : SendBuffer.Opening) : Outcome RingConnection := do
  let sender ← RingSendBuffer.opened build accepts memory opening
  pure ⟨sender, .listening, [], []⟩

def step (build : Build) (accepts : Nat → Bool) (connection : RingConnection) :
    ConnectionEvent → Outcome RingConnection
  | .sendData data => do
      let (consumed, sender) ← connection.sender.sendData build accepts data
      pure { connection with
        sender := sender
        written := connection.written ++ data.bytes.take consumed.toNat }
  | .sendFIN => do
      let sender ← connection.sender.sendFIN build accepts
      pure { connection with sender := sender }
  | .transmit => do
      let sender ← connection.sender.transmit build accepts
      pure { connection with sender := sender }
  | .fire now => do
      let sender ← connection.sender.fire build accepts now
      pure { connection with sender := sender }
  | .deliver packet =>
      match connection.sender.calls[packet]? with
      | some call =>
          if call.accepted then
            pure { connection with receiver := connection.receiver.deliver call.segment }
          else pure connection
      | none => pure connection
  | .reply =>
      if connection.receiver.space.synReceived then
        pure { connection with replies := connection.replies ++ [connection.receiver.space.next] }
      else pure connection
  | .acknowledge reply now =>
      match connection.replies[reply]? with
      | some ack =>
          if Connection.acceptable connection.sender.tcb.send ack then do
            let sender ← connection.sender.acknowledge build accepts ack now
            pure { connection with sender := sender }
          else pure connection
      | none => pure connection
  | .receive space =>
      pure { connection with sender := { connection.sender with tcb.receive := space } }

/-! An application that writes nothing after its one `sendFIN`, and a clock that is not negative. -/

def permitted (closed : Bool) : ConnectionEvent → Bool
  | .sendData _ => !closed
  | .sendFIN => !closed
  | .fire now => decide (0 ≤ now)
  | .acknowledge _ now => decide (0 ≤ now)
  | _ => true

def orderly : Bool → List ConnectionEvent → Bool
  | _, [] => true
  | closed, event :: events => permitted closed event && orderly (closed || event == .sendFIN) events

def offeredBy : ConnectionEvent → Nat
  | .sendData data => data.bytes.length
  | _ => 0

def offered (events : List ConnectionEvent) : Nat := (events.map offeredBy).sum

-- the bytes of a `sendData` are not lost on their way into the ring buffer
def stores (connection : RingConnection) : ConnectionEvent → Bool
  | .sendData data => connection.sender.buffer.writable (.write data)
  | _ => true

end RingConnection

end LabNetstack
