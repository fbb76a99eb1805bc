import LabNetstack.ConnectionCore
import LabNetstack.SegmentCodec

/-! The connection in bytes. `sendSegment` writes each segment into a packet, the network may alter
packets besides losing, repeating and reordering them, and the other end checks the sum over what
arrives before it parses it. -/

namespace LabNetstack

-- what `buf` of `sendSegment` and the locals of the codec hold before they are written to
structure Scratch where
  buf : List UInt8
  allocated : buf.length = 1480
  writing : Leftovers
  reading : Leftovers

-- `SendBuffer::sendSegment`, up to the buffer and the length it hands to `sendPacket`
def SendBuffer.packetOf (build : Build) (scratch : Scratch) (segment : Segment) :
    Outcome Buffer := do
  let (_, writer) ← segment.writeSegmentTo build scratch.writing
    (DataWriter.create scratch.buf kMaxTCPPacketLength)
  pure writer.packet

-- RFC 793: a segment whose sum is not all ones is dropped
def Receiver.arrive (build : Build) (leftovers : Leftovers) (receiver : Receiver)
    (source destination : IPAddress) (packet : Buffer) : Outcome Receiver := do
  let checksum ← Segment.recomputed build leftovers source destination packet
  if checksum.getChecksum == 0xffff then
    let segment ← Segment.parse build leftovers source destination packet
    pure (receiver.deliver segment)
  else pure receiver

-- `packets` are the bytes of the calls of the sender, in the same order
structure WireConnection where
  connection : Connection
  packets : List Buffer

/-- Beside what can happen to the connection: other bytes arrive in the place of a packet. -/
inductive WireEvent where
  | plain (event : ConnectionEvent)
  | garble (packet : Nat) (bytes : Buffer)
deriving DecidableEq, Repr

def WireEvent.undisturbed : WireEvent → Option ConnectionEvent
  | .plain event => some event
  | .garble _ _ => none

namespace WireConnection

def packetsOf (build : Build) (scratch : Nat → Scratch) : Nat → List PacketCall →
    Outcome (List Buffer)
  | _, [] => pure []
  | index, call :: calls => do
      let packet ← SendBuffer.packetOf build (scratch index) call.segment
      let packets ← packetsOf build scratch (index + 1) calls
      pure (packet :: packets)

-- a debug build has stopped at a check of the send buffer that failed
def sent (build : Build) (scratch : Nat → Scratch) (packets : List Buffer)
    (connection : Connection) : Outcome WireConnection := do
  dcheck build connection.sender.failedChecks.isEmpty
  let added ← packetsOf build scratch packets.length
    (connection.sender.calls.drop packets.length)
  pure ⟨connection, packets ++ added⟩

def start (build : Build) (env : Surroundings) (scratch : Nat → Scratch)
    (opening : SendBuffer.Opening) : Outcome WireConnection :=
  sent build scratch [] (Connection.start env opening)

def arrive (build : Build) (scratch : Nat → Scratch) (wire : WireConnection) (packet : Nat)
    (bytes : Buffer) : Outcome WireConnection :=
  match wire.connection.sender.calls[packet]? with
  | some call =>
      if call.accepted then do
        let receiver ← wire.connection.receiver.arrive build (scratch packet).reading call.source
          call.destination bytes
        pure { wire with connection := { wire.connection with receiver := receiver } }
      else .done wire
  | none => .done wire

def step (build : Build) (env : Surroundings) (scratch : Nat → Scratch) (wire : WireConnection) :
    WireEvent → Outcome WireConnection
  | .plain (.deliver packet) =>
      match wire.packets[packet]? with
      | some bytes => wire.arrive build scratch packet bytes
      | none => .done wire
  | .plain event => sent build scratch wire.packets (wire.connection.step env event)
  | .garble packet bytes => wire.arrive build scratch packet bytes

/-- The network leaves the length of a packet as it is, and changes its sum modulo 65535. -/
def detectable (wire : WireConnection) : WireEvent → Prop
  | .plain _ => True
  | .garble packet bytes => ∀ sent ∈ wire.packets[packet]?,
      bytes.bytes.length = sent.bytes.length ∧
        ¬(networkWords bytes.bytes).sum ≡ (networkWords sent.bytes).sum [MOD 65535]

end WireConnection

end LabNetstack
