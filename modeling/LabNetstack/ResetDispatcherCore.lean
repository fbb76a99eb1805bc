import LabNetstack.SegmentCodecCore

/-! `ResetDispatcher` of src/posix, which answers segments that belong to no session. -/

namespace LabNetstack

-- what is handed to `IPLayer::sendPacket`
structure SentPacket where
  source : IPAddress
  destination : IPAddress
  protocol : ServiceProtocol
  packet : Buffer
deriving DecidableEq, Repr

structure ResetDispatcher where
  buffer : List UInt8
deriving DecidableEq, Repr

namespace ResetDispatcher

def encode (build : Build) (leftovers : Leftovers) (self : ResetDispatcher) (segment : Segment) :
    Outcome DataWriter := do
  let (_, writer) ← segment.writeSegmentTo build leftovers
    (DataWriter.create self.buffer kMaxTCPPacketLength)
  pure writer

-- the response is built, and then it is `segment` that is encoded
def onReceivePacket (build : Build) (leftovers : Leftovers) (self : ResetDispatcher)
    (packet : Buffer) (source destination : IPAddress) :
    Outcome (List SentPacket × ResetDispatcher) := do
  let segment ← Segment.parse build leftovers source destination packet
  let to_ := segment.destination
  let from_ := segment.source
  let factory : SegmentFactory := ⟨to_, from_⟩
  let _response :=
    if segment.isACK then factory.createControl segment.acknowledgment 0 Segment.RST
    else factory.createControl 0 (segment.sequence.toUInt64 + segment.dataLength).toUInt32
      (Segment.RST ||| Segment.ACK)
  let writer ← self.encode build leftovers segment
  pure ([⟨to_.host, from_.host, .tcp, writer.packet⟩], ⟨writer.buffer⟩)

/-! Two stacks without a session for a packet, each answering what it receives. -/

def exchange (build : Build) (leftovers : Nat → Leftovers) :
    Nat → ResetDispatcher → ResetDispatcher → SentPacket → Outcome (List SentPacket)
  | 0, _, _, _ => .done []
  | rounds + 1, here, there, arrived => do
      let (sent, here) ← here.onReceivePacket build (leftovers rounds) arrived.packet
        arrived.source arrived.destination
      match sent with
      | [] => pure []
      | reply :: _ => do
          let later ← exchange build leftovers rounds there here reply
          pure (reply :: later)

end ResetDispatcher

end LabNetstack
