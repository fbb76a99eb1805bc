import LabNetstack.ChecksumCore

/-! `Segment::parse` and `Segment::writeSegmentTo` of src/tcp. -/

namespace LabNetstack

inductive ServiceProtocol where
  | icmp
  | tcp
  | testing0
  | testing1
deriving DecidableEq, Repr

namespace ServiceProtocol

def number : ServiceProtocol → UInt16
  | .icmp => 1
  | .tcp => 6
  | .testing0 => 253
  | .testing1 => 254

end ServiceProtocol

-- what uninitialised locals hold: three of `parse`, and `buffer` in the two
-- calls of `addIPAddress`
structure Leftovers where
  sourcePort : SocketPort
  destinationPort : SocketPort
  offset : UInt8
  sourceWord : UInt32
  destinationWord : UInt32
deriving DecidableEq, Repr

namespace Segment

-- `make_unique<Segment>()` zeroes the fields that are read into
def parse (build : Build) (leftovers : Leftovers) (source destination : IPAddress) (buf : Buffer) :
    Outcome Segment := do
  let reader := DataReader.create buf
  let (_, sourcePort, reader) ← reader.readUInt16 leftovers.sourcePort
  let (_, destinationPort, reader) ← reader.readUInt16 leftovers.destinationPort
  let (_, sequence, reader) ← reader.readUInt32 0
  let (_, acknowledgment, reader) ← reader.readUInt32 0
  let (_, offset, reader) ← reader.readUInt8 leftovers.offset
  let offset := offset >>> 2
  let (_, flags, reader) ← reader.readUInt8 0
  let (window, _) ← dcheckCall build (0, reader) fun (window, reader) => reader.readUInt16 window
  pure
    { source := ⟨source, sourcePort⟩
      destination := ⟨destination, destinationPort⟩
      sequence := sequence
      acknowledgment := acknowledgment
      flags := flags
      window := window
      data := ⟨buf.bytes, offset.toNat⟩
      ownData := false
      dataLength := buf.length - offset.toUInt64 }

-- the return value is `false` in every case
def writeSegmentTo (build : Build) (leftovers : Leftovers) (segment : Segment)
    (writer : DataWriter) : Outcome (Bool × DataWriter) := do
  let (_, writer) ← writer.writeUInt16 segment.source.port
  let (_, writer) ← writer.writeUInt16 segment.destination.port
  let (_, writer) ← writer.writeUInt32 segment.sequence
  let (_, writer) ← writer.writeUInt32 segment.acknowledgment
  let (_, writer) ← writer.writeUInt8 0x50
  let (_, writer) ← writer.writeUInt8 segment.flags
  let (_, writer) ← writer.writeUInt16 segment.window
  let (_, writer) ← writer.writeUInt16 0
  let (_, writer) ← writer.writeUInt16 0
  let (_, writer) ← writer.writeBytes segment.data.target segment.dataLength
  let tcpLength := (segment.dataLength + kTcpHeaderLength).toUInt16
  let written ← copyOut writer.buffer 0 writer.length.toNat
  let checksum := Checksum.ofRange written
  let checksum ← checksum.addIPAddress build leftovers.sourceWord segment.source.host
  let checksum ← checksum.addIPAddress build leftovers.destinationWord segment.destination.host
  let checksum := checksum.addHostUInt16 ServiceProtocol.tcp.number
  let checksum := checksum.addHostUInt16 tcpLength
  let buffer ← checksum.writeTo writer.buffer 16
  pure (false, { writer with buffer := buffer })

end Segment

end LabNetstack
