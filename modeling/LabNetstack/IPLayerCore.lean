import LabNetstack.ChecksumCore

/-! `IPLayer::onReceive` and `RoutingTable::updateTable` of src/ip, up to the parts of them that
are left empty. -/

namespace LabNetstack

def kPacketHeaderLength : UInt64 := 20

def kTTLHeaderOffset : Nat := 8

def kMaxIpPacketLength : UInt64 := 1500

-- `protocol` is any number that is cast to `ServiceProtocol`
structure PacketHeader where
  protocol : UInt8
  source : IPAddress
  destination : IPAddress
deriving DecidableEq, Repr

inductive Received where
  | unsupportedVersion (version : UInt8)
  | expired (header : PacketHeader)
  | passed (header : PacketHeader) (packet : Buffer)
deriving DecidableEq, Repr

-- uninitialised locals of `onReceive`
structure ReceiveLocals where
  rv : UInt8
  totalLength : UInt16
deriving DecidableEq, Repr

namespace IPLayer

-- the byte is read and written without a look at the length
def subtractTTL (buf : Buffer) : Outcome (Option Buffer) :=
  match buf.bytes[kTTLHeaderOffset]? with
  | none => .outOfBounds
  | some ttl =>
      if ttl == 0 then .done none
      else .done (some ⟨buf.bytes.set kTTLHeaderOffset (ttl - 1), by
        rw [List.length_set]
        exact buf.fits⟩)

-- `buffer_` afterwards, and what `deliverPacket`, which is left empty, returns
def routePacket (build : Build) (buffer : List UInt8) (buf : Buffer) :
    Outcome (Bool × List UInt8) := do
  let writer := DataWriter.create buffer kMaxIpPacketLength
  let (rv, writer) ← writer.writeBytes buf.bytes buf.length
  dcheck build rv
  pure (true, writer.buffer)

def readHeader (build : Build) (locals : ReceiveLocals) (version : UInt8) (reader : DataReader) :
    Outcome PacketHeader := do
  let (_, reader) := reader.skip 1
  let (_, reader) ← dcheckCall build (locals.totalLength, reader) fun (totalLength, reader) =>
    reader.readUInt16 totalLength
  let (_, reader) := reader.skip 5
  let (_, protocol, reader) ← reader.readUInt8 version
  let (_, reader) := reader.skip 2
  let (source, reader) ← IPAddress.ofReader reader
  let (destination, _) ← IPAddress.ofReader reader
  pure ⟨protocol, source, destination⟩

def onReceive (build : Build) (locals : ReceiveLocals) (buf : Buffer) : Outcome Received := do
  dcheck build (decide (buf.length ≥ kPacketHeaderLength))
  let reader := DataReader.create buf
  let (_, rv, reader) ← reader.readUInt8 locals.rv
  if rv >>> 4 != 4 then pure (.unsupportedVersion (rv >>> 4))
  else do
    let header ← readHeader build locals rv reader
    match ← subtractTTL buf with
    | none => pure (.expired header)
    | some packet => pure (.passed header packet)

end IPLayer

-- uninitialised locals of `updateTable`
structure TableLocals where
  length : UInt8
  metric : UInt8
deriving DecidableEq, Repr

namespace RoutingTable

-- the entries handed to `addEntry`, which does nothing with one that is not immortal
def readEntries : Nat → UInt8 → DataReader → Outcome (List (IPAddress × UInt8))
  | 0, _, _ => .done []
  | count + 1, metric, reader => do
      let (dest, reader) ← IPAddress.ofReader reader
      let (_, metric, reader) ← reader.readUInt8 metric
      let rest ← readEntries count metric reader
      pure ((dest, metric) :: rest)

def updateTable (build : Build) (locals : TableLocals) (buf : Buffer) :
    Outcome (List (IPAddress × UInt8)) := do
  let reader := DataReader.create buf
  let (_, length, reader) ← reader.readUInt8 locals.length
  dcheck build (buf.length == 1 + length.toUInt64 * (4 + 1))
  readEntries length.toNat locals.metric reader

end RoutingTable

end LabNetstack
