import LabNetstack.HostCore

/-! Addresses, TCP segments and `SegmentFactory` of src/ip and src/tcp. -/

namespace LabNetstack

abbrev SocketPort := UInt16

abbrev SequenceNumber := UInt32

abbrev WindowSize := UInt16

abbrev SegmentFlags := UInt8

def kTcpHeaderLength : UInt64 := 20

def kMaxSegmentSize : UInt64 := 1460

def kMaxTCPPacketLength : UInt64 := 1480

inductive IPAddressFamily where
  | ipV4
  | ipV6
  | ipUnspec
deriving DecidableEq, Repr

-- `in_addr`: the four bytes in the order they have in memory and on the wire
structure InAddr where
  b0 : UInt8
  b1 : UInt8
  b2 : UInt8
  b3 : UInt8
deriving DecidableEq, Repr

namespace InAddr

def bytes (address : InAddr) : List UInt8 := [address.b0, address.b1, address.b2, address.b3]

end InAddr

structure IPAddress where
  family : IPAddressFamily
  v4 : InAddr
deriving DecidableEq, Repr

namespace IPAddress

def unspecified : IPAddress := ⟨.ipUnspec, ⟨0, 0, 0, 0⟩⟩

def ofInAddr (address : InAddr) : IPAddress := ⟨.ipV4, address⟩

-- no constructor of the source makes an address of the family `IP_V6`
def equal (lhs rhs : IPAddress) : Bool :=
  if lhs.family != rhs.family then false
  else match lhs.family with
    | .ipV4 => lhs.v4 == rhs.v4
    | .ipV6 => lhs.v4 == rhs.v4
    | .ipUnspec => true

def isInaddrAny (address : IPAddress) : Bool :=
  if address.family != .ipV4 then false else address.v4 == ⟨0, 0, 0, 0⟩

end IPAddress

structure SocketAddress where
  host : IPAddress
  port : SocketPort
deriving DecidableEq, Repr

def SocketAddress.equal (lhs rhs : SocketAddress) : Bool :=
  lhs.port == rhs.port && lhs.host.equal rhs.host

structure Segment where
  source : SocketAddress
  destination : SocketAddress
  sequence : SequenceNumber
  acknowledgment : SequenceNumber
  flags : SegmentFlags
  window : WindowSize
  data : Pointer
  ownData : Bool
  dataLength : UInt64
deriving DecidableEq, Repr

namespace Segment

def FIN : SegmentFlags := 0x01

def SYN : SegmentFlags := 0x02

def RST : SegmentFlags := 0x04

def ACK : SegmentFlags := 0x10

def hasFlag (segment : Segment) (flag : SegmentFlags) : Bool := segment.flags &&& flag != 0

def isACK (segment : Segment) : Bool := segment.hasFlag ACK

def isRST (segment : Segment) : Bool := segment.hasFlag RST

def isFIN (segment : Segment) : Bool := segment.hasFlag FIN

def isSYN (segment : Segment) : Bool := segment.hasFlag SYN

def payload (segment : Segment) : List UInt8 := segment.data.target.take segment.dataLength.toNat

end Segment

structure SegmentFactory where
  localAddress : SocketAddress
  remoteAddress : SocketAddress
deriving DecidableEq, Repr

namespace SegmentFactory

def createSegment (factory : SegmentFactory) (seq ack : SequenceNumber) (ctl : SegmentFlags)
    (data : Pointer) (dataLength : UInt64) : Segment where
  source := factory.localAddress
  destination := factory.remoteAddress
  sequence := seq
  acknowledgment := ack
  flags := ctl
  window := 65535
  data := data
  ownData := false
  dataLength := dataLength

-- the overload without payload
def createControl (factory : SegmentFactory) (seq ack : SequenceNumber) (ctl : SegmentFlags) :
    Segment :=
  factory.createSegment seq ack ctl Pointer.null 0

end SegmentFactory

end LabNetstack
