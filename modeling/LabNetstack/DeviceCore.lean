import LabNetstack.IPLayerCore

/-! `MacAddress` and `Device::decodeFrame` of src/ether. -/

namespace LabNetstack

def kMacAddressLength : UInt64 := 6

structure EtherAddr where
  octets : List UInt8
  six : octets.length = 6
deriving DecidableEq, Repr

def EtherAddr.zero : EtherAddr := ⟨List.replicate 6 0, rfl⟩

structure MacAddress where
  isSpec : Bool
  address : EtherAddr
deriving DecidableEq, Repr

namespace MacAddress

-- the constructor from a reader: the octets stay zero when the read fails
def ofReader (reader : DataReader) : Outcome (MacAddress × DataReader) := do
  match ← reader.readBytes kMacAddressLength with
  | (some bytes, reader) =>
      pure (⟨true, if six : bytes.length = 6 then ⟨bytes, six⟩ else .zero⟩, reader)
  | (none, reader) => pure (⟨true, .zero⟩, reader)

def isSpecified (address : MacAddress) : Bool := address.isSpec

def isBroadcast (address : MacAddress) : Bool := address.address.octets.all (· == 0xff)

-- `operator==` compares the octets only
def same (left right : MacAddress) : Bool := left.address.octets == right.address.octets

end MacAddress

/-- What `buffer()` and `length()` of a reader hand on. -/
def DataReader.rest (reader : DataReader) : Buffer :=
  ⟨(reader.buffer.drop reader.pos.toNat).take (reader.capacity - reader.pos).toNat, by
    have bound := (reader.capacity - reader.pos).toNat_lt
    rw [List.length_take]
    omega⟩

-- the callback of a device is the IP layer, once it is set
structure Device where
  hasCallback : Bool
  macAddress : MacAddress
  peerAddress : MacAddress
deriving DecidableEq, Repr

namespace Device

def findPeer (device : Device) (source : MacAddress) : Device :=
  if !device.peerAddress.isSpecified && !source.isBroadcast then
    { device with peerAddress := source }
  else device

/-- `decodeFrame` with the callback as a parameter. -/
def decodeWith {α : Type} (onReceive : Buffer → Outcome α) (device : Device) (data : Buffer) :
    Outcome (Option α × Device) :=
  if !device.hasCallback then .done (none, device)
  else do
    let reader := DataReader.create data
    let (destination, reader) ← MacAddress.ofReader reader
    let (source, reader) ← MacAddress.ofReader reader
    if !destination.isBroadcast && !destination.same device.macAddress then pure (none, device)
    else do
      let device := device.findPeer source
      -- `type` is not used when its read fails
      match ← reader.readUInt16 0 with
      | (false, _, _) => pure (none, device)
      | (true, type, reader) =>
          -- ARP and unknown types are dropped
          if type != 0x0800 then pure (none, device)
          else do
            let received ← onReceive reader.rest
            pure (some received, device)

def decodeFrame (build : Build) (locals : ReceiveLocals) (device : Device) (data : Buffer) :
    Outcome (Option Received × Device) :=
  device.decodeWith (IPLayer.onReceive build locals) data

end Device

end LabNetstack
