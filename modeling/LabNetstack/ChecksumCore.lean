import LabNetstack.SegmentCore
import LabNetstack.WireCore

/-! `Checksum` of src/base, and the parts of `IPAddress` that read and write bytes. -/

namespace LabNetstack

def kIPv4AddressSize : UInt64 := 4

namespace InAddr

def ofBytes (bytes : List UInt8) : InAddr :=
  ⟨bytes.getD 0 0, bytes.getD 1 0, bytes.getD 2 0, bytes.getD 3 0⟩

end InAddr

namespace IPAddress

-- the constructor from a reader: the address stays zero when the read fails
def ofReader (reader : DataReader) : Outcome (IPAddress × DataReader) := do
  match ← reader.readBytes kIPv4AddressSize with
  | (some bytes, reader) => pure (ofInAddr (InAddr.ofBytes bytes), reader)
  | (none, reader) => pure (ofInAddr ⟨0, 0, 0, 0⟩, reader)

-- `LOG(FATAL)` ends the process in either build
def writeTo (address : IPAddress) (writer : DataWriter) : Outcome (Bool × DataWriter) :=
  if address.family != .ipV4 then .aborted
  else writer.writeBytes address.v4.bytes kIPv4AddressSize

end IPAddress

structure Checksum where
  sum : UInt16
deriving DecidableEq, Repr

namespace Checksum

def foldCarry (sum : UInt32) : UInt32 := (sum &&& (0xffff : UInt32)) + (sum >>> 16)

-- what a `uint16_t *` meets from the first byte to the last whole word
def hostWords : List UInt8 → List UInt16
  | first :: second :: rest => UInt16.ofNat (hostValue [first, second]) :: hostWords rest
  | _ => []

def sumWords (sum : UInt32) (words : List UInt16) : UInt32 :=
  words.foldl (fun sum word => foldCarry (sum + (ntohs word).toUInt32)) sum

def ofRange (bytes : List UInt8) : Checksum :=
  if bytes.length % 2 == 1 then
    let sum := (bytes.getLastD 0).toUInt32 <<< 8
    ⟨(sumWords sum (hostWords bytes.dropLast)).toUInt16⟩
  else ⟨(sumWords 0 (hostWords bytes)).toUInt16⟩

def getChecksum (checksum : Checksum) : UInt16 := checksum.sum

def addHostUInt16 (checksum : Checksum) (value : UInt16) : Checksum :=
  ⟨(foldCarry (checksum.sum.toUInt32 + value.toUInt32)).toUInt16⟩

def addNetworkUint16 (checksum : Checksum) (value : UInt16) : Checksum :=
  checksum.addHostUInt16 (ntohs value)

-- `indeterminate` is what the local `buffer` holds before it is written
def addIPAddress (build : Build) (indeterminate : UInt32) (checksum : Checksum)
    (address : IPAddress) : Outcome Checksum := do
  let writer := DataWriter.create (hostBytes 4 indeterminate.toNat) 8
  let writer ← dcheckCall build writer address.writeTo
  let buffer := UInt32.ofNat (hostValue writer.buffer)
  pure ((checksum.addNetworkUint16 (buffer >>> 16).toUInt16).addNetworkUint16 buffer.toUInt16)

def writeTo (checksum : Checksum) (buffer : List UInt8) (offset : Nat) : Outcome (List UInt8) :=
  let cs := ~~~checksum.sum
  copyIn buffer offset [(cs >>> 8).toUInt8, cs.toUInt8] 2

end Checksum

end LabNetstack
