import LabNetstack.HostCore
import LabNetstack.HostWords

/-! `DataReader` and `DataWriter` of src/base, and the byte-order functions they
use on a little-endian machine. -/

namespace LabNetstack

def htons (value : UInt16) : UInt16 := UInt16.ofNat (byteSwap 2 value.toNat)

def ntohs (value : UInt16) : UInt16 := UInt16.ofNat (byteSwap 2 value.toNat)

def htonl (value : UInt32) : UInt32 := UInt32.ofNat (byteSwap 4 value.toNat)

def ntohl (value : UInt32) : UInt32 := UInt32.ofNat (byteSwap 4 value.toNat)

def htonll (value : UInt64) : UInt64 :=
  ((htonl (value &&& 0xffffffff).toUInt32).toUInt64 <<< 32) ||| (htonl (value >>> 32).toUInt32).toUInt64

def ntohll (value : UInt64) : UInt64 :=
  ((ntohl (value &&& 0xffffffff).toUInt32).toUInt64 <<< 32) ||| (ntohl (value >>> 32).toUInt32).toUInt64

structure DataReader where
  buffer : List UInt8
  capacity : UInt64
  pos : UInt64
deriving DecidableEq, Repr

namespace DataReader

def create (buf : Buffer) : DataReader := ⟨buf.bytes, buf.length, 0⟩

-- the bytes copied to the result, if any
def readBytes (reader : DataReader) (length : UInt64) :
    Outcome (Option (List UInt8) × DataReader) :=
  if reader.pos + length > reader.capacity then .done (none, reader)
  else do
    let bytes ← copyOut reader.buffer reader.pos.toNat length.toNat
    pure (some bytes, { reader with pos := reader.pos + length })

def skip (reader : DataReader) (length : UInt64) : Bool × DataReader :=
  if reader.pos + length > reader.capacity then (false, reader)
  else (true, { reader with pos := reader.pos + length })

-- a failed read leaves `result` as it was
def readWord {α : Type} (count : UInt64) (convert : Nat → α) (reader : DataReader) (result : α) :
    Outcome (Bool × α × DataReader) := do
  match ← reader.readBytes count with
  | (none, reader) => pure (false, result, reader)
  | (some value, reader) => pure (true, convert (hostValue value), reader)

def readUInt8 : DataReader → UInt8 → Outcome (Bool × UInt8 × DataReader) :=
  readWord 1 UInt8.ofNat

def readUInt16 : DataReader → UInt16 → Outcome (Bool × UInt16 × DataReader) :=
  readWord 2 fun value => ntohs (UInt16.ofNat value)

def readUInt32 : DataReader → UInt32 → Outcome (Bool × UInt32 × DataReader) :=
  readWord 4 fun value => ntohl (UInt32.ofNat value)

def readUInt64 : DataReader → UInt64 → Outcome (Bool × UInt64 × DataReader) :=
  readWord 8 fun value => ntohll (UInt64.ofNat value)

def length (reader : DataReader) : UInt64 := reader.capacity - reader.pos

end DataReader

-- `copies` lists the copies of `writeBytes`, each by its `length_` and its size
structure DataWriter where
  buffer : List UInt8
  capacity : UInt64
  length : UInt64
  copies : List (UInt64 × UInt64)
deriving DecidableEq, Repr

namespace DataWriter

def create (buffer : List UInt8) (length : UInt64) : DataWriter := ⟨buffer, length, 0, []⟩

def bytesWritten (writer : DataWriter) : UInt64 := writer.length

-- what `begin()` and `bytesWritten()` hand on
def packet (writer : DataWriter) : Buffer :=
  ⟨writer.buffer.take writer.length.toNat, by
    have bound := writer.length.toNat_lt
    rw [List.length_take]
    omega⟩

-- `data` is what the pointer argument points to
def writeBytes (writer : DataWriter) (data : List UInt8) (length : UInt64) :
    Outcome (Bool × DataWriter) :=
  if writer.length + length > writer.capacity then .done (false, writer)
  else do
    let buffer ← copyIn writer.buffer writer.length.toNat data length.toNat
    pure (true, { writer with
      buffer := buffer
      length := writer.length + length
      copies := writer.copies ++ [(writer.length, length)] })

def writeUInt8 (writer : DataWriter) (value : UInt8) : Outcome (Bool × DataWriter) :=
  writer.writeBytes (hostBytes 1 value.toNat) 1

def writeUInt16 (writer : DataWriter) (value : UInt16) : Outcome (Bool × DataWriter) :=
  writer.writeBytes (hostBytes 2 (htons value).toNat) 2

def writeUInt32 (writer : DataWriter) (value : UInt32) : Outcome (Bool × DataWriter) :=
  writer.writeBytes (hostBytes 4 (htonl value).toNat) 4

def writeUInt64 (writer : DataWriter) (value : UInt64) : Outcome (Bool × DataWriter) :=
  writer.writeBytes (hostBytes 8 (htonll value).toNat) 8

-- the loop writes to `buffer_[i]`, whatever `length_` is
def writeRandomBytes (writer : DataWriter) (length : UInt64) : Outcome (Bool × DataWriter) :=
  if writer.length + length > writer.capacity then .done (false, writer)
  else do
    let buffer ← copyIn writer.buffer 0 (List.replicate length.toNat 0x23) length.toNat
    pure (true, { writer with buffer := buffer, length := writer.length + length })

end DataWriter

end LabNetstack
