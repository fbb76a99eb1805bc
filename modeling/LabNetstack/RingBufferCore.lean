import LabNetstack.BoundedQueue
import LabNetstack.HostCore

/-! `RingBuffer` of src/base. The bytes between `begin_` and `end_` are queued;
`end_` may lie past `size_`, and the storage is then read around its end. -/

namespace LabNetstack

structure RingBuffer where
  size : UInt64
  buffer : List UInt8
  begin_ : UInt64
  end_ : UInt64
deriving DecidableEq, Repr

namespace RingBuffer

/-- `memory` is what the fresh storage holds. `new char[size]` throws above `PTRDIFF_MAX`. -/
def create (size : UInt64) (memory : Nat → UInt8) : Outcome RingBuffer :=
  if 2 ^ 63 ≤ size.toNat then .aborted
  else .done ⟨size, (List.range size.toNat).map memory, 0, 0⟩

def empty (ring : RingBuffer) : Bool := ring.begin_ == ring.end_

def full (ring : RingBuffer) : Bool := ring.begin_ + ring.size == ring.end_

def remaining (ring : RingBuffer) : UInt64 := ring.end_ - ring.begin_

def free (ring : RingBuffer) : UInt64 := ring.size - ring.remaining

def read (build : Build) (ring : RingBuffer) (length : UInt64) :
    Outcome (UInt64 × List UInt8 × RingBuffer) :=
  if ring.empty then .done (0, [], ring)
  else do
    let length := min length ring.remaining
    dcheck build (ring.begin_ < ring.size)
    if ring.begin_ + length ≥ ring.size then
      let first ← copyOut ring.buffer ring.begin_.toNat (ring.size - ring.begin_).toNat
      let second ← copyOut ring.buffer 0 (length - (ring.size - ring.begin_)).toNat
      pure (length, first ++ second,
        { ring with begin_ := ring.begin_ + length - ring.size, end_ := ring.end_ - ring.size })
    else
      let bytes ← copyOut ring.buffer ring.begin_.toNat length.toNat
      pure (length, bytes, { ring with begin_ := ring.begin_ + length })

def write (build : Build) (ring : RingBuffer) (data : Buffer) : Outcome (UInt64 × RingBuffer) :=
  if ring.full then .done (0, ring)
  else do
    let length := min data.length ring.free
    dcheck build (ring.begin_ < ring.size)
    if ring.end_ ≥ ring.size then
      -- the source copies here but does not move `end_`
      let buffer ← copyIn ring.buffer (ring.end_ - ring.size).toNat data.bytes length.toNat
      pure (length, { ring with buffer := buffer })
    else if ring.end_ + length ≥ ring.size then
      let tail := ring.size - ring.end_
      let buffer ← copyIn ring.buffer ring.end_.toNat data.bytes tail.toNat
      let buffer ← copyIn buffer 0 (data.bytes.drop tail.toNat) (length - tail).toNat
      pure (length, { ring with buffer := buffer, end_ := ring.end_ + length })
    else
      let buffer ← copyIn ring.buffer ring.end_.toNat data.bytes length.toNat
      pure (length, { ring with buffer := buffer, end_ := ring.end_ + length })

def readOffset (build : Build) (ring : RingBuffer) (offset length : UInt64) :
    Outcome (UInt64 × List UInt8) :=
  let beginOff := ring.begin_ + offset
  let length := min length (ring.end_ - beginOff)
  if length == 0 then .done (0, [])
  else do
    dcheck build (beginOff + length ≤ ring.end_)
    if beginOff < ring.size then
      if beginOff + length ≥ ring.size then
        let len1 := ring.size - beginOff
        let len2 := length - len1
        let first ← copyOut ring.buffer beginOff.toNat len1.toNat
        let second ← copyOut ring.buffer 0 len2.toNat
        pure (length, first ++ second)
      else
        let bytes ← copyOut ring.buffer beginOff.toNat length.toNat
        pure (length, bytes)
    else
      let bytes ← copyOut ring.buffer (beginOff - ring.size).toNat length.toNat
      pure (length, bytes)

def consume (build : Build) (ring : RingBuffer) (length : UInt64) : Outcome (UInt64 × RingBuffer) :=
  do
    let length := min length ring.remaining
    dcheck build (ring.begin_ < ring.size)
    if ring.begin_ + length ≥ ring.size then
      pure (length,
        { ring with begin_ := ring.begin_ + length - ring.size, end_ := ring.end_ - ring.size })
    else
      pure (length, { ring with begin_ := ring.begin_ + length })

end RingBuffer

/-- One call on a ring buffer, or on the queue it stands for. -/
inductive RingCall where
  | write (data : Buffer)
  | read (length : UInt64)
  | consume (length : UInt64)
  | readOffset (offset length : UInt64)
deriving DecidableEq, Repr

/-- What the caller of one operation sees: the returned count, the bytes copied
out, and the queries on the buffer afterwards. -/
structure Observation where
  count : Nat
  bytes : List UInt8
  remaining : Nat
  free : Nat
  empty : Bool
  full : Bool
deriving DecidableEq, Repr

namespace RingBuffer

def observe (ring : RingBuffer) (count : UInt64) (bytes : List UInt8) : Observation :=
  ⟨count.toNat, bytes, ring.remaining.toNat, ring.free.toNat, ring.empty, ring.full⟩

def perform (build : Build) (ring : RingBuffer) : RingCall → Outcome (Observation × RingBuffer)
  | .write data => do
      let (count, next) ← ring.write build data
      pure (next.observe count [], next)
  | .read length => do
      let (count, bytes, next) ← ring.read build length
      pure (next.observe count bytes, next)
  | .consume length => do
      let (count, next) ← ring.consume build length
      pure (next.observe count [], next)
  | .readOffset offset length => do
      let (count, bytes) ← ring.readOffset build offset length
      pure (ring.observe count bytes, ring)

/-- What a caller sees over a sequence of calls. -/
def observations (build : Build) (ring : RingBuffer) : List RingCall → Outcome (List Observation)
  | [] => .done []
  | call :: calls => do
      let (seen, next) ← ring.perform build call
      let later ← next.observations build calls
      pure (seen :: later)

def offsetWithin (ring : RingBuffer) : RingCall → Bool
  | .readOffset offset _ => decide (offset ≤ ring.remaining)
  | _ => true

def offsetsCheck (build : Build) (ring : RingBuffer) : List RingCall → Bool
  | [] => true
  | call :: calls => ring.offsetWithin call &&
      match ring.perform build call with
      | .done (_, next) => next.offsetsCheck build calls
      | _ => true

/-! A `write` is of no bytes, or finds the buffer full, or finds the queued
bytes ending before the end of the storage. -/

def writable (ring : RingBuffer) : RingCall → Bool
  | .write data => data.length == 0 || ring.full || decide (ring.end_ < ring.size)
  | _ => true

def writesCheck (build : Build) (ring : RingBuffer) : List RingCall → Bool
  | [] => true
  | call :: calls => ring.writable call &&
      match ring.perform build call with
      | .done (_, next) => next.writesCheck build calls
      | _ => true

end RingBuffer

namespace BoundedQueue

variable {capacity : Nat}

def observe (queue : BoundedQueue UInt8 capacity) (count : Nat) (bytes : List UInt8) : Observation :=
  ⟨count, bytes, queue.remaining, queue.free, queue.isEmpty, queue.isFull⟩

/-- The same calls on the abstract queue. -/
def perform (queue : BoundedQueue UInt8 capacity) :
    RingCall → Observation × BoundedQueue UInt8 capacity
  | .write data =>
      let next := queue.write data.bytes
      (next.observe (queue.accepted data.bytes).length [], next)
  | .read length =>
      let next := queue.consume length.toNat
      (next.observe (min length.toNat queue.remaining) (queue.peek 0 length.toNat), next)
  | .consume length =>
      let next := queue.consume length.toNat
      (next.observe (min length.toNat queue.remaining) [], next)
  | .readOffset offset length =>
      let bytes := queue.peek offset.toNat length.toNat
      (queue.observe bytes.length bytes, queue)

def observations (queue : BoundedQueue UInt8 capacity) : List RingCall → List Observation
  | [] => []
  | call :: calls =>
      let (seen, next) := queue.perform call
      seen :: next.observations calls

end BoundedQueue

end LabNetstack
