import LabNetstack.EpollServerCore
import LabNetstack.SendBufferCore
import Mathlib.Algebra.Order.BigOperators.Group.List
import Mathlib.Logic.Function.Basic

/-! The send buffers of a process and the event loop that keeps their retransmission alarms, and
above it the buffers with a timer each. A buffer and its alarm are known by the same number. The
field `alarm` of a buffer is its own record of the alarm; the event loop does not read it. -/

namespace LabNetstack

/-- The allocator of the nodes of `alarm_map_`. It may pick again what was freed. Every arming is
counted in the log, so that no two picks of a run meet the same registry. -/
structure NodeAllocator where
  pick : Registry → Nat
  free : ∀ registry : Registry, registry.unused (pick registry) = true

instance : Inhabited NodeAllocator where
  default :=
    { pick := fun registry => (registry.server.alarmMap.map AlarmEntry.node).sum + 1
      free := fun _ => decide_eq_true fun used =>
        Nat.not_succ_le_self _ (List.le_sum_of_mem used) }

-- `receive` is the session moving the receive half of the control block
inductive SenderCall where
  | setSource (source : IPAddress)
  | setDestination (destination : IPAddress)
  | sendSYN (initial : SequenceNumber)
  | sendData (data : Buffer)
  | sendFIN
  | acknowledge (ack : SequenceNumber)
  | transmit
  | receive (space : ReceiveSpace)
deriving DecidableEq, Repr

inductive SenderEvent where
  | construct (place : Nat) (factory : SegmentFactory) (tcb : ControlBlock)
  | call (place : Nat) (call : SenderCall)
  | destroy (place : Nat)
  | updateNow (time : Timeval)
  | runAlarmEvent

def SenderCall.run (env : Surroundings) (now : TimeBase) (self : SendBuffer) : SenderCall → SendBuffer
  | setSource source => self.setSource source
  | setDestination destination => self.setDestination destination
  | sendSYN initial => self.sendSYN env initial
  | sendData data => (self.sendData env data).2
  | sendFIN => self.sendFIN env
  | acknowledge ack => self.acknowledge env ack now
  | transmit => self.transmit env
  | receive space => { self with tcb.receive := space }

structure SenderLoop where
  registry : Registry
  senders : Nat → Option SendBuffer

namespace SenderLoop

section Code

variable (build : Build) (allocator : NodeAllocator) (env : Nat → Surroundings)

def start (time : Timeval) : SenderLoop := ⟨.start time, fun _ => none⟩

def now (loop : SenderLoop) : TimeBase := loop.registry.server.now

def construct (loop : SenderLoop) (place : Nat) (factory : SegmentFactory) (tcb : ControlBlock) :
    Outcome SenderLoop := do
  let registry ← loop.registry.call build (.create place)
  let registry ← registry.call build
    (.set place (loop.now + fromSeconds 1) (allocator.pick registry))
  let sender := SendBuffer.create factory tcb loop.now
  pure ⟨registry, Function.update loop.senders place (some sender)⟩

-- the granularity of `update` is one millisecond by default
def acknowledge (loop : SenderLoop) (place : Nat) (self : SendBuffer) (ack : SequenceNumber) :
    Outcome SenderLoop := do
  let failed := self.failedChecks
  let self := self.acknowledgeSYN ack
  let self := self.check .acknowledgeOrder (self.tcb.send.greaterOrEqual ack self.tcb.send.unack)
  let consumed := (ack - self.tcb.send.unack).toUInt64
  let self := self.acknowledgeData loop.now consumed
  let registry ← (
    if self.bytesInFlight == 0 then
      loop.registry.call build
        (.update place (loop.now + fromSeconds 1) 1000
          (allocator.pick (loop.registry.vacated place)))
    else .done loop.registry)
  let registry ← (
    if self.fin == .sent && self.tcb.send.equal ack self.tcb.send.next then
      registry.call build (.cancel place)
    else .done registry)
  let self := self.acknowledgeFIN ack
  let self := if consumed > 0 then self.transmit (env place) else self
  dcheck build (self.failedChecks == failed)
  pure ⟨registry, Function.update loop.senders place (some self)⟩

def call (loop : SenderLoop) (place : Nat) (self : SendBuffer) : SenderCall → Outcome SenderLoop
  | .acknowledge ack => loop.acknowledge build allocator env place self ack
  | call => do
      let after := call.run (env place) loop.now self
      dcheck build (after.failedChecks == self.failedChecks)
      pure { loop with senders := Function.update loop.senders place (some after) }

-- the destructor of the buffer destroys its alarm
def destroy (loop : SenderLoop) (place : Nat) : Outcome SenderLoop := do
  let registry ← loop.registry.call build (.destroy place)
  pure ⟨registry, Function.update loop.senders place none⟩

/-- `onAlarm` of the delegate: `retransmit` through the pointer to the buffer. -/
def onAlarm (loop : SenderLoop) (place : Nat) : Outcome SenderLoop :=
  match loop.senders place with
  | none => .outOfBounds
  | some self => do
      let after := SendBuffer.retransmit (env place) { self with alarm := ⟨0⟩ } loop.now
      dcheck build (after.failedChecks == self.failedChecks)
      let registry ← loop.registry.call build
        (.set place (loop.now + fromSeconds 1) (allocator.pick loop.registry))
      pure ⟨registry, Function.update loop.senders place (some after)⟩

/-- The loop of `runAlarmEvent`, for a number of rounds. -/
def rounds : Nat → SenderLoop → Outcome SenderLoop
  | 0, loop => .done loop
  | count + 1, loop => do
      let registry ← loop.registry.advance
      let loop := { loop with registry := registry }
      match registry.phase with
      | .idle => pure loop
      | .looping => rounds count loop
      | .firing entry => do
          let loop ← loop.onAlarm build allocator env entry.alarm
          let registry ← loop.registry.returned entry
          rounds count { loop with registry := registry }

-- a delegate sets its alarm for a later time, so that a round takes one entry off those due
def runAlarmEvent (loop : SenderLoop) : Outcome SenderLoop :=
  rounds build allocator env (loop.registry.server.alarmMap.length + 1)
    { loop with registry.phase := .looping }

/-- One event. What the state does not offer does not happen. -/
def step (loop : SenderLoop) : SenderEvent → Outcome SenderLoop
  | .construct place factory tcb =>
      if loop.registry.live place then .done loop
      else loop.construct build allocator place factory tcb
  | .call place call =>
      match loop.senders place with
      | none => .done loop
      | some self => loop.call build allocator env place self call
  | .destroy place =>
      match loop.senders place with
      | none => .done loop
      | some _ => loop.destroy build place
  | .updateNow time =>
      .done { loop with registry.server := loop.registry.server.updateNow time }
  | .runAlarmEvent => loop.runAlarmEvent build allocator env

end Code

end SenderLoop

/-- Buffers with a timer each, and a clock. -/
structure Timers where
  now : TimeBase
  senders : Nat → Option SendBuffer

namespace Timers

/-- What the clock shows after `updateNow`. -/
def reading (time : Timeval) : TimeBase := time.usec.tdiv 1000 + time.sec * 1000 * 1000

/-- What a pass does to a buffer: its timer fires if the time has come. -/
def lapse (env : Surroundings) (now : TimeBase) (self : SendBuffer) : SendBuffer :=
  if self.alarm.isSet && decide (self.alarm.deadline ≤ now) then self.fire env now else self

def step (build : Build) (env : Nat → Surroundings) (timers : Timers) :
    SenderEvent → Outcome Timers
  | .construct place factory tcb =>
      match timers.senders place with
      | none =>
          let sender := SendBuffer.create factory tcb timers.now
          .done { timers with senders := Function.update timers.senders place (some sender) }
      | some _ => .done timers
  | .call place call =>
      match timers.senders place with
      | none => .done timers
      | some self => do
          let after := call.run (env place) timers.now self
          dcheck build (after.failedChecks == self.failedChecks)
          pure { timers with senders := Function.update timers.senders place (some after) }
  | .destroy place => .done { timers with senders := Function.update timers.senders place none }
  | .updateNow time => .done { timers with now := reading time }
  | .runAlarmEvent => .done
      { timers with senders := fun place => (timers.senders place).map (lapse (env place) timers.now) }

end Timers

/-- The buffers of a process without the registry of their alarms. -/
def SenderLoop.timers (loop : SenderLoop) : Timers := ⟨loop.now, loop.senders⟩

end LabNetstack
