import LabNetstack.AlarmCore
import LabNetstack.Executions
import LabNetstack.HostCore
import LabNetstack.Tables

/-! `EpollServer` and `EpollAlarm` of src/base. Alarms are known by their addresses, entries of
`alarm_map_` by their nodes. The memory allocator picks both, and may pick again what was freed.
`runAlarmEvent` is taken apart into its rounds, since the delegate it calls may call alarms. -/

namespace LabNetstack

/-- The time since the Epoch, as `gettimeofday` returns it. -/
structure Timeval where
  sec : Int
  usec : Int
  valid : 0 ≤ sec ∧ 0 ≤ usec ∧ usec < 1000000
deriving DecidableEq, Repr

def Timeval.microseconds (time : Timeval) : Int := time.sec * 1000000 + time.usec

structure AlarmEntry where
  key : TimeBase
  alarm : Nat
  node : Nat
deriving DecidableEq, Repr

-- `arming` is the number of the last arming in `AlarmLog`
structure EpollAlarm extends Alarm where
  place : Nat
  token : Option Nat
  arming : Nat
deriving DecidableEq, Repr

structure Invocation where
  arming : Nat
  deadline : TimeBase
  time : TimeBase
deriving DecidableEq, Repr

/-- The history of a run, which no function of the source reads: how often an alarm has been
armed, which armings were cancelled, and the delegates that were called. -/
structure AlarmLog where
  armings : Nat
  cancelled : List Nat
  invocations : List Invocation
deriving DecidableEq, Repr

def AlarmLog.fired (log : AlarmLog) : List Nat := log.invocations.map Invocation.arming

structure EpollServer where
  alarmMap : List AlarmEntry
  now : TimeBase
  log : AlarmLog
deriving DecidableEq, Repr

namespace EpollServer

def updateNow (server : EpollServer) (time : Timeval) : EpollServer :=
  let t := time.usec.tdiv 1000
  { server with now := t + time.sec * 1000 * 1000 }

def create (time : Timeval) : EpollServer :=
  ({ alarmMap := [], now := 0, log := ⟨0, [], []⟩ } : EpollServer).updateNow time

def registerAlarm (server : EpollServer) (alarm : EpollAlarm) (node : Nat) : EpollServer :=
  { server with
    alarmMap := emplace AlarmEntry.key ⟨alarm.deadline, alarm.place, node⟩ server.alarmMap }

def erase (server : EpollServer) (node : Nat) : Outcome EpollServer :=
  if node ∈ server.alarmMap.map AlarmEntry.node then
    .done { server with alarmMap := dropAt AlarmEntry.node node server.alarmMap }
  else .outOfBounds

def unregisterAlarm (server : EpollServer) (token : Option Nat) : Outcome EpollServer :=
  match token with
  | some node => server.erase node
  | none => .outOfBounds

def incomingAlarm (server : EpollServer) : Outcome Int :=
  match server.alarmMap with
  | [] => .outOfBounds
  | incoming :: _ =>
      let rv := incoming.key - server.now
      if rv < 0 then .done 0 else .done rv

def logArming (server : EpollServer) : EpollServer :=
  { server with log.armings := server.log.armings + 1 }

def logCancel (server : EpollServer) (arming : Nat) : EpollServer :=
  { server with log.cancelled := arming :: server.log.cancelled }

def logInvocation (server : EpollServer) (alarm : EpollAlarm) : EpollServer :=
  { server with
    log.invocations := ⟨alarm.arming, alarm.deadline, server.now⟩ :: server.log.invocations }

end EpollServer

namespace EpollAlarm

def create (place : Nat) : EpollAlarm := { deadline := 0, place := place, token := none, arming := 0 }

def setImpl (alarm : EpollAlarm) (server : EpollServer) (node : Nat) : EpollAlarm × EpollServer :=
  ({ alarm with token := some node, arming := server.log.armings },
    (server.registerAlarm alarm node).logArming)

def cancelImpl (alarm : EpollAlarm) (server : EpollServer) : Outcome EpollServer := do
  let server ← server.unregisterAlarm alarm.token
  pure (server.logCancel alarm.arming)

def set (build : Build) (alarm : EpollAlarm) (server : EpollServer) (newDeadline : TimeBase)
    (node : Nat) : Outcome (EpollAlarm × EpollServer) := do
  dcheck build !alarm.isSet
  dcheck build (newDeadline != 0)
  pure (setImpl { alarm with deadline := newDeadline } server node)

def cancel (alarm : EpollAlarm) (server : EpollServer) : Outcome (EpollAlarm × EpollServer) :=
  if !alarm.isSet then .done (alarm, server)
  else do
    let alarm := { alarm with deadline := 0 }
    let server ← alarm.cancelImpl server
    pure (alarm, server)

def updateImpl (alarm : EpollAlarm) (server : EpollServer) (node : Nat) :
    Outcome (EpollAlarm × EpollServer) := do
  let server ← cancelImpl { alarm with deadline := 0 } server
  pure (alarm.setImpl server node)

def update (alarm : EpollAlarm) (server : EpollServer) (newDeadline : TimeBase) (granularity : Int)
    (node : Nat) : Outcome (EpollAlarm × EpollServer) :=
  if newDeadline == 0 then alarm.cancel server
  else if (newDeadline - alarm.deadline).natAbs < granularity then .done (alarm, server)
  else
    let wasSet := alarm.isSet
    let alarm := { alarm with deadline := newDeadline }
    if wasSet then alarm.updateImpl server node else .done (alarm.setImpl server node)

end EpollAlarm

/-- Where `runAlarmEvent` stands: not called, before the test of its loop, or in `fire`, from
which the delegate was called, with the iterator it will erase. -/
inductive AlarmPhase where
  | idle
  | looping
  | firing (entry : AlarmEntry)
deriving DecidableEq, Repr

structure Registry where
  server : EpollServer
  alarms : List EpollAlarm
  phase : AlarmPhase
deriving DecidableEq, Repr

-- `node` is the one the allocator returns if the call needs one
inductive AlarmCall where
  | create (place : Nat)
  | set (place : Nat) (deadline : TimeBase) (node : Nat)
  | update (place : Nat) (deadline : TimeBase) (granularity : Int) (node : Nat)
  | cancel (place : Nat)
  | destroy (place : Nat)
deriving DecidableEq, Repr

def AlarmCall.place : AlarmCall → Nat
  | create place | set place _ _ | update place _ _ _ | cancel place | destroy place => place

inductive AlarmEvent where
  | call (call : AlarmCall)
  | updateNow (time : Timeval)
  | runAlarmEvent
  | advance
  | returned
deriving DecidableEq, Repr

namespace Registry

def start (time : Timeval) : Registry := ⟨.create time, [], .idle⟩

/-- Call a member function of an alarm. -/
def on (registry : Registry) (place : Nat)
    (method : EpollAlarm → EpollServer → Outcome (EpollAlarm × EpollServer)) : Outcome Registry :=
  match entryAt EpollAlarm.place place registry.alarms with
  | none => .outOfBounds
  | some alarm => do
      let (alarm, server) ← method alarm registry.server
      pure { registry with
        server := server
        alarms := replaceAt EpollAlarm.place place (fun _ => alarm) registry.alarms }

def call (build : Build) (registry : Registry) : AlarmCall → Outcome Registry
  | .create place => .done { registry with alarms := .create place :: registry.alarms }
  | .set place deadline node =>
      registry.on place fun alarm server => alarm.set build server deadline node
  | .update place deadline granularity node =>
      registry.on place fun alarm server => alarm.update server deadline granularity node
  | .cancel place => registry.on place EpollAlarm.cancel
  | .destroy place => do
      let registry ← registry.on place EpollAlarm.cancel
      pure { registry with alarms := dropAt EpollAlarm.place place registry.alarms }

def live (registry : Registry) (place : Nat) : Bool :=
  decide (place ∈ registry.alarms.map EpollAlarm.place)

def unused (registry : Registry) (node : Nat) : Bool :=
  decide (node ∉ registry.server.alarmMap.map AlarmEntry.node)

-- the registry in which `update` asks for a node: the entry of an alarm that is set is erased
def vacated (registry : Registry) (place : Nat) : Registry :=
  { registry with
    server.alarmMap := registry.server.alarmMap.filter fun entry => registry.alarms.all fun alarm =>
      alarm.place != place || !alarm.isSet || alarm.token != some entry.node }

/-- Constructors get memory that is free, other calls an alarm that exists. -/
def offers (registry : Registry) : AlarmCall → Bool
  | .create place => !registry.live place
  | .set place _ node => registry.live place && registry.unused node
  | .update place _ _ node => registry.live place && (registry.vacated place).unused node
  | .cancel place | .destroy place => registry.live place

/-- The test of the loop and, if it holds, the round up to the delegate. -/
def advance (registry : Registry) : Outcome Registry :=
  match registry.server.alarmMap with
  | [] => .done { registry with phase := .idle }
  | entry :: _ =>
      if registry.server.now < entry.key then .done { registry with phase := .idle }
      else
        match entryAt EpollAlarm.place entry.alarm registry.alarms with
        | none => .outOfBounds
        | some alarm =>
            -- `fire` returns at once from an alarm that is not set
            if !alarm.isSet then do
              let server ← registry.server.erase entry.node
              pure { registry with server := server }
            else .done
              { server := registry.server.logInvocation alarm
                alarms := replaceAt EpollAlarm.place entry.alarm (fun _ => { alarm with deadline := 0 })
                  registry.alarms
                phase := .firing entry }

def returned (registry : Registry) (entry : AlarmEntry) : Outcome Registry := do
  let server ← registry.server.erase entry.node
  pure { registry with server := server, phase := .looping }

/-- One event. What the state does not offer does not happen. -/
def step (build : Build) (registry : Registry) (event : AlarmEvent) : Outcome Registry :=
  match event, registry.phase with
  | .call _, .looping => .done registry
  | .call call, _ => if registry.offers call then registry.call build call else .done registry
  | .updateNow time, .idle => .done { registry with server := registry.server.updateNow time }
  | .runAlarmEvent, .idle => .done { registry with phase := .looping }
  | .advance, .looping => registry.advance
  | .returned, .firing entry => registry.returned entry
  | _, _ => .done registry

/-- The checks at the head of `set` hold. The debug build makes them itself. -/
def passes (build : Build) (registry : Registry) (event : AlarmEvent) : Bool :=
  match build, event with
  | .release, .call (.set place deadline _) =>
      (registry.alarms.all fun alarm => alarm.place != place || !alarm.isSet) && deadline != 0
  | _, _ => true

end Registry

end LabNetstack
