import LabNetstack.EpollServerCore
import LabNetstack.IPLayerCore

/-! `RoutingTable` of src/ip, up to the parts that are left empty. Devices are known by numbers.
The entries that are constructed are numbered in order; the alarm that an entry creates has the
number of the entry, and its delegate keeps it as the pointer to call `revokeRoute` with. -/

namespace LabNetstack

def IPAddress.fullMask : IPAddress := .ofInAddr ⟨255, 255, 255, 255⟩

namespace RoutingTable

structure AddEntryCall where
  dest : IPAddress
  mask : IPAddress
  device : Nat
  metric : UInt8
  immortal : Bool
deriving DecidableEq, Repr

/-- The calls of `addEntry` that `updateTable` makes. -/
def addEntryCalls (build : Build) (locals : TableLocals) (buf : Buffer) (device : Nat) :
    Outcome (List AddEntryCall) := do
  let entries ← updateTable build locals buf
  pure (entries.map fun entry => ⟨entry.1, .fullMask, device, entry.2, false⟩)

def infinity : UInt8 := 16

def validInterval : Int := fromSeconds 6

structure Entry where
  object : Nat
  dest : IPAddress
  mask : IPAddress
  device : Nat
  metric : UInt8
  ttlAlarm : Option Nat
deriving DecidableEq, Repr

structure DistVec where
  len : UInt8
  buf : List UInt8
deriving DecidableEq, Repr

-- `memory` is what the new array happens to hold
def DistVec.create (memory : Nat → UInt8) (length : UInt8) : DistVec :=
  let len := (1 + length.toUInt64 * (4 + 1)).toUInt8
  ⟨len, (List.range len.toNat).map memory⟩

def createDistVec (memory : Nat → UInt8) (entries : List Entry) (_device : Nat) : DistVec :=
  DistVec.create memory (UInt64.ofNat entries.length).toUInt8

end RoutingTable

open RoutingTable

/-- An entry with two times that no function of the source reads: when it was last refreshed while
it was valid, and the last of these times that came a second or more after the one before it. -/
structure Route extends Entry where
  refreshed : Int
  anchor : Int
deriving DecidableEq, Repr

structure Revocation where
  refreshed : Int
  time : Int
deriving DecidableEq, Repr

/-- The table and the registry of the alarms of its factory. `revocations` is the history of
`revokeRoute`. -/
structure Routes where
  registry : Registry
  entries : List Route
  objects : Nat
  revocations : List Revocation
deriving DecidableEq, Repr

-- `node` is the one the allocator returns if the call needs one; `clear` is also the destructor
inductive RouteEvent where
  | construct (dest mask : IPAddress) (device : Nat) (metric : UInt8) (immortal : Bool) (node : Nat)
  | keepAlive (object node : Nat)
  | clear
  | elapse (now : Int)
  | runAlarmEvent
deriving DecidableEq, Repr

namespace Route

def isValid (route : Route) : Bool := decide (route.metric < infinity)

def revokeRoute (route : Route) : Route := { route with metric := infinity }

def refresh (now : Int) (route : Route) : Route :=
  if route.isValid then
    { route with
      refreshed := now
      anchor := if now - route.anchor < fromSeconds 1 then route.anchor else now }
  else route

end Route

namespace Routes

def start (now : Int) : Routes := ⟨⟨⟨[], now, ⟨0, [], []⟩⟩, [], .idle⟩, [], 0, []⟩

def now (routes : Routes) : Int := routes.registry.server.now

def construct (build : Build) (routes : Routes) (dest mask : IPAddress) (device : Nat)
    (metric : UInt8) (immortal : Bool) (node : Nat) : Outcome Routes := do
  let object := routes.objects
  let entry (ttlAlarm : Option Nat) : Route :=
    ⟨⟨object, dest, mask, device, metric, ttlAlarm⟩, routes.now, routes.now⟩
  if immortal then
    pure { routes with entries := routes.entries ++ [entry none], objects := object + 1 }
  else do
    let registry ← routes.registry.call build (.create object)
    let registry ← registry.call build (.set object (registry.server.now + validInterval) node)
    pure { routes with
      registry := registry
      entries := routes.entries ++ [entry (some object)]
      objects := object + 1 }

def keepAlive (build : Build) (routes : Routes) (route : Route) (node : Nat) : Outcome Routes :=
  match route.ttlAlarm with
  | none => .done routes
  | some alarm => do
      let registry ← routes.registry.call build
        (.update alarm (routes.now + validInterval) (fromSeconds 1) node)
      pure { routes with
        registry := registry
        entries := replaceAt (·.object) route.object (Route.refresh routes.now) routes.entries }

/-- `onAlarm` of the delegate: a call through the pointer to the entry. -/
def onAlarm (routes : Routes) (alarm : Nat) : Outcome Routes :=
  match entryAt (·.object) alarm routes.entries with
  | none => .outOfBounds
  | some route => .done
      { routes with
        entries := replaceAt (·.object) alarm Route.revokeRoute routes.entries
        revocations := ⟨route.refreshed, routes.now⟩ :: routes.revocations }

/-- The loop of `runAlarmEvent`, for a number of rounds. -/
def rounds : Nat → Routes → Outcome Routes
  | 0, routes => .done routes
  | count + 1, routes => do
      let registry ← routes.registry.advance
      let routes := { routes with registry := registry }
      match registry.phase with
      | .idle => pure routes
      | .looping => routes.rounds count
      | .firing entry => do
          let routes ← routes.onAlarm entry.alarm
          let registry ← routes.registry.returned entry
          rounds count { routes with registry := registry }

-- a round that is not the last erases an entry of the map
def runAlarmEvent (routes : Routes) : Outcome Routes :=
  rounds (routes.registry.server.alarmMap.length + 1)
    { routes with registry.phase := .looping }

/-- One event. What the state does not offer does not happen. -/
def step (build : Build) (routes : Routes) (event : RouteEvent) : Outcome Routes :=
  match event with
  | .construct dest mask device metric immortal node =>
      if routes.registry.unused node then
        routes.construct build dest mask device metric immortal node
      else .done routes
  | .keepAlive object node =>
      match entryAt (·.object) object routes.entries with
      | none => .done routes
      | some route =>
          if (routes.registry.vacated route.object).unused node then
            routes.keepAlive build route node
          else .done routes
  | .clear => .done { routes with entries := [] }
  | .elapse now => .done { routes with registry.server.now := now }
  | .runAlarmEvent => routes.runAlarmEvent

end Routes

end LabNetstack
