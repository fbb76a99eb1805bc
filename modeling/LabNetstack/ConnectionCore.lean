import LabNetstack.SendBufferCore

/-! A whole connection: a send buffer driven by its timer, the other end as RFC 793 describes it,
and between them a network that loses, repeats and reorders what it was given. The other end is the
environment of the sender; the repository leaves its own receiving half open. -/

namespace LabNetstack

structure Receiver where
  space : ReceiveSpace
  received : List UInt8
  finished : Bool
deriving DecidableEq, Repr

namespace Receiver

def listening : Receiver := ⟨⟨0, 0, false⟩, [], false⟩

-- how far its acknowledgments have come, a FIN counting as one number
def count (receiver : Receiver) : Nat := receiver.received.length + receiver.finished.toNat

def accept (receiver : Receiver) (bytes : List UInt8) (fin : Bool) : Receiver :=
  let received := receiver.received ++ bytes
  { space := { receiver.space with
      next := receiver.space.next + UInt32.ofNat (bytes.length + fin.toNat) }
    received := received
    finished := fin }

-- the payload of a segment from the next expected number on, unless there is a gap before it
def fresh (receiver : Receiver) (segment : Segment) : Option (List UInt8) :=
  let known := (receiver.space.next - segment.sequence).toNat
  if receiver.space.lessOrEqual segment.sequence receiver.space.next &&
      decide (known ≤ segment.payload.length) then
    some (segment.payload.drop known)
  else none

def deliver (receiver : Receiver) (segment : Segment) : Receiver :=
  if !receiver.space.synReceived then
    if segment.isSYN then
      { receiver with space := ⟨segment.sequence + 1, segment.sequence, true⟩ }
    else receiver
  else if segment.isSYN || receiver.finished then receiver
  else
    match receiver.fresh segment with
    | some bytes => receiver.accept bytes segment.isFIN
    | none => receiver

end Receiver

-- no code reads `written`: the bytes `sendData` has accepted so far
structure Connection where
  sender : SendBuffer
  receiver : Receiver
  replies : List SequenceNumber
  written : List UInt8

/-! `deliver` and `acknowledge` name any packet that was ever accepted, and any acknowledgment that
was ever sent, by its place in the order of sending. -/

inductive ConnectionEvent where
  | sendData (data : Buffer)
  | sendFIN
  | transmit
  | fire (now : TimeBase)
  | deliver (packet : Nat)
  | reply
  | acknowledge (reply : Nat) (now : TimeBase)
  | receive (space : ReceiveSpace)
deriving DecidableEq, Repr

namespace Connection

def start (env : Surroundings) (opening : SendBuffer.Opening) : Connection :=
  ⟨SendBuffer.opened env opening, .listening, [], []⟩

-- RFC 793: SND.UNA < SEG.ACK =< SND.NXT
def acceptable (space : SendSpace) (ack : SequenceNumber) : Bool :=
  space.lessThan space.unack ack && space.lessOrEqual ack space.next

def step (env : Surroundings) (connection : Connection) : ConnectionEvent → Connection
  | .sendData data => { connection with
      sender := connection.sender.step env (.sendData data)
      written := connection.written ++ connection.sender.accepted env (.sendData data) }
  | .sendFIN => { connection with sender := connection.sender.step env .sendFIN }
  | .transmit => { connection with sender := connection.sender.step env .transmit }
  | .fire now => { connection with sender := connection.sender.fire env now }
  | .deliver packet =>
      match connection.sender.calls[packet]? with
      | some call =>
          if call.accepted then
            { connection with receiver := connection.receiver.deliver call.segment }
          else connection
      | none => connection
  | .reply =>
      if connection.receiver.space.synReceived then
        { connection with replies := connection.replies ++ [connection.receiver.space.next] }
      else connection
  | .acknowledge reply now =>
      match connection.replies[reply]? with
      | some ack =>
          if acceptable connection.sender.tcb.send ack then
            { connection with sender := connection.sender.step env (.acknowledge ack now) }
          else connection
      | none => connection
  | .receive space => { connection with sender := connection.sender.step env (.receive space) }

def run (env : Surroundings) (connection : Connection) (events : List ConnectionEvent) :
    Connection :=
  runEvents (step env) connection events

-- nothing is written after `sendFIN`, and the clock is not negative
def lawful (connection : Connection) : ConnectionEvent → Bool
  | .sendData _ => connection.sender.fin == .none
  | .sendFIN => connection.sender.fin == .none
  | .fire now => decide (0 ≤ now)
  | .acknowledge _ now => decide (0 ≤ now)
  | _ => true

def LawfulRun (env : Surroundings) (connection : Connection) (events : List ConnectionEvent) :
    Prop :=
  Permitted (step env) (fun state event => state.lawful event = true) connection events

/-! A round trip: the timer goes off, what it sends arrives in order, and an acknowledgment comes
back. -/

def roundTrip (env : Surroundings) (now : TimeBase) (connection : Connection) :
    List ConnectionEvent :=
  let sent := (connection.sender.fire env now).calls.length - connection.sender.calls.length
  .fire now :: (List.range' connection.sender.calls.length sent).map .deliver ++
    [.reply, .acknowledge connection.replies.length now]

def roundTrips (env : Surroundings) : List TimeBase → Connection → List ConnectionEvent
  | [], _ => []
  | now :: times, connection =>
      let events := connection.roundTrip env now
      events ++ roundTrips env times (connection.run env events)

-- one for the SYN, one for each window of queued bytes, one for the FIN
def roundsLeft (sender : SendBuffer) : Nat :=
  (if sender.syn = .sent then 1 else 0) +
    (sender.buffer.remaining + (kMaxBytesInFlight.toNat - 1)) / kMaxBytesInFlight.toNat +
    (if sender.fin = .sent then 1 else 0)

end Connection

end LabNetstack
