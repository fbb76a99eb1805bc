import LabNetstack.Executions
import LabNetstack.SendBufferCore

/-! `SocketSession` of src/tcp, as far as the repository fills it in. Its control block is the
one of the send buffer. -/

namespace LabNetstack

inductive ConnectionState where
  | listen
  | synSent
  | synReceived
  | established
  | finWait1
  | finWait2
  | closeWait
  | closing
  | lastAck
  | timeWait
  | closed
deriving DecidableEq, Repr

structure SocketSession where
  state : ConnectionState
  sendBuffer : SendBuffer

namespace SocketSession

-- the send buffer is left with the addresses of its own constructor
def create (local_ remote : SocketAddress) (now : TimeBase) : SocketSession :=
  { state := .closed
    sendBuffer := SendBuffer.create ⟨local_, remote⟩ ⟨⟨0, 0, 0⟩, ⟨0, 0, false⟩⟩ now }

def getLocalAddress (session : SocketSession) : SocketAddress :=
  session.sendBuffer.factory.localAddress

def getRemoteAddress (session : SocketSession) : SocketAddress :=
  session.sendBuffer.factory.remoteAddress

def isClosed (session : SocketSession) : Bool := session.state == .closed

def sendSegmentNow (env : Surroundings) (session : SocketSession) (segment : Segment) :
    SocketSession :=
  { session with sendBuffer := (session.sendBuffer.sendSegment env segment).2 }

-- the `switch` of the source has no case
def onSegmentArrival (session : SocketSession) (_ : Segment) : SocketSession := session

-- `initial` is what the random generator returns
def onSegmentArrivalLISTEN (env : Surroundings) (session : SocketSession) (segment : Segment)
    (initial : SequenceNumber) : SocketSession :=
  if segment.isRST then session
  else if segment.isACK then
    session.sendSegmentNow env
      (session.sendBuffer.factory.createControl segment.acknowledgment 0 Segment.RST)
  else if segment.isSYN then
    let sendBuffer : SendBuffer := { session.sendBuffer with
      tcb.receive := ⟨segment.sequence + 1, segment.sequence, true⟩ }
    { state := .synReceived
      sendBuffer := sendBuffer.sendSYN env initial }
  else session

def open_ (env : Surroundings) (session : SocketSession) (initial : SequenceNumber) :
    Outcome SocketSession :=
  if session.state != .closed then .aborted
  else .done
    { state := .synSent
      sendBuffer := session.sendBuffer.sendSYN env initial }

def openWith (session : SocketSession) (segment : Segment) : Outcome SocketSession :=
  if session.state != .closed then .aborted
  else .done (({ session with state := .listen } : SocketSession).onSegmentArrival segment)

def close (env : Surroundings) (session : SocketSession) : Outcome SocketSession :=
  match session.state with
  | .closed | .listen | .synSent => .done { session with state := .closed }
  | .synReceived | .established => .done
      { state := .finWait1
        sendBuffer := session.sendBuffer.sendFIN env }
  | .finWait1 | .finWait2 | .closing | .lastAck | .timeWait => .aborted
  | .closeWait => .done
      { state := .lastAck
        sendBuffer := session.sendBuffer.sendFIN env }

def enterCLOSED (session : SocketSession) : SocketSession := { session with state := .closed }

end SocketSession

/-! What can happen to a session. `listen` is a segment handled as in the state LISTEN, and
`fire` its retransmission timer. -/

inductive SessionEvent where
  | open_ (initial : SequenceNumber)
  | openWith (segment : Segment)
  | listen (segment : Segment) (initial : SequenceNumber)
  | close
  | enterCLOSED
  | fire (now : TimeBase)
deriving DecidableEq, Repr

namespace SocketSession

def step (env : Surroundings) (session : SocketSession) : SessionEvent → Outcome SocketSession
  | .open_ initial => session.open_ env initial
  | .openWith segment => session.openWith segment
  | .listen segment initial => .done (session.onSegmentArrivalLISTEN env segment initial)
  | .close => session.close env
  | .enterCLOSED => .done session.enterCLOSED
  | .fire now => .done { session with sendBuffer := session.sendBuffer.fire env now }

def run (env : Surroundings) (session : SocketSession) (events : List SessionEvent) :
    Outcome SocketSession :=
  execute (step env) session events

end SocketSession

end LabNetstack
