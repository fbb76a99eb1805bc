import LabNetstack.Executions

/-! The programs of eval/ against each other. `rattle_client` writes a whole line and then reads as
many bytes (`writen` and `readn` of unp.c), `echo_server` writes back what it reads (`str_echo`). A
pipe of bounded size leads each way. A system call moves as many bytes as the kernel likes, or a
signal interrupts it; no other call fails before the client is done. -/

namespace LabNetstack

def MAXLINE : Nat := 4096

-- the loop of `writen`; `ptr` is counted from `buff`
structure Writen where
  buff : List UInt8
  ptr : Nat
  nleft : Nat
deriving DecidableEq, Repr

namespace Writen

def start (buff : List UInt8) : Writen := ⟨buff, 0, buff.length⟩

def target (loop : Writen) : List UInt8 := loop.buff.drop loop.ptr

def wrote (loop : Writen) (nwritten : Nat) : Writen :=
  { loop with ptr := loop.ptr + nwritten, nleft := loop.nleft - nwritten }

-- on EINTR `nwritten` is -1, and it is taken off `nleft` and added to `ptr` all the same
def interrupted (loop : Writen) : Outcome Writen :=
  if loop.ptr = 0 then .outOfBounds
  else .done { loop with ptr := loop.ptr - 1, nleft := loop.nleft + 1 }

end Writen

-- the loop of `readn`; `buff` holds the bytes it has stored
structure Readn where
  buff : List UInt8
  nleft : Nat
deriving DecidableEq, Repr

-- on EINTR `nread` becomes 0, so that an interrupted call changes nothing
def Readn.read (loop : Readn) (bytes : List UInt8) : Readn :=
  ⟨loop.buff ++ bytes, loop.nleft - bytes.length⟩

structure Pipes where
  up : Nat
  down : Nat
  upPos : 0 < up
  downPos : 0 < down

-- no code reads `repeats`, the number of writes that were interrupted
structure Echo where
  sending : Writen
  receiving : Readn
  up : List UInt8
  answering : Writen
  down : List UInt8
  repeats : Nat
deriving DecidableEq, Repr

/-- `count + 1` is the most that the kernel moves in the call. -/
inductive EchoEvent where
  | clientWrite (count : Nat)
  | serverRead (count : Nat)
  | serverWrite (count : Nat)
  | clientRead (count : Nat)
  | interruptClient
  | interruptServer
deriving DecidableEq, Repr

namespace EchoEvent

def moves : EchoEvent → Bool
  | interruptClient | interruptServer => false
  | _ => true

end EchoEvent

namespace Echo

def start (line : List UInt8) : Echo :=
  ⟨Writen.start line, ⟨[], line.length⟩, [], Writen.start [], [], 0⟩

def writeUp (pipes : Pipes) (run : Echo) (count : Nat) : Echo :=
  let nwritten := min (count + 1) (min run.sending.nleft (pipes.up - run.up.length))
  { run with
    sending := run.sending.wrote nwritten
    up := run.up ++ run.sending.target.take nwritten }

-- the server reads when it has written back all of what it read before
def readUp (run : Echo) (count : Nat) : Echo :=
  let n := min (count + 1) (min MAXLINE run.up.length)
  if run.answering.nleft = 0 ∧ 0 < n then
    { run with answering := Writen.start (run.up.take n), up := run.up.drop n }
  else run

def writeDown (pipes : Pipes) (run : Echo) (count : Nat) : Echo :=
  let nwritten := min (count + 1) (min run.answering.nleft (pipes.down - run.down.length))
  { run with
    answering := run.answering.wrote nwritten
    down := run.down ++ run.answering.target.take nwritten }

-- the client reads when it has written its line
def readDown (run : Echo) (count : Nat) : Echo :=
  let nread := min (count + 1) (min run.receiving.nleft run.down.length)
  if run.sending.nleft = 0 then
    { run with receiving := run.receiving.read (run.down.take nread), down := run.down.drop nread }
  else run

def step (pipes : Pipes) (run : Echo) : EchoEvent → Outcome Echo
  | .clientWrite count => .done (run.writeUp pipes count)
  | .serverRead count => .done (run.readUp count)
  | .serverWrite count => .done (run.writeDown pipes count)
  | .clientRead count => .done (run.readDown count)
  | .interruptClient =>
      if run.sending.nleft = 0 then .done run
      else do
        let sending ← run.sending.interrupted
        pure { run with sending := sending, repeats := run.repeats + 1 }
  | .interruptServer =>
      if run.answering.nleft = 0 then .done run
      else do
        let answering ← run.answering.interrupted
        pure { run with answering := answering, repeats := run.repeats + 1 }

def complete (run : Echo) : Prop := run.sending.nleft = 0 ∧ run.receiving.nleft = 0

-- what was written and has not come back yet, the oldest first
def inFlight (run : Echo) : List UInt8 := run.down ++ (run.answering.target ++ run.up)

/-- The client is not done, and no call can move anything. -/
def Stuck (pipes : Pipes) (run : Echo) : Prop :=
  ¬run.complete ∧ ∀ event : EchoEvent, event.moves = true → run.step pipes event = .done run

end Echo

end LabNetstack
