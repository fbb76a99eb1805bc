import LabNetstack.ProtocolStackCore

/-! `RandGenerator` of src/base, and the port that `_socket` draws from it. -/

namespace LabNetstack

structure RandGenerator where
  seed : UInt32
  rand_ : UInt32
deriving DecidableEq, Repr

namespace RandGenerator

def create (seed : UInt32) : RandGenerator := ⟨seed, seed⟩

/-! The locals of `rand`. -/

def low (generator : RandGenerator) : UInt32 := (generator.rand_ &&& 0x7fff) * 48271

def high (generator : RandGenerator) : UInt32 := (generator.rand_ >>> 15) * 48271

def x (generator : RandGenerator) : UInt32 :=
  generator.low + ((generator.high &&& 0xffff) <<< 15) + (generator.high >>> 16)

def rand (generator : RandGenerator) : UInt32 × RandGenerator :=
  let rand := (generator.x &&& (0x7fffffff : UInt32)) + (generator.x >>> 31)
  (rand, { generator with rand_ := rand })

-- the remainder by zero ends the process
def randBetween (build : Build) (generator : RandGenerator) (lower upper : UInt32) :
    Outcome (UInt32 × RandGenerator) := do
  dcheck build (lower < upper)
  Outcome.require (upper - lower != 0)
  let (rand, generator) := generator.rand
  pure (lower + rand % (upper - lower), generator)

def randBelow (build : Build) (generator : RandGenerator) (upper : UInt32) :
    Outcome (UInt32 × RandGenerator) :=
  generator.randBetween build 0 upper

end RandGenerator

-- the argument of `SocketAddress` narrows what was drawn
def ProtocolStack.socketDrawn (build : Build) (stack : ProtocolStack) (generator : RandGenerator)
    (domain type protocol : Int32) (fd : FileDescriptor) (address : Nat) :
    Outcome (Reply × ProtocolStack × RandGenerator) :=
  if domain != 2 || type != 1 || (protocol != 0 && protocol != 6) then
    .done (.real, stack, generator)
  else do
    let (drawn, generator) ← generator.randBetween build 49162 65536
    let (reply, stack) ← stack.socket build domain type protocol fd drawn.toUInt16 address
    pure (reply, stack, generator)

end LabNetstack
