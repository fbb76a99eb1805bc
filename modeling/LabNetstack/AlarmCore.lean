import Mathlib.Tactic.Common

/-! `Alarm` of src/base. An alarm is set when its deadline is not the time zero. -/

namespace LabNetstack

abbrev TimeBase := Int

def fromSeconds (seconds : Int) : Int := seconds * 1000 * 1000

structure Alarm where
  deadline : TimeBase
deriving DecidableEq, Repr

namespace Alarm

def isSet (alarm : Alarm) : Bool := alarm.deadline != 0

def set (_ : Alarm) (newDeadline : TimeBase) : Alarm := ⟨newDeadline⟩

def cancel (alarm : Alarm) : Alarm := if alarm.isSet then ⟨0⟩ else alarm

-- the default granularity is one millisecond
def update (alarm : Alarm) (newDeadline : TimeBase) : Alarm :=
  if newDeadline == 0 then alarm.cancel
  else if (newDeadline - alarm.deadline).natAbs < 1000 then alarm
  else ⟨newDeadline⟩

end Alarm

end LabNetstack
