import LabNetstack.Transitions
import LabNetstack.WaitQueue

/-! The messages of a session to the threads that are blocked in `_write` on its socket:
`SocketStruct::onMessage`, `waitMessage`, `isErrorMessage` and the loop of `ProtocolStack::_write`.
Every step here is made under the mutex. What `SocketSession::send` returns is an argument. -/

namespace LabNetstack

abbrev CallbackMessage := UInt32

def READABLE : CallbackMessage := 0x001

def WRITABLE : CallbackMessage := 0x002

def CLOSING : CallbackMessage := 0x008

def RESET : CallbackMessage := 0x010

inductive WriteResult where
  | sent (count : UInt64)
  | connAborted
deriving DecidableEq, Repr

inductive SignalRecord where
  | signalled (message : CallbackMessage)
  | waits (thread : Nat)
deriving DecidableEq, Repr

-- no code reads `log`, the messages and waits so far with the last one first, or `returned`
structure SocketSignals where
  message : CallbackMessage
  closing : Bool
  cond : WaitQueue Nat
  log : List SignalRecord
  returned : List (Nat × WriteResult)
deriving DecidableEq, Repr

/-- `write` is a thread that has passed the tests of `_write`, `resume` one whose wait is over.
In both, `sent` is what `send` takes when it is called. -/
inductive SignalEvent where
  | onMessage (message : CallbackMessage) (pick : Nat)
  | write (thread : Nat) (sent : UInt64)
  | resume (thread : Nat) (sent : UInt64)
  | spurious (thread : Nat)
deriving DecidableEq, Repr

namespace SocketSignals

-- the constructor leaves `message_` as it is
def create (message : CallbackMessage) : SocketSignals := ⟨message, false, .empty, [], []⟩

def onMessage (signals : SocketSignals) (message : CallbackMessage) (pick : Nat) :
    SocketSignals :=
  { signals with
    message := signals.message ||| message
    closing := signals.closing || message == CLOSING
    cond := signals.cond.notifyOne pick
    log := .signalled message :: signals.log }

def waitMessage (signals : SocketSignals) (thread : Nat) : SocketSignals :=
  { signals with
    message := 0
    cond := signals.cond.wait thread
    log := .waits thread :: signals.log }

def carries (mask message : CallbackMessage) : Bool := message &&& mask != 0

def errorMask : CallbackMessage := ~~~(READABLE ||| WRITABLE)

def isErrorMessage (signals : SocketSignals) : Bool := carries errorMask signals.message

def return_ (signals : SocketSignals) (thread : Nat) (result : WriteResult) : SocketSignals :=
  { signals with returned := signals.returned ++ [(thread, result)] }

def write (signals : SocketSignals) (thread : Nat) (sent : UInt64) : SocketSignals :=
  if sent > 0 then signals.return_ thread (.sent sent) else signals.waitMessage thread

-- the body of the loop, after the wait
def writeAgain (signals : SocketSignals) (thread : Nat) (sent : UInt64) : SocketSignals :=
  if carries WRITABLE signals.message && sent > 0 then signals.return_ thread (.sent sent)
  else if signals.isErrorMessage then signals.return_ thread .connAborted
  else signals.waitMessage thread

def step (signals : SocketSignals) : SignalEvent → SocketSignals
  | .onMessage message pick => signals.onMessage message pick
  | .write thread sent =>
      if thread ∈ signals.cond.blocked then signals else signals.write thread sent
  | .resume thread sent =>
      if thread ∈ signals.cond.woken then
        writeAgain { signals with cond := signals.cond.leave thread } thread sent
      else signals
  | .spurious thread => { signals with cond := signals.cond.wake thread }

def run (signals : SocketSignals) (events : List SignalEvent) : SocketSignals :=
  runEvents step signals events

/-! The messages since the last wait of any thread, and since the last wait of one thread. -/

def recent : List SignalRecord → List CallbackMessage
  | .signalled message :: log => message :: recent log
  | _ => []

def due (thread : Nat) : List SignalRecord → List CallbackMessage
  | [] => []
  | .signalled message :: log => message :: due thread log
  | .waits other :: log => if other = thread then [] else due thread log

/-- Another thread has begun to wait after the last message of a kind that the thread was to hear. -/
def Overtaken (mask : CallbackMessage) (thread : Nat) (log : List SignalRecord) : Prop :=
  ∃ later other earlier, log = later ++ .waits other :: earlier ∧ other ≠ thread ∧
    .waits thread ∉ later ∧ (∀ message, .signalled message ∈ later → carries mask message = false) ∧
    (due thread earlier).any (carries mask) = true

section Logs

variable {mask message : CallbackMessage} {thread other : Nat} {log : List SignalRecord}

theorem carries_or (mask first second : CallbackMessage) :
    carries mask (first ||| second) = (carries mask first || carries mask second) := by
  have split : (first ||| second) &&& mask = (first &&& mask) ||| (second &&& mask) :=
    UInt32.toBitVec_inj.mp BitVec.and_or_distrib_right
  rw [Bool.eq_iff_iff, Bool.or_eq_true]
  simp only [carries, bne_iff_ne, ne_eq, split, UInt32.or_eq_zero_iff]
  tauto

theorem overtaken_signalled :
    Overtaken mask thread (.signalled message :: log) ↔
      carries mask message = false ∧ Overtaken mask thread log := by
  constructor
  · rintro ⟨later, other, earlier, split, different, unwaited, silent, missed⟩
    cases later with
    | nil => cases split
    | cons record later =>
        cases split
        refine ⟨silent message List.mem_cons_self, later, other, earlier, rfl, different, ?_, ?_,
          missed⟩
        · exact fun member => unwaited (List.mem_cons_of_mem _ member)
        · exact fun message member => silent message (List.mem_cons_of_mem _ member)
  · rintro ⟨quiet, later, other, earlier, rfl, different, unwaited, silent, missed⟩
    refine ⟨.signalled message :: later, other, earlier, rfl, different, ?_, ?_, missed⟩
    · simpa using unwaited
    · intro message member
      rcases List.mem_cons.mp member with same | member
      · cases same
        exact quiet
      · exact silent message member

theorem overtaken_waits (different : other ≠ thread)
    (missed : (due thread log).any (carries mask) = true) :
    Overtaken mask thread (.waits other :: log) :=
  ⟨[], other, log, rfl, different, by simp, by simp, missed⟩

/-- What is left of the messages has a kind that a thread was to hear of, unless another wait came
after it. -/
theorem recent_carries_iff (mask : CallbackMessage) (thread : Nat) (log : List SignalRecord) :
    (recent log).any (carries mask) = true ↔
      (due thread log).any (carries mask) = true ∧ ¬Overtaken mask thread log := by
  induction log with
  | nil => simp [recent, due]
  | cons record log ih =>
      cases record with
      | signalled message =>
          simp only [recent, due, List.any_cons, Bool.or_eq_true, ih, overtaken_signalled]
          cases carries mask message <;> simp
      | waits other =>
          refine iff_of_false (by simp [recent]) ?_
          rintro ⟨heard, missed⟩
          by_cases same : other = thread
          · simp [due, same] at heard
          · rw [due, if_neg same] at heard
            exact missed (overtaken_waits same heard)

end Logs

/-- `message_` holds the messages since the last wait, and a blocked thread has waited. -/
structure Heard (signals : SocketSignals) : Prop where
  waited : ∀ thread ∈ signals.cond.blocked, .waits thread ∈ signals.log
  recent : ∀ thread, .waits thread ∈ signals.log → ∀ mask,
    carries mask signals.message = (SocketSignals.recent signals.log).any (carries mask)

variable {signals : SocketSignals}

theorem Heard.onMessage (heard : signals.Heard) (message : CallbackMessage) (pick : Nat) :
    (signals.onMessage message pick).Heard where
  waited thread member :=
    List.mem_cons_of_mem _ (heard.waited thread (WaitQueue.mem_blocked_wake.mp member))
  recent thread waited mask := by
    have before : .waits thread ∈ signals.log := by simpa [SocketSignals.onMessage] using waited
    simp only [SocketSignals.onMessage, carries_or, SocketSignals.recent, List.any_cons,
      heard.recent thread before mask]
    exact Bool.or_comm _ _

theorem Heard.waitMessage (heard : signals.Heard) (thread : Nat) :
    (signals.waitMessage thread).Heard where
  waited other member := by
    rcases WaitQueue.mem_blocked_wait.mp member with rfl | member
    · exact List.mem_cons_self
    · exact List.mem_cons_of_mem _ (heard.waited other member)
  recent other _ mask := by
    simp [SocketSignals.waitMessage, carries, SocketSignals.recent]

theorem Heard.of_blocked (heard : signals.Heard) {cond : WaitQueue Nat}
    (fewer : ∀ thread ∈ cond.blocked, thread ∈ signals.cond.blocked)
    (returned : List (Nat × WriteResult)) :
    Heard { signals with cond := cond, returned := returned } :=
  ⟨fun thread member => heard.waited thread (fewer thread member), heard.recent⟩

theorem Heard.step (heard : signals.Heard) (event : SignalEvent) : (signals.step event).Heard := by
  cases event with
  | onMessage message pick => exact heard.onMessage message pick
  | write thread sent =>
      simp only [SocketSignals.step, SocketSignals.write]
      split
      · exact heard
      · split
        · exact heard.of_blocked (fun _ member => member) _
        · exact heard.waitMessage thread
  | resume thread sent =>
      simp only [SocketSignals.step]
      split
      · have left : Heard { signals with cond := signals.cond.leave thread } :=
          heard.of_blocked (fun _ => WaitQueue.mem_blocked_leave) signals.returned
        unfold writeAgain
        split
        · exact left.of_blocked (fun _ member => member) _
        · split
          · exact left.of_blocked (fun _ member => member) _
          · exact left.waitMessage thread
      · exact heard
  | spurious thread =>
      exact heard.of_blocked (fun _ => WaitQueue.mem_blocked_wake.mp) signals.returned

theorem run_heard (message : CallbackMessage) (events : List SignalEvent) :
    ((create message).run events).Heard := by
  have fresh : (create message).Heard :=
    ⟨fun thread member => absurd member (by simp [create, WaitQueue.empty, WaitQueue.blocked]),
      fun thread member => absurd member (by simp [create])⟩
  exact runEvents_invariant (fun _ event heard _ => heard.step event) fresh (permitted_true _ _ _)

/-- A writer that was woken finds a kind of message in `message_` exactly if one came since it began
to wait and no other thread has begun to wait on the socket after the last of them. -/
theorem writer_hears_iff (message : CallbackMessage) (events : List SignalEvent) (thread : Nat)
    (woken : thread ∈ ((create message).run events).cond.woken) (mask : CallbackMessage) :
    let signals := (create message).run events
    carries mask signals.message = true ↔
      (due thread signals.log).any (carries mask) = true ∧ ¬Overtaken mask thread signals.log := by
  intro signals
  have heard := run_heard message events
  have waited := heard.waited thread (List.mem_append_right _ woken)
  rw [heard.recent thread waited mask]
  exact recent_carries_iff mask thread signals.log

/-! A message wakes one thread at most, so that all but one of those that wait go on waiting. -/

def silent : SignalEvent → Bool
  | .write _ _ | .resume _ _ => true
  | _ => false

theorem step_waiting {event : SignalEvent} (quiet : silent event = true) {thread : Nat}
    (waits : thread ∈ signals.cond.waiting) : thread ∈ (signals.step event).cond.waiting := by
  cases event with
  | onMessage message pick => cases quiet
  | spurious thread => cases quiet
  | write other sent =>
      simp only [SocketSignals.step, SocketSignals.write]
      split
      · exact waits
      · split
        · exact waits
        · exact List.mem_append_left _ waits
  | resume other sent =>
      simp only [SocketSignals.step, writeAgain]
      split
      · split
        · exact waits
        · split
          · exact waits
          · exact List.mem_append_left _ waits
      · exact waits

theorem run_waiting {events : List SignalEvent} (quiet : ∀ event ∈ events, silent event = true)
    {thread : Nat} (waits : thread ∈ signals.cond.waiting) :
    thread ∈ (signals.run events).cond.waiting := by
  induction events generalizing signals with
  | nil => exact waits
  | cons event events ih =>
      exact ih (fun other member => quiet other (List.mem_cons_of_mem event member))
        (step_waiting (quiet event List.mem_cons_self) waits)

theorem onMessage_waiting (message : CallbackMessage) (pick : Nat) {events : List SignalEvent}
    (quiet : ∀ event ∈ events, silent event = true) {thread : Nat}
    (passed : thread ∈ signals.cond.waiting.erase (signals.cond.chosen pick)) :
    thread ∈ ((signals.onMessage message pick).run events).cond.waiting := by
  have left : (signals.onMessage message pick).cond.waiting =
      signals.cond.waiting.erase (signals.cond.chosen pick) := WaitQueue.wake_waiting _ _
  exact run_waiting quiet (left ▸ passed)

/-- An error can release every writer that waits exactly if at most one does: as long as no further
message comes, those that it does not notify never return. -/
theorem error_releases_iff (signals : SocketSignals) (idle : signals.cond.woken = [])
    (message : CallbackMessage) (error : carries errorMask message = true) (pick : Nat) :
    ((∃ events, (∀ event ∈ events, silent event = true) ∧ ∀ thread ∈ signals.cond.waiting,
        thread ∉ ((signals.onMessage message pick).run events).cond.blocked) ↔
      signals.cond.waiting.length ≤ 1) ∧
    ∀ events, (∀ event ∈ events, silent event = true) → ∀ thread ∈ signals.cond.waiting,
      thread ≠ signals.cond.chosen pick →
      thread ∈ ((signals.onMessage message pick).run events).cond.waiting := by
  refine ⟨⟨?_, ?_⟩, fun events quiet thread waits apart =>
    onMessage_waiting message pick quiet ((List.mem_erase_of_ne apart).mpr waits)⟩
  · rintro ⟨events, quiet, released⟩
    by_contra many
    have someone : signals.cond.waiting ≠ [] := by
      intro none
      simp [none] at many
    have member := WaitQueue.chosen_mem pick someone
    obtain ⟨other, stays⟩ : ∃ other, other ∈ signals.cond.waiting.erase
        (signals.cond.chosen pick) := by
      apply List.exists_mem_of_length_pos
      rw [List.length_erase_of_mem member]
      omega
    have blocked := onMessage_waiting message pick quiet stays
    exact released other (List.mem_of_mem_erase stays) (List.mem_append_left _ blocked)
  · intro few
    cases threads : signals.cond.waiting with
    | nil => exact ⟨[], by simp, by simp⟩
    | cons thread rest =>
        have alone : rest = [] := by
          rw [threads, List.length_cons] at few
          exact List.eq_nil_of_length_eq_zero (by omega)
        subst alone
        have member := WaitQueue.chosen_mem pick (threads ▸ List.cons_ne_nil thread [])
        rw [threads, List.mem_singleton] at member
        have cond : (signals.onMessage message pick).cond = ⟨[], [thread]⟩ := by
          simp [SocketSignals.onMessage, WaitQueue.notifyOne, member, WaitQueue.wake, threads, idle]
        have heard : carries errorMask (signals.onMessage message pick).message = true := by
          simp [SocketSignals.onMessage, carries_or, error]
        refine ⟨[.resume thread 0], by simp [silent], fun other _ => ?_⟩
        simp [SocketSignals.run, SocketSignals.step, cond, writeAgain, isErrorMessage, heard, return_,
          WaitQueue.leave, WaitQueue.blocked]

-- two writers find no room, then the connection is reset and the first of them is woken
def blockedWriters : List SignalEvent := [.write 1 0, .write 2 0, .onMessage RESET 1]

theorem blockedWriter_hears :
    let signals := (create 7).run blockedWriters
    1 ∈ signals.cond.woken ∧ carries errorMask signals.message = true ∧
      ¬Overtaken errorMask 1 signals.log := by
  have woken : 1 ∈ ((create 7).run blockedWriters).cond.woken := by decide
  have heard : carries errorMask ((create 7).run blockedWriters).message = true := by decide
  exact ⟨woken, heard, ((writer_hears_iff 7 blockedWriters 1 woken errorMask).mp heard).2⟩

theorem loneWriter_released :
    let signals := (create 7).run [.write 1 0]
    signals.cond.woken = [] ∧ signals.cond.waiting = [1] ∧
      ∃ events, (∀ event ∈ events, silent event = true) ∧ ∀ thread ∈ signals.cond.waiting,
        thread ∉ ((signals.onMessage RESET 1).run events).cond.blocked := by
  have idle : ((create 7).run [.write 1 0]).cond.woken = [] := by decide
  have waiting : ((create 7).run [.write 1 0]).cond.waiting = [1] := by decide
  have few : ((create 7).run [.write 1 0]).cond.waiting.length ≤ 1 := by rw [waiting]; decide
  exact ⟨idle, waiting, (error_releases_iff _ idle RESET (by decide) 1).1.mpr few⟩

end SocketSignals

end LabNetstack
