import LabNetstack.EchoCore

/-! What comes back from `echo_server`, and when both programs wait for each other. -/

namespace LabNetstack

namespace Echo

variable {pipes : Pipes} {line : List UInt8} {run next : Echo}

/-- Nothing is lost between the two loops of the client, and nothing comes twice unless a write was
interrupted. -/
structure Conserves (line : List UInt8) (run : Echo) : Prop where
  written : run.sending.buff = line
  sent : run.sending.ptr + run.sending.nleft = line.length
  held : run.answering.ptr + run.answering.nleft = run.answering.buff.length
  expected : run.receiving.buff.length + run.receiving.nleft = line.length
  counted : run.receiving.buff.length + run.inFlight.length = run.sending.ptr + run.repeats
  ordered : run.repeats = 0 → run.receiving.buff ++ run.inFlight = line.take run.sending.ptr

theorem Conserves.held_length (conserves : run.Conserves line) :
    run.answering.target.length = run.answering.nleft := by
  have held := conserves.held
  rw [Writen.target, List.length_drop]
  omega

theorem inFlight_length (conserves : run.Conserves line) :
    run.inFlight.length = run.down.length + run.answering.nleft + run.up.length := by
  rw [inFlight, List.length_append, List.length_append, conserves.held_length, Nat.add_assoc]

theorem start_conserves (line : List UInt8) : (start line).Conserves line :=
  ⟨rfl, Nat.zero_add _, rfl, Nat.zero_add _, rfl, fun _ => rfl⟩

/-! Each call moves bytes from one place to the next. -/

theorem Conserves.writeUp (conserves : run.Conserves line) (pipes : Pipes) (count : Nat) :
    (run.writeUp pipes count).Conserves line := by
  have sent := conserves.sent
  have counted := conserves.counted
  simp only [Echo.writeUp]
  generalize moved : min (count + 1) (min run.sending.nleft (pipes.up - run.up.length)) = nwritten
  have available : nwritten ≤ run.sending.nleft := by omega
  have target : run.sending.target = line.drop run.sending.ptr := by
    rw [Writen.target, conserves.written]
  have grown : (run.down ++ (run.answering.target ++
      (run.up ++ run.sending.target.take nwritten))) =
      run.inFlight ++ run.sending.target.take nwritten := by
    simp only [inFlight, List.append_assoc]
  refine ⟨conserves.written, ?_, conserves.held, conserves.expected, ?_, ?_⟩
  · simp only [Writen.wrote]
    omega
  · change run.receiving.buff.length + (run.down ++ (run.answering.target ++
      (run.up ++ run.sending.target.take nwritten))).length =
        run.sending.ptr + nwritten + run.repeats
    rw [grown, List.length_append, List.length_take, target, List.length_drop]
    omega
  · intro unrepeated
    change run.receiving.buff ++ (run.down ++ (run.answering.target ++
      (run.up ++ run.sending.target.take nwritten))) = line.take (run.sending.ptr + nwritten)
    rw [grown, ← List.append_assoc, conserves.ordered unrepeated, target, List.take_add]

theorem Conserves.readUp (conserves : run.Conserves line) (count : Nat) :
    (run.readUp count).Conserves line := by
  simp only [Echo.readUp]
  split
  · rename_i idle
    have nothing : run.answering.target = [] := by
      rw [← List.length_eq_zero_iff, conserves.held_length]
      exact idle.1
    generalize min (count + 1) (min MAXLINE run.up.length) = n
    have same : run.down ++ ((Writen.start (run.up.take n)).target ++ run.up.drop n) =
        run.inFlight := by
      rw [inFlight, nothing, Writen.target]
      simp [Writen.start]
    refine ⟨conserves.written, conserves.sent, Nat.zero_add _, conserves.expected, ?_, ?_⟩
    · change run.receiving.buff.length + (run.down ++ ((Writen.start (run.up.take n)).target ++
        run.up.drop n)).length = run.sending.ptr + run.repeats
      rw [same]
      exact conserves.counted
    · intro unrepeated
      change run.receiving.buff ++ (run.down ++ ((Writen.start (run.up.take n)).target ++
        run.up.drop n)) = _
      rw [same]
      exact conserves.ordered unrepeated
  · exact conserves

theorem Conserves.writeDown (conserves : run.Conserves line) (pipes : Pipes) (count : Nat) :
    (run.writeDown pipes count).Conserves line := by
  have held := conserves.held
  simp only [Echo.writeDown]
  generalize moved : min (count + 1) (min run.answering.nleft (pipes.down - run.down.length)) =
    nwritten
  have same : (run.down ++ run.answering.target.take nwritten) ++
      ((run.answering.wrote nwritten).target ++ run.up) = run.inFlight := by
    have later : (run.answering.wrote nwritten).target = run.answering.target.drop nwritten := by
      rw [Writen.target, Writen.target, List.drop_drop]
      rfl
    rw [later, inFlight, List.append_assoc, ← List.append_assoc (run.answering.target.take _),
      List.take_append_drop]
  refine ⟨conserves.written, conserves.sent, ?_, conserves.expected, ?_, ?_⟩
  · simp only [Writen.wrote]
    omega
  · change run.receiving.buff.length + ((run.down ++ run.answering.target.take nwritten) ++
      ((run.answering.wrote nwritten).target ++ run.up)).length = run.sending.ptr + run.repeats
    rw [same]
    exact conserves.counted
  · intro unrepeated
    change run.receiving.buff ++ ((run.down ++ run.answering.target.take nwritten) ++
      ((run.answering.wrote nwritten).target ++ run.up)) = _
    rw [same]
    exact conserves.ordered unrepeated

theorem Conserves.readDown (conserves : run.Conserves line) (count : Nat) :
    (run.readDown count).Conserves line := by
  have expected := conserves.expected
  simp only [Echo.readDown]
  split
  · generalize moved : min (count + 1) (min run.receiving.nleft run.down.length) = nread
    have length : (run.down.take nread).length = nread := by
      rw [List.length_take]
      omega
    have same : (run.receiving.buff ++ run.down.take nread) ++
        (run.down.drop nread ++ (run.answering.target ++ run.up)) =
          run.receiving.buff ++ run.inFlight := by
      rw [inFlight, List.append_assoc, ← List.append_assoc (run.down.take nread),
        List.take_append_drop]
    refine ⟨conserves.written, conserves.sent, conserves.held, ?_, ?_, ?_⟩
    · simp only [Readn.read, List.length_append, length]
      omega
    · change (run.receiving.buff ++ run.down.take nread).length +
        (run.down.drop nread ++ (run.answering.target ++ run.up)).length =
          run.sending.ptr + run.repeats
      rw [← List.length_append, same, List.length_append]
      exact conserves.counted
    · intro unrepeated
      change (run.receiving.buff ++ run.down.take nread) ++
        (run.down.drop nread ++ (run.answering.target ++ run.up)) = _
      rw [same]
      exact conserves.ordered unrepeated
  · exact conserves

theorem Conserves.step (conserves : run.Conserves line) {event : EchoEvent}
    (taken : run.step pipes event = .done next) : next.Conserves line := by
  have sent := conserves.sent
  have held := conserves.held
  have counted := conserves.counted
  cases event with
  | clientWrite count =>
      cases taken
      exact conserves.writeUp pipes count
  | serverRead count =>
      cases taken
      exact conserves.readUp count
  | serverWrite count =>
      cases taken
      exact conserves.writeDown pipes count
  | clientRead count =>
      cases taken
      exact conserves.readDown count
  | interruptClient =>
      simp only [Echo.step, Writen.interrupted] at taken
      split at taken
      · cases taken
        exact conserves
      · split at taken
        · cases taken
        · cases taken
          refine ⟨conserves.written, ?_, held, conserves.expected, ?_, fun none => ?_⟩
          · simp only
            omega
          · change run.receiving.buff.length + run.inFlight.length =
              run.sending.ptr - 1 + (run.repeats + 1)
            omega
          · exact absurd none (Nat.succ_ne_zero run.repeats)
  | interruptServer =>
      simp only [Echo.step, Writen.interrupted] at taken
      split at taken
      · cases taken
        exact conserves
      · split at taken
        · cases taken
        · cases taken
          refine ⟨conserves.written, sent, ?_, conserves.expected, ?_, fun none => ?_⟩
          · simp only
            omega
          · rw [inFlight_length conserves] at counted
            simp only [inFlight, Writen.target, List.length_append, List.length_drop]
            omega
          · exact absurd none (Nat.succ_ne_zero run.repeats)

theorem reached_conserves {events : List EchoEvent}
    (reached : execute (Echo.step pipes) (start line) events = .done run) : run.Conserves line :=
  execute_invariant (fun _ _ _ conserves (_ : True) taken => Conserves.step conserves taken)
    (start_conserves line) (allowed_of_forall (fun _ _ => trivial) _ _) reached

/-- When the client is done, what it lacks is what was sent twice. -/
theorem Conserves.returned (conserves : run.Conserves line) (complete : run.complete) :
    run.inFlight.length = run.repeats ∧
      (run.repeats = 0 → run.receiving.buff ++ run.inFlight = line) := by
  have sent := conserves.sent
  have expected := conserves.expected
  have counted := conserves.counted
  rw [complete.1] at sent
  rw [complete.2] at expected
  refine ⟨by omega, fun unrepeated => ?_⟩
  rw [conserves.ordered unrepeated]
  exact List.take_of_length_le (by omega)

/-- A call of `write` that was interrupted sends one byte twice: as many bytes too many are under
way when the client is done as such calls were made, and without one the line comes back as it
was. -/
theorem echoed_iff {events : List EchoEvent} {final : Echo}
    (reached : execute (Echo.step pipes) (start line) events = .done final)
    (complete : final.complete) :
    final.inFlight.length = final.repeats ∧
      (final.receiving.buff ++ final.inFlight = line ↔ final.repeats = 0) := by
  have conserves := reached_conserves reached
  obtain ⟨extra, whole⟩ := conserves.returned complete
  have expected := conserves.expected
  rw [complete.2] at expected
  refine ⟨extra, fun same => ?_, whole⟩
  have length := congrArg List.length same
  rw [List.length_append] at length
  omega

def smallPipes : Pipes := ⟨4, 4, by decide, by decide⟩

def interruptedWrite : List EchoEvent :=
  [.clientWrite 0, .interruptClient, .clientWrite 5, .serverRead 9, .serverWrite 9, .clientRead 9]

def repeatedByte : Echo := ⟨⟨[1, 2], 2, 0⟩, ⟨[1, 1], 0⟩, [], ⟨[1, 1, 2], 3, 0⟩, [2], 1⟩

theorem interruptedWrite_echoed :
    execute (Echo.step smallPipes) (start [1, 2]) interruptedWrite = .done repeatedByte ∧
      repeatedByte.complete ∧ repeatedByte.inFlight.length = repeatedByte.repeats ∧
        (repeatedByte.receiving.buff ++ repeatedByte.inFlight = [1, 2] ↔ repeatedByte.repeats = 0) :=
  have reached : execute (Echo.step smallPipes) (start [1, 2]) interruptedWrite =
    .done repeatedByte := by decide
  ⟨reached, ⟨rfl, rfl⟩, echoed_iff reached ⟨rfl, rfl⟩⟩

/-! The calls that move something can only be so many. -/

def work (run : Echo) : Nat :=
  4 * run.sending.nleft + 3 * run.up.length + 2 * run.answering.nleft + run.down.length

theorem writeUp_work (conserves : run.Conserves line) (pipes : Pipes) (count : Nat) :
    run.writeUp pipes count = run ∨ (run.writeUp pipes count).work < run.work := by
  have sent := conserves.sent
  simp only [writeUp]
  generalize moved : min (count + 1) (min run.sending.nleft (pipes.up - run.up.length)) = nwritten
  by_cases nothing : nwritten = 0
  · left
    subst nothing
    simp [Writen.wrote]
  · right
    simp only [work, Writen.wrote, Writen.target, conserves.written, List.length_append,
      List.length_take, List.length_drop]
    omega

theorem readUp_work (run : Echo) (count : Nat) :
    run.readUp count = run ∨ (run.readUp count).work < run.work := by
  simp only [readUp]
  split
  · right
    simp only [work, Writen.start, List.length_take, List.length_drop]
    omega
  · exact Or.inl rfl

theorem writeDown_work (conserves : run.Conserves line) (pipes : Pipes) (count : Nat) :
    run.writeDown pipes count = run ∨ (run.writeDown pipes count).work < run.work := by
  have held := conserves.held
  simp only [writeDown]
  generalize moved : min (count + 1) (min run.answering.nleft (pipes.down - run.down.length)) =
    nwritten
  by_cases nothing : nwritten = 0
  · left
    subst nothing
    simp [Writen.wrote]
  · right
    simp only [work, Writen.wrote, Writen.target, List.length_append, List.length_take,
      List.length_drop]
    omega

theorem readDown_work (run : Echo) (count : Nat) :
    run.readDown count = run ∨ (run.readDown count).work < run.work := by
  simp only [readDown]
  split
  · generalize moved : min (count + 1) (min run.receiving.nleft run.down.length) = nread
    by_cases nothing : nread = 0
    · left
      subst nothing
      simp [Readn.read]
    · right
      simp only [work, List.length_drop]
      omega
  · exact Or.inl rfl

theorem step_work (conserves : run.Conserves line) {event : EchoEvent} (moving : event.moves = true)
    (taken : run.step pipes event = .done next) : next = run ∨ next.work < run.work := by
  cases event with
  | clientWrite count =>
      cases taken
      exact writeUp_work conserves pipes count
  | serverRead count =>
      cases taken
      exact readUp_work run count
  | serverWrite count =>
      cases taken
      exact writeDown_work conserves pipes count
  | clientRead count =>
      cases taken
      exact readDown_work run count
  | interruptClient => cases moving
  | interruptServer => cases moving

theorem step_repeats {event : EchoEvent} (moving : event.moves = true)
    (taken : run.step pipes event = .done next) : next.repeats = run.repeats := by
  cases event with
  | clientWrite count =>
      cases taken
      rfl
  | serverRead count =>
      cases taken
      simp only [readUp]
      split <;> rfl
  | serverWrite count =>
      cases taken
      rfl
  | clientRead count =>
      cases taken
      simp only [readDown]
      split <;> rfl
  | interruptClient => cases moving
  | interruptServer => cases moving

/-- The event is a system call that moves something. -/
def Moving (pipes : Pipes) (run : Echo) (event : EchoEvent) : Prop :=
  event.moves = true ∧ run.step pipes event ≠ .done run

theorem execute_work {events : List EchoEvent} (conserves : run.Conserves line)
    (moving : Attempted (Echo.step pipes) (Moving pipes) run events)
    (reached : execute (Echo.step pipes) run events = .done next) :
    events.length + next.work ≤ run.work := by
  induction events generalizing run with
  | nil =>
      cases reached
      exact Nat.le_of_eq (Nat.zero_add _)
  | cons event events ih =>
      obtain ⟨after, taken, later⟩ := execute_cons.mp reached
      obtain ⟨⟨moves, changes⟩, rest⟩ := (attempted_cons taken).mp moving
      have ends := ih (conserves.step taken) rest later
      rcases step_work conserves moves taken with rfl | less
      · exact absurd taken changes
      · rw [List.length_cons]
        omega

def Reachable (pipes : Pipes) (line : List UInt8) (run : Echo) : Prop :=
  ∃ events : List EchoEvent, (∀ event ∈ events, event.moves = true) ∧
    execute (Echo.step pipes) (start line) events = .done run

theorem start_reachable (pipes : Pipes) (line : List UInt8) : Reachable pipes line (start line) :=
  ⟨[], by simp, rfl⟩

theorem Reachable.step (reachable : Reachable pipes line run) (event : EchoEvent)
    (moves : event.moves = true) (taken : run.step pipes event = .done next) :
    Reachable pipes line next := by
  obtain ⟨events, moving, reached⟩ := reachable
  refine ⟨events ++ [event], ?_, execute_concat.mpr ⟨run, reached, taken⟩⟩
  intro other member
  rcases List.mem_append.mp member with early | last
  · exact moving other early
  · rw [List.mem_singleton.mp last]
    exact moves

theorem Reachable.repeats (reachable : Reachable pipes line run) : run.repeats = 0 := by
  obtain ⟨events, moving, reached⟩ := reachable
  induction events using List.reverseRecOn generalizing run with
  | nil =>
      cases reached
      rfl
  | append_singleton past event ih =>
      obtain ⟨last, earlier, taken⟩ := execute_concat.mp reached
      rw [step_repeats (moving event (by simp)) taken]
      exact ih (fun other member => moving other (List.mem_append_left [event] member)) earlier

/-! Where neither program can go on. -/

theorem Stuck.up_full (stuck : run.Stuck pipes) (writing : 0 < run.sending.nleft) :
    pipes.up ≤ run.up.length := by
  have unchanged : run.writeUp pipes 0 = run := by simpa [step] using stuck.2 (.clientWrite 0) rfl
  have same : run.sending.ptr + min 1 (min run.sending.nleft (pipes.up - run.up.length)) =
    run.sending.ptr := congrArg (fun run => run.sending.ptr) unchanged
  omega

theorem Stuck.up_empty (stuck : run.Stuck pipes) (idle : run.answering.nleft = 0) :
    run.up.length = 0 := by
  have unchanged : run.readUp 0 = run := by simpa [step] using stuck.2 (.serverRead 0) rfl
  have same : (run.readUp 0).up.length = run.up.length :=
    congrArg (fun run => run.up.length) unchanged
  by_contra waiting
  have some : 0 < min (0 + 1) (min MAXLINE run.up.length) := by
    have : MAXLINE = 4096 := rfl
    omega
  simp only [readUp, idle, some, and_self, if_true, List.length_drop] at same
  omega

theorem Stuck.down_full (stuck : run.Stuck pipes) (answering : 0 < run.answering.nleft) :
    pipes.down ≤ run.down.length := by
  have unchanged : run.writeDown pipes 0 = run := by simpa [step] using stuck.2 (.serverWrite 0) rfl
  have same : run.answering.ptr + min 1 (min run.answering.nleft (pipes.down - run.down.length)) =
    run.answering.ptr := congrArg (fun run => run.answering.ptr) unchanged
  omega

theorem Stuck.down_empty (stuck : run.Stuck pipes) (reading : run.sending.nleft = 0) :
    run.down.length = 0 := by
  have unchanged : run.readDown 0 = run := by simpa [step] using stuck.2 (.clientRead 0) rfl
  have same : (run.readDown 0).down.length = run.down.length :=
    congrArg (fun run => run.down.length) unchanged
  have expects : run.receiving.nleft ≠ 0 := fun none => stuck.1 ⟨reading, none⟩
  simp only [readDown, reading, if_true, List.length_drop] at same
  omega

theorem stuck_line (reachable : Reachable pipes line run) (stuck : run.Stuck pipes) :
    pipes.up + pipes.down + 1 < line.length := by
  have unrepeated := reachable.repeats
  obtain ⟨events, _, reached⟩ := reachable
  have conserves := reached_conserves reached
  have sent := conserves.sent
  have expected := conserves.expected
  have counted := conserves.counted
  rw [inFlight_length conserves] at counted
  have upPos := pipes.upPos
  have downPos := pipes.downPos
  rcases Nat.eq_zero_or_pos run.sending.nleft with reading | writing
  · -- all is written, so the bytes that are missing would have to be under way
    have downEmpty := stuck.down_empty reading
    have idle : run.answering.nleft = 0 := by
      by_contra answering
      have := stuck.down_full (Nat.pos_of_ne_zero answering)
      omega
    have upEmpty := stuck.up_empty idle
    exact absurd ⟨reading, by omega⟩ stuck.1
  · have upFull := stuck.up_full writing
    have answering : run.answering.nleft ≠ 0 := by
      intro idle
      have := stuck.up_empty idle
      omega
    have downFull := stuck.down_full (Nat.pos_of_ne_zero answering)
    omega

/-! A schedule that fills both pipes while the client still writes. -/

structure Sizes (line : List UInt8) (run : Echo) (nleft up held down : Nat) : Prop where
  conserves : run.Conserves line
  nleft : run.sending.nleft = nleft
  up : run.up.length = up
  held : run.answering.nleft = held
  down : run.down.length = down

variable {nleft up held down : Nat}

theorem Sizes.writeUp (sizes : Sizes line run (nleft + 1) up held down) (room : up < pipes.up) :
    Sizes line (run.writeUp pipes 0) nleft (up + 1) held down := by
  have sent := sizes.conserves.sent
  have remaining := sizes.nleft
  have filled := sizes.up
  have one : min (0 + 1) (min run.sending.nleft (pipes.up - run.up.length)) = 1 := by omega
  refine ⟨sizes.conserves.writeUp pipes 0, ?_, ?_, sizes.held, sizes.down⟩
  · simp only [Echo.writeUp, one, Writen.wrote]
    omega
  · simp only [Echo.writeUp, one, Writen.target, sizes.conserves.written, List.length_append,
      List.length_take, List.length_drop]
    omega

theorem Sizes.readUp (sizes : Sizes line run nleft (up + 1) 0 down) :
    Sizes line (run.readUp 0) nleft up 1 down := by
  have filled := sizes.up
  have one : min (0 + 1) (min MAXLINE run.up.length) = 1 := by
    have : MAXLINE = 4096 := rfl
    omega
  have taken : run.readUp 0 =
      { run with answering := Writen.start (run.up.take 1), up := run.up.drop 1 } := by
    rw [Echo.readUp, one, if_pos ⟨sizes.held, Nat.one_pos⟩]
  have kept := sizes.conserves.readUp 0
  rw [taken] at kept ⊢
  refine ⟨kept, sizes.nleft, ?_, ?_, sizes.down⟩
  · change (run.up.drop 1).length = up
    rw [List.length_drop, filled, Nat.add_sub_cancel]
  · change (run.up.take 1).length = 1
    rw [List.length_take, filled]
    omega

theorem Sizes.writeDown (sizes : Sizes line run nleft up (held + 1) down)
    (room : down < pipes.down) : Sizes line (run.writeDown pipes 0) nleft up held (down + 1) := by
  have answers := sizes.conserves.held
  have remaining := sizes.held
  have filled := sizes.down
  have one : min (0 + 1) (min run.answering.nleft (pipes.down - run.down.length)) = 1 := by omega
  refine ⟨sizes.conserves.writeDown pipes 0, sizes.nleft, sizes.up, ?_, ?_⟩
  · simp only [Echo.writeDown, one, Writen.wrote]
    omega
  · simp only [Echo.writeDown, one, Writen.target, List.length_append, List.length_take,
      List.length_drop]
    omega

theorem fill_down (pipes : Pipes) (rest : Nat) (count : Nat) (fits : count ≤ pipes.down)
    (enough : line.length = rest + count) :
    ∃ run, Reachable pipes line run ∧ Sizes line run rest 0 0 count := by
  have upPos := pipes.upPos
  induction count generalizing rest with
  | zero =>
      exact ⟨start line, start_reachable pipes line, start_conserves line, enough, rfl, rfl, rfl⟩
  | succ count ih =>
      obtain ⟨run, reachable, sizes⟩ := ih (rest + 1) (by omega) (by omega)
      have written := sizes.writeUp upPos
      have writtenReachable := reachable.step (.clientWrite 0) rfl rfl
      exact ⟨_, (writtenReachable.step (.serverRead 0) rfl rfl).step (.serverWrite 0) rfl rfl,
        written.readUp.writeDown fits⟩

theorem fill_up (rest : Nat) (count : Nat) (fits : count ≤ pipes.up)
    (reachable : Reachable pipes line run) (sizes : Sizes line run (rest + count) 0 held down) :
    ∃ full, Reachable pipes line full ∧ Sizes line full rest count held down := by
  induction count generalizing rest with
  | zero => exact ⟨run, reachable, sizes⟩
  | succ count ih =>
      have shifted : rest + 1 + count = rest + (count + 1) := by omega
      obtain ⟨full, reached, before⟩ := ih (rest + 1) (by omega) (shifted ▸ sizes)
      exact ⟨full.writeUp pipes 0, reached.step (.clientWrite 0) rfl rfl, before.writeUp fits⟩

theorem Sizes.stuck (sizes : Sizes line run (nleft + 1) pipes.up (held + 1) pipes.down) :
    run.Stuck pipes := by
  refine ⟨fun complete => ?_, ?_⟩
  · have remaining := sizes.nleft
    rw [complete.1] at remaining
    omega
  · intro event moves
    cases event with
    | clientWrite count =>
        have full := sizes.up
        have none : min (count + 1) (min run.sending.nleft (pipes.up - run.up.length)) = 0 := by
          omega
        simp [Echo.step, Echo.writeUp, none, Writen.wrote]
    | serverRead count =>
        simp [Echo.step, Echo.readUp, sizes.held]
    | serverWrite count =>
        have full := sizes.down
        have none : min (count + 1) (min run.answering.nleft (pipes.down - run.down.length)) = 0 := by
          omega
        simp [Echo.step, Echo.writeDown, none, Writen.wrote]
    | clientRead count =>
        simp [Echo.step, Echo.readDown, sizes.nleft]
    | interruptClient => cases moves
    | interruptServer => cases moves

/-- The client reads nothing before it has written all, so that a long line fills both pipes. If no
call is interrupted, the two programs end up waiting for each other in some run exactly if the line
does not fit into the pipes and one byte more; no run has more than four calls a byte that move
something. With a shorter line, a run that no call can continue has read it back. -/
theorem finishes_iff (pipes : Pipes) (line : List UInt8) :
    (∀ events final, Attempted (Echo.step pipes) (Moving pipes) (start line) events →
      execute (Echo.step pipes) (start line) events = .done final →
        events.length ≤ 4 * line.length) ∧
    ((∀ run, Reachable pipes line run → ¬run.Stuck pipes) ↔
      line.length ≤ pipes.up + pipes.down + 1) ∧
    (line.length ≤ pipes.up + pipes.down + 1 → ∀ run, Reachable pipes line run →
      (∀ event : EchoEvent, event.moves = true → run.step pipes event = .done run) →
        run.complete ∧ run.receiving.buff = line) := by
  refine ⟨?_, ⟨?_, ?_⟩, ?_⟩
  · intro events final moving reached
    have bounded := execute_work (start_conserves line) moving reached
    have whole : (start line).work = 4 * line.length := rfl
    omega
  · intro free
    by_contra long
    obtain ⟨rest, split⟩ : ∃ rest, line.length = rest + 1 + pipes.up + 1 + pipes.down :=
      ⟨line.length - (pipes.up + pipes.down + 2), by omega⟩
    obtain ⟨drained, drainedReachable, drainedSizes⟩ :=
      fill_down pipes (rest + 1 + pipes.up + 1) pipes.down (Nat.le_refl _) split
    have holding := (drainedSizes.writeUp pipes.upPos).readUp
    have holdingReachable := (drainedReachable.step (.clientWrite 0) rfl rfl).step
      (.serverRead 0) rfl rfl
    obtain ⟨full, fullReachable, fullSizes⟩ :=
      fill_up (rest + 1) pipes.up (Nat.le_refl _) holdingReachable holding
    exact free full fullReachable fullSizes.stuck
  · intro short run reachable stuck
    have long := stuck_line reachable stuck
    omega
  · intro short run reachable still
    have complete : run.complete := by
      by_contra waiting
      have long := stuck_line reachable ⟨waiting, still⟩
      omega
    have unrepeated := reachable.repeats
    obtain ⟨_, _, reached⟩ := reachable
    obtain ⟨extra, whole⟩ := (reached_conserves reached).returned complete
    rw [unrepeated, List.length_eq_zero_iff] at extra
    have same := whole unrepeated
    rw [extra, List.append_nil] at same
    exact ⟨complete, same⟩

end Echo

end LabNetstack
