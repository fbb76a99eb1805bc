import LabNetstack.Executions
import LabNetstack.RingBuffer

/-! What holds over every sequence of calls of a `RingBuffer`, also where a write is lost: the
indices stay in order, no subtraction wraps, and every copy stays inside the storage. -/

namespace LabNetstack

namespace RingBuffer

def step (build : Build) (ring : RingBuffer) (call : RingCall) : Outcome RingBuffer := do
  let (_, next) ← ring.perform build call
  pure next

/-- The subtractions of `size_t` that a call makes on its way. -/
def subtractions (ring : RingBuffer) : RingCall → List (UInt64 × UInt64)
  | .read length =>
      if ring.empty then []
      else
        let length := min length ring.remaining
        (ring.end_, ring.begin_) ::
          if ring.begin_ + length ≥ ring.size then
            [(ring.size, ring.begin_), (length, ring.size - ring.begin_),
              (ring.begin_ + length, ring.size), (ring.end_, ring.size)]
          else []
  | .write data =>
      if ring.full then []
      else
        let length := min data.length ring.free
        (ring.end_, ring.begin_) :: (ring.size, ring.remaining) ::
          if ring.end_ ≥ ring.size then [(ring.end_, ring.size)]
          else if ring.end_ + length ≥ ring.size then
            [(ring.size, ring.end_), (length, ring.size - ring.end_)]
          else []
  | .readOffset offset length =>
      let beginOff := ring.begin_ + offset
      let length := min length (ring.end_ - beginOff)
      (ring.end_, beginOff) ::
        if length == 0 then []
        else if beginOff < ring.size then
          if beginOff + length ≥ ring.size then
            [(ring.size, beginOff), (length, ring.size - beginOff)]
          else []
        else [(beginOff, ring.size)]
  | .consume length =>
      let length := min length ring.remaining
      (ring.end_, ring.begin_) ::
        if ring.begin_ + length ≥ ring.size then
          [(ring.begin_ + length, ring.size), (ring.end_, ring.size)]
        else []

variable {ring : RingBuffer}

/-! `read` is `read_offset` at the front and a `consume` of what it returned. -/

theorem advance_zero (valid : ring.Valid) : ring.advance 0 = ring := by
  have inside : ¬ring.begin_ + 0 ≥ ring.size := by
    rw [UInt64.add_zero, ge_iff_le, UInt64.le_iff_toNat_le]
    exact Nat.not_le.mpr valid.beginBound
  rw [advance, if_neg inside, UInt64.add_zero]

theorem read_eq (build : Build) (valid : ring.Valid) (length : UInt64) :
    ring.read build length = .done (min length ring.remaining, ring.contents.take length.toNat,
      ring.advance (min length ring.remaining)) := by
  by_cases nothing : ring.queued = 0
  · have remaining : ring.remaining = 0 := by
      rw [← UInt64.toNat_inj, valid.remaining_toNat, nothing]
      rfl
    have clipped : min length ring.remaining = 0 := by
      rw [← UInt64.toNat_inj, valid.min_remaining, nothing, Nat.min_zero]
      rfl
    have contents : ring.contents = [] := by
      rw [← List.length_eq_zero_iff, valid.contents_length, nothing]
    rw [read, if_pos (valid.empty_iff.mpr nothing), clipped, contents, List.take_nil,
      advance_zero valid]
  · exact read_spec build valid length nothing

theorem readOffset_front (build : Build) (valid : ring.Valid) (length : UInt64) :
    ring.readOffset build 0 length =
      .done (min length ring.remaining, ring.contents.take length.toNat) := by
  obtain ⟨count, taken, read⟩ := readOffset_spec build valid 0 length (Nat.zero_le _)
  have same : count = min length ring.remaining := by
    rw [← UInt64.toNat_inj, taken, valid.min_remaining, UInt64.toNat_zero, Nat.sub_zero]
  rw [read, same, UInt64.toNat_zero, List.drop_zero]

theorem advance_advance (valid : ring.Valid) {first second : UInt64}
    (bound : first.toNat + second.toNat ≤ ring.queued) :
    (ring.advance first).advance second = ring.advance (first + second) := by
  have ⟨sizeBound, _, beginBound, ordered, window⟩ := valid
  have sizeQueued := valid.queued_le
  have sum : (first + second).toNat = first.toNat + second.toNat := by
    rw [UInt64.toNat_add]
    omega
  have one := valid.add_begin (by omega : first.toNat ≤ ring.size.toNat)
  have both := valid.add_begin (by omega : (first + second).toNat ≤ ring.size.toNat)
  rw [sum] at both
  by_cases past : ring.begin_ + first ≥ ring.size
  · -- the storage is gone around once, and not again
    have pastNat := UInt64.le_iff_toNat_le.mp past
    have pastBoth : ring.begin_ + (first + second) ≥ ring.size := by
      rw [ge_iff_le, UInt64.le_iff_toNat_le]
      omega
    have landed : (ring.begin_ + first - ring.size).toNat =
        ring.begin_.toNat + first.toNat - ring.size.toNat := by
      rw [UInt64.toNat_sub_of_le _ _ past, one]
    have inside : ¬ring.begin_ + first - ring.size + second ≥ ring.size := by
      rw [ge_iff_le, UInt64.le_iff_toNat_le, UInt64.toNat_add, landed]
      omega
    have same : ring.begin_ + first - ring.size + second =
        ring.begin_ + (first + second) - ring.size := by grind
    have start : ring.advance first = { ring with
        begin_ := ring.begin_ + first - ring.size, end_ := ring.end_ - ring.size } := if_pos past
    rw [start, advance, if_neg inside, advance, if_pos pastBoth, same]
  · have start : ring.advance first = { ring with begin_ := ring.begin_ + first } := if_neg past
    rw [start, advance, advance, UInt64.add_assoc]

theorem clipped_sum (valid : ring.Valid) {first second : UInt64}
    (small : first.toNat + second.toNat < 2 ^ 64) :
    let taken := min first ring.remaining
    min (first + second) ring.remaining =
        taken + min second (ring.advance taken).remaining ∧
      taken.toNat + (min second (ring.advance taken).remaining).toNat ≤ ring.queued := by
  intro taken
  have takenNat : taken.toNat = min first.toNat ring.queued := valid.min_remaining first
  have advanced := valid.advance (by omega : taken.toNat ≤ ring.queued)
  have left : (ring.advance taken).queued = ring.queued - taken.toNat := by
    rw [← advanced.1.contents_length, advanced.2, List.length_drop, valid.contents_length]
  have rest := advanced.1.min_remaining second
  rw [left] at rest
  have queuedBound := valid.queued_le
  have sizeBound := valid.sizeBound
  constructor
  · rw [← UInt64.toNat_inj, valid.min_remaining, UInt64.toNat_add, UInt64.toNat_add, rest]
    omega
  · omega

/-- The receiving side and the sending side take bytes out in the same way, and it does not matter
in how many steps they are taken out. -/
theorem read_peeks_and_consumes (build : Build) (valid : ring.Valid) (length first second : UInt64) :
    (∃ count bytes after, ring.read build length = .done (count, bytes, after) ∧
      ring.readOffset build 0 length = .done (count, bytes) ∧
      ring.consume build count = .done (count, after)) ∧
    (first.toNat + second.toNat < 2 ^ 64 → ∃ one middle other last,
      ring.consume build first = .done (one, middle) ∧
      middle.consume build second = .done (other, last) ∧
      ring.consume build (first + second) = .done (one + other, last) ∧
      (one + other).toNat = one.toNat + other.toNat) := by
  constructor
  · refine ⟨_, _, _, read_eq build valid length, readOffset_front build valid length, ?_⟩
    have again : min (min length ring.remaining) ring.remaining = min length ring.remaining := by
      rw [← UInt64.toNat_inj, valid.min_remaining, valid.min_remaining]
      omega
    rw [consume_spec build valid, again]
  · intro small
    obtain ⟨total, within⟩ := clipped_sum valid small
    have taken := valid.min_remaining first
    have advanced := valid.advance (by omega : (min first ring.remaining).toNat ≤ ring.queued)
    refine ⟨_, _, _, _, consume_spec build valid first, consume_spec build advanced.1 second, ?_, ?_⟩
    · rw [consume_spec build valid, total, advance_advance valid within]
    · have queuedBound := valid.queued_le
      have sizeBound := valid.sizeBound
      rw [UInt64.toNat_add]
      omega

-- four bytes, of which the last two are at the start of the storage
def wrappedRing : RingBuffer := ⟨5, [4, 5, 0, 2, 3], 3, 7⟩

theorem wrappedRing_peeks : wrappedRing.Valid ∧
    ∃ count bytes after, wrappedRing.read .debug 3 = .done (count, bytes, after) ∧
      wrappedRing.readOffset .debug 0 3 = .done (count, bytes) ∧
      wrappedRing.consume .debug count = .done (count, after) := by
  have valid : wrappedRing.Valid := ⟨by decide, rfl, by decide, by decide, by decide⟩
  exact ⟨valid, (read_peeks_and_consumes .debug valid 3 1 2).1⟩

/-! The indices through one call. -/

theorem write_valid (build : Build) (valid : ring.Valid) (data : Buffer) :
    ∃ count next, ring.write build data = .done (count, next) ∧ next.Valid := by
  by_cases isFull : ring.queued = ring.size.toNat
  · exact ⟨0, ring, by rw [write, if_pos (valid.full_iff.mpr isFull)], valid⟩
  have room : ring.queued < ring.size.toNat := Nat.lt_of_le_of_ne valid.queued_le isFull
  by_cases early : ring.end_.toNat < ring.size.toNat
  · obtain ⟨next, written, still, _⟩ := write_spec build valid data room early
    exact ⟨_, next, written, still⟩
  · have late := Nat.le_of_not_lt early
    refine ⟨_, _, write_stuck build valid data room late, { valid with storage := ?_ }⟩
    obtain ⟨_, storage, beginBound, ordered, window⟩ := valid
    refine (splice_length ?_).trans storage
    rw [List.length_take]
    simp only [queued]
    omega

theorem perform_valid (build : Build) (valid : ring.Valid) {call : RingCall}
    (within : ring.offsetWithin call = true) :
    ∃ next, ring.step build call = .done next ∧ next.Valid := by
  have moved (length : UInt64) : (ring.advance (min length ring.remaining)).Valid := by
    have taken := valid.min_remaining length
    exact (valid.advance (by omega)).1
  cases call with
  | write data =>
      obtain ⟨count, next, written, still⟩ := write_valid build valid data
      refine ⟨next, ?_, still⟩
      rw [step, perform, written]
      rfl
  | read length =>
      refine ⟨_, ?_, moved length⟩
      rw [step, perform, read_eq build valid]
      rfl
  | consume length =>
      refine ⟨_, ?_, moved length⟩
      rw [step, perform, consume_spec build valid]
      rfl
  | readOffset offset length =>
      obtain ⟨count, _, read⟩ :=
        readOffset_spec build valid offset length (valid.offset_le (of_decide_eq_true within))
      refine ⟨ring, ?_, valid⟩
      rw [step, perform, read]
      rfl

/-! No subtraction wraps. -/

/-- In each of the pairs the second is taken off the first. -/
def Ordered (pairs : List (UInt64 × UInt64)) : Prop := ∀ pair ∈ pairs, pair.2 ≤ pair.1

theorem ordered_nil : Ordered [] := nofun

theorem ordered_cons {first second : UInt64} {pairs : List (UInt64 × UInt64)}
    (below : second.toNat ≤ first.toNat) (rest : Ordered pairs) :
    Ordered ((first, second) :: pairs) :=
  List.forall_mem_cons.mpr ⟨UInt64.le_iff_toNat_le.mpr below, rest⟩

theorem consume_ordered (valid : ring.Valid) (length : UInt64) :
    Ordered (ring.subtractions (.consume length)) := by
  have ⟨sizeBound, storage, beginBound, ordered, window⟩ := valid
  have taken := valid.min_remaining length
  have queuedBound := valid.queued_le
  have sum := valid.add_begin (by omega : (min length ring.remaining).toNat ≤ ring.size.toNat)
  simp only [queued] at taken
  refine ordered_cons ordered ?_
  split
  · rename_i past
    have pastNat := UInt64.le_iff_toNat_le.mp past
    exact ordered_cons pastNat (ordered_cons (by omega) ordered_nil)
  · exact ordered_nil

theorem read_ordered (valid : ring.Valid) (length : UInt64) :
    Ordered (ring.subtractions (.read length)) := by
  have ⟨sizeBound, storage, beginBound, ordered, window⟩ := valid
  have taken := valid.min_remaining length
  have queuedBound := valid.queued_le
  have sum := valid.add_begin (by omega : (min length ring.remaining).toNat ≤ ring.size.toNat)
  have tail : (ring.size - ring.begin_).toNat = ring.size.toNat - ring.begin_.toNat :=
    UInt64.toNat_sub_of_le _ _ (UInt64.le_iff_toNat_le.mpr (by omega))
  simp only [queued] at taken
  rw [subtractions]
  split
  · exact ordered_nil
  refine ordered_cons ordered ?_
  split
  · rename_i past
    have pastNat := UInt64.le_iff_toNat_le.mp past
    refine ordered_cons (by omega) (ordered_cons ?_ (ordered_cons pastNat
      (ordered_cons (by omega) ordered_nil)))
    rw [tail]
    omega
  · exact ordered_nil

theorem write_ordered (valid : ring.Valid) (data : Buffer) :
    Ordered (ring.subtractions (.write data)) := by
  have ⟨sizeBound, storage, beginBound, ordered, window⟩ := valid
  have taken := valid.min_free data
  have queuedBound := valid.queued_le
  have remaining := valid.remaining_toNat
  rw [subtractions]
  split
  · exact ordered_nil
  refine ordered_cons ordered (ordered_cons (by omega) ?_)
  split
  · rename_i late
    exact ordered_cons (UInt64.le_iff_toNat_le.mp late) ordered_nil
  rename_i early
  have earlyNat : ring.end_.toNat < ring.size.toNat := by
    simpa [UInt64.le_iff_toNat_le] using early
  have tail : (ring.size - ring.end_).toNat = ring.size.toNat - ring.end_.toNat :=
    UInt64.toNat_sub_of_le _ _ (UInt64.le_iff_toNat_le.mpr (by omega))
  split
  · rename_i past
    have pastNat := UInt64.le_iff_toNat_le.mp past
    rw [UInt64.toNat_add] at pastNat
    refine ordered_cons (by omega) (ordered_cons ?_ ordered_nil)
    rw [tail]
    omega
  · exact ordered_nil

theorem readOffset_ordered (valid : ring.Valid) {offset length : UInt64}
    (inside : offset.toNat ≤ ring.queued) :
    Ordered (ring.subtractions (.readOffset offset length)) := by
  have ⟨sizeBound, storage, beginBound, ordered, window⟩ := valid
  have queuedBound := valid.queued_le
  have start := valid.add_begin (by omega : offset.toNat ≤ ring.size.toNat)
  have before : (ring.begin_ + offset).toNat ≤ ring.end_.toNat := by
    simp only [queued] at inside
    omega
  have left := UInt64.toNat_sub_of_le _ _ (UInt64.le_iff_toNat_le.mpr before)
  have taken := UInt64.toNat_min length (ring.end_ - (ring.begin_ + offset))
  rw [left] at taken
  refine ordered_cons before ?_
  split
  · exact ordered_nil
  split
  · rename_i early
    have earlyNat := UInt64.lt_iff_toNat_lt.mp early
    have head : (ring.size - (ring.begin_ + offset)).toNat =
        ring.size.toNat - (ring.begin_ + offset).toNat :=
      UInt64.toNat_sub_of_le _ _ (UInt64.le_of_lt early)
    split
    · rename_i past
      have pastNat := UInt64.le_iff_toNat_le.mp past
      rw [UInt64.toNat_add] at pastNat
      refine ordered_cons (by omega) (ordered_cons ?_ ordered_nil)
      rw [head]
      omega
    · exact ordered_nil
  · rename_i late
    have lateNat : ring.size.toNat ≤ (ring.begin_ + offset).toNat := by
      simpa [UInt64.lt_iff_toNat_lt] using late
    exact ordered_cons lateNat ordered_nil

theorem subtractions_ordered (valid : ring.Valid) {call : RingCall}
    (within : ring.offsetWithin call = true) : Ordered (ring.subtractions call) := by
  cases call with
  | write data => exact write_ordered valid data
  | read length => exact read_ordered valid length
  | consume length => exact consume_ordered valid length
  | readOffset offset length =>
      exact readOffset_ordered valid (valid.offset_le (of_decide_eq_true within))

/-! Every run. -/

theorem offsetsCheck_step {build : Build} {next : RingBuffer} {call : RingCall}
    {calls : List RingCall} (taken : ring.step build call = .done next)
    (offsets : ring.offsetsCheck build (call :: calls) = true) :
    next.offsetsCheck build calls = true := by
  obtain ⟨⟨seen, after⟩, performed, same⟩ := Outcome.bind_eq_done.mp taken
  cases same
  rw [offsetsCheck, performed, Bool.and_eq_true] at offsets
  exact offsets.2

theorem run_valid (build : Build) {before rest : List RingCall} (valid : ring.Valid)
    (offsets : ring.offsetsCheck build (before ++ rest) = true) :
    ∃ reached, execute (step build) ring before = .done reached ∧ reached.Valid ∧
      reached.offsetsCheck build rest = true := by
  induction before generalizing ring with
  | nil => exact ⟨ring, rfl, valid, offsets⟩
  | cons call before ih =>
      have within := offsets
      rw [List.cons_append, offsetsCheck, Bool.and_eq_true] at within
      obtain ⟨next, taken, still⟩ := perform_valid build valid within.1
      obtain ⟨reached, run, facts⟩ := ih still (offsetsCheck_step taken offsets)
      exact ⟨reached, execute_cons.mpr ⟨next, taken, run⟩, facts⟩

/-- Each call of a run completes: no check fails, and no byte outside the storage is copied. The
indices are in order before and after it, and no subtraction that it or a query makes wraps. -/
theorem ringBuffer_inside (build : Build) {size : UInt64} {memory : Nat → UInt8}
    {calls : List RingCall} (positive : 0 < size) (created : create size memory = .done ring)
    (offsets : ring.offsetsCheck build calls = true) :
    ∀ before, before <+: calls → ∃ reached,
      execute (step build) ring before = .done reached ∧ reached.Valid ∧
      Ordered [(reached.end_, reached.begin_), (reached.size, reached.remaining)] ∧
      ∀ call, before ++ [call] <+: calls → Ordered (reached.subtractions call) := by
  rintro before ⟨rest, rfl⟩
  have valid := (create_represents (UInt64.lt_iff_toNat_lt.mp positive) created).valid
  obtain ⟨reached, run, still, later⟩ := run_valid build valid offsets
  refine ⟨reached, run, still, ?_, ?_⟩
  · refine ordered_cons still.ordered (ordered_cons ?_ ordered_nil)
    rw [still.remaining_toNat]
    exact still.queued_le
  · rintro call ⟨others, same⟩
    rw [List.append_assoc, List.append_cancel_left_eq] at same
    rw [← same, List.singleton_append, offsetsCheck, Bool.and_eq_true] at later
    exact subtractions_ordered still later.1

theorem lateWrite_inside : ∃ reached,
    execute (step .debug) freshRing lateWrite = .done reached ∧ reached.Valid := by
  obtain ⟨reached, run, valid, _⟩ := @ringBuffer_inside freshRing .debug 5 (fun _ => 0) lateWrite
    (by decide) rfl (by decide) lateWrite List.prefix_rfl
  exact ⟨reached, run, valid⟩

end RingBuffer

end LabNetstack
