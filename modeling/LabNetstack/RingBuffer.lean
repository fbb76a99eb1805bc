import LabNetstack.RingBufferCore

/-! `RingBuffer` against the bounded byte queue it stands for. -/

namespace LabNetstack

namespace RingBuffer

structure Valid (ring : RingBuffer) : Prop where
  sizeBound : ring.size.toNat < 2 ^ 63
  storage : ring.buffer.length = ring.size.toNat
  beginBound : ring.begin_.toNat < ring.size.toNat
  ordered : ring.begin_.toNat ≤ ring.end_.toNat
  window : ring.end_.toNat ≤ ring.begin_.toNat + ring.size.toNat

def queued (ring : RingBuffer) : Nat := ring.end_.toNat - ring.begin_.toNat

def contents (ring : RingBuffer) : List UInt8 :=
  ringSlice ring.buffer ring.begin_.toNat ring.queued

theorem Valid.queued_le {ring : RingBuffer} (valid : ring.Valid) : ring.queued ≤ ring.size.toNat := by
  have := valid.window
  simp only [queued]
  omega

theorem Valid.contents_length {ring : RingBuffer} (valid : ring.Valid) :
    ring.contents.length = ring.queued := by
  have storage := valid.storage
  have beginBound := valid.beginBound
  have queuedBound := valid.queued_le
  exact ringSlice_length (by omega)

theorem Valid.remaining_toNat {ring : RingBuffer} (valid : ring.Valid) :
    ring.remaining.toNat = ring.queued :=
  UInt64.toNat_sub_of_le _ _ (UInt64.le_iff_toNat_le.mpr valid.ordered)

theorem Valid.offset_le {ring : RingBuffer} (valid : ring.Valid) {offset : UInt64}
    (within : offset ≤ ring.remaining) : offset.toNat ≤ ring.queued := by
  rw [← valid.remaining_toNat]
  exact UInt64.le_iff_toNat_le.mp within

theorem Valid.free_toNat {ring : RingBuffer} (valid : ring.Valid) :
    ring.free.toNat = ring.size.toNat - ring.queued := by
  have below : ring.remaining ≤ ring.size := by
    rw [UInt64.le_iff_toNat_le, valid.remaining_toNat]
    exact valid.queued_le
  rw [free, UInt64.toNat_sub_of_le _ _ below, valid.remaining_toNat]

theorem Valid.empty_iff {ring : RingBuffer} (valid : ring.Valid) :
    ring.empty = true ↔ ring.queued = 0 := by
  have ordered := valid.ordered
  simp only [empty, beq_iff_eq, ← UInt64.toNat_inj, queued]
  omega

theorem Valid.full_iff {ring : RingBuffer} (valid : ring.Valid) :
    ring.full = true ↔ ring.queued = ring.size.toNat := by
  have ⟨sizeBound, _, beginBound, ordered, window⟩ := valid
  simp only [full, beq_iff_eq, ← UInt64.toNat_inj, UInt64.toNat_add, queued]
  omega

/-! `read` and `consume` move `begin_` in the same way. -/

def advance (ring : RingBuffer) (length : UInt64) : RingBuffer :=
  if ring.begin_ + length ≥ ring.size then
    { ring with begin_ := ring.begin_ + length - ring.size, end_ := ring.end_ - ring.size }
  else { ring with begin_ := ring.begin_ + length }

theorem Valid.add_begin {ring : RingBuffer} (valid : ring.Valid) {length : UInt64}
    (bound : length.toNat ≤ ring.size.toNat) :
    (ring.begin_ + length).toNat = ring.begin_.toNat + length.toNat := by
  have ⟨sizeBound, _, beginBound, _, _⟩ := valid
  rw [UInt64.toNat_add]
  omega

theorem Valid.advance {ring : RingBuffer} (valid : ring.Valid) {length : UInt64}
    (bound : length.toNat ≤ ring.queued) :
    (ring.advance length).Valid ∧
      (ring.advance length).contents = ring.contents.drop length.toNat := by
  have ⟨sizeBound, storage, beginBound, ordered, window⟩ := valid
  have sum := valid.add_begin (Nat.le_trans bound valid.queued_le)
  simp only [queued] at bound
  by_cases past : ring.begin_ + length ≥ ring.size
  · have sizeBelow : ring.size.toNat ≤ ring.begin_.toNat + length.toNat := by
      simpa [UInt64.le_iff_toNat_le, sum] using past
    have newBegin : (ring.begin_ + length - ring.size).toNat =
        ring.begin_.toNat + length.toNat - ring.size.toNat := by
      rw [UInt64.toNat_sub_of_le _ _ past, sum]
    have newEnd : (ring.end_ - ring.size).toNat = ring.end_.toNat - ring.size.toNat :=
      UInt64.toNat_sub_of_le _ _ (UInt64.le_iff_toNat_le.mpr (by omega))
    constructor
    · constructor <;> simp only [RingBuffer.advance, past, ↓reduceIte, newBegin, newEnd] <;> omega
    · simp only [RingBuffer.advance, past, ↓reduceIte, contents, queued, newBegin, newEnd]
      symm
      rw [ringSlice_drop, ringSlice_wrap (by omega) (by omega), storage]
      congr 1
      omega
  · have sizeAbove : ring.begin_.toNat + length.toNat < ring.size.toNat := by
      simpa [UInt64.le_iff_toNat_le, sum] using past
    constructor
    · constructor <;> simp only [RingBuffer.advance, past, ↓reduceIte, sum] <;> omega
    · simp only [RingBuffer.advance, past, ↓reduceIte, contents, queued, sum]
      rw [ringSlice_drop]
      congr 1
      omega

theorem advance_size (ring : RingBuffer) (length : UInt64) : (ring.advance length).size = ring.size := by
  simp only [advance]
  split <;> rfl

theorem Valid.min_remaining {ring : RingBuffer} (valid : ring.Valid) (length : UInt64) :
    (min length ring.remaining).toNat = min length.toNat ring.queued := by
  rw [UInt64.toNat_min, valid.remaining_toNat]

theorem Valid.begin_checked {ring : RingBuffer} (valid : ring.Valid) :
    decide (ring.begin_ < ring.size) = true := by
  rw [decide_eq_true_eq, UInt64.lt_iff_toNat_lt]
  exact valid.beginBound

theorem consume_spec (build : Build) {ring : RingBuffer} (valid : ring.Valid) (length : UInt64) :
    ring.consume build length =
      .done (min length ring.remaining, ring.advance (min length ring.remaining)) := by
  simp only [consume, dcheck_done valid.begin_checked, Outcome.done_bind, Outcome.pure_eq, advance]
  split <;> rfl

theorem read_spec (build : Build) {ring : RingBuffer} (valid : ring.Valid) (length : UInt64)
    (nonempty : ring.queued ≠ 0) :
    ring.read build length = .done (min length ring.remaining,
      ring.contents.take length.toNat, ring.advance (min length ring.remaining)) := by
  have notEmpty : ring.empty = false := by
    rw [← Bool.not_eq_true, valid.empty_iff]
    exact nonempty
  have ⟨sizeBound, storage, beginBound, ordered, window⟩ := valid
  have taken := valid.min_remaining length
  generalize clipped : min length ring.remaining = count at taken
  have queuedBound := valid.queued_le
  have sum : (ring.begin_ + count).toNat = ring.begin_.toNat + count.toNat :=
    valid.add_begin (by omega)
  have tail : (ring.size - ring.begin_).toNat = ring.size.toNat - ring.begin_.toNat :=
    UInt64.toNat_sub_of_le _ _ (UInt64.le_iff_toNat_le.mpr (by omega))
  simp only [read, notEmpty, Bool.false_eq_true, ↓reduceIte, clipped,
    dcheck_done valid.begin_checked, Outcome.done_bind, Outcome.pure_eq, advance, contents]
  rw [ringSlice_take, ← taken]
  by_cases past : ring.begin_ + count ≥ ring.size
  · have sizeBelow : ring.size.toNat ≤ ring.begin_.toNat + count.toNat := by
      simpa [UInt64.le_iff_toNat_le, sum] using past
    have rest : (count - (ring.size - ring.begin_)).toNat =
        ring.begin_.toNat + count.toNat - ring.size.toNat := by
      rw [UInt64.toNat_sub_of_le _ _ (UInt64.le_iff_toNat_le.mpr (by omega)), tail]
      omega
    simp only [past, ↓reduceIte, tail, rest]
    rw [copyOut_done (by omega), copyOut_done (by omega), ringSlice_crossing (by omega) (by omega)]
    simp only [Outcome.done_bind, List.drop_zero, storage]
    rw [List.take_of_length_le (by simp only [List.length_drop]; omega)]
  · have sizeAbove : ring.begin_.toNat + count.toNat < ring.size.toNat := by
      simpa [UInt64.le_iff_toNat_le, sum] using past
    simp only [past, ↓reduceIte]
    rw [copyOut_done (by omega), ringSlice_inner (by omega)]
    rfl

theorem readOffset_spec (build : Build) {ring : RingBuffer} (valid : ring.Valid)
    (offset length : UInt64) (within : offset.toNat ≤ ring.queued) :
    ∃ count : UInt64, count.toNat = min length.toNat (ring.queued - offset.toNat) ∧
      ring.readOffset build offset length =
        .done (count, (ring.contents.drop offset.toNat).take length.toNat) := by
  have ⟨sizeBound, storage, beginBound, ordered, window⟩ := valid
  have queuedBound := valid.queued_le
  have start : (ring.begin_ + offset).toNat = ring.begin_.toNat + offset.toNat :=
    valid.add_begin (by omega)
  have left : (ring.end_ - (ring.begin_ + offset)).toNat = ring.queued - offset.toNat := by
    simp only [queued] at within ⊢
    rw [UInt64.toNat_sub_of_le _ _ (UInt64.le_iff_toNat_le.mpr (by omega)), start]
    omega
  have taken : (min length (ring.end_ - (ring.begin_ + offset))).toNat =
      min length.toNat (ring.queued - offset.toNat) := by
    rw [UInt64.toNat_min, left]
  generalize clipped : min length (ring.end_ - (ring.begin_ + offset)) = count at taken
  refine ⟨count, taken, ?_⟩
  simp only [contents]
  rw [ringSlice_drop, ringSlice_take, ← taken]
  simp only [readOffset, clipped]
  by_cases nothing : count = 0
  · simp [nothing]
  · simp only [queued] at taken within queuedBound
    have stop : (ring.begin_ + offset + count).toNat =
        ring.begin_.toNat + offset.toNat + count.toNat := by
      rw [UInt64.toNat_add, start]
      omega
    have inside : decide (ring.begin_ + offset + count ≤ ring.end_) = true := by
      simp only [decide_eq_true_eq, UInt64.le_iff_toNat_le, stop]
      omega
    simp only [beq_iff_eq, nothing, ↓reduceIte, dcheck_done inside, Outcome.done_bind,
      Outcome.pure_eq]
    by_cases early : ring.begin_ + offset < ring.size
    · have startBound : ring.begin_.toNat + offset.toNat < ring.size.toNat := by
        simpa [UInt64.lt_iff_toNat_lt, start] using early
      have head : (ring.size - (ring.begin_ + offset)).toNat =
          ring.size.toNat - (ring.begin_.toNat + offset.toNat) := by
        rw [UInt64.toNat_sub_of_le _ _ (UInt64.le_of_lt early), start]
      by_cases past : ring.begin_ + offset + count ≥ ring.size
      · have sizeBelow : ring.size.toNat ≤ ring.begin_.toNat + offset.toNat + count.toNat := by
          simpa [UInt64.le_iff_toNat_le, stop] using past
        have rest : (count - (ring.size - (ring.begin_ + offset))).toNat =
            ring.begin_.toNat + offset.toNat + count.toNat - ring.size.toNat := by
          rw [UInt64.toNat_sub_of_le _ _ (UInt64.le_iff_toNat_le.mpr (by omega)), head]
          omega
        simp only [early, past, ↓reduceIte, head, rest, start]
        rw [copyOut_done (by omega), copyOut_done (by omega),
          ringSlice_crossing (by omega) (by omega)]
        simp only [Outcome.done_bind, List.drop_zero, storage]
        rw [List.take_of_length_le (by simp only [List.length_drop]; omega)]
      · have sizeAbove : ring.begin_.toNat + offset.toNat + count.toNat < ring.size.toNat := by
          simpa [UInt64.le_iff_toNat_le, stop] using past
        simp only [early, past, ↓reduceIte, start]
        rw [copyOut_done (by omega), ringSlice_inner (by omega)]
        rfl
    · have startPast : ring.size.toNat ≤ ring.begin_.toNat + offset.toNat := by
        simpa [UInt64.lt_iff_toNat_lt, start] using early
      have wrapped : (ring.begin_ + offset - ring.size).toNat =
          ring.begin_.toNat + offset.toNat - ring.size.toNat := by
        rw [UInt64.toNat_sub_of_le _ _ (UInt64.le_iff_toNat_le.mpr (by omega)), start]
      simp only [early, ↓reduceIte, wrapped]
      rw [copyOut_done (by omega), ringSlice_wrap (by omega) (by omega), storage,
        ringSlice_inner (by omega)]
      rfl

theorem Valid.min_free {ring : RingBuffer} (valid : ring.Valid) (data : Buffer) :
    (min data.length ring.free).toNat =
      min data.bytes.length (ring.size.toNat - ring.queued) := by
  rw [UInt64.toNat_min, valid.free_toNat, Buffer.length_toNat]

theorem Valid.take_free {ring : RingBuffer} (valid : ring.Valid) (data : Buffer) :
    data.bytes.take (ring.size.toNat - ring.queued) =
      data.bytes.take (min data.length ring.free).toNat := by
  rw [valid.min_free, Nat.min_comm, ← List.take_take, List.take_length]

theorem Valid.notFull {ring : RingBuffer} (valid : ring.Valid)
    (room : ring.queued < ring.size.toNat) : ring.full = false := by
  rw [← Bool.not_eq_true, valid.full_iff]
  omega

/-! A write behind queued bytes that end before the end of the storage. -/

theorem Valid.grow {ring : RingBuffer} (valid : ring.Valid) {buffer : List UInt8} {count : UInt64}
    (same : buffer.length = ring.buffer.length)
    (room : ring.queued + count.toNat ≤ ring.size.toNat)
    (kept : ringSlice buffer ring.begin_.toNat ring.queued = ring.contents) :
    let next := { ring with buffer := buffer, end_ := ring.end_ + count }
    next.Valid ∧
      next.contents = ring.contents ++ ringSlice buffer ring.end_.toNat count.toNat := by
  have ⟨sizeBound, storage, beginBound, ordered, window⟩ := valid
  have stop : (ring.end_ + count).toNat = ring.end_.toNat + count.toNat := by
    rw [UInt64.toNat_add]
    simp only [queued] at room
    omega
  have total : ring.end_.toNat + count.toNat - ring.begin_.toNat = ring.queued + count.toNat := by
    simp only [queued]
    omega
  have middle : ring.begin_.toNat + ring.queued = ring.end_.toNat := by
    simp only [queued]
    omega
  constructor
  · simp only [queued] at room
    constructor <;> simp only [stop] <;> omega
  · change ringSlice buffer ring.begin_.toNat ((ring.end_ + count).toNat - ring.begin_.toNat) = _
    rw [stop, total, ringSlice_add, middle, kept]

theorem write_eq (build : Build) {ring : RingBuffer} (valid : ring.Valid) (data : Buffer)
    (room : ring.queued < ring.size.toNat) (early : ring.end_.toNat < ring.size.toNat) :
    ring.write build data = .done (min data.length ring.free, { ring with
      buffer := ringSplice ring.buffer ring.end_.toNat
        (data.bytes.take (min data.length ring.free).toNat)
      end_ := ring.end_ + min data.length ring.free }) := by
  have ⟨sizeBound, storage, beginBound, ordered, window⟩ := valid
  have taken := valid.min_free data
  have endsEarly : ¬ring.end_ ≥ ring.size := by
    simpa [UInt64.le_iff_toNat_le] using early
  simp only [write, valid.notFull room, Bool.false_eq_true, ↓reduceIte,
    dcheck_done valid.begin_checked, endsEarly, Outcome.done_bind, Outcome.pure_eq]
  generalize min data.length ring.free = count at taken ⊢
  have sum : (ring.end_ + count).toNat = ring.end_.toNat + count.toNat := by
    rw [UInt64.toNat_add]
    omega
  by_cases past : ring.end_ + count ≥ ring.size
  · have sizeBelow : ring.size.toNat ≤ ring.end_.toNat + count.toNat := by
      simpa [UInt64.le_iff_toNat_le, sum] using past
    have tail : (ring.size - ring.end_).toNat = ring.size.toNat - ring.end_.toNat :=
      UInt64.toNat_sub_of_le _ _ (UInt64.le_iff_toNat_le.mpr (by omega))
    have rest : (count - (ring.size - ring.end_)).toNat =
        count.toNat - (ring.size.toNat - ring.end_.toNat) := by
      rw [UInt64.toNat_sub_of_le _ _ (UInt64.le_iff_toNat_le.mpr (by omega)), tail]
    have firstLength : (data.bytes.take (ring.size.toNat - ring.end_.toNat)).length =
        ring.size.toNat - ring.end_.toNat := by
      rw [List.length_take]
      omega
    have firstSize : (splice ring.buffer ring.end_.toNat
        (data.bytes.take (ring.size.toNat - ring.end_.toNat))).length = ring.buffer.length :=
      splice_length (by omega)
    simp only [past, ↓reduceIte, tail, rest]
    rw [copyIn_done (by omega) (by omega), Outcome.done_bind,
      copyIn_done (by omega) (by rw [List.length_drop]; omega), Outcome.done_bind, ringSplice,
      List.take_take, List.drop_take, storage, Nat.min_eq_left (by omega)]
  · have sizeAbove : ring.end_.toNat + count.toNat < ring.size.toNat := by
      simpa [UInt64.le_iff_toNat_le, sum] using past
    simp only [past, ↓reduceIte]
    rw [copyIn_done (by omega) (by omega), Outcome.done_bind, ringSplice_inner]
    rw [List.length_take]
    omega

theorem write_spec (build : Build) {ring : RingBuffer} (valid : ring.Valid) (data : Buffer)
    (room : ring.queued < ring.size.toNat) (early : ring.end_.toNat < ring.size.toNat) :
    ∃ next, ring.write build data = .done (min data.length ring.free, next) ∧ next.Valid ∧
      next.size = ring.size ∧
      next.contents = ring.contents ++ data.bytes.take (ring.size.toNat - ring.queued) := by
  have ⟨sizeBound, storage, beginBound, ordered, window⟩ := valid
  have taken := valid.min_free data
  rw [write_eq build valid data room early, valid.take_free data]
  generalize min data.length ring.free = count at taken ⊢
  have blockLength : (data.bytes.take count.toNat).length = count.toNat := by
    rw [List.length_take]
    omega
  generalize data.bytes.take count.toNat = block at blockLength ⊢
  have stop : ring.begin_.toNat + ring.queued = ring.end_.toNat := by
    simp only [queued]
    omega
  have kept : ringSlice (ringSplice ring.buffer ring.end_.toNat block) ring.begin_.toNat
      ring.queued = ring.contents := by
    rw [← stop, ringSlice_ringSplice_before (by omega) (by omega), contents]
  have fits : ring.queued + count.toNat ≤ ring.size.toNat := by omega
  have grown := valid.grow (ringSplice_length (by omega) (by omega)) fits kept
  refine ⟨_, rfl, grown.1, rfl, ?_⟩
  rw [grown.2, ← blockLength, ringSlice_ringSplice_block (by omega) (by omega)]

/-! A write behind queued bytes that reach the end of the storage reports its
bytes as accepted and leaves `end_` where it is. -/

theorem write_stuck (build : Build) {ring : RingBuffer} (valid : ring.Valid) (data : Buffer)
    (room : ring.queued < ring.size.toNat) (late : ring.size.toNat ≤ ring.end_.toNat) :
    ring.write build data = .done (min data.length ring.free, { ring with
      buffer := splice ring.buffer (ring.end_.toNat - ring.size.toNat)
        (data.bytes.take (ring.size.toNat - ring.queued)) }) := by
  have ⟨sizeBound, storage, beginBound, ordered, window⟩ := valid
  have taken := valid.min_free data
  have endsLate : ring.end_ ≥ ring.size := UInt64.le_iff_toNat_le.mpr late
  have start : (ring.end_ - ring.size).toNat = ring.end_.toNat - ring.size.toNat :=
    UInt64.toNat_sub_of_le _ _ endsLate
  simp only [write, valid.notFull room, Bool.false_eq_true, ↓reduceIte,
    dcheck_done valid.begin_checked, endsLate, Outcome.done_bind, Outcome.pure_eq, start,
    valid.take_free data]
  simp only [queued] at taken
  rw [copyIn_done (by omega) (by omega)]
  rfl

/-! The queue a ring buffer stands for. -/

structure Represents {capacity : Nat} (ring : RingBuffer) (queue : BoundedQueue UInt8 capacity) :
    Prop where
  valid : ring.Valid
  size : ring.size.toNat = capacity
  contents : ring.contents = queue.items

variable {capacity : Nat} {ring : RingBuffer} {queue : BoundedQueue UInt8 capacity}

theorem Represents.queued (represents : ring.Represents queue) : ring.queued = queue.remaining := by
  rw [← represents.valid.contents_length, represents.contents]
  rfl

theorem Represents.observe (represents : ring.Represents queue) (count : UInt64)
    (bytes : List UInt8) : ring.observe count bytes = queue.observe count.toNat bytes := by
  have valid := represents.valid
  have queued := represents.queued
  have size := represents.size
  have emptyEq : ring.empty = queue.isEmpty := by
    rw [Bool.eq_iff_iff, valid.empty_iff, BoundedQueue.isEmpty, beq_iff_eq, queued]
  have fullEq : ring.full = queue.isFull := by
    rw [Bool.eq_iff_iff, valid.full_iff, BoundedQueue.isFull, beq_iff_eq, queued, size]
  simp only [RingBuffer.observe, BoundedQueue.observe, valid.remaining_toNat, valid.free_toNat,
    BoundedQueue.free, queued, size, emptyEq, fullEq]

theorem create_represents {size : UInt64} {memory : Nat → UInt8} (positive : 0 < size.toNat)
    (created : create size memory = .done ring) :
    ring.Represents (BoundedQueue.nil : BoundedQueue UInt8 size.toNat) := by
  simp only [create] at created
  split at created
  · simp at created
  · rename_i small
    simp only [Outcome.done.injEq] at created
    subst ring
    refine ⟨⟨Nat.lt_of_not_le small, by simp, by simpa using positive, by simp, by simp⟩, rfl, ?_⟩
    simp [RingBuffer.contents, RingBuffer.queued]

theorem Represents.advance (represents : ring.Represents queue) {count : UInt64}
    (bound : count.toNat ≤ ring.queued) :
    (ring.advance count).Represents (queue.consume count.toNat) := by
  have advanced := represents.valid.advance bound
  refine ⟨advanced.1, by rw [advance_size, represents.size], ?_⟩
  rw [advanced.2, represents.contents, BoundedQueue.consume_items]

theorem consume_clipped (queue : BoundedQueue UInt8 capacity) (count : Nat) :
    queue.consume (min count queue.remaining) = queue.consume count := by
  apply BoundedQueue.ext
  simp only [BoundedQueue.consume_items]
  rcases Nat.le_total count queue.remaining with short | long
  · rw [Nat.min_eq_left short]
  · rw [Nat.min_eq_right long, List.drop_eq_nil_of_le long]
    exact List.drop_eq_nil_of_le (Nat.le_refl _)

theorem Represents.advance_clipped (represents : ring.Represents queue) (length : UInt64) :
    (ring.advance (min length ring.remaining)).Represents (queue.consume length.toNat) := by
  have taken := represents.valid.min_remaining length
  have advanced := represents.advance (by omega : (min length ring.remaining).toNat ≤ ring.queued)
  rwa [taken, represents.queued, consume_clipped] at advanced

theorem perform_consume (build : Build) (represents : ring.Represents queue) (length : UInt64) :
    ∃ next, ring.perform build (.consume length) = .done ((queue.perform (.consume length)).1, next) ∧
      next.Represents (queue.perform (.consume length)).2 := by
  have represented := represents.advance_clipped length
  refine ⟨_, ?_, represented⟩
  simp only [perform, consume_spec build represents.valid, Outcome.done_bind, Outcome.pure_eq,
    BoundedQueue.perform]
  rw [represented.observe, represents.valid.min_remaining, represents.queued]

theorem perform_read (build : Build) (represents : ring.Represents queue) (length : UInt64) :
    ∃ next, ring.perform build (.read length) = .done ((queue.perform (.read length)).1, next) ∧
      next.Represents (queue.perform (.read length)).2 := by
  have valid := represents.valid
  by_cases nothing : ring.queued = 0
  · have isEmpty : ring.empty = true := valid.empty_iff.mpr nothing
    have noItems : queue.items = [] := by
      rw [← represents.contents, ← List.length_eq_zero_iff, valid.contents_length, nothing]
    have same : queue.consume length.toNat = queue := by
      apply BoundedQueue.ext
      simp [noItems]
    refine ⟨ring, ?_, by simpa only [BoundedQueue.perform, same] using represents⟩
    simp only [perform, read, isEmpty, ↓reduceIte, Outcome.done_bind, Outcome.pure_eq,
      BoundedQueue.perform, same]
    rw [represents.observe]
    simp [BoundedQueue.peek, BoundedQueue.remaining, noItems]
  · have represented := represents.advance_clipped length
    refine ⟨_, ?_, represented⟩
    simp only [perform, read_spec build valid length nothing, Outcome.done_bind, Outcome.pure_eq,
      BoundedQueue.perform]
    rw [represented.observe, valid.min_remaining, represents.queued, represents.contents]
    simp [BoundedQueue.peek]

theorem perform_readOffset (build : Build) (represents : ring.Represents queue)
    (offset length : UInt64) (within : offset ≤ ring.remaining) :
    ∃ next, ring.perform build (.readOffset offset length) =
        .done ((queue.perform (.readOffset offset length)).1, next) ∧
      next.Represents (queue.perform (.readOffset offset length)).2 := by
  have valid := represents.valid
  obtain ⟨count, countEq, performed⟩ :=
    readOffset_spec build valid offset length (valid.offset_le within)
  refine ⟨ring, ?_, represents⟩
  simp only [perform, performed, Outcome.done_bind, Outcome.pure_eq, BoundedQueue.perform]
  rw [represents.observe, countEq, represents.contents, represents.queued,
    BoundedQueue.peek_length]
  rfl

theorem perform_write (build : Build) (represents : ring.Represents queue) (data : Buffer)
    (open_ : ring.writable (.write data) = true) :
    ∃ next, ring.perform build (.write data) = .done ((queue.perform (.write data)).1, next) ∧
      next.Represents (queue.perform (.write data)).2 := by
  have valid := represents.valid
  have queued := represents.queued
  have size := represents.size
  have itemsBound := queue.remaining_le
  have acceptedEq : queue.accepted data.bytes =
      data.bytes.take (ring.size.toNat - ring.queued) := by
    rw [BoundedQueue.accepted, BoundedQueue.free, size, queued]
  have countEq : (min data.length ring.free).toNat = (queue.accepted data.bytes).length := by
    rw [valid.min_free, BoundedQueue.accepted_length, BoundedQueue.free, size, queued]
  by_cases isFull : ring.queued = ring.size.toNat
  · have noRoom : queue.accepted data.bytes = [] := by
      rw [acceptedEq, isFull, Nat.sub_self, List.take_zero]
    have same : queue.write data.bytes = queue := by
      apply BoundedQueue.ext
      simp [noRoom]
    refine ⟨ring, ?_, by simpa only [BoundedQueue.perform, same] using represents⟩
    simp only [perform, write, valid.full_iff.mpr isFull, ↓reduceIte, Outcome.done_bind,
      Outcome.pure_eq, BoundedQueue.perform, same, noRoom]
    rw [represents.observe]
    rfl
  · have room : ring.queued < ring.size.toNat := by
      have := valid.queued_le
      omega
    by_cases early : ring.end_.toNat < ring.size.toNat
    · obtain ⟨next, performed, nextValid, nextSize, nextContents⟩ :=
        write_spec build valid data room early
      have represented : next.Represents (queue.write data.bytes) := by
        refine ⟨nextValid, by rw [nextSize, size], ?_⟩
        rw [nextContents, BoundedQueue.write_items, acceptedEq, represents.contents]
      refine ⟨next, ?_, represented⟩
      simp only [perform, performed, Outcome.done_bind, Outcome.pure_eq, BoundedQueue.perform]
      rw [represented.observe, countEq]
    · have noBytes : data.bytes = [] := by
        simp only [writable, Bool.or_eq_true, beq_iff_eq, decide_eq_true_eq] at open_
        rcases open_ with (none | full) | below
        · rw [← List.length_eq_zero_iff, ← Buffer.length_toNat, none]
          rfl
        · exact absurd (valid.full_iff.mp full) isFull
        · exact absurd (UInt64.lt_iff_toNat_lt.mp below) early
      have same : queue.write data.bytes = queue := by
        apply BoundedQueue.ext
        rw [BoundedQueue.write_items, acceptedEq, noBytes, List.take_nil, List.append_nil]
      refine ⟨ring, ?_, by simpa only [BoundedQueue.perform, same] using represents⟩
      simp only [perform, write_stuck build valid data room (by omega), Outcome.done_bind,
        Outcome.pure_eq, BoundedQueue.perform, same]
      simp only [noBytes, List.take_nil, splice_nil]
      rw [represents.observe, countEq, noBytes]

theorem perform_stuck (build : Build) (represents : ring.Represents queue) (data : Buffer)
    (closed : ring.writable (.write data) = false) :
    ∃ seen next, ring.perform build (.write data) = .done (seen, next) ∧
      seen ≠ (queue.perform (.write data)).1 := by
  have valid := represents.valid
  have queued := represents.queued
  have size := represents.size
  simp only [writable, Bool.or_eq_false_iff, beq_eq_false_iff_ne, decide_eq_false_iff_not] at closed
  obtain ⟨⟨some, notFull⟩, late⟩ := closed
  have room : ring.queued < ring.size.toNat := by
    have bound := valid.queued_le
    have notAll : ¬ring.queued = ring.size.toNat := by
      rw [← valid.full_iff, notFull]
      simp
    omega
  have endsLate : ring.size.toNat ≤ ring.end_.toNat := by
    simpa [UInt64.lt_iff_toNat_lt] using late
  have positive : 0 < data.bytes.length := by
    rw [← Buffer.length_toNat]
    apply Nat.pos_of_ne_zero
    intro zero
    exact some (UInt64.toNat_inj.mp zero)
  refine ⟨_, _, by
    simp only [perform, write_stuck build valid data room endsLate, Outcome.done_bind,
      Outcome.pure_eq]
    rfl, ?_⟩
  intro same
  have remainingSame := congrArg Observation.remaining same
  simp only [RingBuffer.observe, BoundedQueue.perform, BoundedQueue.observe,
    BoundedQueue.write_remaining, BoundedQueue.accepted_length, BoundedQueue.free] at remainingSame
  change ring.remaining.toNat = _ at remainingSame
  rw [valid.remaining_toNat] at remainingSame
  omega

/-! Every run: the caller cannot tell the ring buffer from the queue exactly as
long as no write meets queued bytes that reach the end of the storage. -/

theorem perform_refines (build : Build) (represents : ring.Represents queue) (call : RingCall)
    (within : ring.offsetWithin call = true) (open_ : ring.writable call = true) :
    ∃ next, ring.perform build call = .done ((queue.perform call).1, next) ∧
      next.Represents (queue.perform call).2 := by
  cases call with
  | write data => exact perform_write build represents data open_
  | read length => exact perform_read build represents length
  | consume length => exact perform_consume build represents length
  | readOffset offset length =>
      exact perform_readOffset build represents offset length (of_decide_eq_true within)

theorem perform_differs (build : Build) (represents : ring.Represents queue) (call : RingCall)
    (closed : ring.writable call = false) :
    ∃ seen next, ring.perform build call = .done (seen, next) ∧ seen ≠ (queue.perform call).1 := by
  cases call with
  | write data => exact perform_stuck build represents data closed
  | _ => simp [writable] at closed

theorem observations_iff (build : Build) (calls : List RingCall) (ring : RingBuffer)
    (queue : BoundedQueue UInt8 capacity) (represents : ring.Represents queue)
    (offsets : ring.offsetsCheck build calls = true) :
    ring.observations build calls = .done (queue.observations calls) ↔
      ring.writesCheck build calls = true := by
  induction calls generalizing ring queue with
  | nil => simp [observations, BoundedQueue.observations, writesCheck]
  | cons call calls ih =>
      simp only [offsetsCheck, Bool.and_eq_true] at offsets
      cases open_ : ring.writable call with
      | true =>
          obtain ⟨next, performed, represented⟩ :=
            perform_refines build represents call offsets.1 open_
          simp only [performed] at offsets
          simp only [observations, BoundedQueue.observations, writesCheck, performed, open_,
            Outcome.done_bind, Bool.true_and]
          rw [← ih next _ represented offsets.2]
          cases next.observations build calls <;> simp
      | false =>
          obtain ⟨seen, next, performed, differs⟩ := perform_differs build represents call open_
          simp only [observations, BoundedQueue.observations, writesCheck, performed, open_,
            Outcome.done_bind, Bool.false_and, Bool.false_eq_true, iff_false]
          intro same
          obtain ⟨later, _, joined⟩ := Outcome.bind_eq_done.mp same
          simp only [Outcome.pure_eq, Outcome.done.injEq, List.cons.injEq] at joined
          exact differs joined.1

/-- A fresh ring buffer behaves as the bounded byte queue over a run exactly
when each of its writes is writable. -/
theorem ringBuffer_refines_iff (build : Build) (size : UInt64) (memory : Nat → UInt8)
    (ring : RingBuffer) (calls : List RingCall) (positive : 0 < size)
    (created : create size memory = .done ring)
    (offsets : ring.offsetsCheck build calls = true) :
    ring.observations build calls =
        .done ((BoundedQueue.nil : BoundedQueue UInt8 size.toNat).observations calls) ↔
      ring.writesCheck build calls = true :=
  observations_iff build calls ring BoundedQueue.nil
    (create_represents (UInt64.lt_iff_toNat_lt.mp positive) created) offsets

def freshRing : RingBuffer := ⟨5, [0, 0, 0, 0, 0], 0, 0⟩

-- the history of the test `RingReadWrite`
def ringReadWrite : List RingCall :=
  [.write ⟨[97, 97], by decide⟩, .read 1, .write ⟨[49, 50, 51, 52], by decide⟩, .read 5]

theorem ringReadWrite_refines :
    freshRing.observations .debug ringReadWrite =
      .done ((BoundedQueue.nil : BoundedQueue UInt8 (5 : UInt64).toNat).observations ringReadWrite) :=
  (ringBuffer_refines_iff .debug 5 (fun _ => 0) freshRing ringReadWrite (by decide) rfl
    (by decide)).mpr (by decide)

-- the third write finds `end_ = 6`: it reports one byte and stores it behind the queue
def lateWrite : List RingCall :=
  [.write ⟨[1, 2, 3, 4], by decide⟩, .read 2, .write ⟨[5, 6], by decide⟩,
    .write ⟨[7], by decide⟩, .read 5]

theorem lateWrite_loses_byte :
    create 5 (fun _ => 0) = .done freshRing ∧
      freshRing.offsetsCheck .debug lateWrite = true ∧
      freshRing.observations .debug lateWrite ≠
        .done ((BoundedQueue.nil : BoundedQueue UInt8 5).observations lateWrite) :=
  ⟨rfl, by decide, by decide⟩

end RingBuffer

end LabNetstack
