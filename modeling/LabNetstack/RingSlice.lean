import Mathlib.Data.List.Basic
import Mathlib.Tactic.Common

/-! Circular windows of a list, and overwriting a block of it. A window that
runs past the last cell continues at the first one. -/

namespace LabNetstack

universe u

variable {α : Type u}

/-- The `count` cells from `start` on, where the cells repeat after the last one. -/
def ringSlice (cells : List α) (start count : Nat) : List α :=
  ((cells ++ cells).drop start).take count

/-- Overwrite the cells from `start` on with `data`. -/
def splice (cells : List α) (start : Nat) (data : List α) : List α :=
  cells.take start ++ data ++ cells.drop (start + data.length)

/-- Overwrite the cells from `start` on, and go on at the first one after the last. -/
def ringSplice (cells : List α) (start : Nat) (data : List α) : List α :=
  splice (splice cells start (data.take (cells.length - start))) 0
    (data.drop (cells.length - start))

@[simp] theorem ringSlice_zero (cells : List α) (start : Nat) : ringSlice cells start 0 = [] := by
  simp [ringSlice]

theorem ringSlice_length {cells : List α} {start count : Nat}
    (bounded : start + count ≤ 2 * cells.length) : (ringSlice cells start count).length = count := by
  simp only [ringSlice, List.length_take, List.length_drop, List.length_append]
  omega

theorem ringSlice_take (cells : List α) (start count kept : Nat) :
    (ringSlice cells start count).take kept = ringSlice cells start (min kept count) := by
  simp [ringSlice, List.take_take]

theorem ringSlice_drop (cells : List α) (start count dropped : Nat) :
    (ringSlice cells start count).drop dropped =
      ringSlice cells (start + dropped) (count - dropped) := by
  simp [ringSlice, List.drop_take, List.drop_drop]

theorem ringSlice_add (cells : List α) (start first second : Nat) :
    ringSlice cells start (first + second) =
      ringSlice cells start first ++ ringSlice cells (start + first) second := by
  simp [ringSlice, List.take_add, List.drop_drop]

theorem ringSlice_inner {cells : List α} {start count : Nat}
    (fits : start + count ≤ cells.length) :
    ringSlice cells start count = (cells.drop start).take count := by
  have startBound : start ≤ cells.length := by omega
  rw [ringSlice, List.drop_append_of_le_length startBound, List.take_append_of_le_length]
  simp only [List.length_drop]
  omega

/-- A window that crosses the end of the cells is a suffix followed by a prefix. -/
theorem ringSlice_crossing {cells : List α} {start count : Nat}
    (startBound : start ≤ cells.length) (past : cells.length ≤ start + count) :
    ringSlice cells start count = cells.drop start ++ cells.take (start + count - cells.length) := by
  have split : count = (cells.drop start).length + (start + count - cells.length) := by
    simp only [List.length_drop]
    omega
  rw [ringSlice, List.drop_append_of_le_length startBound]
  conv => lhs; rw [split]
  rw [List.take_length_add_append]

theorem ringSlice_wrap {cells : List α} {start count : Nat}
    (past : cells.length ≤ start) (bounded : start + count ≤ 2 * cells.length) :
    ringSlice cells start count = ringSlice cells (start - cells.length) count := by
  have inner : start - cells.length + count ≤ cells.length := by omega
  rw [ringSlice_inner inner, ringSlice, List.drop_append, List.drop_eq_nil_of_le past,
    List.nil_append]

theorem splice_length {cells : List α} {start : Nat} {data : List α}
    (fits : start + data.length ≤ cells.length) :
    (splice cells start data).length = cells.length := by
  simp only [splice, List.length_append, List.length_take, List.length_drop]
  omega

theorem splice_nil (cells : List α) (start : Nat) : splice cells start [] = cells := by
  simp [splice]

theorem splice_take_below {cells : List α} {start : Nat} {data : List α} {kept : Nat}
    (below : kept ≤ start) (fits : start ≤ cells.length) :
    (splice cells start data).take kept = cells.take kept := by
  have short : kept ≤ (cells.take start).length := by
    simp only [List.length_take]
    omega
  rw [splice, List.append_assoc, List.take_append_of_le_length short, List.take_take,
    Nat.min_eq_left below]

theorem splice_drop_above {cells : List α} {start : Nat} {data : List α} {dropped : Nat}
    (above : start + data.length ≤ dropped) (fits : start ≤ cells.length) :
    (splice cells start data).drop dropped = cells.drop dropped := by
  have prefixLength : (cells.take start ++ data).length = start + data.length := by
    simp only [List.length_append, List.length_take]
    omega
  have gap : start + data.length + (dropped - (start + data.length)) = dropped := by omega
  rw [splice, List.drop_append, prefixLength, List.drop_drop, gap,
    List.drop_eq_nil_of_le (by omega), List.nil_append]

theorem splice_block {cells : List α} {start : Nat} {data : List α}
    (fits : start ≤ cells.length) :
    ((splice cells start data).drop start).take data.length = data := by
  have prefixLength : (cells.take start).length = start := by
    simp only [List.length_take]
    omega
  rw [splice, List.append_assoc, List.drop_append_of_le_length (by omega)]
  rw [List.drop_eq_nil_of_le (by omega), List.nil_append, List.take_left']
  rfl

/-- Overwriting a block leaves every window alone that stays clear of it. -/
theorem ringSlice_splice_clear {cells : List α} {start count block : Nat} {data : List α}
    (startBound : start ≤ cells.length) (fits : block + data.length ≤ cells.length)
    (clear : start + count ≤ block ∨
      (block + data.length ≤ start ∧ start + count ≤ cells.length + block)) :
    ringSlice (splice cells block data) start count = ringSlice cells start count := by
  have size := splice_length fits
  rcases clear with before | ⟨after, loop⟩
  · rw [ringSlice_inner (by omega), ringSlice_inner (by omega), List.take_drop, List.take_drop,
      splice_take_below (by omega) (by omega)]
  · by_cases inner : start + count ≤ cells.length
    · rw [ringSlice_inner (by omega), ringSlice_inner inner,
        splice_drop_above after (by omega)]
    · rw [ringSlice_crossing (by omega) (by omega),
        ringSlice_crossing startBound (by omega), size,
        splice_drop_above after (by omega), splice_take_below (by omega) (by omega)]

theorem ringSlice_splice_block {cells : List α} {start : Nat} {data : List α}
    (fits : start + data.length ≤ cells.length) :
    ringSlice (splice cells start data) start data.length = data := by
  have size := splice_length fits
  rw [ringSlice_inner (by omega), splice_block (by omega)]

/-- Writing around the end of the cells in two blocks reads back as one window. -/
theorem ringSlice_splice_crossing {cells : List α} {start : Nat} {first second : List α}
    (full : start + first.length = cells.length) (room : second.length ≤ start) :
    ringSlice (splice (splice cells start first) 0 second) start (first.length + second.length) =
      first ++ second := by
  have firstSize : (splice cells start first).length = cells.length := splice_length (by omega)
  have secondSize : (splice (splice cells start first) 0 second).length = cells.length := by
    rw [splice_length (by omega), firstSize]
  have firstBlock : (splice cells start first).drop start = first := by
    have block : ((splice cells start first).drop start).take first.length = first :=
      splice_block (by omega)
    rwa [List.take_of_length_le (by simp only [List.length_drop]; omega)] at block
  have secondBlock : (splice (splice cells start first) 0 second).take second.length = second := by
    have block : ((splice (splice cells start first) 0 second).drop 0).take second.length = second :=
      splice_block (Nat.zero_le _)
    rwa [List.drop_zero] at block
  have count : start + (first.length + second.length) - cells.length = second.length := by omega
  rw [ringSlice_crossing (by omega) (by omega), splice_drop_above (by omega) (by omega),
    firstBlock, secondSize, count, secondBlock]

section Around

variable {cells data : List α} {start : Nat}

theorem ringSplice_inner (fits : start + data.length ≤ cells.length) :
    ringSplice cells start data = splice cells start data := by
  rw [ringSplice, List.take_of_length_le (by omega), List.drop_eq_nil_of_le (by omega), splice_nil]

theorem ringSplice_length (startBound : start ≤ cells.length) (fits : data.length ≤ cells.length) :
    (ringSplice cells start data).length = cells.length := by
  have first : (splice cells start (data.take (cells.length - start))).length = cells.length := by
    apply splice_length
    rw [List.length_take]
    omega
  rw [ringSplice, splice_length, first]
  rw [first, List.length_drop]
  omega

theorem ringSlice_ringSplice_block (startBound : start ≤ cells.length)
    (fits : data.length ≤ cells.length) :
    ringSlice (ringSplice cells start data) start data.length = data := by
  by_cases inner : start + data.length ≤ cells.length
  · rw [ringSplice_inner inner, ringSlice_splice_block inner]
  · have firstLength : (data.take (cells.length - start)).length = cells.length - start := by
      rw [List.length_take]
      omega
    have secondLength : (data.drop (cells.length - start)).length =
        data.length - (cells.length - start) := List.length_drop
    have block : ringSlice (ringSplice cells start data) start _ = _ :=
      ringSlice_splice_crossing (by omega) (by omega)
    have total : (data.take (cells.length - start)).length +
        (data.drop (cells.length - start)).length = data.length := by omega
    rwa [total, List.take_append_drop] at block

/-- The cells before the block keep their values as long as it does not run into them. -/
theorem ringSlice_ringSplice_before {count : Nat} (startBound : start + count ≤ cells.length)
    (room : count + data.length ≤ cells.length) :
    ringSlice (ringSplice cells (start + count) data) start count =
      ringSlice cells start count := by
  by_cases inner : start + count + data.length ≤ cells.length
  · rw [ringSplice_inner inner, ringSlice_splice_clear (by omega) inner (.inl (by omega))]
  · have firstLength : (data.take (cells.length - (start + count))).length =
        cells.length - (start + count) := by
      rw [List.length_take]
      omega
    have firstSize : (splice cells (start + count)
        (data.take (cells.length - (start + count)))).length = cells.length :=
      splice_length (by omega)
    have secondLength : (data.drop (cells.length - (start + count))).length =
        data.length - (cells.length - (start + count)) := List.length_drop
    rw [ringSplice, ringSlice_splice_clear (by omega) (by omega) (.inr ⟨by omega, by omega⟩),
      ringSlice_splice_clear (by omega) (by omega) (.inl (by omega))]

end Around

end LabNetstack
