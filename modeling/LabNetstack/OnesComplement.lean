import Mathlib.Data.Nat.ModEq
import Mathlib.Algebra.BigOperators.Group.List.Basic
import Mathlib.Tactic.Linarith

/-! One's-complement addition on `0..top`: the carry out of a sum is added back
at the low end, so that sums are kept modulo `top`, with `top` rather than 0 for
a sum of something. -/

namespace LabNetstack

def carryAdd (top first second : Nat) : Nat :=
  (first + second) % (top + 1) + (first + second) / (top + 1)

def carrySum (top start : Nat) (words : List Nat) : Nat := words.foldl (carryAdd top) start

def residue (top total : Nat) : Nat := if total = 0 then 0 else (total - 1) % top + 1

section Residues

variable {top : Nat}

theorem residue_pos {total : Nat} (positive : 0 < total) : 0 < residue top total := by
  rw [residue, if_neg (by omega)]
  exact Nat.succ_pos _

theorem residue_le (nonzero : 0 < top) (total : Nat) : residue top total ≤ top := by
  unfold residue
  split
  · exact Nat.zero_le _
  · exact Nat.mod_lt _ nonzero

theorem residue_modEq (total : Nat) : residue top total ≡ total [MOD top] := by
  unfold residue
  split
  · rename_i zero
    rw [zero]
  · rename_i positive
    have shifted : (total - 1) % top + 1 ≡ (total - 1) + 1 [MOD top] :=
      (Nat.mod_modEq (total - 1) top).add_right 1
    rwa [Nat.sub_add_cancel (by omega)] at shifted

theorem modEq_eq_of_pos_le {first second : Nat} (same : first ≡ second [MOD top])
    (firstPos : 0 < first) (secondPos : 0 < second) (firstLe : first ≤ top)
    (secondLe : second ≤ top) : first = second := by
  have shifted : first - 1 ≡ second - 1 [MOD top] := by
    apply Nat.ModEq.add_right_cancel' 1
    rwa [Nat.sub_add_cancel firstPos, Nat.sub_add_cancel secondPos]
  have equal := shifted.eq_of_lt_of_lt (by omega) (by omega)
  omega

theorem residue_eq_iff (nonzero : 0 < top) {first second : Nat} (firstPos : 0 < first)
    (secondPos : 0 < second) :
    residue top first = residue top second ↔ first ≡ second [MOD top] := by
  constructor
  · intro same
    exact (residue_modEq first).symm.trans (same ▸ residue_modEq second)
  · intro same
    exact modEq_eq_of_pos_le ((residue_modEq first).trans (same.trans (residue_modEq second).symm))
      (residue_pos firstPos) (residue_pos secondPos) (residue_le nonzero _) (residue_le nonzero _)

theorem complement_eq_iff (nonzero : 0 < top) {first second : Nat} (firstPos : 0 < first)
    (secondPos : 0 < second) :
    top - residue top first = top - residue top second ↔ first ≡ second [MOD top] := by
  have firstLe := residue_le nonzero first
  have secondLe := residue_le nonzero second
  rw [← residue_eq_iff nonzero firstPos secondPos]
  omega

theorem residue_of_le {total : Nat} (le : total ≤ top) : residue top total = total := by
  unfold residue
  split
  · omega
  · rw [Nat.mod_eq_of_lt (by omega)]
    omega

theorem residue_add (nonzero : 0 < top) (total extra : Nat) :
    residue top (residue top total + extra) = residue top (total + extra) := by
  rcases Nat.eq_zero_or_pos total with rfl | positive
  · rfl
  · have inner : 0 < residue top total := residue_pos positive
    rw [residue_eq_iff nonzero (by omega) (by omega)]
    exact (residue_modEq total).add_right extra

/-- Adding the complement of a sum to it gives the top value. -/
theorem residue_complement (nonzero : 0 < top) (total : Nat) :
    residue top (total + (top - residue top total)) = top := by
  have le := residue_le nonzero total
  rw [← residue_add nonzero, Nat.add_sub_cancel' le]
  exact residue_of_le (Nat.le_refl top)

/-- Adding the carry back once is enough for any total up to twice the top value. -/
theorem fold_eq {total : Nat} (le : total ≤ 2 * top) :
    total % (top + 1) + total / (top + 1) = residue top total := by
  by_cases small : total ≤ top
  · rw [Nat.mod_eq_of_lt (by omega), Nat.div_eq_of_lt (by omega), residue_of_le small, Nat.add_zero]
  · have remainder : total % (top + 1) = total - (top + 1) := by
      rw [Nat.mod_eq_sub_mod (by omega), Nat.mod_eq_of_lt (by omega)]
    have quotient : total / (top + 1) = 1 := by
      rw [Nat.div_eq_sub_div (by omega) (by omega), Nat.div_eq_of_lt (by omega)]
    have reduced : (total - 1) % top = total - 1 - top := by
      rw [Nat.mod_eq_sub_mod (by omega), Nat.mod_eq_of_lt (by omega)]
    rw [remainder, quotient, residue, if_neg (by omega), reduced]
    omega

theorem carryAdd_eq {first second : Nat} (firstLe : first ≤ top) (secondLe : second ≤ top) :
    carryAdd top first second = residue top (first + second) := by
  rw [carryAdd, fold_eq (by omega)]

/-- Only a multiple of the top value has a residue other than its remainder. -/
theorem residue_eq_mod (nonzero : 0 < top) {total : Nat} (remains : total % top ≠ 0) :
    residue top total = total % top := by
  have positive : 0 < total := by
    rcases Nat.eq_zero_or_pos total with rfl | positive
    · exact absurd (Nat.zero_mod top) remains
    · exact positive
  exact modEq_eq_of_pos_le ((residue_modEq total).trans (Nat.mod_modEq total top).symm)
    (residue_pos positive) (Nat.pos_of_ne_zero remains) (residue_le nonzero total)
    (Nat.mod_lt total nonzero).le

/-- The running sum is the residue of the plain sum. -/
theorem carrySum_eq (nonzero : 0 < top) {start : Nat} (startLe : start ≤ top) {words : List Nat}
    (wordsLe : ∀ word ∈ words, word ≤ top) :
    carrySum top start words = residue top (start + words.sum) := by
  unfold carrySum
  induction words generalizing start with
  | nil =>
      rw [List.foldl_nil, List.sum_nil, Nat.add_zero, residue_of_le startLe]
  | cons word words ih =>
      have wordLe := wordsLe word List.mem_cons_self
      rw [List.foldl_cons, carryAdd_eq startLe wordLe,
        ih (residue_le nonzero _) (fun later member => wordsLe later (List.mem_cons_of_mem _ member)),
        residue_add nonzero, List.sum_cons, Nat.add_assoc]

end Residues

end LabNetstack
