import Mathlib.Data.List.Nodup
import Mathlib.Data.List.Perm.Subperm

/-! The table of open descriptors of a process: numbers below a limit, and the lowest one that is
free is given out next. -/

namespace LabNetstack

structure DescriptorTable (limit : Nat) where
  opened : List Nat
  inside : ∀ number ∈ opened, number < limit
  distinct : opened.Nodup

namespace DescriptorTable

variable {limit : Nat}

def lowest (table : DescriptorTable limit) : Option Nat :=
  (List.range limit).find? fun number => number ∉ table.opened

def claim (table : DescriptorTable limit) (number : Nat) : DescriptorTable limit :=
  if free : number < limit ∧ number ∉ table.opened then
    ⟨number :: table.opened, List.forall_mem_cons.mpr ⟨free.1, table.inside⟩,
      List.nodup_cons.mpr ⟨free.2, table.distinct⟩⟩
  else table

def allocate (table : DescriptorTable limit) : Option Nat × DescriptorTable limit :=
  match table.lowest with
  | none => (none, table)
  | some number => (some number, table.claim number)

def dup (table : DescriptorTable limit) (number : Nat) : Option Nat × DescriptorTable limit :=
  if number ∈ table.opened then table.allocate else (none, table)

def release (table : DescriptorTable limit) (number : Nat) : DescriptorTable limit :=
  ⟨table.opened.erase number, fun _ member => table.inside _ (List.mem_of_mem_erase member),
    table.distinct.erase number⟩

variable {table : DescriptorTable limit} {number other : Nat}

theorem lowest_free (found : table.lowest = some number) :
    number < limit ∧ number ∉ table.opened := by
  have free := List.find?_some found
  exact ⟨List.mem_range.mp (List.mem_of_find?_eq_some found), by simpa using free⟩

theorem length_le (table : DescriptorTable limit) : table.opened.length ≤ limit := by
  have within : table.opened ⊆ List.range limit :=
    fun number member => List.mem_range.mpr (table.inside number member)
  have bounded := (List.subperm_of_subset table.distinct within).length_le
  rwa [List.length_range] at bounded

theorem lowest_none_iff : table.lowest = none ↔ table.opened.length = limit := by
  rw [lowest, List.find?_eq_none]
  constructor
  · intro taken
    have covered : List.range limit ⊆ table.opened :=
      fun number member => by simpa using taken number member
    have bounded := (List.subperm_of_subset List.nodup_range covered).length_le
    rw [List.length_range] at bounded
    exact Nat.le_antisymm table.length_le bounded
  · intro full number member
    have within : table.opened ⊆ List.range limit :=
      fun number member => List.mem_range.mpr (table.inside number member)
    have all := (List.subperm_of_subset table.distinct within).perm_of_length_le
      (Nat.le_of_eq (by rw [List.length_range, full]))
    simpa using all.mem_iff.mpr member

theorem claim_opened (free : number < limit ∧ number ∉ table.opened) :
    (table.claim number).opened = number :: table.opened := by
  rw [claim, dif_pos free]

theorem allocate_cases (table : DescriptorTable limit) :
    (table.lowest = none ∧ table.allocate = (none, table)) ∨
      ∃ number next, table.allocate = (some number, next) ∧ number < limit ∧
        number ∉ table.opened ∧ next.opened = number :: table.opened := by
  cases found : table.lowest with
  | none => exact Or.inl ⟨rfl, by rw [allocate, found]⟩
  | some number =>
      have free := lowest_free found
      exact Or.inr ⟨number, table.claim number, by rw [allocate, found], free.1, free.2,
        claim_opened free⟩

theorem allocate_none_iff : table.allocate.1 = none ↔ table.lowest = none := by
  cases found : table.lowest <;> simp [allocate, found]

theorem allocate_length (table : DescriptorTable limit) :
    table.allocate.2.opened.length = min limit (table.opened.length + 1) := by
  have bounded := table.length_le
  rcases allocate_cases table with ⟨none, same⟩ | ⟨number, next, made, _, _, opened⟩
  · rw [same, lowest_none_iff.mp none]
    omega
  · have grown := next.length_le
    rw [made]
    rw [opened, List.length_cons] at grown ⊢
    omega

theorem mem_allocate (member : number ∈ table.opened) : number ∈ table.allocate.2.opened := by
  rcases allocate_cases table with ⟨_, same⟩ | ⟨_, _, made, _, _, opened⟩
  · rw [same]
    exact member
  · rw [made, opened]
    exact List.mem_cons_of_mem _ member

theorem dup_cases (table : DescriptorTable limit) (number : Nat) :
    table.dup number = (none, table) ∨
      ∃ fresh next, table.dup number = (some fresh, next) ∧ fresh < limit ∧
        fresh ∉ table.opened ∧ next.opened = fresh :: table.opened := by
  rw [dup]
  split
  · rcases allocate_cases table with ⟨_, same⟩ | made
    · exact Or.inl same
    · exact Or.inr made
  · exact Or.inl rfl

theorem mem_release :
    other ∈ (table.release number).opened ↔ other ≠ number ∧ other ∈ table.opened :=
  table.distinct.mem_erase_iff

end DescriptorTable

end LabNetstack
