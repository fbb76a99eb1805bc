import Mathlib.Data.List.Perm.Basic
import Mathlib.Data.List.Nodup
import Mathlib.Data.List.Sort
import Mathlib.Order.Defs.LinearOrder
import Mathlib.Tactic.Common

/-! Lists of entries that are looked up, replaced and dropped by a key. -/

namespace LabNetstack

universe u v

section Tables

variable {α : Type u} {κ : Type v} [DecidableEq κ] (key : α → κ)

def entryAt (place : κ) (entries : List α) : Option α := entries.find? fun entry => key entry == place

def replaceAt (place : κ) (change : α → α) (entries : List α) : List α :=
  entries.map fun entry => if key entry = place then change entry else entry

def dropAt (place : κ) (entries : List α) : List α :=
  entries.filter fun entry => decide (key entry ≠ place)

variable {key}

theorem entryAt_some {place : κ} {entries : List α} {entry : α}
    (found : entryAt key place entries = some entry) : entry ∈ entries ∧ key entry = place := by
  refine ⟨List.mem_of_find?_eq_some found, ?_⟩
  have test := List.find?_some found
  exact beq_iff_eq.mp test

theorem entryAt_none {place : κ} {entries : List α} :
    entryAt key place entries = none ↔ place ∉ entries.map key := by
  simp [entryAt, List.find?_eq_none]

/-- Under unique keys an entry is the one its key finds. -/
theorem entryAt_of_mem {entries : List α} {entry : α} (unique : (entries.map key).Nodup)
    (member : entry ∈ entries) : entryAt key (key entry) entries = some entry := by
  cases found : entryAt key (key entry) entries with
  | none => exact absurd (List.mem_map_of_mem member) (entryAt_none.mp found)
  | some other =>
      obtain ⟨present, same⟩ := entryAt_some found
      rw [List.inj_on_of_nodup_map unique present member same]

theorem entryAt_map {place : κ} {change : α → α} (kept : ∀ entry, key (change entry) = key entry)
    (entries : List α) :
    entryAt key place (entries.map change) = (entryAt key place entries).map change := by
  rw [entryAt, List.find?_map]
  have same : ((fun entry => key entry == place) ∘ change) = fun entry => key entry == place :=
    funext fun entry => by rw [Function.comp_apply, kept]
  rw [same]
  rfl

theorem entryAt_dropAt {place other : κ} (entries : List α) :
    entryAt key place (dropAt key other entries) =
      if place = other then none else entryAt key place entries := by
  split
  · rename_i same
    rw [entryAt_none, same]
    intro present
    obtain ⟨entry, kept, here⟩ := List.mem_map.mp present
    simp [dropAt, here] at kept
  · rename_i apart
    rw [entryAt, dropAt, List.find?_filter]
    refine congrArg (fun test => entries.find? test) (funext fun entry => ?_)
    by_cases here : key entry = place
    · simp [here, apart]
    · simp [here]

theorem entryAt_replaceAt {place other : κ} {change : α → α}
    (kept : ∀ entry, key entry = place → key (change entry) = place) (entries : List α) :
    entryAt key other (replaceAt key place change entries) =
      if other = place then (entryAt key place entries).map change
      else entryAt key other entries := by
  induction entries with
  | nil => simp [entryAt, replaceAt]
  | cons first entries ih =>
      unfold entryAt replaceAt at ih ⊢
      rw [List.map_cons, List.find?_cons, List.find?_cons, List.find?_cons, ih]
      by_cases here : key first = place
      · rw [if_pos here, kept first here, here, beq_self_eq_true]
        by_cases same : other = place
        · rw [if_pos same, if_pos same, same, beq_self_eq_true]
          rfl
        · rw [if_neg same, if_neg same, beq_false_of_ne (Ne.symm same)]
      · rw [if_neg here, beq_false_of_ne here]
        by_cases same : other = place
        · rw [if_pos same, if_pos same, same, beq_false_of_ne here]
        · rw [if_neg same, if_neg same]

theorem mem_replaceAt {place : κ} {change : α → α} {entries : List α} {entry : α} :
    entry ∈ replaceAt key place change entries ↔
      (entry ∈ entries ∧ key entry ≠ place) ∨
        ∃ before ∈ entries, key before = place ∧ change before = entry := by
  constructor
  · intro member
    obtain ⟨before, present, rfl⟩ := List.mem_map.mp member
    by_cases here : key before = place
    · rw [if_pos here]
      exact Or.inr ⟨before, present, here, rfl⟩
    · rw [if_neg here]
      exact Or.inl ⟨present, here⟩
  · rintro (⟨present, elsewhere⟩ | ⟨before, present, here, rfl⟩)
    · exact List.mem_map.mpr ⟨entry, present, if_neg elsewhere⟩
    · exact List.mem_map.mpr ⟨before, present, if_pos here⟩

theorem mem_dropAt {place : κ} {entries : List α} {entry : α} :
    entry ∈ dropAt key place entries ↔ entry ∈ entries ∧ key entry ≠ place := by
  simp [dropAt]

theorem dropAt_absent {place : κ} {entries : List α} (absent : place ∉ entries.map key) :
    dropAt key place entries = entries := by
  refine List.filter_eq_self.mpr fun entry member => decide_eq_true fun same => absent ?_
  rw [← same]
  exact List.mem_map_of_mem member

theorem replaceAt_absent {place : κ} {change : α → α} {entries : List α}
    (absent : place ∉ entries.map key) : replaceAt key place change entries = entries := by
  refine (List.map_congr_left fun entry member => if_neg fun same => absent ?_).trans
    (List.map_id' entries)
  rw [← same]
  exact List.mem_map_of_mem member

/-- Under unique keys a table is one of its entries and the rest. -/
theorem perm_cons_dropAt {entries : List α} {entry : α} (unique : (entries.map key).Nodup)
    (member : entry ∈ entries) : entries.Perm (entry :: dropAt key (key entry) entries) := by
  induction entries with
  | nil => simp at member
  | cons first entries ih =>
      rw [List.map_cons, List.nodup_cons] at unique
      rcases List.mem_cons.mp member with rfl | later
      · have rest : dropAt key (key entry) (entry :: entries) = entries := by
          rw [dropAt, List.filter_cons_of_neg (by simp)]
          exact dropAt_absent unique.1
        rw [rest]
      · have differs : key first ≠ key entry := fun same =>
          unique.1 (same ▸ List.mem_map_of_mem later)
        have rest : dropAt key (key entry) (first :: entries) =
            first :: dropAt key (key entry) entries := by
          rw [dropAt, List.filter_cons_of_pos (by simpa using differs)]
          rfl
        rw [rest]
        exact ((ih unique.2 later).cons first).trans (List.Perm.swap entry first _)

/-- Replacing an entry keeps the rest. -/
theorem replaceAt_perm {entries : List α} {entry : α} (unique : (entries.map key).Nodup)
    (member : entry ∈ entries) (change : α → α) :
    (replaceAt key (key entry) change entries).Perm
      (change entry :: dropAt key (key entry) entries) := by
  have split := (perm_cons_dropAt unique member).map
    fun other => if key other = key entry then change other else other
  rw [List.map_cons, if_pos rfl] at split
  refine split.trans (List.Perm.of_eq ?_)
  have absent : key entry ∉ (dropAt key (key entry) entries).map key := by
    intro present
    obtain ⟨other, kept, same⟩ := List.mem_map.mp present
    exact (mem_dropAt.mp kept).2 same
  exact congrArg (change entry :: ·) (replaceAt_absent absent)

/-- A change that keeps another key of each entry keeps the list of those keys. -/
theorem map_replaceAt {ι : Type v} {other : α → ι} {place : κ} {change : α → α}
    (kept : ∀ entry, other (change entry) = other entry) (entries : List α) :
    (replaceAt key place change entries).map other = entries.map other := by
  rw [replaceAt, List.map_map]
  refine List.map_congr_left fun entry _ => ?_
  rw [Function.comp_apply]
  split
  · exact kept entry
  · rfl

theorem replaceAt_keys {place : κ} {after : α} (same : key after = place) (entries : List α) :
    (replaceAt key place (fun _ => after) entries).map key = entries.map key := by
  rw [replaceAt, List.map_map]
  refine List.map_congr_left fun entry _ => ?_
  by_cases here : key entry = place <;> simp [here, same]

theorem nodup_replaceAt {place : κ} {after : α} {entries : List α} (same : key after = place)
    (unique : (entries.map key).Nodup) :
    ((replaceAt key place (fun _ => after) entries).map key).Nodup := by
  rw [replaceAt_keys same]
  exact unique

theorem replaceAt_twice {place : κ} {first : α} (same : key first = place) (second : α)
    (entries : List α) :
    replaceAt key place (fun _ => second) (replaceAt key place (fun _ => first) entries) =
      replaceAt key place (fun _ => second) entries := by
  rw [replaceAt, replaceAt, replaceAt, List.map_map]
  refine List.map_congr_left fun entry _ => ?_
  by_cases here : key entry = place <;> simp [here, same]

theorem nodup_map_dropAt {ι : Type v} {other : α → ι} {place : κ} {entries : List α}
    (unique : (entries.map other).Nodup) : ((dropAt key place entries).map other).Nodup :=
  unique.sublist (List.filter_sublist.map other)

theorem pairwise_dropAt {place : κ} {entries : List α} {relation : α → α → Prop}
    (holds : entries.Pairwise relation) : (dropAt key place entries).Pairwise relation :=
  holds.sublist List.filter_sublist

end Tables

/-! Lists in the order of a key that several entries may share. -/

section Multimaps

variable {α : Type u} {κ : Type v} [LinearOrder κ] (key : α → κ)

/-- Insert behind the entries of the same key. -/
def emplace (entry : α) (entries : List α) : List α :=
  entries.orderedInsert (fun first second => key first < key second) entry

variable {key}

theorem emplace_perm (entry : α) (entries : List α) :
    (emplace key entry entries).Perm (entry :: entries) :=
  List.perm_orderedInsert _ entry entries

theorem mem_emplace {entry other : α} {entries : List α} :
    other ∈ emplace key entry entries ↔ other = entry ∨ other ∈ entries :=
  List.mem_orderedInsert _

theorem emplace_ordered {entry : α} {entries : List α}
    (ordered : entries.Pairwise fun first second => key first ≤ key second) :
    (emplace key entry entries).Pairwise fun first second => key first ≤ key second := by
  induction entries with
  | nil => exact List.pairwise_singleton _ entry
  | cons first entries ih =>
      obtain ⟨least, rest⟩ := List.pairwise_cons.mp ordered
      rw [emplace, List.orderedInsert_cons]
      split
      · rename_i before
        refine List.pairwise_cons.mpr ⟨?_, ordered⟩
        intro other member
        rcases List.mem_cons.mp member with rfl | later
        · exact le_of_lt before
        · exact le_trans (le_of_lt before) (least other later)
      · rename_i behind
        refine List.pairwise_cons.mpr ⟨?_, ih rest⟩
        intro other member
        rcases mem_emplace.mp member with rfl | later
        · exact not_lt.mp behind
        · exact least other later

end Multimaps

end LabNetstack
