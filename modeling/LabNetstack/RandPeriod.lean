import Mathlib.NumberTheory.LucasPrimality
import Mathlib.Tactic.NormNum.Prime
import Mathlib.Tactic.ReduceModChar
import LabNetstack.RandGenerator

/-! The period of `RandGenerator`. The multiplier is a primitive root of the modulus, so that a seed
runs through every state once before it comes back. -/

namespace LabNetstack

namespace RandGenerator

theorem multiplier_power : (48271 : ZMod (2 ^ 31 - 1)) ^ (2 ^ 31 - 1 - 1) = 1 := by
  reduce_mod_char

-- for each prime divisor of 2 ^ 31 - 2
theorem multiplier_part {divisor : Nat} (prime : divisor.Prime)
    (divides : divisor ∣ 2 ^ 31 - 1 - 1) :
    (48271 : ZMod (2 ^ 31 - 1)) ^ ((2 ^ 31 - 1 - 1) / divisor) ≠ 1 := by
  have factors : 2 ^ 31 - 1 - 1 = 2 * 3 * 3 * 7 * 11 * 31 * 151 * 331 := by norm_num
  have same : ∀ {other : Nat}, other.Prime → divisor ∣ other → divisor = other :=
    fun otherPrime => (Nat.prime_dvd_prime_iff_eq prime otherPrime).mp
  rw [factors] at divides
  simp only [prime.dvd_mul] at divides
  rcases divides with ((((((part | part) | part) | part) | part) | part) | part) | part
  all_goals
    rw [same (by norm_num) part]
    reduce_mod_char
    decide

theorem modulus_prime : Nat.Prime (2 ^ 31 - 1) :=
  lucas_primality _ 48271 multiplier_power fun _ prime divides => multiplier_part prime divides

theorem multiplier_order : orderOf (48271 : ZMod (2 ^ 31 - 1)) = 2 ^ 31 - 2 :=
  orderOf_eq_of_pow_and_pow_div_prime (by decide) multiplier_power fun _ prime divides =>
    multiplier_part prime divides

section Seeded

variable {seed : UInt32} (positive : 0 < seed.toNat) (below : seed.toNat < 2 ^ 31 - 1)

include positive below

theorem seed_nonzero : (seed.toNat : ZMod (2 ^ 31 - 1)) ≠ 0 := by
  rw [ne_eq, ZMod.natCast_eq_zero_iff]
  intro divides
  have le := Nat.le_of_dvd positive divides
  omega

/-- Two states of the sequence are the same exactly if a whole number of periods lies between. -/
theorem after_eq_iff (first second : Nat) :
    ((create seed).after first).rand_ = ((create seed).after second).rand_ ↔
      first ≡ second [MOD 2 ^ 31 - 2] := by
  have prime : Fact (Nat.Prime (2 ^ 31 - 1)) := ⟨modulus_prime⟩
  have finite : IsOfFinOrder (48271 : ZMod (2 ^ 31 - 1)) :=
    isOfFinOrder_iff_pow_eq_one.mpr ⟨2 ^ 31 - 1 - 1, by decide, multiplier_power⟩
  rw [← UInt32.toNat_inj, after_toNat positive below, after_toNat positive below,
    ← ZMod.natCast_eq_natCast_iff', Nat.cast_mul, Nat.cast_mul, Nat.cast_pow, Nat.cast_pow,
    mul_left_inj' (seed_nonzero positive below), ← multiplier_order]
  exact finite.pow_eq_pow_iff_modEq

/-- As many states as there are values below the modulus, none of them twice: every value comes. -/
theorem after_reaches {value : UInt32} (valuePos : 0 < value.toNat)
    (valueBelow : value.toNat < 2 ^ 31 - 1) :
    ∃ count < 2 ^ 31 - 2, ((create seed).after count).rand_ = value := by
  have inside : ∀ count ∈ Finset.range (2 ^ 31 - 2),
      ((create seed).after count).rand_.toNat ∈ Finset.Ico 1 (2 ^ 31 - 1) := by
    intro count _
    have remains := power_remains positive below count
    have bound := Nat.mod_lt (48271 ^ count * seed.toNat) (show 0 < 2 ^ 31 - 1 by decide)
    rw [after_toNat positive below, Finset.mem_Ico]
    omega
  have distinct : Set.InjOn (fun count => ((create seed).after count).rand_.toNat)
      (Finset.range (2 ^ 31 - 2)) := by
    intro first firstIn second secondIn same
    rw [Finset.coe_range, Set.mem_Iio] at firstIn secondIn
    have congruent := (after_eq_iff positive below first second).mp (UInt32.toNat_inj.mp same)
    exact congruent.eq_of_lt_of_lt firstIn secondIn
  have size : (Finset.Ico 1 (2 ^ 31 - 1)).card ≤ (Finset.range (2 ^ 31 - 2)).card := by
    rw [Nat.card_Ico, Finset.card_range]
    decide
  obtain ⟨count, countIn, reached⟩ := Finset.surjOn_of_injOn_of_card_le _ inside distinct size
    (Finset.mem_coe.mpr (Finset.mem_Ico.mpr ⟨valuePos, valueBelow⟩))
  exact ⟨count, Finset.mem_range.mp countIn, UInt32.toNat_inj.mp reached⟩

/-- `rand(std::numeric_limits<SequenceNumber>::max())` returns the next state as it is. -/
theorem initial_eq (build : Build) (count : Nat) :
    ((create seed).after count).randBelow build 0xffffffff =
      .done (((create seed).after (count + 1)).rand_, (create seed).after (count + 1)) := by
  have bound := Nat.mod_lt (48271 ^ (count + 1) * seed.toNat) (show 0 < 2 ^ 31 - 1 by decide)
  have state := after_toNat positive below (count + 1)
  obtain ⟨value, called, drawn, _, _⟩ := randBetween_inside build ((create seed).after count)
    (show (0 : UInt32) < 0xffffffff by decide)
  have whole : value = ((create seed).after (count + 1)).rand_ := by
    have next : ((create seed).after count).rand.1 = ((create seed).after (count + 1)).rand_ := rfl
    have width : (0xffffffff : UInt32).toNat - (0 : UInt32).toNat = 4294967295 := rfl
    rw [← UInt32.toNat_inj, drawn, next, width, Nat.mod_eq_of_lt (by omega)]
    exact Nat.zero_add _
  rw [randBelow, called, whole]
  rfl

end Seeded

/-- Every value below the modulus but 0 is drawn once in 2 ^ 31 - 2 calls, in the same order again
after that, and the initial sequence numbers of the sessions are these values: two of them agree
only if a whole number of periods of calls lies between. -/
theorem rand_fullPeriod (seed : UInt32) (positive : 0 < seed.toNat)
    (below : seed.toNat < 2 ^ 31 - 1) :
    (∀ value : UInt32, 0 < value.toNat → value.toNat < 2 ^ 31 - 1 →
      ∃ count < 2 ^ 31 - 2, ((create seed).after count).rand_ = value) ∧
    ∀ build first second, ∃ initial other : SequenceNumber,
      ((create seed).after first).randBelow build 0xffffffff =
        .done (initial, (create seed).after (first + 1)) ∧
      ((create seed).after second).randBelow build 0xffffffff =
        .done (other, (create seed).after (second + 1)) ∧
      initial = ((create seed).after (first + 1)).rand_ ∧
      other = ((create seed).after (second + 1)).rand_ ∧
      (initial = other ↔ first ≡ second [MOD 2 ^ 31 - 2]) := by
  refine ⟨fun value valuePos valueBelow => after_reaches positive below valuePos valueBelow, ?_⟩
  intro build first second
  refine ⟨_, _, initial_eq positive below build first, initial_eq positive below build second,
    rfl, rfl, ?_⟩
  rw [after_eq_iff positive below]
  exact ⟨Nat.ModEq.add_right_cancel' 1, Nat.ModEq.add_right 1⟩

-- the seed of `ProtocolStack`
theorem stackSeed_fullPeriod :
    ∃ initial other, (create 19260817).randBelow .release 0xffffffff =
        .done (initial, (create 19260817).after 1) ∧
      ((create 19260817).after 1000000).randBelow .release 0xffffffff =
        .done (other, (create 19260817).after 1000001) ∧ initial ≠ other := by
  obtain ⟨_, draws⟩ := rand_fullPeriod 19260817 (by decide) (by decide)
  obtain ⟨initial, other, first, second, _, _, same⟩ := draws .release 0 1000000
  exact ⟨initial, other, first, second, fun equal => absurd (same.mp equal) (by decide)⟩

end RandGenerator

end LabNetstack
