import LabNetstack.HostWords
import LabNetstack.OnesComplement
import LabNetstack.RandGeneratorCore

/-! `RandGenerator` computes `48271 * rand_` modulo `2 ^ 31 - 1` in two 32-bit halves. -/

namespace LabNetstack

namespace RandGenerator

/-- No product, shift or sum of `rand` leaves its 32 bits. -/
structure Unwrapped (generator : RandGenerator) : Prop where
  low : generator.low.toNat = (generator.rand_ &&& 0x7fff).toNat * 48271
  high : generator.high.toNat = (generator.rand_ >>> 15).toNat * 48271
  shifted : ((generator.high &&& 0xffff) <<< 15).toNat = (generator.high &&& 0xffff).toNat * 2 ^ 15
  first : (generator.low + ((generator.high &&& 0xffff) <<< 15)).toNat =
    generator.low.toNat + ((generator.high &&& 0xffff) <<< 15).toNat
  second : generator.x.toNat = (generator.low + ((generator.high &&& 0xffff) <<< 15)).toNat +
    (generator.high >>> 16).toNat
  last : generator.rand.1.toNat =
    (generator.x &&& 0x7fffffff).toNat + (generator.x >>> 31).toNat

/-! One call. -/

theorem lowBits_rand (generator : RandGenerator) :
    (generator.rand_ &&& 0x7fff).toNat = generator.rand_.toNat % 2 ^ 15 :=
  lowBits_toNat generator.rand_ 15 (by decide)

theorem highBits_rand (generator : RandGenerator) :
    (generator.rand_ >>> 15).toNat = generator.rand_.toNat / 2 ^ 15 :=
  highBits_toNat generator.rand_ 15 (by decide)

theorem low_toNat (generator : RandGenerator) :
    generator.low.toNat = (generator.rand_ &&& 0x7fff).toNat * 48271 := by
  rw [low, UInt32.toNat_mul, lowBits_rand]
  change generator.rand_.toNat % 2 ^ 15 * 48271 % 2 ^ 32 = _
  omega

theorem lowBits_high (generator : RandGenerator) :
    (generator.high &&& 0xffff).toNat = generator.high.toNat % 2 ^ 16 :=
  lowBits_toNat generator.high 16 (by decide)

theorem highBits_high (generator : RandGenerator) :
    (generator.high >>> 16).toNat = generator.high.toNat / 2 ^ 16 :=
  highBits_toNat generator.high 16 (by decide)

theorem raised_toNat (generator : RandGenerator) :
    ((generator.high &&& 0xffff) <<< 15).toNat = (generator.high &&& 0xffff).toNat * 2 ^ 15 := by
  refine raisedBits_toNat (generator.high &&& 0xffff) 15 (by decide) ?_
  rw [lowBits_high]
  omega

theorem first_toNat (generator : RandGenerator) :
    (generator.low + ((generator.high &&& 0xffff) <<< 15)).toNat =
      generator.low.toNat + ((generator.high &&& 0xffff) <<< 15).toNat := by
  rw [UInt32.toNat_add, raised_toNat, lowBits_high, low_toNat, lowBits_rand]
  omega

theorem lowBits_x (generator : RandGenerator) :
    (generator.x &&& 0x7fffffff).toNat = generator.x.toNat % 2 ^ 31 :=
  lowBits_toNat generator.x 31 (by decide)

theorem highBits_x (generator : RandGenerator) :
    (generator.x >>> 31).toNat = generator.x.toNat / 2 ^ 31 :=
  highBits_toNat generator.x 31 (by decide)

theorem rand_toNat (generator : RandGenerator) : generator.rand.1.toNat =
    (generator.x &&& 0x7fffffff).toNat + (generator.x >>> 31).toNat := by
  have bound := generator.x.toNat_lt
  rw [rand, UInt32.toNat_add, lowBits_x, highBits_x]
  omega

-- `x` before it is reduced
def recombined (state : Nat) : Nat :=
  state % 2 ^ 15 * 48271 + state / 2 ^ 15 * 48271 % 2 ^ 16 * 2 ^ 15 + state / 2 ^ 15 * 48271 / 2 ^ 16

section Split

variable {generator : RandGenerator} (small : generator.rand_.toNat < 2 ^ 31)

include small

theorem high_toNat : generator.high.toNat = (generator.rand_ >>> 15).toNat * 48271 := by
  rw [high, UInt32.toNat_mul, highBits_rand]
  change generator.rand_.toNat / 2 ^ 15 * 48271 % 2 ^ 32 = _
  omega

theorem second_toNat : generator.x.toNat =
    (generator.low + ((generator.high &&& 0xffff) <<< 15)).toNat + (generator.high >>> 16).toNat := by
  rw [x, UInt32.toNat_add, first_toNat, raised_toNat, lowBits_high, highBits_high, low_toNat,
    lowBits_rand, high_toNat small, highBits_rand]
  omega

theorem unwrapped : generator.Unwrapped :=
  { low := low_toNat generator
    high := high_toNat small
    shifted := raised_toNat generator
    first := first_toNat generator
    second := second_toNat small
    last := rand_toNat generator }

theorem x_recombined : generator.x.toNat = recombined generator.rand_.toNat := by
  rw [second_toNat small, first_toNat, raised_toNat, lowBits_high, highBits_high, low_toNat,
    lowBits_rand, high_toNat small, highBits_rand, recombined]

end Split

theorem recombined_le {state : Nat} (small : state < 2 ^ 31) :
    recombined state ≤ 2 * (2 ^ 31 - 1) := by
  unfold recombined
  omega

theorem recombined_pos {state : Nat} (positive : 0 < state) : 0 < recombined state := by
  unfold recombined
  omega

/-- The bits of the product above the lowest 31 are added at the low end. -/
theorem recombined_modEq (state : Nat) : recombined state ≡ 48271 * state [MOD 2 ^ 31 - 1] := by
  have whole : 48271 * state =
      recombined state + (2 ^ 31 - 1) * (state / 2 ^ 15 * 48271 / 2 ^ 16) := by
    unfold recombined
    omega
  rw [whole]
  exact (Nat.add_mul_mod_self_left _ _ _).symm

theorem rand_residue {generator : RandGenerator} (positive : 0 < generator.rand_.toNat)
    (small : generator.rand_.toNat < 2 ^ 31) :
    generator.rand.1.toNat = residue (2 ^ 31 - 1) (48271 * generator.rand_.toNat) := by
  have folded := fold_eq (recombined_le small)
  rw [rand_toNat, lowBits_x, highBits_x, x_recombined small]
  refine folded.trans ?_
  rw [residue_eq_iff (by decide) (recombined_pos positive) (by omega)]
  exact recombined_modEq _

/-! The sequence of calls. -/

def after (generator : RandGenerator) : Nat → RandGenerator
  | 0 => generator
  | count + 1 => (generator.after count).rand.2

section Seeded

variable {seed : UInt32} (positive : 0 < seed.toNat) (below : seed.toNat < 2 ^ 31 - 1)

include positive

theorem power_pos (count : Nat) : 0 < 48271 ^ count * seed.toNat :=
  Nat.mul_pos (Nat.pow_pos (by decide)) positive

include below

theorem after_residue (count : Nat) : ((create seed).after count).rand_.toNat =
    residue (2 ^ 31 - 1) (48271 ^ count * seed.toNat) := by
  induction count with
  | zero =>
      rw [pow_zero, Nat.one_mul, residue_of_le below.le]
      rfl
  | succ count ih =>
      have statePos : 0 < residue (2 ^ 31 - 1) (48271 ^ count * seed.toNat) :=
        residue_pos (power_pos positive count)
      have stateLe : residue (2 ^ 31 - 1) (48271 ^ count * seed.toNat) ≤ 2 ^ 31 - 1 :=
        residue_le (by decide) _
      rw [← ih] at statePos stateLe
      have called := rand_residue statePos (by omega)
      refine called.trans ?_
      have scaled : 48271 * residue (2 ^ 31 - 1) (48271 ^ count * seed.toNat) ≡
          48271 * (48271 ^ count * seed.toNat) [MOD 2 ^ 31 - 1] := (residue_modEq _).mul_left 48271
      rw [residue_eq_iff (by decide) (by omega) (power_pos positive (count + 1)), ih]
      rwa [← Nat.mul_assoc, ← pow_succ'] at scaled

theorem power_remains (count : Nat) : 48271 ^ count * seed.toNat % (2 ^ 31 - 1) ≠ 0 := by
  intro zero
  have coprime : Nat.Coprime (2 ^ 31 - 1) (48271 ^ count) := Nat.Coprime.pow_right count (by decide)
  have divides := coprime.dvd_of_dvd_mul_left (Nat.dvd_of_mod_eq_zero zero)
  have le := Nat.le_of_dvd positive divides
  omega

theorem after_toNat (count : Nat) : ((create seed).after count).rand_.toNat =
    48271 ^ count * seed.toNat % (2 ^ 31 - 1) := by
  rw [after_residue positive below,
    residue_eq_mod (by decide) (power_remains positive below count)]

end Seeded

/-! What is drawn from it. -/

theorem randBetween_inside (build : Build) (generator : RandGenerator) {lower upper : UInt32}
    (ordered : lower < upper) :
    ∃ value, generator.randBetween build lower upper = .done (value, generator.rand.2) ∧
      value.toNat = lower.toNat + generator.rand.1.toNat % (upper.toNat - lower.toNat) ∧
      lower ≤ value ∧ value < upper := by
  have orderedNat := UInt32.lt_iff_toNat_lt.mp ordered
  have upperBound := upper.toNat_lt
  have width : (upper - lower).toNat = upper.toNat - lower.toNat :=
    UInt32.toNat_sub_of_le _ _ (UInt32.le_of_lt ordered)
  have nonzero : (upper - lower != 0) = true := by
    rw [bne_iff_ne, ne_eq, ← UInt32.toNat_inj, width]
    simp only [UInt32.toNat_zero]
    omega
  have passed : dcheck build (decide (lower < upper)) = .done () := by
    cases build
    · rw [dcheck, decide_eq_true ordered]
      rfl
    · rfl
  have inside := Nat.mod_lt generator.rand.1.toNat (Nat.sub_pos_of_lt orderedNat)
  have value : (lower + generator.rand.1 % (upper - lower)).toNat =
      lower.toNat + generator.rand.1.toNat % (upper.toNat - lower.toNat) := by
    rw [UInt32.toNat_add, UInt32.toNat_mod, width]
    omega
  refine ⟨lower + generator.rand.1 % (upper - lower), ?_, value, ?_, ?_⟩
  · rw [randBetween, passed, nonzero]
    rfl
  · rw [UInt32.le_iff_toNat_le, value]
    omega
  · rw [UInt32.lt_iff_toNat_lt, value]
    omega

theorem socketDrawn_port (build : Build) (generator : RandGenerator) (stack : ProtocolStack)
    {protocol : Int32} (tcp : protocol = 0 ∨ protocol = 6) (fd : FileDescriptor) (address : Nat) :
    ∃ drawn, generator.randBetween build 49162 65536 = .done (drawn, generator.rand.2) ∧
      drawn.toNat < 2 ^ 16 ∧ drawn.toUInt16.toNat = drawn.toNat ∧
      stack.socketDrawn build generator 2 1 protocol fd address =
        (stack.socket build 2 1 protocol fd drawn.toUInt16 address).bind fun made =>
          .done (made.1, made.2, generator.rand.2) := by
  obtain ⟨drawn, called, _, _, most⟩ :=
    randBetween_inside build generator (show (49162 : UInt32) < 65536 by decide)
  have mostNat : drawn.toNat < 65536 := UInt32.lt_iff_toNat_lt.mp most
  have narrowed : drawn.toUInt16.toNat = drawn.toNat := by
    rw [UInt32.toNat_toUInt16]
    omega
  have own : ((2 : Int32) != 2 || (1 : Int32) != 1 || (protocol != 0 && protocol != 6)) = false := by
    rcases tcp with rfl | rfl <;> rfl
  refine ⟨drawn, called, mostNat, narrowed, ?_⟩
  rw [ProtocolStack.socketDrawn, own, called]
  rfl

theorem rand_parkMiller (seed : UInt32) (positive : 0 < seed.toNat)
    (below : seed.toNat < 2 ^ 31 - 1) :
    (∀ count, 1 ≤ count →
      ((create seed).after (count - 1)).rand.1.toNat = 48271 ^ count * seed.toNat % (2 ^ 31 - 1) ∧
      ((create seed).after (count - 1)).rand.1.toNat ≠ 0 ∧
      ((create seed).after (count - 1)).rand.1.toNat < 2 ^ 31 - 1 ∧
      ((create seed).after (count - 1)).Unwrapped) ∧
    (∀ build (generator : RandGenerator) (lower upper : UInt32), lower < upper →
      ∃ value, generator.randBetween build lower upper = .done (value, generator.rand.2) ∧
        value.toNat = lower.toNat + generator.rand.1.toNat % (upper.toNat - lower.toNat) ∧
        lower ≤ value ∧ value < upper) ∧
    -- the port of a socket that the stack makes itself
    ∀ build (generator : RandGenerator) (stack : ProtocolStack) protocol fd address,
      protocol = 0 ∨ protocol = 6 →
      ∃ drawn, generator.randBetween build 49162 65536 = .done (drawn, generator.rand.2) ∧
        drawn.toNat < 2 ^ 16 ∧ drawn.toUInt16.toNat = drawn.toNat ∧
        stack.socketDrawn build generator 2 1 protocol fd address =
          (stack.socket build 2 1 protocol fd drawn.toUInt16 address).bind fun made =>
            .done (made.1, made.2, generator.rand.2) := by
  refine ⟨?_, fun build generator _ _ ordered => randBetween_inside build generator ordered,
    fun build generator stack _ fd address tcp =>
      socketDrawn_port build generator stack tcp fd address⟩
  intro count called
  obtain ⟨earlier, rfl⟩ : ∃ earlier, count = earlier + 1 := ⟨count - 1, by omega⟩
  have modulus : (0 : Nat) < 2 ^ 31 - 1 := by decide
  have value : ((create seed).after earlier).rand.1.toNat =
      48271 ^ (earlier + 1) * seed.toNat % (2 ^ 31 - 1) := after_toNat positive below (earlier + 1)
  have state := after_toNat positive below earlier
  have stateBound := Nat.mod_lt (48271 ^ earlier * seed.toNat) modulus
  rw [Nat.add_sub_cancel]
  refine ⟨value, ?_, ?_, unwrapped ?_⟩
  · rw [value]
    exact power_remains positive below (earlier + 1)
  · rw [value]
    exact Nat.mod_lt _ modulus
  · rw [state]
    omega

theorem seededStack_parkMiller :
    ((create 19260817).after 1).rand.1.toNat = 48271 ^ 2 * 19260817 % (2 ^ 31 - 1) ∧
    ∃ value, (create 19260817).randBetween .debug 49162 65536 = .done (value, (create 19260817).rand.2) ∧
      49162 ≤ value ∧ value < 65536 := by
  obtain ⟨sequence, range, _⟩ := rand_parkMiller 19260817 (by decide) (by decide)
  obtain ⟨value, drawn, _, least, most⟩ := range .debug (create 19260817) 49162 65536 (by decide)
  exact ⟨(sequence 2 (by decide)).1, value, drawn, least, most⟩

end RandGenerator

end LabNetstack
