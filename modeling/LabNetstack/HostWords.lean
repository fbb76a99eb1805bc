import Mathlib.Data.List.Basic
import Mathlib.Tactic.Ring

/-! Words as bytes: the order a little-endian machine keeps them in, and the
order they have on the network. -/

namespace LabNetstack

def hostBytes : Nat → Nat → List UInt8
  | 0, _ => []
  | count + 1, value => UInt8.ofNat value :: hostBytes count (value / 256)

def hostValue : List UInt8 → Nat
  | [] => 0
  | byte :: bytes => byte.toNat + 256 * hostValue bytes

def networkBytes (count value : Nat) : List UInt8 := (hostBytes count value).reverse

def networkValue (bytes : List UInt8) : Nat := hostValue bytes.reverse

def byteSwap (count value : Nat) : Nat := hostValue (networkBytes count value)

@[simp] theorem hostBytes_length (count value : Nat) : (hostBytes count value).length = count := by
  induction count generalizing value with
  | zero => rfl
  | succ count ih => simp only [hostBytes, List.length_cons, ih]

@[simp] theorem networkBytes_length (count value : Nat) :
    (networkBytes count value).length = count := by
  simp [networkBytes]

theorem hostValue_lt (bytes : List UInt8) : hostValue bytes < 256 ^ bytes.length := by
  induction bytes with
  | nil => simp [hostValue]
  | cons byte bytes ih =>
      have bound := byte.toNat_lt
      rw [hostValue, List.length_cons, pow_succ]
      omega

theorem networkValue_lt (bytes : List UInt8) : networkValue bytes < 256 ^ bytes.length := by
  have bound := hostValue_lt bytes.reverse
  rwa [List.length_reverse] at bound

theorem hostValue_hostBytes (count value : Nat) :
    hostValue (hostBytes count value) = value % 256 ^ count := by
  induction count generalizing value with
  | zero => simp [hostBytes, hostValue, Nat.mod_one]
  | succ count ih =>
      have low : (UInt8.ofNat value).toNat = value % 256 := UInt8.toNat_ofNat'
      rw [hostBytes, hostValue, ih, low, pow_succ', Nat.mod_mul]

theorem hostBytes_hostValue (bytes : List UInt8) :
    hostBytes bytes.length (hostValue bytes) = bytes := by
  induction bytes with
  | nil => rfl
  | cons byte bytes ih =>
      have bound := byte.toNat_lt
      have low : UInt8.ofNat (byte.toNat + 256 * hostValue bytes) = byte := by
        rw [← UInt8.toNat_inj, UInt8.toNat_ofNat']
        omega
      have high : (byte.toNat + 256 * hostValue bytes) / 256 = hostValue bytes := by omega
      rw [List.length_cons, hostBytes, hostValue, low, high, ih]

theorem networkValue_networkBytes (count value : Nat) :
    networkValue (networkBytes count value) = value % 256 ^ count := by
  rw [networkValue, networkBytes, List.reverse_reverse, hostValue_hostBytes]

theorem networkBytes_networkValue (bytes : List UInt8) :
    networkBytes bytes.length (networkValue bytes) = bytes := by
  have reversed := hostBytes_hostValue bytes.reverse
  rw [List.length_reverse] at reversed
  rw [networkBytes, networkValue, reversed, List.reverse_reverse]

theorem ofNat_networkValue8 (value : UInt8) : UInt8.ofNat (networkValue [value]) = value := by
  simp [networkValue, hostValue]

theorem ofNat_networkValue16 (value : UInt16) :
    UInt16.ofNat (networkValue (networkBytes 2 value.toNat)) = value := by
  have bound : value.toNat < 256 ^ 2 := value.toNat_lt
  rw [networkValue_networkBytes, Nat.mod_eq_of_lt bound, UInt16.ofNat_toNat]

theorem ofNat_networkValue32 (value : UInt32) :
    UInt32.ofNat (networkValue (networkBytes 4 value.toNat)) = value := by
  have bound : value.toNat < 256 ^ 4 := value.toNat_lt
  rw [networkValue_networkBytes, Nat.mod_eq_of_lt bound, UInt32.ofNat_toNat]

theorem ofNat_networkValue64 (value : UInt64) :
    UInt64.ofNat (networkValue (networkBytes 8 value.toNat)) = value := by
  have bound : value.toNat < 256 ^ 8 := value.toNat_lt
  rw [networkValue_networkBytes, Nat.mod_eq_of_lt bound, UInt64.ofNat_toNat]

/-- Swapping a word read from memory reads it in network order. -/
theorem word16_iff {bytes : List UInt8} (length : bytes.length = 2) (word : UInt16) :
    UInt16.ofNat (networkValue bytes) = word ↔ bytes = networkBytes 2 word.toNat := by
  have bound := networkValue_lt bytes
  have order := networkBytes_networkValue bytes
  rw [length] at bound order
  constructor
  · rintro rfl
    rw [UInt16.toNat_ofNat_of_lt' bound, order]
  · rintro rfl
    have small : word.toNat < 256 ^ 2 := word.toNat_lt
    rw [networkValue_networkBytes, Nat.mod_eq_of_lt small, UInt16.ofNat_toNat]

theorem byteSwap_hostValue (bytes : List UInt8) :
    byteSwap bytes.length (hostValue bytes) = networkValue bytes := by
  rw [byteSwap, networkBytes, hostBytes_hostValue, networkValue]

theorem byteSwap_lt (count value : Nat) : byteSwap count value < 256 ^ count := by
  have bound := hostValue_lt (networkBytes count value)
  rwa [networkBytes_length] at bound

/-- Storing a swapped word stores the word in network order. -/
theorem hostBytes_byteSwap (count value : Nat) :
    hostBytes count (byteSwap count value) = networkBytes count value := by
  have stored := hostBytes_hostValue (networkBytes count value)
  rwa [networkBytes_length] at stored

/-- A word of two halves is stored low half first. -/
theorem hostBytes_append {low : Nat} (lowCount highCount high : Nat)
    (bound : low < 256 ^ lowCount) :
    hostBytes (lowCount + highCount) (low + 256 ^ lowCount * high) =
      hostBytes lowCount low ++ hostBytes highCount high := by
  induction lowCount generalizing low with
  | zero =>
      have zero : low = 0 := Nat.lt_one_iff.mp bound
      rw [zero, Nat.zero_add, Nat.zero_add, pow_zero, Nat.one_mul]
      rfl
  | succ lowCount ih =>
      rw [pow_succ'] at bound
      have rest := ih (Nat.div_lt_of_lt_mul bound)
      have first : UInt8.ofNat (low + 256 ^ (lowCount + 1) * high) = UInt8.ofNat low := by
        rw [← UInt8.toNat_inj, UInt8.toNat_ofNat', UInt8.toNat_ofNat', pow_succ', Nat.mul_assoc]
        exact Nat.add_mul_mod_self_left _ _ _
      have shifted : (low + 256 ^ (lowCount + 1) * high) / 256 = low / 256 + 256 ^ lowCount * high := by
        rw [pow_succ', Nat.mul_assoc, Nat.add_mul_div_left _ _ (by decide)]
      rw [Nat.add_right_comm, hostBytes, first, shifted, rest]
      rfl

theorem networkBytes_append {low : Nat} (lowCount highCount high : Nat)
    (bound : low < 256 ^ lowCount) :
    networkBytes (lowCount + highCount) (low + 256 ^ lowCount * high) =
      networkBytes highCount high ++ networkBytes lowCount low := by
  rw [networkBytes, hostBytes_append _ _ _ bound, List.reverse_append]
  rfl

/-! The low bits of a word, and the rest of it. -/

theorem lowBits_toNat (word : UInt32) (count : Nat) (within : count ≤ 32) :
    (word &&& UInt32.ofNat (2 ^ count - 1)).toNat = word.toNat % 2 ^ count := by
  have size : 2 ^ count ≤ 2 ^ 32 := Nat.pow_le_pow_right (by decide) within
  rw [UInt32.toNat_and, UInt32.toNat_ofNat_of_lt' (by rw [UInt32.size]; omega),
    Nat.and_two_pow_sub_one_eq_mod]

theorem highBits_toNat (word : UInt32) (count : Nat) (within : count < 32) :
    (word >>> UInt32.ofNat count).toNat = word.toNat / 2 ^ count := by
  rw [UInt32.toNat_shiftRight, UInt32.toNat_ofNat_of_lt' (by rw [UInt32.size]; omega),
    Nat.mod_eq_of_lt within, Nat.shiftRight_eq_div_pow]

theorem raisedBits_toNat (word : UInt32) (count : Nat) (within : count < 32)
    (fits : word.toNat * 2 ^ count < 2 ^ 32) :
    (word <<< UInt32.ofNat count).toNat = word.toNat * 2 ^ count := by
  rw [UInt32.toNat_shiftLeft, UInt32.toNat_ofNat_of_lt' (by rw [UInt32.size]; omega),
    Nat.mod_eq_of_lt within, Nat.shiftLeft_eq, Nat.mod_eq_of_lt fits]

end LabNetstack
