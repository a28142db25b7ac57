import Mathlib.Data.Nat.Bitwise
import Mathlib.Tactic.Ring

namespace LittleEndian

/-- The value of a byte string read least significant byte first. -/
def value : List UInt8 → Nat
  | [] => 0
  | b :: bs => b.toNat + 256 * value bs

/-- The `w` low bytes of `n`, least significant byte first. -/
def bytes : Nat → Nat → List UInt8
  | 0, _ => []
  | w + 1, n => UInt8.ofNat (n % 256) :: bytes w (n / 256)

@[simp] theorem length_bytes (w n : Nat) : (bytes w n).length = w := by
  induction w generalizing n with
  | zero => rfl
  | succ w ih => simp [bytes, ih]

theorem value_lt (bs : List UInt8) : value bs < 256 ^ bs.length := by
  induction bs with
  | nil => simp [value]
  | cons b bs ih =>
    have hb := b.toNat_lt
    simp only [value, List.length_cons, pow_succ]
    omega

theorem value_bytes (w n : Nat) : value (bytes w n) = n % 256 ^ w := by
  induction w generalizing n with
  | zero => simp [bytes, value, Nat.mod_one]
  | succ w ih =>
    have hd : (UInt8.ofNat (n % 256)).toNat = n % 256 := by
      rw [UInt8.toNat_ofNat']
      exact Nat.mod_eq_of_lt (Nat.mod_lt _ (by decide))
    rw [bytes, value, ih, hd, pow_succ, Nat.mul_comm (256 ^ w) 256, Nat.mod_mul]

theorem bytes_value (bs : List UInt8) : bytes bs.length (value bs) = bs := by
  induction bs with
  | nil => rfl
  | cons b bs ih =>
    have hb := b.toNat_lt
    have hlow : (b.toNat + 256 * value bs) % 256 = b.toNat := by omega
    have hhigh : (b.toNat + 256 * value bs) / 256 = value bs := by omega
    rw [List.length_cons, bytes, value, hlow, hhigh, ih, UInt8.ofNat_toNat]

theorem value_concat (bs : List UInt8) (b : UInt8) :
    value (bs ++ [b]) = value bs + b.toNat * 256 ^ bs.length := by
  induction bs with
  | nil => simp [value]
  | cons c bs ih =>
    simp only [List.cons_append, value, ih, List.length_cons, pow_succ]
    ring

/-- Shifting the next byte in above the bytes read so far. -/
theorem value_or_shiftLeft (bs : List UInt8) (b : UInt8) :
    value bs ||| b.toNat <<< (8 * bs.length) = value (bs ++ [b]) := by
  have hlt : value bs < 2 ^ (8 * bs.length) := by
    rw [pow_mul]
    exact value_lt bs
  rw [Nat.or_comm, ← Nat.shiftLeft_add_eq_or_of_lt hlt, Nat.shiftLeft_eq, value_concat, pow_mul,
    Nat.add_comm]
  rfl

/-- The byte at index `i`, reached by shifting. -/
theorem bytes_eq_map_shiftRight (w n : Nat) :
    bytes w n = (List.range w).map fun i => UInt8.ofNat (n >>> (8 * i) % 256) := by
  induction w generalizing n with
  | zero => rfl
  | succ w ih =>
    rw [bytes, ih, List.range_succ_eq_map, List.map_cons, List.map_map]
    have hshift (i : Nat) : (n / 256) >>> (8 * i) = n >>> (8 * (i + 1)) := by
      rw [show n / 256 = n >>> 8 from (Nat.shiftRight_eq_div_pow n 8).symm, ← Nat.shiftRight_add]
      congr 1
      ring
    simp [Function.comp_def, hshift]

end LittleEndian
