import Mathlib.Data.Nat.Bitwise
import Mathlib.Tactic.Ring

namespace BigEndian

/-- The value of a byte string read most significant byte first. -/
def value : List UInt8 → Nat
  | [] => 0
  | b :: bs => b.toNat * 256 ^ bs.length + value bs

/-- The `w` low bytes of `n`, most significant byte first. -/
def bytes : Nat → Nat → List UInt8
  | 0, _ => []
  | w + 1, n => UInt8.ofNat (n / 256 ^ w % 256) :: bytes w n

@[simp] theorem length_bytes (w n : Nat) : (bytes w n).length = w := by
  induction w with
  | zero => rfl
  | succ w ih => simp [bytes, ih]

theorem value_lt (bs : List UInt8) : value bs < 256 ^ bs.length := by
  induction bs with
  | nil => simp [value]
  | cons b bs ih =>
    have hb : b.toNat ≤ 255 := by have := b.toNat_lt; omega
    have hm : b.toNat * 256 ^ bs.length ≤ 255 * 256 ^ bs.length := Nat.mul_le_mul_right _ hb
    simp only [value, List.length_cons, pow_succ]
    omega

theorem value_bytes (w n : Nat) : value (bytes w n) = n % 256 ^ w := by
  induction w with
  | zero => simp [bytes, value, Nat.mod_one]
  | succ w ih =>
    have hd : (UInt8.ofNat (n / 256 ^ w % 256)).toNat = n / 256 ^ w % 256 := by
      rw [UInt8.toNat_ofNat']
      exact Nat.mod_eq_of_lt (Nat.mod_lt _ (by decide))
    rw [bytes, value, ih, hd, length_bytes, Nat.mod_pow_succ]
    ring

theorem value_bytes_of_lt {w n : Nat} (h : n < 256 ^ w) : value (bytes w n) = n := by
  rw [value_bytes, Nat.mod_eq_of_lt h]

/-- Bytes above the width play no part. -/
theorem bytes_congr {w n m : Nat} (h : n % 256 ^ w = m % 256 ^ w) : bytes w n = bytes w m := by
  induction w with
  | zero => rfl
  | succ w ih =>
    have hp : 256 ^ (w + 1) = 256 ^ w * 256 := pow_succ _ _
    have digit (k : Nat) : k / 256 ^ w % 256 = k % 256 ^ (w + 1) / 256 ^ w := by
      rw [hp, Nat.mod_mul_right_div_self]
    have low (k : Nat) : k % 256 ^ (w + 1) % 256 ^ w = k % 256 ^ w :=
      Nat.mod_mod_of_dvd _ ⟨256, hp⟩
    rw [bytes, bytes, digit n, digit m, h, ih (by rw [← low n, ← low m, h])]

theorem bytes_value (bs : List UInt8) : bytes bs.length (value bs) = bs := by
  induction bs with
  | nil => rfl
  | cons b bs ih =>
    have hlt := value_lt bs
    have hb := b.toNat_lt
    have hpos : 0 < 256 ^ bs.length := Nat.pow_pos (by decide)
    have hdiv : (b.toNat * 256 ^ bs.length + value bs) / 256 ^ bs.length = b.toNat := by
      rw [Nat.mul_comm, Nat.mul_add_div hpos, Nat.div_eq_of_lt hlt, Nat.add_zero]
    have htail : bytes bs.length (b.toNat * 256 ^ bs.length + value bs) = bs := by
      rw [bytes_congr (m := value bs) (by rw [Nat.mul_comm, Nat.mul_add_mod]), ih]
    rw [List.length_cons, bytes, value, hdiv, htail, Nat.mod_eq_of_lt hb, UInt8.ofNat_toNat]

theorem value_injective {as bs : List UInt8} (hlength : as.length = bs.length)
    (hvalue : value as = value bs) : as = bs := by
  rw [← bytes_value as, ← bytes_value bs, hlength, hvalue]

end BigEndian
