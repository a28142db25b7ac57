import Mathlib.Algebra.Order.Group.Nat

/-! Masks of 32-bit words whose low bits are zero. -/

namespace Mask

/-- The mask that clears the `k` low bits. -/
def high (k : Nat) : UInt32 := 0xFFFFFFFF <<< UInt32.ofNat k

theorem toNat_and_high (x : UInt32) {k : Nat} (hk : k < 32) :
    (x &&& high k).toNat = x.toNat / 2 ^ k * 2 ^ k := by
  have hmask : (high k).toBitVec = BitVec.allOnes 32 <<< k := by
    rw [high, UInt32.toBitVec_shiftLeft]
    have hmod : ((UInt32.ofNat k).toBitVec % 32).toNat = k := by
      rw [BitVec.toNat_umod]
      change (k % 2 ^ 32) % 32 = k
      omega
    rw [BitVec.shiftLeft_eq', hmod]
    rfl
  have hand : (x &&& high k).toBitVec = x.toBitVec >>> k <<< k := by
    rw [UInt32.toBitVec_and, hmask, BitVec.shiftLeft_ushiftRight]
  have hlt : x.toNat / 2 ^ k * 2 ^ k < 2 ^ 32 :=
    lt_of_le_of_lt (Nat.div_mul_le_self _ _) x.toNat_lt
  change (x &&& high k).toBitVec.toNat = _
  rw [hand, BitVec.toNat_shiftLeft, BitVec.toNat_ushiftRight, Nat.shiftLeft_eq,
    Nat.shiftRight_eq_div_pow]
  exact Nat.mod_eq_of_lt hlt

theorem and_high_mono {x y : UInt32} (h : x ≤ y) {k : Nat} (hk : k < 32) :
    x &&& high k ≤ y &&& high k := by
  rw [UInt32.le_iff_toNat_le, toNat_and_high x hk, toNat_and_high y hk]
  exact Nat.mul_le_mul_right _ (Nat.div_le_div_right (UInt32.le_iff_toNat_le.mp h))

/-- What lies between two words of one block lies in that block. -/
theorem and_high_between {a x b n : UInt32} (ha : a ≤ x) (hb : x ≤ b) {k : Nat} (hk : k < 32)
    (hna : a &&& high k = n) (hnb : b &&& high k = n) : x &&& high k = n := by
  apply UInt32.le_antisymm
  · rw [← hnb]
    exact and_high_mono hb hk
  · rw [← hna]
    exact and_high_mono ha hk

theorem toNat_not_high {k : Nat} (hk : k < 32) : (~~~high k).toNat = 2 ^ k - 1 := by
  have hall : 0xFFFFFFFF &&& high k = high k := by
    rw [UInt32.and_comm]
    exact UInt32.and_neg_one
  have hpow : (2 : Nat) ^ 32 = 2 ^ k * 2 ^ (32 - k) := by
    rw [← pow_add, Nat.add_sub_cancel' (by omega)]
  have hk0 := Nat.two_pow_pos k
  have hdiv : (2 ^ 32 - 1) / 2 ^ k = 2 ^ (32 - k) - 1 := by
    rw [hpow, Nat.mul_sub_div 0 _ _ (by omega)]
    simp
  have hhigh : (high k).toNat = 2 ^ 32 - 2 ^ k := by
    rw [← hall, toNat_and_high _ hk]
    change (2 ^ 32 - 1) / 2 ^ k * 2 ^ k = _
    rw [hdiv, Nat.sub_mul, Nat.one_mul, Nat.mul_comm, ← hpow]
  have hle : (2 : Nat) ^ k ≤ 2 ^ 32 := Nat.pow_le_pow_right (by decide) (by omega)
  have hnot : (~~~high k).toNat = 2 ^ 32 - 1 - (high k).toNat := UInt32.toNat_not _
  rw [hnot, hhigh]
  omega

/-- The block of a word with all its low bits set. -/
theorem toNat_or_not_high (x : UInt32) {k : Nat} (hk : k < 32) :
    ((x &&& high k) ||| ~~~high k).toNat = x.toNat / 2 ^ k * 2 ^ k + (2 ^ k - 1) := by
  have hk0 := Nat.two_pow_pos k
  have hlow : 2 ^ k - 1 < 2 ^ k := by omega
  rw [UInt32.toNat_or, toNat_and_high x hk, toNat_not_high hk, ← Nat.shiftLeft_eq,
    ← Nat.shiftLeft_add_eq_or_of_lt hlow]

end Mask
