import PersonalVpn.Lib.BigEndian

/-! The bits of a byte string, most significant first. -/

namespace Bits

def bit (bs : List UInt8) (i : Nat) : Bool := (bs.getD (i / 8) 0).toNat.testBit (7 - i % 8)

/-- All bits from `p` on are zero. -/
def ZeroFrom (bs : List UInt8) (p : Nat) : Prop := ∀ i, p ≤ i → i < 8 * bs.length → bit bs i = false

theorem ext {xs ys : List UInt8} (hlen : xs.length = ys.length)
    (h : ∀ i, i < 8 * xs.length → bit xs i = bit ys i) : xs = ys := by
  apply List.ext_getElem hlen
  intro k hk hk'
  apply UInt8.toNat_inj.mp
  apply Nat.eq_of_testBit_eq
  intro j
  by_cases hj : j < 8
  · have hbit := h (8 * k + (7 - j)) (by omega)
    have hdiv : (8 * k + (7 - j)) / 8 = k := by omega
    have hmod : 7 - (8 * k + (7 - j)) % 8 = j := by omega
    rw [bit, bit, hdiv, hmod] at hbit
    simpa [hk, hk'] using hbit
  · have hpow : (2 : Nat) ^ 8 ≤ 2 ^ j := Nat.pow_le_pow_right (by decide) (by omega)
    have hx := xs[k].toNat_lt
    have hy := ys[k].toNat_lt
    rw [Nat.testBit_lt_two_pow (by omega), Nat.testBit_lt_two_pow (by omega)]

/-- The bits of a byte string are those of its big-endian value. -/
theorem testBit_value {bs : List UInt8} {i : Nat} (hi : i < 8 * bs.length) :
    (BigEndian.value bs).testBit (8 * bs.length - 1 - i) = bit bs i := by
  induction bs generalizing i with
  | nil => simp at hi
  | cons b bs ih =>
    have hlt : BigEndian.value bs < 2 ^ (8 * bs.length) := by
      rw [pow_mul]
      exact BigEndian.value_lt bs
    have hvalue : BigEndian.value (b :: bs) =
        2 ^ (8 * bs.length) * b.toNat + BigEndian.value bs := by
      rw [BigEndian.value, pow_mul, Nat.mul_comm]
      rfl
    simp only [List.length_cons] at hi ⊢
    rw [hvalue, Nat.testBit_two_pow_mul_add _ hlt]
    by_cases hfirst : i < 8
    · have hge : ¬8 * (bs.length + 1) - 1 - i < 8 * bs.length := by omega
      have hdiv : i / 8 = 0 := by omega
      have hindex : 8 * (bs.length + 1) - 1 - i - 8 * bs.length = 7 - i % 8 := by omega
      simp [bit, hge, hdiv, hindex]
    · have hge : 8 * (bs.length + 1) - 1 - i < 8 * bs.length := by omega
      have hindex : 8 * (bs.length + 1) - 1 - i = 8 * bs.length - 1 - (i - 8) := by omega
      have hdiv : i / 8 = (i - 8) / 8 + 1 := by omega
      have hmod : i % 8 = (i - 8) % 8 := by omega
      rw [if_pos hge, hindex, ih (by omega), bit, bit, hdiv, hmod, List.getD_cons_succ]

/-- The low bits of a number are zero exactly when shifting them out and back changes nothing. -/
theorem testBit_low_iff (n k : Nat) : (∀ j < k, n.testBit j = false) ↔ n / 2 ^ k * 2 ^ k = n := by
  have hsplit := Nat.div_add_mod' n (2 ^ k)
  constructor
  · intro h
    have hzero : n % 2 ^ k = 0 := by
      apply Nat.eq_of_testBit_eq
      intro j
      rw [Nat.testBit_mod_two_pow]
      by_cases hj : j < k
      · simp [hj, h j hj]
      · simp [hj]
    omega
  · intro h j hj
    have hzero : n % 2 ^ k = 0 := by omega
    have hbit := Nat.testBit_mod_two_pow n k j
    rw [hzero] at hbit
    simpa [hj] using hbit.symm

theorem zeroFrom_iff_value {bs : List UInt8} {p : Nat} (hp : p ≤ 8 * bs.length) :
    ZeroFrom bs p ↔ BigEndian.value bs / 2 ^ (8 * bs.length - p) * 2 ^ (8 * bs.length - p) =
      BigEndian.value bs := by
  rw [← testBit_low_iff]
  constructor
  · intro h j hj
    have hbit := h (8 * bs.length - 1 - j) (by omega) (by omega)
    rw [← testBit_value (by omega)] at hbit
    have hindex : 8 * bs.length - 1 - (8 * bs.length - 1 - j) = j := by omega
    rwa [hindex] at hbit
  · intro h i hge hlt
    rw [← testBit_value hlt]
    exact h _ (by omega)

/-- Bit `k` cleared in the byte it stands in. -/
def clear (bs : List UInt8) (k : Nat) : List UInt8 :=
  bs.set (k / 8) (bs.getD (k / 8) 0 &&& ~~~((1 : UInt8) <<< UInt8.ofNat (7 - k % 8)))

@[simp] theorem length_clear (bs : List UInt8) (k : Nat) : (clear bs k).length = bs.length := by
  simp [clear]

private theorem testBit_and_not (b : UInt8) {m j : Nat} (hm : m < 8) (hj : j < 8) :
    (b &&& ~~~((1 : UInt8) <<< UInt8.ofNat m)).toNat.testBit j =
      (b.toNat.testBit j && decide (j ≠ m)) := by
  have hmask : ∀ m j : Fin 8, (~~~((1 : UInt8) <<< UInt8.ofNat m.val)).toNat.testBit j.val =
      decide (j.val ≠ m.val) := by decide
  rw [UInt8.toNat_and, Nat.testBit_and, hmask ⟨m, hm⟩ ⟨j, hj⟩]

theorem bit_clear {bs : List UInt8} {k : Nat} (hk : k < 8 * bs.length) (i : Nat) :
    bit (clear bs k) i = (bit bs i && decide (i ≠ k)) := by
  have hin : k / 8 < bs.length := by omega
  by_cases hbyte : i / 8 = k / 8
  · have hsame : (clear bs k).getD (i / 8) 0 =
        bs.getD (i / 8) 0 &&& ~~~((1 : UInt8) <<< UInt8.ofNat (7 - k % 8)) := by
      simp [clear, hbyte, hin]
    have hindex : (7 - i % 8 ≠ 7 - k % 8) ↔ i ≠ k := by omega
    rw [bit, hsame, testBit_and_not _ (by omega) (by omega), bit]
    simp only [hindex]
  · have hne : i ≠ k := by
      rintro rfl
      exact hbyte rfl
    simp [bit, clear, hne, Ne.symm hbyte]

/-- Clearing the bits of a list, one after the other. -/
theorem bit_foldl_clear (bs : List UInt8) (ks : List Nat) (hks : ∀ k ∈ ks, k < 8 * bs.length)
    (i : Nat) : bit (ks.foldl clear bs) i = (bit bs i && decide (i ∉ ks)) := by
  induction ks generalizing bs with
  | nil => simp
  | cons k ks ih =>
    have hk := hks k List.mem_cons_self
    have htail : ∀ j ∈ ks, j < 8 * (clear bs k).length := by
      intro j hj
      rw [length_clear]
      exact hks j (List.mem_cons_of_mem k hj)
    rw [List.foldl_cons, ih (clear bs k) htail, bit_clear hk]
    by_cases hik : i = k <;> simp [hik]

theorem length_foldl_clear (bs : List UInt8) (ks : List Nat) :
    (ks.foldl clear bs).length = bs.length := by
  induction ks generalizing bs with
  | nil => rfl
  | cons k ks ih => rw [List.foldl_cons, ih, length_clear]

/-- Clearing the bits from `p` on changes nothing exactly when they are zero. -/
theorem foldl_clear_eq_iff (bs : List UInt8) (p : Nat) :
    (List.range' p (8 * bs.length - p)).foldl clear bs = bs ↔ ZeroFrom bs p := by
  have hmem (i : Nat) : i ∈ List.range' p (8 * bs.length - p) ↔ p ≤ i ∧ i < 8 * bs.length := by
    rw [List.mem_range'_1]
    omega
  have hbit := bit_foldl_clear bs (List.range' p (8 * bs.length - p)) fun k hk => ((hmem k).mp hk).2
  constructor
  · intro heq i hge hlt
    have hi := hbit i
    rw [heq] at hi
    simpa [hge, hlt, hmem] using hi
  · intro hzero
    apply ext (length_foldl_clear _ _)
    intro i hi
    rw [length_foldl_clear] at hi
    rw [hbit i]
    by_cases hge : p ≤ i
    · simp [hzero i hge hi]
    · simp [hge]

end Bits
