import Mathlib.Tactic.Ring

/-! Unsigned decimal numerals in ASCII. -/

namespace Decimal

/-- The byte is one of the ten digits. -/
def IsDigit (b : UInt8) : Prop := 48 ≤ b ∧ b ≤ 57

instance (b : UInt8) : Decidable (IsDigit b) := inferInstanceAs (Decidable (_ ∧ _))

/-- The value of a digit string, of any length and with any leading zeros. -/
def value : List UInt8 → Nat
  | [] => 0
  | d :: ds => (d.toNat - 48) * 10 ^ ds.length + value ds

/-- Reading the digits one by one, behind a value that was read before. -/
theorem foldl_eq (ds : List UInt8) (v : Nat) :
    ds.foldl (fun v d => v * 10 + (d.toNat - 48)) v = v * 10 ^ ds.length + value ds := by
  induction ds generalizing v with
  | nil => simp [value]
  | cons d ds ih =>
    rw [List.foldl_cons, ih, value, List.length_cons, pow_succ]
    ring

/-- The shortest numeral of a number. -/
def numeral (n : Nat) : List UInt8 := (Nat.toDigits 10 n).map fun c => UInt8.ofNat c.toNat

theorem numeral_ne_nil (n : Nat) : numeral n ≠ [] := by
  simp [numeral, Nat.toDigits_ne_nil]

theorem toNat_ofNat_toNat {c : Char} (h : c.isDigit = true) :
    (UInt8.ofNat c.toNat).toNat = c.toNat ∧ 48 ≤ c.toNat ∧ c.toNat ≤ 57 := by
  have hc : 48 ≤ c.toNat ∧ c.toNat ≤ 57 := by
    simpa [Char.isDigit, UInt32.le_iff_toNat_le] using h
  refine ⟨?_, hc⟩
  rw [UInt8.toNat_ofNat']
  omega

theorem isDigit_of_mem_numeral {n : Nat} {b : UInt8} (h : b ∈ numeral n) : IsDigit b := by
  obtain ⟨c, hc, rfl⟩ := List.mem_map.mp h
  obtain ⟨hvalue, hlow, hhigh⟩ :=
    toNat_ofNat_toNat (Nat.isDigit_of_mem_toDigits (by decide) (by decide) hc)
  rw [IsDigit, UInt8.le_iff_toNat_le, UInt8.le_iff_toNat_le, hvalue]
  exact ⟨hlow, hhigh⟩

/-- Reading the bytes of digit characters is reading the characters. -/
theorem foldl_eq_ofDigitChars {cs : List Char} (hcs : ∀ c ∈ cs, c.isDigit = true) (v : Nat) :
    (cs.map fun c => UInt8.ofNat c.toNat).foldl (fun v d => v * 10 + (d.toNat - 48)) v =
      Nat.ofDigitChars 10 cs v := by
  induction cs generalizing v with
  | nil => simp
  | cons c cs ih =>
    have hc := (toNat_ofNat_toNat (hcs c List.mem_cons_self)).1
    have hrest : ∀ d ∈ cs, d.isDigit = true := fun d hd => hcs d (List.mem_cons_of_mem _ hd)
    have hzero : '0'.toNat = 48 := rfl
    rw [List.map_cons, List.foldl_cons, Nat.ofDigitChars_cons, ih hrest, hc, hzero, Nat.mul_comm]

theorem value_numeral (n : Nat) : value (numeral n) = n := by
  have hdigits : ∀ c ∈ Nat.toDigits 10 n, c.isDigit = true := by
    intro c hc
    exact Nat.isDigit_of_mem_toDigits (by decide) (by decide) hc
  have hfold := foldl_eq_ofDigitChars hdigits 0
  rw [foldl_eq, Nat.zero_mul, Nat.zero_add, Nat.ofDigitChars_ten_toDigits] at hfold
  exact hfold

end Decimal
