import PersonalVpn.Basic
import PersonalVpn.Lib.BigEndian

namespace PersonalVpn.Protocol

def appendU16 (output : Bytes) (value : UInt16) : Bytes :=
  output ++ [((value >>> 8) &&& 0xFF).toUInt8, (value &&& 0xFF).toUInt8]

def appendU32 (output : Bytes) (value : UInt32) : Bytes :=
  output ++ [((value >>> 24) &&& 0xFF).toUInt8, ((value >>> 16) &&& 0xFF).toUInt8,
    ((value >>> 8) &&& 0xFF).toUInt8, (value &&& 0xFF).toUInt8]

/-- The loop over `shift = 56, 48, ..., 0`. -/
def appendU64 (output : Bytes) (value : UInt64) : Bytes :=
  ([56, 48, 40, 32, 24, 16, 8, 0] : List UInt64).foldl
    (fun out shift => out ++ [((value >>> shift) &&& 0xFF).toUInt8]) output

def readU16 (data : Bytes) : UInt16 :=
  ((byteAt data 0).toUInt16 <<< 8) ||| (byteAt data 1).toUInt16

def readU32 (data : Bytes) : UInt32 :=
  ((byteAt data 0).toUInt32 <<< 24) ||| ((byteAt data 1).toUInt32 <<< 16) |||
    ((byteAt data 2).toUInt32 <<< 8) ||| (byteAt data 3).toUInt32

/-- The loop over the eight bytes, most significant first. -/
def readU64 (data : Bytes) : UInt64 :=
  (List.range 8).foldl (fun value index => (value <<< 8) ||| (byteAt data index).toUInt64) 0

private theorem mod_and_255 (n : Nat) : n % 256 &&& 255 = n % 256 := by
  rw [Nat.and_two_pow_sub_one_eq_mod _ 8, Nat.mod_mod]

theorem appendU16_eq (output : Bytes) (value : UInt16) :
    appendU16 output value = output ++ BigEndian.bytes 2 value.toNat := by
  have hi : ((value >>> 8) &&& 0xFF).toUInt8 = UInt8.ofNat (value.toNat / 256 ^ 1 % 256) := by
    apply UInt8.toNat_inj.mp
    simp [Nat.shiftRight_eq_div_pow, mod_and_255]
  have lo : (value &&& 0xFF).toUInt8 = UInt8.ofNat (value.toNat / 256 ^ 0 % 256) := by
    apply UInt8.toNat_inj.mp
    simp [mod_and_255]
  rw [appendU16, hi, lo]
  rfl

theorem appendU32_eq (output : Bytes) (value : UInt32) :
    appendU32 output value = output ++ BigEndian.bytes 4 value.toNat := by
  rw [appendU32, List.append_cancel_left_eq]
  simp only [BigEndian.bytes, List.cons.injEq, and_true]
  refine ⟨?_, ?_, ?_, ?_⟩
  all_goals
    apply UInt8.toNat_inj.mp
    simp [Nat.shiftRight_eq_div_pow, mod_and_255]

theorem appendU64_eq (output : Bytes) (value : UInt64) :
    appendU64 output value = output ++ BigEndian.bytes 8 value.toNat := by
  simp only [appendU64, List.foldl_cons, List.foldl_nil, List.append_assoc, List.cons_append,
    List.nil_append, List.append_cancel_left_eq, BigEndian.bytes, List.cons.injEq, and_true]
  refine ⟨?_, ?_, ?_, ?_, ?_, ?_, ?_, ?_⟩
  all_goals
    apply UInt8.toNat_inj.mp
    simp [Nat.shiftRight_eq_div_pow, mod_and_255]

private theorem shiftLeft_or (a : Nat) {b : Nat} (h : b < 2 ^ 8) : a <<< 8 ||| b = a * 256 + b := by
  rw [← Nat.shiftLeft_add_eq_or_of_lt h, Nat.shiftLeft_eq]

theorem toNat_readU16 (data : Bytes) :
    (readU16 data).toNat = (byteAt data 0).toNat * 256 + (byteAt data 1).toNat := by
  have ha := (byteAt data 0).toNat_lt
  have hb := (byteAt data 1).toNat_lt
  simp only [readU16, UInt16.toNat_or, UInt16.toNat_shiftLeft, UInt8.toNat_toUInt16]
  change (byteAt data 0).toNat <<< 8 % 2 ^ 16 ||| _ = _
  rw [Nat.mod_eq_of_lt (by rw [Nat.shiftLeft_eq]; omega), shiftLeft_or _ hb]

theorem toNat_readU32 (data : Bytes) :
    (readU32 data).toNat = (((byteAt data 0).toNat * 256 + (byteAt data 1).toNat) * 256 +
      (byteAt data 2).toNat) * 256 + (byteAt data 3).toNat := by
  have ha := (byteAt data 0).toNat_lt
  have hb := (byteAt data 1).toNat_lt
  have hc := (byteAt data 2).toNat_lt
  have hd := (byteAt data 3).toNat_lt
  simp only [readU32, UInt32.toNat_or, UInt32.toNat_shiftLeft, UInt8.toNat_toUInt32]
  generalize (byteAt data 0).toNat = a at *
  generalize (byteAt data 1).toNat = b at *
  generalize (byteAt data 2).toNat = c at *
  generalize (byteAt data 3).toNat = d at *
  change a <<< 24 % 2 ^ 32 ||| b <<< 16 % 2 ^ 32 ||| c <<< 8 % 2 ^ 32 ||| d = _
  rw [Nat.mod_eq_of_lt (by rw [Nat.shiftLeft_eq]; omega),
    Nat.mod_eq_of_lt (by rw [Nat.shiftLeft_eq]; omega),
    Nat.mod_eq_of_lt (by rw [Nat.shiftLeft_eq]; omega)]
  -- regroup the four shifted bytes as three nested one-byte shifts
  have hgroup : a <<< 24 ||| b <<< 16 ||| c <<< 8 = ((a <<< 8 ||| b) <<< 8 ||| c) <<< 8 := by
    simp only [Nat.shiftLeft_or_distrib, ← Nat.shiftLeft_add]
  rw [hgroup, shiftLeft_or _ hd, shiftLeft_or _ hc, shiftLeft_or _ hb]

private def shiftByte (value : UInt64) (b : UInt8) : UInt64 := (value <<< 8) ||| b.toUInt64

private theorem toNat_shiftByte (v : UInt64) (b : UInt8) :
    (shiftByte v b).toNat = (v.toNat * 256 + b.toNat) % 2 ^ 64 := by
  have hb := b.toNat_lt
  simp only [shiftByte, UInt64.toNat_or, UInt64.toNat_shiftLeft, UInt8.toNat_toUInt64]
  change v.toNat <<< 8 % 2 ^ 64 ||| b.toNat = _
  have hm : b.toNat = b.toNat % 2 ^ 64 := (Nat.mod_eq_of_lt (by omega)).symm
  rw [hm, ← Nat.or_mod_two_pow, shiftLeft_or _ hb, ← hm]

private theorem toNat_foldl_shiftByte (bs : Bytes) (v : UInt64) :
    (bs.foldl shiftByte v).toNat =
      (v.toNat * 256 ^ bs.length + BigEndian.value bs) % 2 ^ 64 := by
  induction bs generalizing v with
  | nil => simp [BigEndian.value, Nat.mod_eq_of_lt v.toNat_lt]
  | cons b bs ih =>
    rw [List.foldl_cons, ih, toNat_shiftByte, Nat.add_mod, Nat.mod_mul_mod, ← Nat.add_mod,
      BigEndian.value, List.length_cons, pow_succ]
    ring_nf

/-- Reading is the big-endian value of the bytes at the front. -/
theorem readU16_eq {data : Bytes} (h : 2 ≤ data.length) :
    (readU16 data).toNat = BigEndian.value (data.take 2) := by
  match data, h with
  | a :: b :: rest, _ => rw [toNat_readU16]; simp [byteAt, BigEndian.value]

theorem readU32_eq {data : Bytes} (h : 4 ≤ data.length) :
    (readU32 data).toNat = BigEndian.value (data.take 4) := by
  match data, h with
  | a :: b :: c :: d :: rest, _ =>
    rw [toNat_readU32]
    simp [byteAt, BigEndian.value]
    ring

theorem readU64_eq {data : Bytes} (h : 8 ≤ data.length) :
    (readU64 data).toNat = BigEndian.value (data.take 8) := by
  have hmap : (data.take 8) = (List.range 8).map (byteAt data) := by
    apply List.ext_getElem
    · simpa using h
    · intro i h₁ h₂
      have hi : i < data.length := by simp at h₁; omega
      simp [byteAt, hi]
  have hlt := BigEndian.value_lt (data.take 8)
  have hlen : (data.take 8).length = 8 := by simpa using h
  have hfold : readU64 data = (data.take 8).foldl shiftByte 0 := by
    rw [hmap, List.foldl_map]
    rfl
  rw [hfold, toNat_foldl_shiftByte, hlen]
  rw [hlen] at hlt
  simpa using Nat.mod_eq_of_lt hlt

/-! Each reader inverts its writer, whatever follows on the wire. -/

@[simp] theorem readU16_bytes (v : UInt16) (rest : Bytes) :
    readU16 (BigEndian.bytes 2 v.toNat ++ rest) = v := by
  apply UInt16.toNat_inj.mp
  rw [readU16_eq (by simp), List.take_left' (by simp)]
  exact BigEndian.value_bytes_of_lt v.toNat_lt

@[simp] theorem readU32_bytes (v : UInt32) (rest : Bytes) :
    readU32 (BigEndian.bytes 4 v.toNat ++ rest) = v := by
  apply UInt32.toNat_inj.mp
  rw [readU32_eq (by simp), List.take_left' (by simp)]
  exact BigEndian.value_bytes_of_lt v.toNat_lt

@[simp] theorem readU64_bytes (v : UInt64) (rest : Bytes) :
    readU64 (BigEndian.bytes 8 v.toNat ++ rest) = v := by
  apply UInt64.toNat_inj.mp
  rw [readU64_eq (by simp), List.take_left' (by simp)]
  exact BigEndian.value_bytes_of_lt v.toNat_lt

private theorem bytes_value_take {data : Bytes} {w : Nat} (h : w ≤ data.length) :
    BigEndian.bytes w (BigEndian.value (data.take w)) = data.take w := by
  have hl : (data.take w).length = w := by simpa using h
  have hb := BigEndian.bytes_value (data.take w)
  rwa [hl] at hb

theorem bytes_readU16 {data : Bytes} (h : 2 ≤ data.length) :
    BigEndian.bytes 2 (readU16 data).toNat = data.take 2 := by
  rw [readU16_eq h, bytes_value_take h]

theorem bytes_readU32 {data : Bytes} (h : 4 ≤ data.length) :
    BigEndian.bytes 4 (readU32 data).toNat = data.take 4 := by
  rw [readU32_eq h, bytes_value_take h]

theorem bytes_readU64 {data : Bytes} (h : 8 ≤ data.length) :
    BigEndian.bytes 8 (readU64 data).toNat = data.take 8 := by
  rw [readU64_eq h, bytes_value_take h]

end PersonalVpn.Protocol
