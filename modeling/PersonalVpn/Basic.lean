import Mathlib.Data.List.Basic

namespace PersonalVpn

abbrev Bytes := List UInt8

instance : LawfulBEq Bytes := inferInstanceAs (LawfulBEq (List UInt8))

/-- The bytes of an ASCII literal of the source. -/
def text (s : String) : Bytes := s.toList.map fun c => UInt8.ofNat c.toNat

/-- `std::to_string` of an unsigned integer. -/
def toText (n : Nat) : Bytes := (Nat.toDigits 10 n).map fun c => UInt8.ofNat c.toNat

/-- The standard exceptions the modelled code throws, with their `what()` text. -/
inductive Exception where
  | invalidArgument (what : Bytes)
  | runtimeError (what : Bytes)
  | logicError (what : Bytes)
  deriving DecidableEq, Repr

def Exception.what : Exception → Bytes
  | .invalidArgument w => w
  | .runtimeError w => w
  | .logicError w => w

/-- `if (c) throw e;`. -/
def throwIf (c : Prop) [Decidable c] (e : Exception) : Except Exception Unit :=
  if c then .error e else .ok ()

@[simp] theorem throwIf_bind_ok {c : Prop} [Decidable c] {e : Exception} {α : Type}
    {k : Unit → Except Exception α} {r : α} :
    (throwIf c e >>= k) = .ok r ↔ ¬c ∧ k () = .ok r := by
  by_cases h : c <;> simp [throwIf, h, bind, Except.bind]

@[simp] theorem throwIf_bind_error {c : Prop} [Decidable c] {e e' : Exception} {α : Type}
    {k : Unit → Except Exception α} :
    (throwIf c e >>= k) = .error e' ↔ (c ∧ e = e') ∨ (¬c ∧ k () = .error e') := by
  by_cases h : c <;> simp [throwIf, h, bind, Except.bind]

@[simp] theorem throwIf_ok {c : Prop} [Decidable c] {e : Exception} {r : Unit} :
    throwIf c e = .ok r ↔ ¬c := by
  by_cases h : c <;> simp [throwIf, h]

@[simp] theorem throwIf_error {c : Prop} [Decidable c] {e e' : Exception} :
    throwIf c e = .error e' ↔ c ∧ e = e' := by
  by_cases h : c <;> simp [throwIf, h]

theorem bind_eq_ok {ε α β : Type} {x : Except ε α} {f : α → Except ε β} {r : β} :
    (x >>= f) = .ok r ↔ ∃ a, x = .ok a ∧ f a = .ok r := by
  cases x <;> simp [bind, Except.bind]

theorem map_eq_ok {ε α β : Type} {f : α → β} {x : Except ε α} {r : β} :
    f <$> x = .ok r ↔ ∃ a, x = .ok a ∧ r = f a := by
  cases x <;> simp [Functor.map, Except.map, eq_comm]

theorem ok_of_toOption {ε α : Type} {x : Except ε α} {a : α} (h : x.toOption = some a) :
    x = .ok a := by
  cases x with
  | error e => cases h
  | ok b => exact congrArg Except.ok (Option.some.inj h)

/-- A check that returns an error before going on. -/
theorem ite_error_eq_ok {ε α : Type} {c : Prop} [Decidable c] {e : ε} {x : Except ε α} {r : α} :
    (if c then .error e else x) = .ok r ↔ ¬c ∧ x = .ok r := by
  by_cases h : c <;> simp [h]

/-- `data[i]`. The code reads only below a size it has checked, so the default is never seen. -/
def byteAt (data : Bytes) (i : Nat) : UInt8 := data.getD i 0

/-- `std::copy_n(data.begin() + offset, n, array.begin())`. -/
def copyN (data : Bytes) (offset n : Nat) : Vector UInt8 n :=
  Vector.ofFn fun i => byteAt data (offset + i)

theorem byteAt_append_left {xs : Bytes} {i : Nat} (h : i < xs.length) (ys : Bytes) :
    byteAt (xs ++ ys) i = byteAt xs i := by
  simp [byteAt, List.getElem?_append_left h]

theorem byteAt_drop (xs : Bytes) (k i : Nat) : byteAt (xs.drop k) i = byteAt xs (k + i) := by
  simp [byteAt]

theorem copyN_drop (data : Bytes) (offset n : Nat) :
    copyN data offset n = copyN (data.drop offset) 0 n := by
  simp [copyN, byteAt_drop]

/-- Copying an array back from where it was written. -/
@[simp] theorem copyN_append {n : Nat} (v : Vector UInt8 n) (ys : Bytes) :
    copyN (v.toList ++ ys) 0 n = v := by
  apply Vector.ext
  intro i hi
  have hv : i < v.toList.length := by simpa using hi
  simp only [copyN, Vector.getElem_ofFn, Nat.zero_add, byteAt_append_left hv]
  simp [byteAt, hi]

theorem toList_copyN {data : Bytes} {offset n : Nat} (h : offset + n ≤ data.length) :
    (copyN data offset n).toList = (data.drop offset).take n := by
  apply List.ext_getElem
  · simp; omega
  · intro i h₁ h₂
    have hi : offset + i < data.length := by simp at h₂; omega
    simp [copyN, byteAt, hi]

end PersonalVpn
