import Mathlib.Logic.Basic

/-! Encoders and decoders that are inverse to each other where they succeed. -/

namespace Codec

variable {μ β ε ε' : Type*} {encode : μ → Except ε β} {decode : β → Except ε' μ}

/-- The decoder accepts exactly what the encoder produces, and gives back what was encoded. -/
structure Exact (encode : μ → Except ε β) (decode : β → Except ε' μ) : Prop where
  decode_encode : ∀ m p, encode m = .ok p → decode p = .ok m
  encode_decode : ∀ p m, decode p = .ok m → encode m = .ok p
  accepts : ∀ p, (∃ m, decode p = .ok m) ↔ ∃ m, encode m = .ok p
  one_form : ∀ p q m, decode p = .ok m → decode q = .ok m → p = q

theorem Exact.of_iff (h : ∀ p m, decode p = .ok m ↔ encode m = .ok p) : Exact encode decode where
  decode_encode m p := (h p m).mpr
  encode_decode p m := (h p m).mp
  accepts p := exists_congr (h p)
  one_form p q m hp hq := by
    have hencode : encode m = .ok p := (h p m).mp hp
    rw [(h q m).mp hq] at hencode
    exact (Except.ok.inj hencode).symm

end Codec
