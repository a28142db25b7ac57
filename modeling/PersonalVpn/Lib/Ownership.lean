import Mathlib.Data.Set.Card
import Mathlib.Logic.Function.Basic

/-! Keys that parties own. A party is alive until it is buried, and only living parties own keys. -/

@[ext] structure Ownership (κ ι : Type*) where
  alive : ι → Bool
  owner : κ → Option ι
  owner_alive : ∀ k p, owner k = some p → alive p = true

namespace Ownership

variable {κ ι : Type*} [DecidableEq κ] [DecidableEq ι]

/-- Nobody owns anything. -/
def empty (κ : Type*) (alive : ι → Bool) : Ownership κ ι where
  alive
  owner := fun _ => none
  owner_alive := by simp

/-- The key is free for the party. -/
def Free (o : Ownership κ ι) (k : κ) (p : ι) : Prop := o.owner k = none ∨ o.owner k = some p

instance (o : Ownership κ ι) (k : κ) (p : ι) : Decidable (o.Free k p) :=
  inferInstanceAs (Decidable (_ ∨ _))

/-- The party takes the key if it is free. -/
def claim (o : Ownership κ ι) (k : κ) (p : ι) : Ownership κ ι where
  alive := o.alive
  owner := fun k' => if k' = k ∧ o.Free k p ∧ o.alive p = true then some p else o.owner k'
  owner_alive := by
    intro k' q hq
    split_ifs at hq with h
    · cases hq
      exact h.2.2
    · exact o.owner_alive k' q hq

/-- The party gives the key back if it owns it. -/
def release (o : Ownership κ ι) (k : κ) (p : ι) : Ownership κ ι where
  alive := o.alive
  owner := fun k' => if k' = k ∧ o.owner k = some p then none else o.owner k'
  owner_alive := by
    intro k' q hq
    split_ifs at hq
    exact o.owner_alive k' q hq

/-- The party is dead and owns nothing any more. -/
def bury (o : Ownership κ ι) (p : ι) : Ownership κ ι where
  alive := Function.update o.alive p false
  owner := fun k => (o.owner k).filter (· ≠ p)
  owner_alive := by
    intro k q hq
    obtain ⟨hk, hne⟩ := Option.filter_eq_some_iff.mp hq
    have hne : q ≠ p := by simpa using hne
    rw [Function.update_of_ne hne]
    exact o.owner_alive k q hk

/-- The number of keys that have an owner. -/
noncomputable def owned (o : Ownership κ ι) : Nat := {k | o.owner k ≠ none}.ncard

variable {o : Ownership κ ι} {k k' : κ} {p q : ι}

theorem claim_owner_self (hp : o.alive p = true) :
    (o.claim k p).owner k = some p ↔ o.Free k p := by
  constructor
  · intro h
    simp only [claim, true_and] at h
    split_ifs at h with hfree
    · exact hfree.1
    · exact .inr h
  · intro h
    simp [claim, h, hp]

/-- An owner keeps its keys whatever others claim. -/
theorem claim_owner_of_owned (h : o.owner k' = some q) : (o.claim k p).owner k' = some q := by
  simp only [claim]
  split_ifs with hclaim
  · obtain ⟨hk, hfree, -⟩ := hclaim
    rw [Free, ← hk, h] at hfree
    simpa [eq_comm] using hfree
  · exact h

/-- Only the owner gives a key back. -/
theorem release_owner_of_owned (h : o.owner k' = some q) (hq : k' = k → q ≠ p) :
    (o.release k p).owner k' = some q := by
  simp only [release]
  split_ifs with hrelease
  · obtain ⟨hk, howner⟩ := hrelease
    rw [← hk, h] at howner
    cases howner
    exact absurd rfl (hq hk)
  · exact h

omit [DecidableEq κ] in
theorem bury_owner_of_owned (h : o.owner k = some q) (hq : q ≠ p) :
    (o.bury p).owner k = some q := by
  simp [bury, h, hq]

end Ownership
