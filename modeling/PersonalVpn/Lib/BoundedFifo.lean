import Mathlib.Algebra.GroupWithZero.Nat
import Mathlib.Data.List.Basic

/-! A first-in first-out queue with a bound on the number of its items and one on their total size,
which is counted as items come and go. -/

structure BoundedFifo (α : Type*) where
  maximumItems : Nat
  maximumSize : Nat
  items : List α
  counted : Nat

namespace BoundedFifo

variable {α : Type*} (size : α → Nat)

def total (items : List α) : Nat := (items.map size).sum

@[simp] theorem total_nil : total size [] = 0 := rfl

@[simp] theorem total_cons (a : α) (items : List α) :
    total size (a :: items) = size a + total size items := rfl

@[simp] theorem total_append (items items' : List α) :
    total size (items ++ items') = total size items + total size items' := by
  simp [total]

/-- The test in front of a new item. -/
def Full (q : BoundedFifo α) (n : Nat) : Prop :=
  q.maximumItems ≤ q.items.length ∨ q.maximumSize - q.counted < n

/-- The item is counted. -/
def count (q : BoundedFifo α) (n : Nat) : BoundedFifo α := { q with counted := q.counted + n }

/-- The item is counted and stored. -/
def push (q : BoundedFifo α) (a : α) : BoundedFifo α :=
  { q.count (size a) with items := q.items ++ [a] }

def clear (q : BoundedFifo α) : BoundedFifo α := { q with items := [], counted := 0 }

/-- Both bounds are kept, and the count is that of the items, apart from what was counted and never
stored. -/
structure Accounts (q : BoundedFifo α) (lost : Nat) : Prop where
  counted : q.counted = total size q.items + lost
  size_le : q.counted ≤ q.maximumSize
  length_le : q.items.length ≤ q.maximumItems

variable {size} {q : BoundedFifo α} {lost : Nat}

/-- The subtraction in the test does not wrap, so that it compares with the bounds. -/
theorem Accounts.full_iff (h : q.Accounts size lost) {n : Nat} :
    q.Full n ↔ q.maximumItems < q.items.length + 1 ∨ q.maximumSize < q.counted + n := by
  have hsize := h.size_le
  unfold Full
  omega

theorem Accounts.count (h : q.Accounts size lost) {n : Nat} (hroom : ¬q.Full n) :
    (q.count n).Accounts size (lost + n) := by
  have hcounted := h.counted
  rw [h.full_iff, not_or, Nat.not_lt, Nat.not_lt] at hroom
  refine ⟨?_, hroom.2, h.length_le⟩
  simp only [BoundedFifo.count]
  omega

theorem Accounts.push (h : q.Accounts size lost) {a : α} (hroom : ¬q.Full (size a)) :
    (q.push size a).Accounts size lost := by
  have hcounted := h.counted
  rw [h.full_iff, not_or, Nat.not_lt, Nat.not_lt] at hroom
  refine ⟨?_, hroom.2, ?_⟩
  · simp only [BoundedFifo.push, BoundedFifo.count, total_append, total_cons, total_nil]
    omega
  · simpa [BoundedFifo.push, BoundedFifo.count] using hroom.1

/-- The size of the first item does not exceed the count. -/
theorem Accounts.head_le (h : q.Accounts size lost) {a : α} {rest : List α}
    (hitems : q.items = a :: rest) : size a ≤ q.counted := by
  have hcounted := h.counted
  rw [hitems, total_cons] at hcounted
  omega

theorem Accounts.pop (h : q.Accounts size lost) {a : α} {rest : List α}
    (hitems : q.items = a :: rest) :
    ({ q with items := rest, counted := q.counted - size a } : BoundedFifo α).Accounts size lost := by
  obtain ⟨hcounted, hsize, hlen⟩ := h
  rw [hitems, total_cons] at hcounted
  rw [hitems, List.length_cons] at hlen
  refine ⟨?_, Nat.le_trans (Nat.sub_le _ _) hsize, Nat.le_of_succ_le hlen⟩
  dsimp only
  omega

theorem accounts_clear (q : BoundedFifo α) : q.clear.Accounts size 0 :=
  ⟨rfl, Nat.zero_le _, Nat.zero_le _⟩

end BoundedFifo
