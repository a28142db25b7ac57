import Mathlib.Algebra.Group.Nat.Defs

/-! Messages in a first-in first-out channel that carry consecutive numbers. -/

namespace Sequenced

variable {α N : Type*} [Add N] [One N] {num : α → N}

/-- The messages are numbered `n`, `n + 1`, and so on, and the next one is to get `k`. -/
def Numbered (num : α → N) : N → List α → N → Prop
  | n, [], k => n = k
  | n, a :: as, k => num a = n ∧ Numbered num (n + 1) as k

@[simp] theorem numbered_nil {n k : N} : Numbered num n [] k ↔ n = k := Iff.rfl

@[simp] theorem numbered_cons {n k : N} {a : α} {as : List α} :
    Numbered num n (a :: as) k ↔ num a = n ∧ Numbered num (n + 1) as k := Iff.rfl

/-- A message sent under the next number. -/
theorem Numbered.send {n k : N} {as : List α} {a : α} (h : Numbered num n as k) (ha : num a = k) :
    Numbered num n (as ++ [a]) (k + 1) := by
  induction as generalizing n with
  | nil =>
    have hn : n = k := h
    exact ⟨ha.trans hn.symm, by rw [hn]; rfl⟩
  | cons b bs ih => exact ⟨h.1, ih h.2⟩

/-- The first `n` numbers of a 64-bit counter that starts at 1. -/
def numbers (n : Nat) : List UInt64 := (List.range n).map fun k => UInt64.ofNat (k + 1)

theorem numbers_succ (n : Nat) : numbers (n + 1) = numbers n ++ [UInt64.ofNat (n + 1)] := by
  simp [numbers, List.range_succ]

/-- The counter steps to the next number. -/
theorem ofNat_succ (n : Nat) : UInt64.ofNat (n + 1) = UInt64.ofNat n + 1 := UInt64.ofNat_add n 1

/-- The counter does not count past its width. -/
theorem not_counting {seq : α → UInt64} {as : List α} (h : as.map seq = numbers as.length)
    (hlen : as.length = 2 ^ 64) :
    as.map (fun a => (seq a).toNat) ≠ (List.range as.length).map (· + 1) := by
  rw [← Function.comp_def UInt64.toNat, ← List.map_map, h, hlen, numbers, List.map_map]
  intro hno
  have hlast := congrArg (fun xs => xs[2 ^ 64 - 1]?) hno
  simp at hlast

/-- The messages carry the first numbers of the counter, which has come to `next`. -/
structure Counted (seq : α → UInt64) (as : List α) (next : UInt64) : Prop where
  numbered : as.map seq = numbers as.length
  next : next = UInt64.ofNat (as.length + 1)

theorem counted_nil {seq : α → UInt64} : Counted seq [] 1 := ⟨rfl, rfl⟩

/-- No message, or one under the next number. -/
def Adds (seq : α → UInt64) (as : List α) (next next' : UInt64) : Prop :=
  (as = [] ∧ next' = next) ∨ ∃ a, as = [a] ∧ seq a = next ∧ next' = next + 1

theorem Counted.append {seq : α → UInt64} {as bs : List α} {next next' : UInt64}
    (h : Counted seq as next) (hadds : Adds seq bs next next') : Counted seq (as ++ bs) next' := by
  obtain ⟨hbs, hnext⟩ | ⟨b, hbs, hb, hnext⟩ := hadds
  · rw [hbs, hnext, List.append_nil]
    exact h
  · have hseq : seq b = UInt64.ofNat (as.length + 1) := by rw [hb, h.next]
    have hlen : (as ++ bs).length = as.length + 1 := by simp [hbs]
    constructor
    · rw [hlen, numbers_succ, hbs, List.map_append, h.numbered, List.map_singleton, hseq]
    · rw [hlen, ofNat_succ, hnext, h.next]

/-- What holds of the first message sent. -/
theorem first_append {P : α → Prop} {as bs : List α} (has : ∀ a, as.head? = some a → P a)
    (hbs : as = [] → ∀ b ∈ bs, P b) : ∀ a, (as ++ bs).head? = some a → P a := by
  intro a ha
  cases as with
  | nil => exact hbs rfl a (List.mem_of_mem_head? ha)
  | cons b bs => exact has a ha

/-- What an endpoint has sent and what it has taken, under one counter each. It is live until it sends
a final message, if not shorter. -/
structure Transcript (seq : α → UInt64) (final : α → Prop) (live : Prop) (outbound inbound : List α)
    (nextSent nextTaken : UInt64) : Prop where
  sent : Counted seq outbound nextSent
  taken : inbound.map seq = numbers inbound.length
  expected : live → Counted seq inbound nextTaken
  unfinished : live → ∀ a ∈ outbound, ¬final a
  last : ∀ a ∈ outbound.dropLast, ¬final a

/-- The endpoint sends at most one message more, and takes at most one, while it is live. -/
theorem Transcript.append {seq : α → UInt64} {final : α → Prop} {live live' : Prop}
    {sent taken sent' taken' : List α} {nextSent nextTaken nextSent' nextTaken' : UInt64}
    (h : Transcript seq final live sent taken nextSent nextTaken)
    (hsends : Adds seq sent' nextSent nextSent')
    (htakes : Adds seq taken' nextTaken nextTaken' ∨ (taken' = [] ∧ ¬live'))
    (hfinal : ∀ a ∈ sent', final a → ¬live') (hdead : ¬live → ¬live' ∧ sent' = [] ∧ taken' = []) :
    Transcript seq final live' (sent ++ sent') (taken ++ taken') nextSent' nextTaken' := by
  have hlive (hlive' : live') : live := Classical.byContradiction fun hno => (hdead hno).1 hlive'
  constructor
  case sent => exact h.sent.append hsends
  case taken =>
    by_cases hl : live
    · obtain hadds | ⟨hnil, -⟩ := htakes
      · exact ((h.expected hl).append hadds).numbered
      · rw [hnil, List.append_nil]
        exact h.taken
    · rw [(hdead hl).2.2, List.append_nil]
      exact h.taken
  case expected =>
    intro hlive'
    obtain hadds | ⟨-, hno⟩ := htakes
    · exact (h.expected (hlive hlive')).append hadds
    · exact absurd hlive' hno
  case unfinished =>
    intro hlive' a ha hend
    obtain hold | hnew := List.mem_append.mp ha
    · exact h.unfinished (hlive hlive') a hold hend
    · exact hfinal a hnew hend hlive'
  case last =>
    intro a ha
    obtain ⟨hnil, -⟩ | ⟨b, hb, -⟩ := hsends
    · rw [hnil, List.append_nil] at ha
      exact h.last a ha
    · by_cases hl : live
      · rw [hb, List.dropLast_concat] at ha
        exact h.unfinished hl a ha
      · rw [(hdead hl).2.1] at hb
        cases hb

end Sequenced
