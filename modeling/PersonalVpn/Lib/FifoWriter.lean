import Mathlib.Data.List.Infix

/-! A writer in front of a transport that takes one buffer at a time. The first buffer of the queue
stays there until its write has completed. -/

structure FifoWriter (β : Type*) where
  queue : List β
  busy : Bool
  written : List β

namespace FifoWriter

variable {β : Type*} {v v' : FifoWriter β} {accepted : List β} {completed : Nat}

/-- A buffer is queued. An idle writer hands it to the transport at once. -/
def put (v : FifoWriter β) (b : β) : FifoWriter β where
  queue := v.queue ++ [b]
  busy := true
  written := if v.busy then v.written else v.written ++ [b]

/-- A write completes. The next buffer, if there is one, is handed to the transport. -/
def finish (v : FifoWriter β) : FifoWriter β where
  queue := v.queue.tail
  busy := !v.queue.tail.isEmpty
  written := v.written ++ v.queue.tail.head?.toList

/-- The writer works as long as something is queued. Of the writes started, all have completed but
the one it waits for. -/
structure Flows (v : FifoWriter β) (accepted : List β) (completed : Nat) : Prop where
  busy : v.busy = true ↔ v.queue ≠ []
  accepted : accepted = v.written ++ v.queue.tail
  started : v.written.length = completed + v.busy.toNat

theorem Flows.queue_eq_nil (h : Flows v accepted completed) (hidle : v.written.length = completed) :
    v.queue = [] := by
  by_contra hne
  have hstarted := h.started
  rw [h.busy.mpr hne, Bool.toNat_true] at hstarted
  omega

theorem Flows.put (h : Flows v accepted completed) (b : β) :
    Flows (v.put b) (accepted ++ [b]) completed := by
  have hstarted := h.started
  cases hbusy : v.busy with
  | true =>
    obtain ⟨first, rest, hqueue⟩ := List.exists_cons_of_ne_nil (h.busy.mp hbusy)
    refine ⟨by simp [FifoWriter.put], ?_, ?_⟩
    · simp [h.accepted, FifoWriter.put, hbusy, hqueue]
    · simpa [FifoWriter.put, hbusy] using hstarted
  | false =>
    have hqueue : v.queue = [] := h.queue_eq_nil (by simpa [hbusy] using hstarted)
    refine ⟨by simp [FifoWriter.put], ?_, ?_⟩
    · simp [h.accepted, FifoWriter.put, hbusy, hqueue]
    · simpa [FifoWriter.put, hbusy] using hstarted

theorem Flows.finish (h : Flows v accepted completed) (hawaited : completed < v.written.length) :
    Flows v.finish accepted (completed + 1) := by
  have hstarted := h.started
  have hbusy : v.busy = true := by
    cases hbusy : v.busy with
    | true => rfl
    | false =>
      rw [hbusy, Bool.toNat_false] at hstarted
      omega
  obtain ⟨first, rest, hqueue⟩ := List.exists_cons_of_ne_nil (h.busy.mp hbusy)
  rw [hbusy, Bool.toNat_true] at hstarted
  cases rest with
  | nil =>
    refine ⟨by simp [FifoWriter.finish, hqueue], ?_, ?_⟩
    · simp [h.accepted, FifoWriter.finish, hqueue]
    · simp [FifoWriter.finish, hqueue, hstarted]
  | cons next rest =>
    refine ⟨by simp [FifoWriter.finish, hqueue], ?_, ?_⟩
    · simp [h.accepted, FifoWriter.finish, hqueue]
    · simp [FifoWriter.finish, hqueue, hstarted]

/-- What a step does to an open writer: whether a write completes in it, the buffers made in it, and
whether it closes the transport. -/
inductive Wrote (v : FifoWriter β) : Bool → List β → FifoWriter β → Bool → Prop where
  | keep : Wrote v false [] v false
  | put (b : β) : Wrote v false [b] (v.put b) false
  | finish : Wrote v true [] v.finish false
  | close {completes : Bool} {made : List β} {v' : FifoWriter β} (written : v'.written = v.written) :
      Wrote v completes made v' true

theorem Wrote.written_eq {completes : Bool} {made : List β} (h : v.Wrote completes made v' true) :
    v'.written = v.written := by
  cases h with
  | close written => exact written

end FifoWriter
