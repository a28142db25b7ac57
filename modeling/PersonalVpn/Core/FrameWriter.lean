import PersonalVpn.Core.OutboundFrameQueue
import PersonalVpn.Lib.Sequenced
import PersonalVpn.Lib.FifoWriter

namespace PersonalVpn.Core

open Protocol Sequenced

/-- The books of one end of a tunnel: its writer, the frames its controller has created, the number
of writes that have completed, the number of the controller's next frame, and whether the transport
is closed. -/
structure FrameWriter extends FifoWriter Bytes where
  created : List Frame
  completed : Nat
  next : UInt64
  stopped : Bool

namespace FrameWriter

/-- The writes that have been started and have not completed. -/
def outstanding (l : FrameWriter) : Nat := l.written.length - l.completed

/-- What a step of that end does, in which a write may complete and frames may be made. -/
structure Moves (l : FrameWriter) (completes : Bool) (made : List Frame) (l' : FrameWriter) :
    Prop where
  created : l'.created = l.created ++ made
  completed : l'.completed = l.completed + completes.toNat
  numbered : Adds Frame.sequence made l.next l'.next
  wellFormed : ∀ f ∈ made, WellFormed f
  awaited : completes = true → l.completed < l.written.length
  writes : l.stopped = false →
    l.toFifoWriter.Wrote completes (made.map wireBytes) l'.toFifoWriter l'.stopped
  stays : l.stopped = true → l'.stopped = true ∧ l'.written = l.written

/-- An open writer has taken every frame, and a closed one has written some of them, in order. -/
structure Sound (l : FrameWriter) : Prop where
  counted : Counted Frame.sequence l.created l.next
  wellFormed : ∀ f ∈ l.created, WellFormed f
  flows : l.stopped = false → l.Flows (l.created.map wireBytes) l.completed
  wrote : l.written <+: l.created.map wireBytes
  one : l.written.length ≤ l.completed + 1
  awaited : l.completed ≤ l.written.length

theorem Sound.moves {l l' : FrameWriter} {completes : Bool} {made : List Frame} (h : l.Sound)
    (hm : l.Moves completes made l') : l'.Sound := by
  have hcreated : l'.created.map wireBytes = l.created.map wireBytes ++ made.map wireBytes := by
    rw [hm.created, List.map_append]
  have hcounted : Counted Frame.sequence l'.created l'.next := by
    rw [hm.created]
    exact h.counted.append hm.numbered
  have hformed : ∀ f ∈ l'.created, WellFormed f := by
    intro f hf
    rw [hm.created] at hf
    obtain hold | hnew := List.mem_append.mp hf
    · exact h.wellFormed f hold
    · exact hm.wellFormed f hnew
  have hcount := hm.completed
  -- a writer that flows waits for one write at most
  have hopen (hflows : l'.Flows (l'.created.map wireBytes) l'.completed) : l'.Sound := by
    have hstarted := hflows.started
    have hbusy := Bool.toNat_le l'.busy
    refine ⟨hcounted, hformed, fun _ => hflows, ?_, by omega, by omega⟩
    rw [hflows.accepted]
    exact List.prefix_append _ _
  -- a closed one starts no write
  have hclosed (hstopped : l'.stopped = true) (hwritten : l'.written = l.written) : l'.Sound := by
    have hone := h.one
    have hawaited : l'.completed ≤ l'.written.length := by
      rw [hcount, hwritten]
      cases completes with
      | false => exact h.awaited
      | true => exact hm.awaited rfl
    rw [← hwritten] at hone
    refine ⟨hcounted, hformed, by simp [hstopped], ?_, by omega, hawaited⟩
    rw [hwritten, hcreated]
    exact h.wrote.trans (List.prefix_append _ _)
  cases hstopped : l.stopped with
  | true =>
    obtain ⟨hstopped', hwritten⟩ := hm.stays hstopped
    exact hclosed hstopped' hwritten
  | false =>
    have hflows := h.flows hstopped
    have hw := hm.writes hstopped
    generalize hv : l'.toFifoWriter = v' at hw
    generalize hs : l'.stopped = stopped' at hw
    generalize hb : made.map wireBytes = bs at hw
    rw [hb] at hcreated
    cases hw with
    | keep =>
      apply hopen
      rw [hv, hcreated, hcount]
      simpa using hflows
    | put b =>
      apply hopen
      rw [hv, hcreated, hcount]
      exact hflows.put b
    | finish =>
      apply hopen
      rw [hv, hcreated, hcount, List.append_nil]
      exact hflows.finish (hm.awaited rfl)
    | close written =>
      apply hclosed hs
      rw [hv, written]

/-- What the transport and the peer get to see: one write at a time, nothing left queued by an idle
end, and the encodings of the frames in the order of their creation, numbered without a gap. -/
structure Disciplined (l : FrameWriter) : Prop where
  one : l.outstanding ≤ 1
  idle : l.stopped = false → l.outstanding = 0 → l.queue = []
  wire : (l.created.take l.written.length).map encodeFrame = l.written.map .ok
  enqueued : l.stopped = false → l.created.map encodeFrame = (l.written ++ l.queue.tail).map .ok
  numbered : l.created.map Frame.sequence = numbers l.created.length

theorem Sound.disciplined {l : FrameWriter} (h : l.Sound) : l.Disciplined := by
  have hencode : l.created.map encodeFrame = (l.created.map wireBytes).map .ok := by
    rw [List.map_map]
    apply List.map_congr_left
    intro f hf
    exact (encodeFrame_ok_iff f _).mpr ⟨h.wellFormed f hf, rfl⟩
  have hone := h.one
  refine ⟨by unfold outstanding; omega, ?_, ?_, ?_, h.counted.numbered⟩
  · intro hopen hnone
    have hflows := h.flows hopen
    have hstarted := hflows.started
    unfold outstanding at hnone
    apply hflows.queue_eq_nil
    omega
  · rw [List.map_take, hencode, ← List.map_take, ← List.prefix_iff_eq_take.mp h.wrote]
  · intro hopen
    rw [hencode, (h.flows hopen).accepted]

end FrameWriter

end PersonalVpn.Core
