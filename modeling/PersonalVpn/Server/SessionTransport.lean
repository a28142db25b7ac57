import PersonalVpn.Core.SessionLeases
import PersonalVpn.Server.SessionEvents

namespace PersonalVpn.Server

open PersonalVpn.Core Protocol

namespace TlsTunnelSession

/-- `s'` is `s` after work on its transport, which may have closed it. -/
structure Transported (s s' : TlsTunnelSession) : Prop where
  controller : s'.controller = s.controller
  routeLease : s'.routeLease = s.routeLease
  decoder : s'.decoder = s.decoder
  received : s'.received = s.received
  handled : s'.handled = s.handled
  reading : s'.reading = s.reading
  establishedCounted : s'.establishedCounted = s.establishedCounted
  flushing : s.closeAfterWrite = true → s'.closeAfterWrite = true
  frames : s'.outboundQueue.maximumFrames = s.outboundQueue.maximumFrames
  bytes : s'.outboundQueue.maximumBytes = s.outboundQueue.maximumBytes
  closing : (s'.stopped = s.stopped ∧ s'.closing = s.closing ∧ s'.inbound = s.inbound) ∨
    (s.stopped = false ∧ s'.stopped = true ∧ s'.closing = .releasing ∧ s'.inbound = [])

theorem Transported.refl (s : TlsTunnelSession) : Transported s s :=
  ⟨rfl, rfl, rfl, rfl, rfl, rfl, rfl, id, rfl, rfl, .inl ⟨rfl, rfl, rfl⟩⟩

theorem Transported.trans {s₁ s₂ s₃ : TlsTunnelSession} (h : Transported s₁ s₂)
    (h' : Transported s₂ s₃) : Transported s₁ s₃ := by
  refine ⟨h'.controller.trans h.controller, h'.routeLease.trans h.routeLease,
    h'.decoder.trans h.decoder, h'.received.trans h.received, h'.handled.trans h.handled,
    h'.reading.trans h.reading, h'.establishedCounted.trans h.establishedCounted,
    fun hf => h'.flushing (h.flushing hf), h'.frames.trans h.frames, h'.bytes.trans h.bytes, ?_⟩
  obtain ⟨hs, hc, hi⟩ | ⟨hs, ht, hc, hi⟩ := h.closing
  · obtain ⟨hs', hc', hi'⟩ | ⟨hs', ht', hc', hi'⟩ := h'.closing
    · exact .inl ⟨hs'.trans hs, hc'.trans hc, hi'.trans hi⟩
    · exact .inr ⟨hs.symm.trans hs', ht', hc', hi'⟩
  · obtain ⟨hs', hc', hi'⟩ | ⟨hs', -⟩ := h'.closing
    · exact .inr ⟨hs, hs'.trans ht, hc'.trans hc, hi'.trans hi⟩
    · exact absurd (ht.symm.trans hs') (by decide)

theorem transported_closeNow (s : TlsTunnelSession) : Transported s s.closeNow := by
  unfold closeNow
  cases hs : s.stopped with
  | true => exact .refl s
  | false => exact ⟨rfl, rfl, rfl, rfl, rfl, rfl, rfl, id, rfl, rfl, .inr ⟨hs, rfl, rfl, rfl⟩⟩

@[simp] theorem closeNow_stopped (s : TlsTunnelSession) : s.closeNow.stopped = true := by
  unfold closeNow
  cases hs : s.stopped with
  | true => simpa using hs
  | false => rfl

@[simp] theorem readNext_controller (s : TlsTunnelSession) :
    s.readNext.controller = s.controller := by
  unfold readNext
  split <;> rfl

@[simp] theorem readNext_routeLease (s : TlsTunnelSession) :
    s.readNext.routeLease = s.routeLease := by
  unfold readNext
  split <;> rfl

@[simp] theorem readNext_stopped (s : TlsTunnelSession) : s.readNext.stopped = s.stopped := by
  unfold readNext
  split <;> rfl

theorem transported_writeNext (s : TlsTunnelSession) : Transported s s.writeNext := by
  have hidle : Transported s { s with writeInProgress := false } :=
    ⟨rfl, rfl, rfl, rfl, rfl, rfl, rfl, id, rfl, rfl, .inl ⟨rfl, rfl, rfl⟩⟩
  unfold writeNext
  split
  · exact ⟨rfl, rfl, rfl, rfl, rfl, rfl, rfl, id, rfl, rfl, .inl ⟨rfl, rfl, rfl⟩⟩
  · dsimp only
    split
    · exact hidle.trans (transported_closeNow _)
    · exact hidle

/-- The limits of a queue never change. -/
theorem tryEnqueue_limits (q : OutboundFrameQueue) (f : Frame) :
    (q.tryEnqueue f).2.maximumFrames = q.maximumFrames ∧
      (q.tryEnqueue f).2.maximumBytes = q.maximumBytes := by
  have h := q.tryEnqueue_enqueued f
  generalize q.tryEnqueue f = o at h ⊢
  obtain ⟨r, q'⟩ := o
  cases h <;> exact ⟨rfl, rfl⟩

theorem transported_enqueueFrame (s : TlsTunnelSession) (f : Frame) :
    Transported s (s.enqueueFrame f).2 := by
  unfold enqueueFrame
  split
  · exact .refl s
  · obtain ⟨hf, hb⟩ := tryEnqueue_limits s.outboundQueue f
    have hq (queued refused : List Frame) : Transported s { s with
        outboundQueue := (s.outboundQueue.tryEnqueue f).2, queued, refused } :=
      ⟨rfl, rfl, rfl, rfl, rfl, rfl, rfl, id, hf, hb, .inl ⟨rfl, rfl, rfl⟩⟩
    split
    · rename_i q heq
      rw [heq] at hq
      dsimp only
      split
      · exact hq _ _
      · exact (hq _ _).trans (transported_writeNext _)
    · rename_i q heq
      rw [heq] at hq
      exact hq _ _
    · rename_i q heq
      rw [heq] at hq
      exact hq _ _

theorem transported_enqueueAll (s : TlsTunnelSession) (fs : List Frame) :
    Transported s (s.enqueueAll fs).2 := by
  induction fs generalizing s with
  | nil => exact .refl s
  | cons f fs ih =>
    have hf := transported_enqueueFrame s f
    unfold enqueueAll
    split
    · rename_i s' heq
      rw [heq] at hf
      exact hf.trans (ih s')
    · exact hf

theorem transported_handleWrite (s : TlsTunnelSession) (failed : Bool) :
    Transported s (s.handleWrite failed) := by
  unfold handleWrite
  split
  · exact .refl s
  split
  · exact transported_closeNow s
  · split
    · rename_i q heq
      have hq : Transported s { s with outboundQueue := q } := by
        unfold OutboundFrameQueue.popFront at heq
        split at heq
        · cases heq
        · cases heq
          exact ⟨rfl, rfl, rfl, rfl, rfl, rfl, rfl, id, rfl, rfl, .inl ⟨rfl, rfl, rfl⟩⟩
      exact hq.trans (transported_writeNext _)
    · exact .refl s

variable {σ : Type}

@[simp] theorem deliver_manager (h : Handlers σ) (w : Shared σ) (ps : List Bytes) :
    (deliver h w ps).manager = w.manager := by
  induction ps generalizing w with
  | nil => rfl
  | cons p ps ih => exact ih _

theorem transported_applyResult (h : Handlers σ) (s : TlsTunnelSession) (w : Shared σ)
    (r : SessionResult) : Transported s (s.applyResult h w r).1 := by
  have hall := transported_enqueueAll s r.outboundFrames
  unfold applyResult
  dsimp only
  split
  · rename_i heq
    rw [heq] at hall
    exact hall.trans (transported_closeNow _)
  · rename_i heq
    rw [heq] at hall
    exact hall.trans (transported_closeNow _)
  · rename_i s' heq
    rw [heq] at hall
    have hflag : Transported s' { s' with closeAfterWrite := true } :=
      ⟨rfl, rfl, rfl, rfl, rfl, rfl, rfl, fun _ => rfl, rfl, rfl, .inl ⟨rfl, rfl, rfl⟩⟩
    split
    · dsimp only
      split
      · exact (hall.trans hflag).trans (transported_closeNow _)
      · exact hall.trans hflag
    · exact hall

theorem deliver_outside (h : Handlers σ) (w : Shared σ) (ps : List Bytes) :
    (deliver h w ps).outside = ps.foldl (fun x p => h.packetSink p x) w.outside := by
  induction ps generalizing w with
  | nil => rfl
  | cons p ps ih => exact ih _

/-- Applying a result reaches what is shared only through the packet sink and the metrics. -/
theorem applyResult_shared (h : Handlers σ) (s : TlsTunnelSession) (w : Shared σ)
    (r : SessionResult) :
    (s.applyResult h w r).2.manager = w.manager ∧ (s.applyResult h w r).2.outside =
      r.packetsToTun.foldl (fun x p => h.packetSink p x) w.outside := by
  have hm := deliver_manager h w r.packetsToTun
  have ho := deliver_outside h w r.packetsToTun
  unfold applyResult
  dsimp only
  split
  · exact ⟨hm, ho⟩
  · exact ⟨hm, ho⟩
  · split
    · exact ⟨hm, ho⟩
    · exact ⟨hm, ho⟩

end TlsTunnelSession

end PersonalVpn.Server
