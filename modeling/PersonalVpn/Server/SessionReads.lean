import PersonalVpn.Lib.Run
import PersonalVpn.Protocol.DecoderProgress
import PersonalVpn.Server.SessionActions

namespace PersonalVpn.Server

open PersonalVpn.Core Protocol

namespace TlsTunnelSession

variable {σ : Type}

/-- The frames handed to the controller and those the loop of `handle_read` still has are the ones
decoded, and the loop runs between two reads. -/
def Decoded (s : TlsTunnelSession) : Prop :=
  s.decoder.Decoded s.received (s.handled ++ s.inbound) ∧ (s.reading = true → s.inbound = []) ∧
    (s.controller = none → s.reading = false ∧ s.inbound = [])

/-- What holds while a session has not been asked to close. -/
def Reads (s : TlsTunnelSession) : Prop :=
  s.stopped = false → s.closeAfterWrite = false → s.Decoded

theorem reads_fresh (outboundQueue : OutboundFrameQueue) : Reads { outboundQueue } :=
  fun _ _ => ⟨FrameDecoder.decoded_fresh, fun _ => rfl, fun _ => ⟨rfl, rfl⟩⟩

theorem reads_stopped {s : TlsTunnelSession} (h : s.stopped = true) : s.Reads :=
  fun hno => absurd (h.symm.trans hno) (by decide)

theorem Reads.transported {s s' : TlsTunnelSession} (h : s.Reads) (ht : Transported s s') :
    s'.Reads := by
  obtain ⟨hs, -, hi⟩ | ⟨-, hstopped, -⟩ := ht.closing
  · intro hs' hc'
    have hc : s.closeAfterWrite = false := by
      apply Bool.eq_false_of_not_eq_true
      intro hc
      exact absurd ((ht.flushing hc).symm.trans hc') (by decide)
    have hd := h (hs.symm.trans hs') hc
    unfold Decoded at hd ⊢
    rwa [ht.decoder, ht.received, ht.handled, hi, ht.reading, ht.controller]
  · exact reads_stopped hstopped

theorem reads_closeNow (s : TlsTunnelSession) : s.closeNow.Reads := reads_stopped (by simp)

/-- A controller is never taken away. -/
theorem Reads.withController {s : TlsTunnelSession} (h : s.Reads) (c : SessionController) :
    Reads { s with controller := some c } :=
  fun hs hc => ⟨(h hs hc).1, (h hs hc).2.1, (by simp)⟩

theorem Reads.readNext {s : TlsTunnelSession} (h : s.Reads) (hc : s.controller ≠ none)
    (hi : s.stopped = false → s.closeAfterWrite = false → s.inbound = []) : s.readNext.Reads := by
  unfold TlsTunnelSession.readNext
  split
  · exact h
  · intro hs hw
    exact ⟨(h hs hw).1, fun _ => hi hs hw, fun hno => absurd hno hc⟩

theorem Reads.continueReading {s : TlsTunnelSession} (h : s.Reads) (hc : s.controller ≠ none) :
    s.continueReading.Reads := by
  unfold TlsTunnelSession.continueReading
  split
  · rename_i hclosed
    intro hs hw
    rw [hs, hw] at hclosed
    cases hclosed
  · split
    · rename_i hi
      exact h.readNext hc fun _ _ => List.isEmpty_iff.mp hi
    · exact h

theorem Reads.conclude {s : TlsTunnelSession} (hr : s.Reads) (h : Handlers σ) (w : Shared σ)
    (c : SessionController) (r : SessionResult) : (s.conclude h w c r).1.Reads := by
  have hcases := conclude_cases h s w c r
  generalize TlsTunnelSession.conclude h s w c r = after at hcases ⊢
  cases hcases with
  | known => exact hr.transported (transported_applyResult h s w r)
  | @admitted l counted metrics =>
    have hr' : Reads { s with routeLease := some l, establishedCounted := counted } := hr
    exact hr'.transported (transported_applyResult h _ _ r)
  | rejected => exact reads_closeNow _

theorem continueReading_flags (s : TlsTunnelSession) :
    s.continueReading.stopped = s.stopped ∧
      s.continueReading.closeAfterWrite = s.closeAfterWrite := by
  unfold TlsTunnelSession.continueReading TlsTunnelSession.readNext
  split_ifs <;> exact ⟨rfl, rfl⟩

/-- The next frame of the loop goes to the controller. -/
theorem Reads.handleNextFrame {s : TlsTunnelSession} (hr : s.Reads) (h : Handlers σ)
    (w : Shared σ) (now : TimePoint) : (s.handleNextFrame h w now).1.Reads := by
  unfold TlsTunnelSession.handleNextFrame
  cases hi : s.inbound with
  | nil => exact hr
  | cons f rest =>
    dsimp only
    have hr₁ (c' : SessionController) : Reads { s with
        inbound := rest, controller := some c', handled := s.handled ++ [f] } := by
      intro hs hw
      obtain ⟨hd, hread, -⟩ := hr hs hw
      rw [hi] at hd hread
      refine ⟨?_, fun hno => absurd (hread hno) (List.cons_ne_nil f rest), (by simp)⟩
      rwa [List.append_assoc, List.singleton_append]
    have hcases := handleFrame_cases h { s with inbound := rest } w f now
    generalize handleFrame h { s with inbound := rest } w f now = after at hcases ⊢
    cases hcases with
    | unopened hc =>
      -- an open session without a controller has nothing to read
      intro hs hw
      rw [(continueReading_flags _).1] at hs
      rw [(continueReading_flags _).2] at hw
      have hnil := ((hr hs hw).2.2 hc).2
      rw [hi] at hnil
      cases hnil
    | threw =>
      refine (reads_closeNow _).continueReading ?_
      rw [(transported_closeNow _).controller]
      simp
    | handled =>
      refine ((hr₁ _).conclude h _ _ _).continueReading ?_
      rw [(conclude_announced h _ _ _ _).2.1]
      simp

theorem Reads.handleRead {s : TlsTunnelSession} (hr : s.Reads) (hread : s.reading = true)
    (read : Option Bytes) : (s.handleRead read).Reads := by
  have hcases := handleRead_cases s read
  generalize TlsTunnelSession.handleRead s read = s' at hcases ⊢
  cases hcases with
  | stopped closed => exact reads_stopped closed
  | ended => exact reads_closeNow _
  | malformed => exact reads_closeNow _
  | frames live push =>
    by_cases hw : s.closeAfterWrite = true
    · -- a session asked to close stays so
      intro _ hno
      rw [(continueReading_flags _).2] at hno
      exact absurd (hw.symm.trans hno) (by decide)
    obtain ⟨hd, hidle, hc⟩ := hr live (Bool.eq_false_of_not_eq_true hw)
    have hne : s.controller ≠ none := by
      intro hno
      exact absurd (hread.symm.trans (hc hno).1) (by decide)
    refine Reads.continueReading ?_ hne
    intro _ _
    rw [hidle hread, List.append_nil] at hd
    exact ⟨hd.push push, (by simp), fun hno => absurd hno hne⟩

theorem Reads.sendFromTun {s : TlsTunnelSession} (hr : s.Reads)
    (overflow sent : ServerMetrics → ServerMetrics) (w : Shared σ) (packet : Bytes)
    (now : TimePoint) : (s.sendFromTun overflow sent w packet now).1.Reads := by
  have hcases := sendFromTun_cases overflow sent s w packet now
  generalize TlsTunnelSession.sendFromTun overflow sent s w packet now = after at hcases ⊢
  cases hcases with
  | ignored => exact hr
  | dropped => exact hr.withController _
  | ended => exact reads_closeNow _
  | @queued c c' manager f s' live old make enqueue =>
    have ht := (hr.withController c').transported (transported_enqueueFrame _ f)
    rwa [enqueue] at ht
  | overflowed => exact reads_closeNow _
  | @threw c c' manager f s' e live old make enqueue =>
    have ht := (hr.withController c').transported (transported_enqueueFrame _ f)
    rwa [enqueue] at ht

theorem Reads.handleHandshake {s : TlsTunnelSession} (hr : s.Reads) (hc : s.controller = none)
    (w : Shared σ) (fingerprint : Option Bytes) : (s.handleHandshake w fingerprint).1.Reads := by
  have hcases := handleHandshake_cases s w fingerprint
  generalize TlsTunnelSession.handleHandshake s w fingerprint = after at hcases ⊢
  cases hcases with
  | stopped => exact hr
  | anonymous => exact reads_closeNow s
  | refused => exact reads_closeNow s
  | @opened live identity c create =>
    exact (hr.withController c).readNext (by simp) fun hs hw => ((hr hs hw).2.2 hc).2

theorem Reads.closeStep {s : TlsTunnelSession} (hr : s.Reads) (h : Handlers σ) (w : Shared σ) :
    (s.closeStep h w).1.Reads := by
  have hcases := closeStep_cases h s w
  generalize TlsTunnelSession.closeStep h s w = after at hcases ⊢
  cases hcases with
  | cleared => exact hr
  | released => exact hr.withController _
  | notified => exact hr
  | idle => exact hr

theorem Reads.step {s : TlsTunnelSession} (hr : s.Reads) (h : Handlers σ) (w : Shared σ)
    (e : SessionEvent) : (s.step h w e).1.Reads := by
  have hcases := step_cases h s w e
  generalize TlsTunnelSession.step h s w e = after at hcases ⊢
  cases hcases with
  | busy => exact hr
  | unawaited => exact hr
  | handshake fingerprint idle none => exact hr.handleHandshake none w fingerprint
  | handshakeTimeout => exact reads_closeNow s
  | read read idle reading => exact hr.handleRead reading read
  | frame now => exact hr.handleNextFrame h w now
  | write failed => exact hr.transported (transported_handleWrite s failed)
  | sendIpv4 packet now => exact hr.sendFromTun _ _ w packet now
  | sendIpv6 packet now => exact hr.sendFromTun _ _ w packet now
  | idleTimeout => exact reads_closeNow s
  | stop => exact reads_closeNow s
  | close => exact hr.closeStep h w

/-- A closed session ends its reads and does nothing else. -/
theorem step_stopped (h : Handlers σ) {s : TlsTunnelSession} (w : Shared σ)
    {e : SessionEvent} (hs : s.stopped = true) (hi : s.inbound = []) (hclose : e ≠ .close) :
    ∃ reading, s.step h w e = ({ s with reading }, w) := by
  have hsame : ∃ reading, (s, w) = ({ s with reading }, w) := ⟨s.reading, rfl⟩
  have hcases := step_cases h s w e
  generalize TlsTunnelSession.step h s w e = after at hcases ⊢
  cases hcases with
  | busy => exact hsame
  | unawaited => exact hsame
  | handshake => simpa [TlsTunnelSession.handleHandshake, hs] using hsame
  | handshakeTimeout idle live => exact absurd (hs.symm.trans live) (by decide)
  | read read => exact ⟨false, by simp [TlsTunnelSession.handleRead, hs]⟩
  | frame now => simpa [TlsTunnelSession.handleNextFrame, hi] using hsame
  | write failed => simpa [handleWrite, hs] using hsame
  | sendIpv4 => simpa [sendIpv4FromTun, TlsTunnelSession.sendFromTun, hs] using hsame
  | sendIpv6 => simpa [sendIpv6FromTun, TlsTunnelSession.sendFromTun, hs] using hsame
  | idleTimeout idle live => exact absurd (hs.symm.trans live) (by decide)
  | stop => simpa [closeNow, hs] using hsame
  | close => exact absurd rfl hclose

/-- One event, with what the other strands have left of the shared state. -/
def stepAmid (h : Handlers σ) (s : TlsTunnelSession) (x : Shared σ × SessionEvent) :
    TlsTunnelSession := (s.step h x.1 x.2).1

/-- A session that has closed hands nothing more to its controller. -/
theorem stepAmid_stopped (h : Handlers σ) {s : TlsTunnelSession} (hs : s.stopped = true)
    (hi : s.inbound = []) (x : Shared σ × SessionEvent) :
    (s.stepAmid h x).stopped = true ∧ (s.stepAmid h x).inbound = [] ∧
      (s.stepAmid h x).handled = s.handled := by
  obtain ⟨w, e⟩ := x
  have hsame : s.stopped = true ∧ s.inbound = [] ∧ s.handled = s.handled := ⟨hs, hi, rfl⟩
  unfold stepAmid
  by_cases hclose : e = .close
  · rw [hclose, TlsTunnelSession.step]
    have hcases := closeStep_cases h s w
    generalize TlsTunnelSession.closeStep h s w = after at hcases ⊢
    cases hcases with
    | cleared => exact hsame
    | released => exact hsame
    | notified => exact hsame
    | idle => exact hsame
  · obtain ⟨reading, heq⟩ := step_stopped h w hs hi hclose
    rw [heq]
    exact hsame

theorem run_stopped (h : Handlers σ) {s : TlsTunnelSession} (hs : s.stopped = true)
    (hi : s.inbound = []) (es : List (Shared σ × SessionEvent)) :
    (Run.run (stepAmid h) s es).handled = s.handled := by
  let P (t : TlsTunnelSession) := t.stopped = true ∧ t.inbound = [] ∧ t.handled = s.handled
  have hstep : ∀ t x, P t → P (stepAmid h t x) := by
    intro t x ht
    obtain ⟨ht1, ht2, ht3⟩ := ht
    obtain ⟨h1, h2, h3⟩ := stepAmid_stopped h ht1 ht2 x
    exact ⟨h1, h2, h3.trans ht3⟩
  have hrun : P (Run.run (stepAmid h) s es) := Run.invariant hstep ⟨hs, hi, rfl⟩ es
  exact hrun.2.2

/-- The read that completes an invalid header closes the session, which has handed the frames before
it to its controller exactly if the read starts behind them. -/
theorem Reads.bad {s : TlsTunnelSession} (hr : s.Reads) (hread : s.reading = true)
    (hs : s.stopped = false) (hw : s.closeAfterWrite = false) {frames : List Frame}
    {encoded bad data : Bytes} (he : encodeFrames frames = .ok encoded) (hbad : InvalidHeader bad)
    (hstream : s.received ++ data = encoded ++ bad) (h : Handlers σ) (w : Shared σ)
    (es : List (Shared σ × SessionEvent)) :
    (s.stepAmid h (w, .read (some data))).stopped = true ∧
      ((Run.run (stepAmid h) s ((w, .read (some data)) :: es)).handled = frames ↔
        encoded.length ≤ s.received.length) := by
  obtain ⟨hd, hidle, -⟩ := hr hs hw
  have hi := hidle hread
  rw [hi, List.append_nil] at hd
  obtain ⟨⟨e, d, hpush⟩, hiff⟩ := hd.bad he hbad hstream
  have hstep : s.stepAmid h (w, .read (some data)) = { s with
      reading := false, received := s.received ++ data, decoder := d, stopped := true
      closing := .releasing, inbound := [] } := by
    unfold stepAmid TlsTunnelSession.step whenIdle
    simp [hi, hread, TlsTunnelSession.handleRead, hs, hpush, closeNow]
  refine ⟨by rw [hstep], ?_⟩
  rw [Run.run_cons, hstep, run_stopped h rfl rfl]
  exact hiff

end TlsTunnelSession

end PersonalVpn.Server
