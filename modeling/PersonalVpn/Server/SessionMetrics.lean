import PersonalVpn.Server.SessionReads

namespace PersonalVpn.Server

open PersonalVpn.Core Protocol

/-- The counters of the lives of sessions. -/
def ServerMetrics.lives (m : ServerMetrics) : UInt64 × UInt64 × UInt64 :=
  (m.acceptedConnections, m.establishedSessions, m.closedSessions)

namespace TlsTunnelSession

variable {σ : Type} {s s' : TlsTunnelSession} {m m' m'' : ServerMetrics}

/-- What an event other than a step of `close_now` does to a session and to the counters of the lives
of sessions. -/
structure Lived (s : TlsTunnelSession) (m : ServerMetrics) (s' : TlsTunnelSession)
    (m' : ServerMetrics) : Prop where
  accepted : m'.acceptedConnections = m.acceptedConnections
  closed : m'.closedSessions = m.closedSessions
  closing : (s'.stopped = s.stopped ∧ s'.closing = s.closing) ∨
    (s.stopped = false ∧ s'.stopped = true ∧ s'.closing = .releasing)
  established :
    (s'.establishedCounted = s.establishedCounted ∧
      m'.establishedSessions = m.establishedSessions) ∨
    (s.establishedCounted = false ∧ s'.establishedCounted = true ∧
      m'.establishedSessions = m.establishedSessions + 1)

theorem Lived.kept (hm : m'.lives = m.lives) (hs : s'.stopped = s.stopped)
    (hc : s'.closing = s.closing) (he : s'.establishedCounted = s.establishedCounted) :
    Lived s m s' m' := by
  simp only [ServerMetrics.lives, Prod.mk.injEq] at hm
  exact ⟨hm.1, hm.2.2, .inl ⟨hs, hc⟩, .inl ⟨he, hm.2.1⟩⟩

theorem Lived.refl (s : TlsTunnelSession) (m : ServerMetrics) : Lived s m s m :=
  .kept rfl rfl rfl rfl

theorem Lived.transported (ht : Transported s s') (hm : m'.lives = m.lives) : Lived s m s' m' := by
  simp only [ServerMetrics.lives, Prod.mk.injEq] at hm
  refine ⟨hm.1, hm.2.2, ?_, .inl ⟨ht.establishedCounted, hm.2.1⟩⟩
  exact ht.closing.imp (fun h => ⟨h.1, h.2.1⟩) (fun h => ⟨h.1, h.2.1, h.2.2.1⟩)

theorem Lived.closeNow (s : TlsTunnelSession) (hm : m'.lives = m.lives) :
    Lived s m s.closeNow m' := .transported (transported_closeNow s) hm

theorem Lived.trans {s'' : TlsTunnelSession} (h : Lived s m s' m') (h' : Lived s' m' s'' m'') :
    Lived s m s'' m'' := by
  refine ⟨h'.accepted.trans h.accepted, h'.closed.trans h.closed, ?_, ?_⟩
  · obtain ⟨hs, hc⟩ | ⟨hs, ht, hc⟩ := h.closing
    · obtain ⟨hs', hc'⟩ | ⟨hs', ht', hc'⟩ := h'.closing
      · exact .inl ⟨hs'.trans hs, hc'.trans hc⟩
      · exact .inr ⟨hs.symm.trans hs', ht', hc'⟩
    · obtain ⟨hs', hc'⟩ | ⟨hs', -⟩ := h'.closing
      · exact .inr ⟨hs, hs'.trans ht, hc'.trans hc⟩
      · exact absurd (ht.symm.trans hs') (by decide)
  · obtain ⟨he, hm⟩ | ⟨he, ht, hm⟩ := h.established
    · obtain ⟨he', hm'⟩ | ⟨he', ht', hm'⟩ := h'.established
      · exact .inl ⟨he'.trans he, hm'.trans hm⟩
      · exact .inr ⟨he.symm.trans he', ht', by rw [hm', hm]⟩
    · obtain ⟨he', hm'⟩ | ⟨he', -⟩ := h'.established
      · exact .inr ⟨he, he'.trans ht, hm'.trans hm⟩
      · exact absurd (ht.symm.trans he') (by decide)

@[simp] theorem deliver_lives (h : Handlers σ) (w : Shared σ) (ps : List Bytes) :
    (deliver h w ps).metrics.lives = w.metrics.lives := by
  induction ps generalizing w with
  | nil => rfl
  | cons p ps ih => exact ih _

theorem applyResult_lives (h : Handlers σ) (s : TlsTunnelSession) (w : Shared σ)
    (r : SessionResult) : (s.applyResult h w r).2.metrics.lives = w.metrics.lives := by
  have hd := deliver_lives h w r.packetsToTun
  unfold applyResult
  dsimp only
  split
  · exact hd
  · exact hd
  · split
    · exact hd
    · exact hd

theorem lived_applyResult (h : Handlers σ) (s : TlsTunnelSession) (w : Shared σ)
    (r : SessionResult) :
    Lived s w.metrics (s.applyResult h w r).1 (s.applyResult h w r).2.metrics :=
  .transported (transported_applyResult h s w r) (applyResult_lives h s w r)

/-- A session is counted as established when it is announced, and not again. -/
theorem lived_announce (h : Handlers σ) (s : TlsTunnelSession) (w : Shared σ)
    (c : SessionController) :
    Lived s w.metrics (s.announce h w c).2.1 (s.announce h w c).2.2.metrics := by
  unfold announce
  split
  · split
    · exact .kept rfl rfl rfl rfl
    · cases he : s.establishedCounted with
      | true => exact ⟨rfl, rfl, .inl ⟨rfl, rfl⟩, .inl ⟨he.symm, rfl⟩⟩
      | false => exact ⟨rfl, rfl, .inl ⟨rfl, rfl⟩, .inr ⟨he, rfl, rfl⟩⟩
  · exact .refl s _

theorem lived_conclude (h : Handlers σ) (s : TlsTunnelSession) (w : Shared σ)
    (c : SessionController) (r : SessionResult) :
    Lived s w.metrics (s.conclude h w c r).1 (s.conclude h w c r).2.metrics := by
  have ha := lived_announce h s w c
  unfold conclude
  split
  · rename_i s₁ w₁ heq
    rw [heq] at ha
    exact ha.trans (.closeNow s₁ rfl)
  · rename_i s₁ w₁ heq
    rw [heq] at ha
    exact ha.trans (lived_applyResult h s₁ w₁ r)

theorem lived_continueReading (s : TlsTunnelSession) (m : ServerMetrics) :
    Lived s m s.continueReading m := by
  unfold continueReading readNext
  split_ifs <;> exact .kept rfl rfl rfl rfl

theorem lived_handleFrame (h : Handlers σ) (s : TlsTunnelSession) (w : Shared σ) (f : Frame)
    (now : TimePoint) :
    Lived s w.metrics (s.handleFrame h w f now).1 (s.handleFrame h w f now).2.metrics := by
  have hkept (c' : SessionController) : Lived s w.metrics
      { s with controller := some c', handled := s.handled ++ [f] } w.metrics :=
    .kept rfl rfl rfl rfl
  have hcases := handleFrame_cases h s w f now
  generalize s.handleFrame h w f now = after at hcases ⊢
  cases hcases with
  | unopened => exact .refl s _
  | threw => exact (hkept _).trans (.closeNow _ rfl)
  | @handled c c' manager r =>
    exact (hkept c').trans (lived_conclude h _ { w with manager } c' r)

theorem lived_handleNextFrame (h : Handlers σ) (s : TlsTunnelSession) (w : Shared σ)
    (now : TimePoint) :
    Lived s w.metrics (s.handleNextFrame h w now).1 (s.handleNextFrame h w now).2.metrics := by
  unfold handleNextFrame
  split
  · exact .refl s _
  · rename_i f rest _
    have hkept : Lived s w.metrics { s with inbound := rest } w.metrics := .kept rfl rfl rfl rfl
    exact (hkept.trans (lived_handleFrame h _ w f now)).trans (lived_continueReading _ _)

theorem lived_handleRead (s : TlsTunnelSession) (read : Option Bytes) (m : ServerMetrics) :
    Lived s m (s.handleRead read) m := by
  have hkept (received : Bytes) (decoder : FrameDecoder) (inbound : List Frame) : Lived s m
      { s with reading := false, received, decoder, inbound } m := .kept rfl rfl rfl rfl
  have hcases := handleRead_cases s read
  generalize s.handleRead read = s' at hcases ⊢
  cases hcases with
  | stopped => exact hkept _ _ _
  | ended => exact (hkept _ _ _).trans (.closeNow _ rfl)
  | malformed => exact (hkept _ _ _).trans (.closeNow _ rfl)
  | frames => exact (hkept _ _ _).trans (lived_continueReading _ m)

theorem lived_sendFromTun (overflow sent : ServerMetrics → ServerMetrics)
    (hoverflow : ∀ m, (overflow m).lives = m.lives) (hsent : ∀ m, (sent m).lives = m.lives)
    (s : TlsTunnelSession) (w : Shared σ) (packet : Bytes) (now : TimePoint) :
    Lived s w.metrics (s.sendFromTun overflow sent w packet now).1
      (s.sendFromTun overflow sent w packet now).2.metrics := by
  have hkept (c' : SessionController) : Lived s w.metrics { s with controller := some c' } w.metrics :=
    .kept rfl rfl rfl rfl
  have hcases := sendFromTun_cases overflow sent s w packet now
  generalize s.sendFromTun overflow sent w packet now = after at hcases ⊢
  cases hcases with
  | ignored => exact .refl s _
  | dropped => exact hkept _
  | ended => exact (hkept _).trans (.closeNow _ rfl)
  | @queued c c' manager f s₁ live old make enqueue =>
    have ht := transported_enqueueFrame { s with controller := some c' } f
    rw [enqueue] at ht
    exact (hkept c').trans (.transported ht (hsent _))
  | @overflowed c c' manager f s₁ live old make enqueue =>
    have ht := transported_enqueueFrame { s with controller := some c' } f
    rw [enqueue] at ht
    exact (hkept c').trans (.transported (ht.trans (transported_closeNow s₁)) (hoverflow _))
  | @threw c c' manager f s₁ e live old make enqueue =>
    have ht := transported_enqueueFrame { s with controller := some c' } f
    rw [enqueue] at ht
    exact (hkept c').trans (.transported ht rfl)

theorem lived_handleHandshake (s : TlsTunnelSession) (w : Shared σ) (fingerprint : Option Bytes) :
    Lived s w.metrics (s.handleHandshake w fingerprint).1
      (s.handleHandshake w fingerprint).2.metrics := by
  have hcases := handleHandshake_cases s w fingerprint
  generalize s.handleHandshake w fingerprint = after at hcases ⊢
  cases hcases with
  | stopped => exact .refl s _
  | anonymous => exact .closeNow s rfl
  | refused => exact .closeNow s rfl
  | opened =>
    unfold readNext
    split
    · exact .kept rfl rfl rfl rfl
    · exact .kept rfl rfl rfl rfl

/-- The events that run ahead of `close_now`. -/
theorem step_lived (h : Handlers σ) (s : TlsTunnelSession) (w : Shared σ) {e : SessionEvent}
    (hclose : e ≠ .close) : Lived s w.metrics (s.step h w e).1 (s.step h w e).2.metrics := by
  have hcases := step_cases h s w e
  generalize s.step h w e = after at hcases ⊢
  cases hcases with
  | busy => exact .refl s _
  | unawaited => exact .refl s _
  | handshake fingerprint => exact lived_handleHandshake s w fingerprint
  | handshakeTimeout => exact .closeNow s rfl
  | read read => exact lived_handleRead s read _
  | frame now => exact lived_handleNextFrame h s w now
  | write failed => exact .transported (transported_handleWrite s failed) rfl
  | sendIpv4 packet now =>
    apply lived_sendFromTun
    · exact fun _ => rfl
    · exact fun _ => rfl
  | sendIpv6 packet now =>
    apply lived_sendFromTun
    · exact fun _ => rfl
    · exact fun _ => rfl
  | idleTimeout => exact .closeNow s rfl
  | stop => exact .closeNow s rfl
  | close => exact absurd rfl hclose

/-- What a step of `close_now` does to the counters. -/
theorem closeStep_lives (h : Handlers σ) (s : TlsTunnelSession) (w : Shared σ) :
    let s' := (s.closeStep h w).1
    let m' := (s.closeStep h w).2.metrics
    s'.stopped = s.stopped ∧ s'.establishedCounted = s.establishedCounted ∧
      ((s.closing = .releasing ∧ s'.closing = .notifying ∧ m'.lives =
          (w.metrics.acceptedConnections, w.metrics.establishedSessions,
            w.metrics.closedSessions + 1)) ∨
        (s.closing = .notifying ∧ s'.closing = .done ∧ m' = w.metrics) ∨
        (s.closing ≠ .releasing ∧ s.closing ≠ .notifying ∧ s'.closing = s.closing ∧
          m' = w.metrics)) := by
  have hcases := closeStep_cases h s w
  generalize s.closeStep h w = after at hcases ⊢
  cases hcases with
  | cleared closing => exact ⟨rfl, rfl, .inl ⟨closing, rfl, rfl⟩⟩
  | released closing => exact ⟨rfl, rfl, .inl ⟨closing, rfl, rfl⟩⟩
  | notified closing => exact ⟨rfl, rfl, .inr (.inl ⟨closing, rfl, rfl⟩)⟩
  | idle notReleasing notNotifying =>
    exact ⟨rfl, rfl, .inr (.inr ⟨notReleasing, notNotifying, rfl, rfl⟩)⟩

/-- A session that has stopped stays so. -/
theorem step_open (h : Handlers σ) (s : TlsTunnelSession) (w : Shared σ) (e : SessionEvent)
    (hs : (s.step h w e).1.stopped = false) : s.stopped = false := by
  by_cases hclose : e = .close
  · rw [hclose] at hs
    exact (closeStep_lives h s w).1.symm.trans hs
  · obtain ⟨hsame, -⟩ | ⟨hopen, -⟩ := (step_lived h s w hclose).closing
    · exact hsame.symm.trans hs
    · exact hopen

/-- `close_now` has counted the session. -/
def closeCounted (s : TlsTunnelSession) : Bool := s.closing = .notifying || s.closing = .done

/-- What any event does to a session and to the counters of the lives of sessions. -/
structure Moved (s : TlsTunnelSession) (m : ServerMetrics) (s' : TlsTunnelSession)
    (m' : ServerMetrics) : Prop where
  accepted : m'.acceptedConnections = m.acceptedConnections
  stage : s'.stopped = false ↔ s'.closing = .open
  closed : (s'.closeCounted = s.closeCounted ∧ m'.closedSessions = m.closedSessions) ∨
    (s.closeCounted = false ∧ s'.closeCounted = true ∧
      m'.closedSessions = m.closedSessions + 1)
  done : s.closing = .done → s'.closing = .done
  notified : s'.closing = .done → s.closing = .done ∨ s.closing = .notifying
  established :
    (s'.establishedCounted = s.establishedCounted ∧
      m'.establishedSessions = m.establishedSessions) ∨
    (s.establishedCounted = false ∧ s'.establishedCounted = true ∧
      m'.establishedSessions = m.establishedSessions + 1)

theorem Lived.moved (h : Lived s m s' m') (hs : s.stopped = false ↔ s.closing = .open) :
    Moved s m s' m' := by
  obtain ⟨hst, hc⟩ | ⟨hopen, hst, hc⟩ := h.closing
  · refine ⟨h.accepted, by rw [hst, hc, hs], .inl ⟨by simp [closeCounted, hc], h.closed⟩,
      fun hd => hc.trans hd, fun hd => .inl (hc.symm.trans hd), h.established⟩
  · have hno : s.closing = .open := hs.mp hopen
    refine ⟨h.accepted, by simp [hst, hc], .inl ⟨by simp [closeCounted, hc, hno], h.closed⟩,
      fun hd => ?_, fun hd => ?_, h.established⟩
    · exact absurd (hno.symm.trans hd) (by decide)
    · exact absurd (hc.symm.trans hd) (by decide)

theorem closeStep_moved (h : Handlers σ) (w : Shared σ)
    (hs : s.stopped = false ↔ s.closing = .open) :
    Moved s w.metrics (s.closeStep h w).1 (s.closeStep h w).2.metrics := by
  obtain ⟨hst, he, hcase⟩ := closeStep_lives h s w
  generalize (s.closeStep h w).1 = s' at hst he hcase ⊢
  generalize (s.closeStep h w).2.metrics = m' at hcase ⊢
  obtain ⟨hc, hc', hm⟩ | ⟨hc, hc', hm⟩ | ⟨h₁, h₂, hc', hm⟩ := hcase
  · simp only [ServerMetrics.lives, Prod.mk.injEq] at hm
    exact ⟨hm.1, by simpa [hst, hc, hc'] using hs, .inr ⟨by simp [closeCounted, hc],
      by simp [closeCounted, hc'], hm.2.2⟩, by simp [hc], by simp [hc'], .inl ⟨he, hm.2.1⟩⟩
  · rw [hm]
    exact ⟨rfl, by simpa [hst, hc, hc'] using hs, .inl ⟨by simp [closeCounted, hc, hc'], rfl⟩,
      fun _ => hc', fun _ => .inr hc, .inl ⟨he, rfl⟩⟩
  · rw [hm]
    exact ⟨rfl, by rw [hst, hc', hs], .inl ⟨by simp [closeCounted, hc'], rfl⟩,
      fun hd => hc'.trans hd, fun hd => .inl (hc'.symm.trans hd), .inl ⟨he, rfl⟩⟩

theorem step_moved (h : Handlers σ) (w : Shared σ) (e : SessionEvent)
    (hs : s.stopped = false ↔ s.closing = .open) :
    Moved s w.metrics (s.step h w e).1 (s.step h w e).2.metrics := by
  by_cases hclose : e = .close
  · rw [hclose]
    exact closeStep_moved h w hs
  · exact (step_lived h s w hclose).moved hs

end TlsTunnelSession

end PersonalVpn.Server
