import PersonalVpn.Server.TlsTunnelSession

/-! What the functions of a session can do. -/

namespace PersonalVpn.Server

open PersonalVpn.Core Protocol

namespace TlsTunnelSession

variable {σ : Type}

/-- The ways `handle_handshake` can go. -/
inductive Handshaken (s : TlsTunnelSession) (w : Shared σ) : TlsTunnelSession × Shared σ → Prop where
  | stopped (closed : s.stopped = true) : Handshaken s w (s, w)
  | anonymous (live : s.stopped = false) : Handshaken s w (s.closeNow, { w with
      metrics := { w.metrics with handshakeFailures := w.metrics.handshakeFailures + 1 } })
  | refused (live : s.stopped = false) : Handshaken s w (s.closeNow, w)
  | opened (live : s.stopped = false) {identity : Bytes} {c : SessionController}
      (create : SessionController.create identity = .ok c) :
      Handshaken s w ({ s with controller := some c }.readNext, w)

theorem handleHandshake_cases (s : TlsTunnelSession) (w : Shared σ) (fingerprint : Option Bytes) :
    Handshaken s w (s.handleHandshake w fingerprint) := by
  unfold handleHandshake
  split
  · rename_i hs
    exact .stopped hs
  · rename_i hs
    have hlive : s.stopped = false := by simpa using hs
    split
    · exact .anonymous hlive
    · split
      · exact .refused hlive
      · rename_i hcreate
        exact .opened hlive hcreate

/-- The ways `handle_read` can go up to its loop. -/
inductive Received (s : TlsTunnelSession) : TlsTunnelSession → Prop where
  | stopped (closed : s.stopped = true) : Received s { s with reading := false }
  | ended (live : s.stopped = false) : Received s { s with reading := false }.closeNow
  | malformed (live : s.stopped = false) {data : Bytes} {e : ProtocolError} {decoder : FrameDecoder}
      (push : s.decoder.push data = (.error e, decoder)) :
      Received s { s with reading := false, received := s.received ++ data, decoder }.closeNow
  | frames (live : s.stopped = false) {data : Bytes} {frames : List Frame} {decoder : FrameDecoder}
      (push : s.decoder.push data = (.ok frames, decoder)) :
      Received s { s with
        reading := false, received := s.received ++ data, decoder, inbound := frames }.continueReading

theorem handleRead_cases (s : TlsTunnelSession) (read : Option Bytes) :
    Received s (s.handleRead read) := by
  unfold handleRead
  dsimp only
  split
  · rename_i hs
    exact .stopped hs
  · rename_i hs
    have hlive : s.stopped = false := by simpa using hs
    cases read with
    | none => exact .ended hlive
    | some data =>
      dsimp only
      split
      · rename_i hpush
        exact .malformed hlive hpush
      · rename_i hpush
        exact .frames hlive hpush

/-- The ways `send_ipv4_from_tun` and `send_ipv6_from_tun` can go. -/
inductive Forwarded (overflow sent : ServerMetrics → ServerMetrics) (s : TlsTunnelSession)
    (w : Shared σ) (packet : Bytes) (now : TimePoint) : TlsTunnelSession × Shared σ → Prop where
  | ignored (absent : s.stopped = false → s.controller = none) :
      Forwarded overflow sent s w packet now (s, w)
  | dropped {c c' : SessionController} {manager : LeaseManager} (live : s.stopped = false)
      (old : s.controller = some c)
      (make : c.makeDataToClient w.manager packet now = (none, c', manager))
      (state : c'.state = .established) : Forwarded overflow sent s w packet now
        ({ s with controller := some c' }, { w with manager })
  | ended {c c' : SessionController} {manager : LeaseManager} (live : s.stopped = false)
      (old : s.controller = some c)
      (make : c.makeDataToClient w.manager packet now = (none, c', manager))
      (state : c'.state ≠ .established) : Forwarded overflow sent s w packet now
        ({ s with controller := some c' }.closeNow, { w with manager })
  | queued {c c' : SessionController} {manager : LeaseManager} {f : Frame} {s' : TlsTunnelSession}
      (live : s.stopped = false) (old : s.controller = some c)
      (make : c.makeDataToClient w.manager packet now = (some f, c', manager))
      (enqueue : { s with controller := some c' }.enqueueFrame f = (.ok true, s')) :
      Forwarded overflow sent s w packet now (s', { w with manager, metrics := sent w.metrics })
  | overflowed {c c' : SessionController} {manager : LeaseManager} {f : Frame}
      {s' : TlsTunnelSession} (live : s.stopped = false) (old : s.controller = some c)
      (make : c.makeDataToClient w.manager packet now = (some f, c', manager))
      (enqueue : { s with controller := some c' }.enqueueFrame f = (.ok false, s')) :
      Forwarded overflow sent s w packet now
        (s'.closeNow, { w with manager, metrics := overflow w.metrics })
  | threw {c c' : SessionController} {manager : LeaseManager} {f : Frame} {s' : TlsTunnelSession}
      {e : Exception} (live : s.stopped = false) (old : s.controller = some c)
      (make : c.makeDataToClient w.manager packet now = (some f, c', manager))
      (enqueue : { s with controller := some c' }.enqueueFrame f = (.error e, s')) :
      Forwarded overflow sent s w packet now (s', { w with manager })

theorem sendFromTun_cases (overflow sent : ServerMetrics → ServerMetrics) (s : TlsTunnelSession)
    (w : Shared σ) (packet : Bytes) (now : TimePoint) : Forwarded overflow sent s w packet now
      (s.sendFromTun overflow sent w packet now) := by
  unfold sendFromTun
  split
  · rename_i c hs hc
    rcases hmake : c.makeDataToClient w.manager packet now with ⟨r, c', m'⟩
    cases r with
    | none =>
      dsimp only
      split
      · rename_i hstate
        exact .ended hs hc hmake hstate
      · rename_i hstate
        exact .dropped hs hc hmake (not_not.mp hstate)
    | some f =>
      dsimp only
      split
      · rename_i henqueue
        exact .queued hs hc hmake henqueue
      · rename_i henqueue
        exact .overflowed hs hc hmake henqueue
      · rename_i henqueue
        exact .threw hs hc hmake henqueue
  · rename_i hno
    refine .ignored fun hs => ?_
    cases hc : s.controller with
    | none => rfl
    | some c => exact absurd hc (hno c hs)

/-- The ways one frame of the loop of `handle_read` can go. -/
inductive FrameHandled (h : Handlers σ) (s : TlsTunnelSession) (w : Shared σ) (f : Frame)
    (now : TimePoint) : TlsTunnelSession × Shared σ → Prop where
  | unopened (none : s.controller = none) : FrameHandled h s w f now (s, w)
  | threw {c c' : SessionController} {manager : LeaseManager} {e : Exception}
      (old : s.controller = some c) (handle : c.handle w.manager f now = (.error e, c', manager)) :
      FrameHandled h s w f now
        ({ s with controller := some c', handled := s.handled ++ [f] }.closeNow, { w with manager })
  | handled {c c' : SessionController} {manager : LeaseManager} {r : SessionResult}
      (old : s.controller = some c) (handle : c.handle w.manager f now = (.ok r, c', manager)) :
      FrameHandled h s w f now
        (conclude h { s with controller := some c', handled := s.handled ++ [f] } { w with manager }
          c' r)

theorem handleFrame_cases (h : Handlers σ) (s : TlsTunnelSession) (w : Shared σ) (f : Frame)
    (now : TimePoint) : FrameHandled h s w f now (s.handleFrame h w f now) := by
  unfold handleFrame
  split
  · rename_i hc
    exact .unopened hc
  · rename_i hc
    split
    · rename_i hhandle
      exact .threw hc hhandle
    · rename_i hhandle
      exact .handled hc hhandle

theorem announce_cases (h : Handlers σ) (s : TlsTunnelSession) (w : Shared σ)
    (c : SessionController) :
    (¬(s.routeLease = none ∧ c.state = .established ∧ c.lease.isSome = true) ∧
      s.announce h w c = (true, s, w)) ∨
    (∃ l counted metrics, s.routeLease = none ∧ c.state = .established ∧ c.lease = some l ∧
      s.announce h w c = ((h.established l w.outside).1,
        { s with routeLease := some l, establishedCounted := counted },
        { w with metrics, outside := (h.established l w.outside).2 })) := by
  cases hr : s.routeLease with
  | some k => exact .inl ⟨by simp, by simp [announce, hr]⟩
  | none =>
    cases hl : c.lease with
    | none => exact .inl ⟨by simp, by simp [announce, hr, hl]⟩
    | some l =>
      by_cases hst : c.state = .established
      · rcases he : h.established l w.outside with ⟨ok, x⟩
        cases ok with
        | false =>
          refine .inr ⟨l, s.establishedCounted, w.metrics, rfl, hst, rfl, ?_⟩
          simp [announce, hr, hst, hl, he]
        | true =>
          refine .inr ⟨l, true, if s.establishedCounted then w.metrics else { w.metrics with
            establishedSessions := w.metrics.establishedSessions + 1 }, rfl, hst, rfl, ?_⟩
          simp only [announce, hr, hst, hl, he]
      · refine .inl ⟨by simp [hst], ?_⟩
        unfold announce
        split
        · rename_i heq _
          exact absurd heq hst
        · rfl

/-- The ways the rest of the loop body of `handle_read` can go. -/
inductive Concluded (h : Handlers σ) (s : TlsTunnelSession) (w : Shared σ) (c : SessionController)
    (r : SessionResult) : TlsTunnelSession × Shared σ → Prop where
  | known (old : ¬(s.routeLease = none ∧ c.state = .established ∧ c.lease.isSome = true)) :
      Concluded h s w c r (applyResult h s w r)
  | admitted {l : Lease} {counted : Bool} {metrics : ServerMetrics} (unrouted : s.routeLease = none)
      (state : c.state = .established) (lease : c.lease = some l) :
      Concluded h s w c r (applyResult h
        { s with routeLease := some l, establishedCounted := counted }
        { w with metrics, outside := (h.established l w.outside).2 } r)
  | rejected {l : Lease} {counted : Bool} {metrics : ServerMetrics} (unrouted : s.routeLease = none)
      (state : c.state = .established) (lease : c.lease = some l)
      (refused : (h.established l w.outside).1 = false) :
      Concluded h s w c r
        ({ s with routeLease := some l, establishedCounted := counted }.closeNow,
          { w with metrics, outside := (h.established l w.outside).2 })

theorem conclude_cases (h : Handlers σ) (s : TlsTunnelSession) (w : Shared σ) (c : SessionController)
    (r : SessionResult) : Concluded h s w c r (s.conclude h w c r) := by
  unfold conclude
  obtain ⟨hold, ha⟩ | ⟨l, counted, metrics, hr, hst, hl, ha⟩ := announce_cases h s w c
  · rw [ha]
    exact .known hold
  · rw [ha]
    cases hok : (h.established l w.outside).1 with
    | false => exact .rejected hr hst hl hok
    | true => exact .admitted hr hst hl

/-- The ways a step of `close_now` can go. -/
inductive ClosedStep (h : Handlers σ) (s : TlsTunnelSession) (w : Shared σ) :
    TlsTunnelSession × Shared σ → Prop where
  | cleared (closing : s.closing = .releasing) (none : s.controller = none) :
      ClosedStep h s w
        ({ s with outboundQueue := s.outboundQueue.clear, closing := .notifying }, { w with
          metrics := { w.metrics with closedSessions := w.metrics.closedSessions + 1 } })
  | released {c : SessionController} (closing : s.closing = .releasing)
      (old : s.controller = some c) :
      ClosedStep h s w
        ({ s with
          controller := some (c.onTransportClosed w.manager).1
          outboundQueue := s.outboundQueue.clear
          closing := .notifying },
        { w with
          manager := (c.onTransportClosed w.manager).2
          metrics := { w.metrics with closedSessions := w.metrics.closedSessions + 1 } })
  | notified (closing : s.closing = .notifying) :
      ClosedStep h s w
        ({ s with closing := .done }, { w with outside := h.closed s.routeLease w.outside })
  | idle (notReleasing : s.closing ≠ .releasing) (notNotifying : s.closing ≠ .notifying) :
      ClosedStep h s w (s, w)

theorem closeStep_cases (h : Handlers σ) (s : TlsTunnelSession) (w : Shared σ) :
    ClosedStep h s w (s.closeStep h w) := by
  unfold closeStep
  split
  · rename_i hclosing
    dsimp only
    split
    · rename_i hc
      exact .cleared hclosing hc
    · rename_i hc
      exact .released hclosing hc
  · rename_i hclosing
    exact .notified hclosing
  · rename_i hr hn
    exact .idle hr hn

/-- What an event comes to: nothing, or the function that it calls. -/
inductive Stepped (h : Handlers σ) (s : TlsTunnelSession) (w : Shared σ) :
    SessionEvent → TlsTunnelSession × Shared σ → Prop where
  | busy {e : SessionEvent} (inbound : s.inbound ≠ []) (notFrame : ∀ now, e ≠ .frame now)
      (notClose : e ≠ .close) : Stepped h s w e (s, w)
  | unawaited {e : SessionEvent} (notFrame : ∀ now, e ≠ .frame now) (notClose : e ≠ .close)
      (notIpv4 : ∀ packet now, e ≠ .sendIpv4 packet now)
      (notIpv6 : ∀ packet now, e ≠ .sendIpv6 packet now) : Stepped h s w e (s, w)
  | handshake (fingerprint : Option Bytes) (idle : s.inbound = []) (none : s.controller = none) :
      Stepped h s w (.handshake fingerprint) (s.handleHandshake w fingerprint)
  | handshakeTimeout (idle : s.inbound = []) (live : s.stopped = false)
      (none : s.controller = none) :
      Stepped h s w .handshakeTimeout (s.closeNow, { w with
        metrics := { w.metrics with handshakeTimeouts := w.metrics.handshakeTimeouts + 1 } })
  | read (read : Option Bytes) (idle : s.inbound = []) (reading : s.reading = true) :
      Stepped h s w (.read read) (s.handleRead read, w)
  | frame (now : TimePoint) : Stepped h s w (.frame now) (s.handleNextFrame h w now)
  | write (failed : Bool) (idle : s.inbound = []) (writing : s.writeInProgress = true) :
      Stepped h s w (.write failed) (s.handleWrite failed, w)
  | sendIpv4 (packet : Bytes) (now : TimePoint) (idle : s.inbound = []) :
      Stepped h s w (.sendIpv4 packet now) (s.sendIpv4FromTun w packet now)
  | sendIpv6 (packet : Bytes) (now : TimePoint) (idle : s.inbound = []) :
      Stepped h s w (.sendIpv6 packet now) (s.sendIpv6FromTun w packet now)
  | idleTimeout (idle : s.inbound = []) (live : s.stopped = false) :
      Stepped h s w .idleTimeout (s.closeNow, { w with
        metrics := { w.metrics with idleTimeouts := w.metrics.idleTimeouts + 1 } })
  | stop (idle : s.inbound = []) : Stepped h s w .stop (s.closeNow, w)
  | close : Stepped h s w .close (s.closeStep h w)

theorem step_cases (h : Handlers σ) (s : TlsTunnelSession) (w : Shared σ) (e : SessionEvent) :
    Stepped h s w e (s.step h w e) := by
  by_cases hi : s.inbound = []
  · have hidle (after : TlsTunnelSession × Shared σ) : s.whenIdle w after = after := by
      simp [whenIdle, hi]
    cases e with
    | handshake fingerprint =>
      rw [step, hidle]
      split
      · exact .unawaited (by simp) (by simp) (by simp) (by simp)
      · rename_i hc
        exact .handshake fingerprint hi (by simpa using hc)
    | handshakeTimeout =>
      rw [step, hidle]
      unfold handshakeTimeout
      split
      · exact .unawaited (by simp) (by simp) (by simp) (by simp)
      · rename_i hno
        have hlive : s.stopped = false ∧ s.controller = none := by simpa using hno
        exact .handshakeTimeout hi hlive.1 hlive.2
    | read read =>
      rw [step, hidle]
      split
      · rename_i hread
        exact .read read hi hread
      · exact .unawaited (by simp) (by simp) (by simp) (by simp)
    | frame now => exact .frame now
    | write failed =>
      rw [step, hidle]
      split
      · rename_i hw
        exact .write failed hi hw
      · exact .unawaited (by simp) (by simp) (by simp) (by simp)
    | sendIpv4 packet now =>
      rw [step, hidle]
      exact .sendIpv4 packet now hi
    | sendIpv6 packet now =>
      rw [step, hidle]
      exact .sendIpv6 packet now hi
    | idleTimeout =>
      rw [step, hidle]
      unfold idleTimeout
      split
      · exact .unawaited (by simp) (by simp) (by simp) (by simp)
      · rename_i hs
        exact .idleTimeout hi (by simpa using hs)
    | stop =>
      rw [step, hidle]
      exact .stop hi
    | close => exact .close
  · by_cases hloop : (∃ now, e = .frame now) ∨ e = .close
    · obtain ⟨now, rfl⟩ | rfl := hloop
      · exact .frame now
      · exact .close
    · have hbusy : s.step h w e = (s, w) := by
        cases e with
        | frame now => exact absurd (.inl ⟨now, rfl⟩) hloop
        | close => exact absurd (.inr rfl) hloop
        | _ => simp [step, whenIdle, hi]
      rw [hbusy]
      exact .busy hi (fun now heq => hloop (.inl ⟨now, heq⟩)) fun heq => hloop (.inr heq)

end TlsTunnelSession

end PersonalVpn.Server
