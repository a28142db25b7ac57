import PersonalVpn.Server.SessionTransport

namespace PersonalVpn.Server

open PersonalVpn.Core Protocol

namespace TlsTunnelSession

variable {σ : Type}

/-- How the route of a session and what its handlers act on change once its controller has handled
a frame: the handler may have been told of a new lease, and packets may have gone to the sink. -/
inductive Announced (h : Handlers σ) (route : Option Lease) (x : σ) (c : SessionController) :
    Option Lease → σ → Prop where
  | known (old : ¬(route = none ∧ c.state = .established ∧ c.lease.isSome = true))
      (packets : List Bytes) :
      Announced h route x c route (packets.foldl (fun x p => h.packetSink p x) x)
  | new {l : Lease} (unrouted : route = none) (state : c.state = .established)
      (lease : c.lease = some l) (packets : List Bytes) :
      Announced h route x c (some l)
        (packets.foldl (fun x p => h.packetSink p x) (h.established l x).2)

/-- `s'` is `s` but for its transport, its decoder and what it was told to read. -/
structure Quiet (s s' : TlsTunnelSession) : Prop where
  frames : s'.outboundQueue.maximumFrames = s.outboundQueue.maximumFrames
  bytes : s'.outboundQueue.maximumBytes = s.outboundQueue.maximumBytes
  closing : (s'.stopped = s.stopped ∧ s'.closing = s.closing) ∨
    (s.stopped = false ∧ s'.stopped = true ∧ s'.closing = .releasing)
  busy : (s.inbound ≠ [] → s.stopped = false) → s'.inbound ≠ [] → s'.stopped = false

theorem Transported.quiet {s s' : TlsTunnelSession} (h : Transported s s') : Quiet s s' := by
  refine ⟨h.frames, h.bytes, ?_, ?_⟩
  · exact h.closing.imp (fun h => ⟨h.1, h.2.1⟩) (fun h => ⟨h.1, h.2.1, h.2.2.1⟩)
  · intro hb hne
    obtain ⟨hs, -, hi⟩ | ⟨-, -, -, hi⟩ := h.closing
    · rw [hs]
      rw [hi] at hne
      exact hb hne
    · exact absurd hi hne

theorem Quiet.trans {s₁ s₂ s₃ : TlsTunnelSession} (h : Quiet s₁ s₂) (h' : Quiet s₂ s₃) :
    Quiet s₁ s₃ := by
  refine ⟨h'.frames.trans h.frames, h'.bytes.trans h.bytes, ?_, fun hb => h'.busy (h.busy hb)⟩
  obtain ⟨hs, hc⟩ | ⟨hs, ht, hc⟩ := h.closing
  · obtain ⟨hs', hc'⟩ | ⟨hs', ht', hc'⟩ := h'.closing
    · exact .inl ⟨hs'.trans hs, hc'.trans hc⟩
    · exact .inr ⟨hs.symm.trans hs', ht', hc'⟩
  · obtain ⟨hs', hc'⟩ | ⟨hs', -⟩ := h'.closing
    · exact .inr ⟨hs, hs'.trans ht, hc'.trans hc⟩
    · exact absurd (ht.symm.trans hs') (by decide)

/-- Nothing was ever sent on this session. -/
structure Unused (s : TlsTunnelSession) : Prop where
  routeLease : s.routeLease = none
  closeAfterWrite : s.closeAfterWrite = false
  writeInProgress : s.writeInProgress = false
  queue : s.outboundQueue.queue = []
  queuedBytes : s.outboundQueue.queuedBytes = 0

/-- What a session is told to read, and its controller, play no part. -/
theorem Unused.same {s s' : TlsTunnelSession} (h : s.Unused) (hroute : s'.routeLease = s.routeLease)
    (hclose : s'.closeAfterWrite = s.closeAfterWrite)
    (hwrite : s'.writeInProgress = s.writeInProgress)
    (hqueue : s'.outboundQueue = s.outboundQueue) : s'.Unused where
  routeLease := hroute.trans h.routeLease
  closeAfterWrite := hclose.trans h.closeAfterWrite
  writeInProgress := hwrite.trans h.writeInProgress
  queue := by rw [hqueue, h.queue]
  queuedBytes := by rw [hqueue, h.queuedBytes]

theorem Unused.closeNow {s : TlsTunnelSession} (h : s.Unused) : s.closeNow.Unused := by
  unfold TlsTunnelSession.closeNow
  split
  · exact h
  · exact h.same rfl rfl rfl rfl

theorem Unused.readNext {s : TlsTunnelSession} (h : s.Unused) : s.readNext.Unused := by
  unfold TlsTunnelSession.readNext
  split
  · exact h
  · exact h.same rfl rfl rfl rfl

/-- Everything an event can do to the controller and the route of a session and to what it
shares. -/
inductive Acted (h : Handlers σ) (s : TlsTunnelSession) (w : Shared σ) :
    TlsTunnelSession → Shared σ → Prop where
  | quiet {s' : TlsTunnelSession} {w' : Shared σ} (same : Quiet s s')
      (controller : s'.controller = s.controller) (routeLease : s'.routeLease = s.routeLease)
      (manager : w'.manager = w.manager) (outside : w'.outside = w.outside)
      (unused : s.Unused → s'.Unused) : Acted h s w s' w'
  | opened {identity : Bytes} {c : SessionController} {s' : TlsTunnelSession} (same : Quiet s s')
      (none : s.controller = none) (create : SessionController.create identity = .ok c)
      (controller : s'.controller = some c) (routeLease : s'.routeLease = s.routeLease)
      (unused : s.Unused → s'.Unused) : Acted h s w s' w
  | framed {c : SessionController} {f : Frame} {rest : List Frame} {now : TimePoint}
      {s' : TlsTunnelSession} {w' : Shared σ} (same : Quiet s s') (old : s.controller = some c)
      (inbound : s.inbound = f :: rest)
      (controller : s'.controller = some (c.handle w.manager f now).2.1)
      (manager : w'.manager = (c.handle w.manager f now).2.2)
      (announced : Announced h s.routeLease w.outside (c.handle w.manager f now).2.1 s'.routeLease
        w'.outside) :
      Acted h s w s' w'
  | sent {c : SessionController} {packet : Bytes} {now : TimePoint} {s' : TlsTunnelSession}
      {w' : Shared σ} (same : Quiet s s') (old : s.controller = some c)
      (controller : s'.controller = some (c.makeDataToClient w.manager packet now).2.1)
      (manager : w'.manager = (c.makeDataToClient w.manager packet now).2.2)
      (routeLease : s'.routeLease = s.routeLease) (outside : w'.outside = w.outside)
      (unused : (c.makeDataToClient w.manager packet now).1 = none → s.Unused → s'.Unused) :
      Acted h s w s' w'
  | released {c : SessionController} {s' : TlsTunnelSession} {w' : Shared σ}
      (closing : s.closing = .releasing) (old : s.controller = some c)
      (after : s' = { s with
        controller := some (c.onTransportClosed w.manager).1
        outboundQueue := s.outboundQueue.clear
        closing := .notifying })
      (manager : w'.manager = (c.onTransportClosed w.manager).2) (outside : w'.outside = w.outside) :
      Acted h s w s' w'
  | cleared {w' : Shared σ} (closing : s.closing = .releasing) (none : s.controller = none)
      (manager : w'.manager = w.manager) (outside : w'.outside = w.outside) :
      Acted h s w { s with outboundQueue := s.outboundQueue.clear, closing := .notifying } w'
  | notified {w' : Shared σ} (closing : s.closing = .notifying) (manager : w'.manager = w.manager)
      (outside : w'.outside = h.closed s.routeLease w.outside) :
      Acted h s w { s with closing := .done } w'

theorem conclude_announced (h : Handlers σ) (s : TlsTunnelSession) (w : Shared σ)
    (c : SessionController) (r : SessionResult) :
    Quiet s (s.conclude h w c r).1 ∧ (s.conclude h w c r).1.controller = s.controller ∧
      (s.conclude h w c r).2.manager = w.manager ∧
      Announced h s.routeLease w.outside c (s.conclude h w c r).1.routeLease
        (s.conclude h w c r).2.outside := by
  have hquiet (l : Lease) (counted : Bool) :
      Quiet s { s with routeLease := some l, establishedCounted := counted } :=
    ⟨rfl, rfl, .inl ⟨rfl, rfl⟩, id⟩
  have hcases := conclude_cases h s w c r
  generalize s.conclude h w c r = after at hcases ⊢
  cases hcases with
  | known old =>
    obtain ⟨hm, ho⟩ := applyResult_shared h s w r
    have ht := transported_applyResult h s w r
    refine ⟨ht.quiet, ht.controller, hm, ?_⟩
    rw [ho, ht.routeLease]
    exact .known old r.packetsToTun
  | @admitted l counted metrics unrouted state lease =>
    obtain ⟨hm, ho⟩ := applyResult_shared h
      { s with routeLease := some l, establishedCounted := counted }
      { w with metrics, outside := (h.established l w.outside).2 } r
    have ht := transported_applyResult h
      { s with routeLease := some l, establishedCounted := counted }
      { w with metrics, outside := (h.established l w.outside).2 } r
    refine ⟨(hquiet l counted).trans ht.quiet, ht.controller, hm, ?_⟩
    rw [ho, ht.routeLease]
    exact .new unrouted state lease r.packetsToTun
  | @rejected l counted metrics unrouted state lease refused =>
    have ht := transported_closeNow { s with routeLease := some l, establishedCounted := counted }
    refine ⟨(hquiet l counted).trans ht.quiet, ht.controller, rfl, ?_⟩
    rw [ht.routeLease]
    exact .new unrouted state lease []

/-- What one frame of the loop of `handle_read` does. -/
theorem handleFrame_announced (h : Handlers σ) {s : TlsTunnelSession} {c : SessionController}
    (hc : s.controller = some c) (hh : c.Holds) (w : Shared σ) (f : Frame) (now : TimePoint) :
    Quiet s (s.handleFrame h w f now).1 ∧
      (s.handleFrame h w f now).1.controller = some (c.handle w.manager f now).2.1 ∧
      (s.handleFrame h w f now).2.manager = (c.handle w.manager f now).2.2 ∧
      Announced h s.routeLease w.outside (c.handle w.manager f now).2.1
        (s.handleFrame h w f now).1.routeLease (s.handleFrame h w f now).2.outside := by
  obtain ⟨r, c', m', heq, -⟩ := SessionController.handle_handled hh w.manager f now
  simp only [handleFrame, hc, heq]
  have hq : Quiet s { s with controller := some c', handled := s.handled ++ [f] } :=
    ⟨rfl, rfl, .inl ⟨rfl, rfl⟩, id⟩
  obtain ⟨hq', hc', hm', ha⟩ := conclude_announced h
    { s with controller := some c', handled := s.handled ++ [f] } { w with manager := m' } c' r
  exact ⟨hq.trans hq', hc', hm', ha⟩

/-- Work on the transport alone. -/
theorem Acted.transport {h : Handlers σ} {s s' : TlsTunnelSession} {w w' : Shared σ}
    (ht : Transported s s') (hm : w'.manager = w.manager) (ho : w'.outside = w.outside)
    (hu : s.Unused → s'.Unused) : Acted h s w s' w' :=
  .quiet ht.quiet ht.controller ht.routeLease hm ho hu

theorem Acted.closeNow {h : Handlers σ} (s : TlsTunnelSession) {w w' : Shared σ}
    (hm : w'.manager = w.manager) (ho : w'.outside = w.outside) : Acted h s w s.closeNow w' :=
  .transport (transported_closeNow s) hm ho (·.closeNow)

theorem Acted.same (h : Handlers σ) (s : TlsTunnelSession) (w : Shared σ) : Acted h s w s w :=
  .transport (.refl s) rfl rfl id

theorem quiet_readNext (s : TlsTunnelSession) : Quiet s s.readNext := by
  unfold readNext
  split
  · exact (Transported.refl s).quiet
  · exact ⟨rfl, rfl, .inl ⟨rfl, rfl⟩, id⟩

theorem quiet_continueReading (s : TlsTunnelSession) : Quiet s s.continueReading := by
  unfold continueReading
  split
  · exact ⟨rfl, rfl, .inl ⟨rfl, rfl⟩, fun _ hne => absurd rfl hne⟩
  · split
    · exact quiet_readNext s
    · exact (Transported.refl s).quiet

theorem continueReading_keeps (s : TlsTunnelSession) :
    s.continueReading.controller = s.controller ∧ s.continueReading.routeLease = s.routeLease ∧
      (s.Unused → s.continueReading.Unused) := by
  unfold continueReading
  split
  · exact ⟨rfl, rfl, fun hu => hu.same rfl rfl rfl rfl⟩
  · split
    · exact ⟨readNext_controller s, readNext_routeLease s, (·.readNext)⟩
    · exact ⟨rfl, rfl, id⟩

theorem handleNextFrame_acted (h : Handlers σ) {s : TlsTunnelSession}
    (hh : ∀ c, s.controller = some c → c.Holds) (w : Shared σ) (now : TimePoint) :
    Acted h s w (s.handleNextFrame h w now).1 (s.handleNextFrame h w now).2 := by
  unfold handleNextFrame
  cases hi : s.inbound with
  | nil => exact .same h s w
  | cons f rest =>
    have hq₀ : Quiet s { s with inbound := rest } :=
      ⟨rfl, rfl, .inl ⟨rfl, rfl⟩, fun hb _ => hb (by rw [hi]; exact List.cons_ne_nil f rest)⟩
    have hu₀ (hu : s.Unused) : Unused { s with inbound := rest } := hu.same rfl rfl rfl rfl
    dsimp only
    generalize hs₀ : { s with inbound := rest } = s₀ at hq₀ hu₀
    have hc₀ : s₀.controller = s.controller := by rw [← hs₀]
    have hr₀ : s₀.routeLease = s.routeLease := by rw [← hs₀]
    obtain ⟨hkc, hkr, hku⟩ := continueReading_keeps (s₀.handleFrame h w f now).1
    have hq₁ := quiet_continueReading (s₀.handleFrame h w f now).1
    cases hc : s.controller with
    | none =>
      rw [hc] at hc₀
      have heq : s₀.handleFrame h w f now = (s₀, w) := by simp [handleFrame, hc₀]
      rw [heq] at hkc hkr hku hq₁ ⊢
      exact .quiet (hq₀.trans hq₁) (by rw [hkc, hc₀, hc]) (hkr.trans hr₀) rfl rfl
        fun hu => hku (hu₀ hu)
    | some c =>
      rw [hc] at hc₀
      obtain ⟨hq, hcon, hm, ha⟩ := handleFrame_announced h hc₀ (hh c hc) w f now
      refine .framed ((hq₀.trans hq).trans hq₁) hc hi (hkc.trans hcon) hm ?_
      rw [hkr, ← hr₀]
      exact ha

theorem handleRead_acted (h : Handlers σ) (s : TlsTunnelSession) (w : Shared σ)
    (read : Option Bytes) : Acted h s w (s.handleRead read) w := by
  have hcases := handleRead_cases s read
  generalize s.handleRead read = s' at hcases ⊢
  cases hcases with
  | stopped =>
    exact .quiet ⟨rfl, rfl, .inl ⟨rfl, rfl⟩, id⟩ rfl rfl rfl rfl fun hu => hu.same rfl rfl rfl rfl
  | ended =>
    have hq : Quiet s { s with reading := false } := ⟨rfl, rfl, .inl ⟨rfl, rfl⟩, id⟩
    have ht := transported_closeNow { s with reading := false }
    refine .quiet (hq.trans ht.quiet) ht.controller ht.routeLease rfl rfl fun hu => ?_
    exact Unused.closeNow (hu.same rfl rfl rfl rfl)
  | @malformed _ data _ decoder push =>
    let s₁ := { s with reading := false, received := s.received ++ data, decoder }
    have hq : Quiet s s₁ := ⟨rfl, rfl, .inl ⟨rfl, rfl⟩, id⟩
    have ht := transported_closeNow s₁
    refine .quiet (hq.trans ht.quiet) ht.controller ht.routeLease rfl rfl fun hu => ?_
    exact Unused.closeNow (hu.same rfl rfl rfl rfl)
  | @frames live data frames decoder push =>
    let s₁ := { s with
      reading := false, received := s.received ++ data, decoder, inbound := frames }
    have hq : Quiet s s₁ := ⟨rfl, rfl, .inl ⟨rfl, rfl⟩, fun _ _ => live⟩
    obtain ⟨hkc, hkr, hku⟩ := continueReading_keeps s₁
    exact .quiet (hq.trans (quiet_continueReading _)) hkc hkr rfl rfl fun hu =>
      hku (hu.same rfl rfl rfl rfl)

theorem sendFromTun_acted (h : Handlers σ) (overflow sent : ServerMetrics → ServerMetrics)
    (s : TlsTunnelSession) (w : Shared σ) (packet : Bytes) (now : TimePoint) :
    Acted h s w (s.sendFromTun overflow sent w packet now).1
      (s.sendFromTun overflow sent w packet now).2 := by
  have hq (c' : SessionController) : Quiet s { s with controller := some c' } :=
    ⟨rfl, rfl, .inl ⟨rfl, rfl⟩, id⟩
  have hcases := sendFromTun_cases overflow sent s w packet now
  generalize s.sendFromTun overflow sent w packet now = after at hcases ⊢
  cases hcases with
  | ignored => exact .same h s w
  | @dropped c c' manager live old make state =>
    refine .sent (hq c') old (by rw [make]) (by rw [make]) rfl rfl fun _ hu => ?_
    exact hu.same rfl rfl rfl rfl
  | @ended c c' manager live old make state =>
    have ht := transported_closeNow { s with controller := some c' }
    refine .sent ((hq c').trans ht.quiet) old (by rw [make, ht.controller]) (by rw [make])
      ht.routeLease rfl fun _ hu => ?_
    exact Unused.closeNow (hu.same rfl rfl rfl rfl)
  | @queued c c' manager f s' live old make enqueue =>
    have ht := transported_enqueueFrame { s with controller := some c' } f
    rw [enqueue] at ht
    exact .sent ((hq c').trans ht.quiet) old (by rw [make, ht.controller]) (by rw [make])
      ht.routeLease rfl fun hno => by simp [make] at hno
  | @overflowed c c' manager f s' live old make enqueue =>
    have ht := transported_enqueueFrame { s with controller := some c' } f
    rw [enqueue] at ht
    have ht' := ht.trans (transported_closeNow s')
    exact .sent ((hq c').trans ht'.quiet) old (by rw [make, ht'.controller]) (by rw [make])
      ht'.routeLease rfl fun hno => by simp [make] at hno
  | @threw c c' manager f s' e live old make enqueue =>
    have ht := transported_enqueueFrame { s with controller := some c' } f
    rw [enqueue] at ht
    exact .sent ((hq c').trans ht.quiet) old (by rw [make, ht.controller]) (by rw [make])
      ht.routeLease rfl fun hno => by simp [make] at hno

theorem closeStep_acted (h : Handlers σ) (s : TlsTunnelSession) (w : Shared σ) :
    Acted h s w (s.closeStep h w).1 (s.closeStep h w).2 := by
  have hcases := closeStep_cases h s w
  generalize s.closeStep h w = after at hcases ⊢
  cases hcases with
  | cleared closing none => exact .cleared closing none rfl rfl
  | released closing old => exact .released closing old rfl rfl rfl
  | notified closing => exact .notified closing rfl rfl
  | idle => exact .same h s w

theorem handleHandshake_acted (h : Handlers σ) {s : TlsTunnelSession} (hc : s.controller = none)
    (w : Shared σ) (fingerprint : Option Bytes) :
    Acted h s w (s.handleHandshake w fingerprint).1 (s.handleHandshake w fingerprint).2 := by
  have hcases := handleHandshake_cases s w fingerprint
  generalize s.handleHandshake w fingerprint = after at hcases ⊢
  cases hcases with
  | stopped => exact .same h s w
  | anonymous => exact .closeNow s rfl rfl
  | refused => exact .closeNow s rfl rfl
  | @opened live identity c create =>
    have hq : Quiet s { s with controller := some c } := ⟨rfl, rfl, .inl ⟨rfl, rfl⟩, id⟩
    refine .opened (hq.trans (quiet_readNext _)) hc create (readNext_controller _)
      (readNext_routeLease _) fun hu => ?_
    exact Unused.readNext (hu.same rfl rfl rfl rfl)

/-- Everything an event of a session can do. -/
theorem step_acted (h : Handlers σ) {s : TlsTunnelSession}
    (hh : ∀ c, s.controller = some c → c.Holds) (w : Shared σ) (e : SessionEvent) :
    Acted h s w (s.step h w e).1 (s.step h w e).2 := by
  have hcases := step_cases h s w e
  generalize s.step h w e = after at hcases ⊢
  cases hcases with
  | busy => exact .same h s w
  | unawaited => exact .same h s w
  | handshake fingerprint idle none => exact handleHandshake_acted h none w fingerprint
  | handshakeTimeout => exact .closeNow s rfl rfl
  | read read => exact handleRead_acted h s w read
  | frame now => exact handleNextFrame_acted h hh w now
  | write failed idle writing =>
    refine .transport (transported_handleWrite s failed) rfl rfl fun hu => ?_
    exact absurd (writing.symm.trans hu.writeInProgress) (by decide)
  | sendIpv4 packet now => exact sendFromTun_acted h _ _ s w packet now
  | sendIpv6 packet now => exact sendFromTun_acted h _ _ s w packet now
  | idleTimeout => exact .closeNow s rfl rfl
  | stop => exact .closeNow s rfl rfl
  | close => exact closeStep_acted h s w

/-- The invariant of a session: what `stopped_` says about `close_now`, that a stopped session has
left its loop, the limits of the queue, and that nothing was sent before the hello. -/
structure Sound (s : TlsTunnelSession) : Prop where
  stage : s.stopped = false ↔ s.closing = .open
  busy : s.inbound ≠ [] → s.stopped = false
  frames : s.outboundQueue.maximumFrames = 256
  bytes : s.outboundQueue.maximumBytes = 2 ^ 20
  greeting : (∀ c, s.controller = some c → c.state = .awaitingHello) → s.Unused

theorem Quiet.stage {s s' : TlsTunnelSession} (h : Quiet s s')
    (hs : s.stopped = false ↔ s.closing = .open) : s'.stopped = false ↔ s'.closing = .open := by
  obtain ⟨h1, h2⟩ | ⟨-, h1, h2⟩ := h.closing
  · rwa [h1, h2]
  · simp [h1, h2]

/-- Events keep the invariant. -/
theorem Sound.acted {h : Handlers σ} {s s' : TlsTunnelSession} {w w' : Shared σ} (hs : s.Sound)
    (hh : ∀ c, s.controller = some c → c.Holds) (ha : Acted h s w s' w') : s'.Sound := by
  cases ha with
  | quiet same controller routeLease manager outside unused =>
    refine ⟨same.stage hs.stage, same.busy hs.busy, same.frames.trans hs.frames,
      same.bytes.trans hs.bytes, fun hg => unused (hs.greeting ?_)⟩
    rwa [controller] at hg
  | opened same none create controller routeLease unused =>
    refine ⟨same.stage hs.stage, same.busy hs.busy, same.frames.trans hs.frames,
      same.bytes.trans hs.bytes, fun _ => unused (hs.greeting ?_)⟩
    rw [none]
    simp
  | framed same old inbound controller manager announced =>
    rename_i c f rest now
    refine ⟨same.stage hs.stage, same.busy hs.busy, same.frames.trans hs.frames,
      same.bytes.trans hs.bytes, fun hg => ?_⟩
    -- a controller that has handled a frame no longer waits for the hello
    have hst := hg _ controller
    obtain ⟨r, c', m', heq, hhandled⟩ := SessionController.handle_handled (hh c old) w.manager f now
    rw [heq] at hst
    cases hhandled with
    | inert state =>
      rw [hst] at state
      exact absurd state (by decide)
    | failed => cases hst
    | granted => cases hst
    | packet state => exact absurd (state.symm.trans hst) (by decide)
    | pong state => exact absurd (state.symm.trans hst) (by decide)
    | closed => cases hst
  | sent same old controller manager routeLease outside unused =>
    rename_i c packet now
    refine ⟨same.stage hs.stage, same.busy hs.busy, same.frames.trans hs.frames,
      same.bytes.trans hs.bytes, fun hg => ?_⟩
    have hst := hg _ controller
    obtain ⟨r, c', m', heq, hsent⟩ :=
      SessionController.makeDataToClient_sent c w.manager packet now
    rw [heq] at hst unused
    cases hsent with
    | ignored =>
      refine unused rfl (hs.greeting fun c₀ hc₀ => ?_)
      rw [old] at hc₀
      cases hc₀
      exact hst
    | lost => cases hst
    | sent state => exact absurd (state.symm.trans hst) (by decide)
  | released closing old after manager outside =>
    rename_i c
    have hstop : s.stopped = true := by
      rw [← Bool.not_eq_false, hs.stage, closing]
      decide
    rw [after]
    refine ⟨by simp [hstop], hs.busy, hs.frames, hs.bytes, fun hg => ?_⟩
    have hst := hg _ rfl
    rw [SessionController.onTransportClosed_fst] at hst
    cases hst
  | cleared closing none manager outside =>
    have hstop : s.stopped = true := by
      rw [← Bool.not_eq_false, hs.stage, closing]
      decide
    refine ⟨by simp [hstop], hs.busy, hs.frames, hs.bytes, fun hg => ?_⟩
    have hu := hs.greeting hg
    exact ⟨hu.routeLease, hu.closeAfterWrite, hu.writeInProgress, rfl, rfl⟩
  | notified closing manager outside =>
    have hstop : s.stopped = true := by
      rw [← Bool.not_eq_false, hs.stage, closing]
      decide
    refine ⟨by simp [hstop], hs.busy, hs.frames, hs.bytes, fun hg => ?_⟩
    have hu := hs.greeting hg
    exact hu.same rfl rfl rfl rfl

/-- A frame for an idle transport goes straight to it. -/
theorem enqueueFrame_idle {s : TlsTunnelSession} {f : Frame} (hs : s.stopped = false)
    (hw : s.writeInProgress = false) (hq : s.outboundQueue.queue = [])
    (hn : s.outboundQueue.queuedBytes = 0) (hframes : 0 < s.outboundQueue.maximumFrames)
    (hf : WellFormed f) (hbytes : (wireBytes f).length ≤ s.outboundQueue.maximumBytes) :
    ∃ q, s.enqueueFrame f = (.ok true, { s with
      outboundQueue := q, writeInProgress := true, queued := s.queued ++ [f]
      written := s.written ++ [wireBytes f] }) := by
  have he := s.outboundQueue.tryEnqueue_enqueued f
  rcases heq : s.outboundQueue.tryEnqueue f with ⟨r, q⟩
  rw [heq] at he
  cases he with
  | malformed hno => exact absurd hf hno
  | refused _ full =>
    rw [hq, hn, List.length_nil] at full
    omega
  | accepted _ frames bytes =>
    simp only [enqueueFrame, hs, heq, hw, writeNext, OutboundFrameQueue.front, hq, List.nil_append]
    exact ⟨_, rfl⟩

/-- A new lease which the handler admits, and whose only frame the queue takes, leaves the session
open. -/
theorem conclude_granted {h : Handlers σ} {s : TlsTunnelSession} {c : SessionController}
    {w : Shared σ} {f : Frame} {l : Lease} (hu : s.Unused) (hs : s.stopped = false)
    (hframes : 0 < s.outboundQueue.maximumFrames) (hf : WellFormed f)
    (hbytes : (wireBytes f).length ≤ s.outboundQueue.maximumBytes)
    (hst : c.state = .established) (hl : c.lease = some l)
    (hok : (h.established l w.outside).1 = true) :
    let o := s.conclude h w c { outboundFrames := [f] }
    o.1.routeLease = some l ∧ o.1.stopped = false ∧ o.1.closeAfterWrite = false := by
  unfold conclude
  obtain ⟨hold, -⟩ | ⟨l', counted, metrics, -, -, hl', ha⟩ := announce_cases h s w c
  · exact absurd ⟨hu.routeLease, hst, by rw [hl]; rfl⟩ hold
  · have hll : l' = l := Option.some.inj (hl'.symm.trans hl)
    rw [hll] at ha
    rw [ha, hok]
    obtain ⟨q, he⟩ := enqueueFrame_idle (s := { s with
      routeLease := some l, establishedCounted := counted }) (f := f) hs hu.writeInProgress
      hu.queue hu.queuedBytes hframes hf hbytes
    simp only [applyResult, enqueueAll, he, Bool.false_eq_true, if_false]
    exact ⟨trivial, hs, hu.closeAfterWrite⟩

theorem continueReading_open {s : TlsTunnelSession} (hs : s.stopped = false)
    (hc : s.closeAfterWrite = false) :
    s.continueReading.routeLease = s.routeLease ∧ s.continueReading.stopped = false := by
  simp only [continueReading, hs, hc, Bool.or_self, Bool.false_eq_true, if_false]
  split
  · exact ⟨readNext_routeLease s, by rw [readNext_stopped, hs]⟩
  · exact ⟨rfl, hs⟩

/-- A session that is granted a lease which its handler admits stays open. -/
theorem handleNextFrame_granted {h : Handlers σ} {s : TlsTunnelSession} {c : SessionController}
    {w : Shared σ} {f : Frame} {rest : List Frame} {now : TimePoint} {r : SessionResult}
    {c' : SessionController} {m' : LeaseManager} {l : Lease} (hs : s.Sound) (hh : c.Holds)
    (hc : s.controller = some c) (hin : s.inbound = f :: rest) (hst : c.state = .awaitingHello)
    (heq : c.handle w.manager f now = (.ok r, c', m')) (hl : c'.lease = some l)
    (hok : (h.established l w.outside).1 = true) :
    (s.handleNextFrame h w now).1.routeLease = some l ∧
      (s.handleNextFrame h w now).1.stopped = false := by
  have hu : s.Unused := by
    apply hs.greeting
    intro c₀ hc₀
    rw [hc] at hc₀
    cases hc₀
    exact hst
  have hstop : s.stopped = false := hs.busy (by rw [hin]; exact List.cons_ne_nil f rest)
  obtain ⟨r₀, c₀, m₀, heq₀, hhandled⟩ := SessionController.handle_handled hh w.manager f now
  rw [heq] at heq₀
  cases heq₀
  cases hhandled with
  | inert state =>
    rw [hst] at state
    exact absurd state (by decide)
  | failed => cases hl
  | packet state => exact absurd (hst.symm.trans state) (by decide)
  | pong state => exact absurd (hst.symm.trans state) (by decide)
  | closed state => exact absurd (hst.symm.trans state) (by decide)
  | granted state sequence type decode acquire encode =>
    rename_i hello l₀ payload
    obtain ⟨-, hpayload⟩ := (encodeIpAssignment_ok_iff _ _).mp encode
    have hlen : payload.length = 52 := by
      rw [hpayload]
      exact length_assignmentBytes _
    have hf : WellFormed ⟨.ipAssign, 0, c.nextOutboundSequence, payload⟩ :=
      ⟨rfl, by rw [hlen]; decide⟩
    have hbytes : (wireBytes ⟨.ipAssign, 0, c.nextOutboundSequence, payload⟩).length ≤
        s.outboundQueue.maximumBytes := by
      rw [length_wireBytes, hlen, hs.bytes]
      decide
    have hframes : 0 < s.outboundQueue.maximumFrames := by
      rw [hs.frames]
      decide
    obtain ⟨hroute, hopen, hclose⟩ := conclude_granted (h := h) (w := { w with manager := m' })
      (s := { s with
        inbound := rest
        controller := some { c with
          lease := some l₀, negotiatedMtu := min hello.requestedMtu m'.mtu, state := .established
          nextExpectedSequence := c.nextExpectedSequence + 1
          nextOutboundSequence := c.nextOutboundSequence + 1 }
        handled := s.handled ++ [f] })
      (hu.same rfl rfl rfl rfl) hstop hframes hf hbytes rfl hl hok
    obtain ⟨hroute', hopen'⟩ := continueReading_open hopen hclose
    simp only [handleNextFrame, hin, handleFrame, hc, heq]
    exact ⟨hroute'.trans hroute, hopen'⟩

end TlsTunnelSession

end PersonalVpn.Server
