import PersonalVpn.Core.TunnelAgreement
import PersonalVpn.Server.PolicyErrors

namespace PersonalVpn.Core

open Protocol

namespace SessionController

variable {s s' : SessionController} {m m' : LeaseManager} {f : Frame} {now : TimePoint}
  {r : SessionResult}

/-- The packet of a data frame is passed on, and no other, unless the frame ends the session. -/
theorem Handled.packets (h : Handled s m f now r s' m') :
    r.packetsToTun = dataOf [f] ∨ (r.packetsToTun = [] ∧ r.closeTransport = true) := by
  cases h with
  | inert => exact .inr ⟨rfl, rfl⟩
  | failed => exact .inr ⟨rfl, rfl⟩
  | closed => exact .inr ⟨rfl, rfl⟩
  | granted _ _ type => exact .inl (dataOf_eq_nil (by simp [type])).symm
  | pong _ _ _ _ type => exact .inl (dataOf_eq_nil (by simp [type])).symm
  | packet _ _ _ _ accepts =>
    left
    have htype : f.type = .dataIpv4 ∨ f.type = .dataIpv6 := accepts.imp (·.1) (·.1)
    rw [dataOf_single htype]

/-- The answers to a frame carry no packets. -/
theorem Handled.dataOf_frames (h : Handled s m f now r s' m') : dataOf r.outboundFrames = [] := by
  cases h with
  | failed => exact dataOf_eq_nil (by simp)
  | granted => exact dataOf_eq_nil (by simp)
  | pong => exact dataOf_eq_nil (by simp)
  | inert => rfl
  | packet => rfl
  | closed => rfl

end SessionController

end PersonalVpn.Core

namespace PersonalVpn.Server

open PersonalVpn.Core Protocol

/-- The packet of a call of the packet sink. -/
def HandlerCall.packet : HandlerCall → Option Bytes
  | .packetSink packet => some packet
  | _ => none

/-- The packets that were given to the packet sink, in order. -/
def HandlerCall.sunk (log : List HandlerCall) : List Bytes := log.filterMap HandlerCall.packet

namespace HandlerCall

@[simp] theorem sunk_append (log calls : List HandlerCall) :
    sunk (log ++ calls) = sunk log ++ sunk calls := List.filterMap_append

theorem sunk_sinks (packets : List Bytes) : sunk (packets.map .packetSink) = packets := by
  induction packets with
  | nil => rfl
  | cons p ps ih => simpa [sunk, packet] using ih

theorem sunk_foldl (admits : Bool) (packets : List Bytes) (log : List HandlerCall) :
    sunk (packets.foldl (fun log p => (handlers admits).packetSink p log) log) =
      sunk log ++ packets := by
  induction packets generalizing log with
  | nil => simp
  | cons p ps ih =>
    rw [List.foldl_cons, ih]
    simp [handlers, sunk, packet]

end HandlerCall

open HandlerCall (sunk)

namespace TlsTunnelSession

variable {s s' : TlsTunnelSession} {log : List HandlerCall} {w : Shared (List HandlerCall)}

/-- What a session has received, handled and passed on fits together: the frames are those on the wire,
and the packets those of the frames. While it goes on reading nothing is missing. -/
structure Delivered (s : TlsTunnelSession) (log : List HandlerCall) : Prop where
  heard : s.handled ++ s.inbound <+: (frameParser.parse s.received).1
  passed : sunk log <+: dataOf s.handled
  whole : s.stopped = false → s.closeAfterWrite = false → sunk log = dataOf s.handled

theorem delivered_fresh (outboundQueue : OutboundFrameQueue) : Delivered { outboundQueue } [] where
  heard := List.nil_prefix
  passed := List.nil_prefix
  whole _ _ := rfl

theorem Delivered.handled_prefix (h : s.Delivered log) :
    s.handled <+: (frameParser.parse s.received).1 :=
  (List.prefix_append _ _).trans h.heard

theorem Delivered.transported (h : s.Delivered log) (ht : Transported s s') : s'.Delivered log := by
  obtain ⟨hs, -, hi⟩ | ⟨-, hstopped, -, hi⟩ := ht.closing
  · refine ⟨?_, ?_, ?_⟩
    · rw [ht.handled, hi, ht.received]
      exact h.heard
    · rw [ht.handled]
      exact h.passed
    · intro hs' hc'
      rw [ht.handled]
      refine h.whole (hs.symm.trans hs') ?_
      apply Bool.eq_false_of_not_eq_true
      intro hc
      exact absurd ((ht.flushing hc).symm.trans hc') (by decide)
  · refine ⟨?_, ?_, ?_⟩
    · rw [ht.handled, hi, List.append_nil, ht.received]
      exact h.handled_prefix
    · rw [ht.handled]
      exact h.passed
    · intro hno
      exact absurd (hstopped.symm.trans hno) (by decide)

theorem Delivered.withController (h : s.Delivered log) (controller : Option SessionController) :
    Delivered { s with controller } log :=
  ⟨h.heard, h.passed, h.whole⟩

theorem Delivered.readNext (h : s.Delivered log) : s.readNext.Delivered log := by
  unfold TlsTunnelSession.readNext
  split
  · exact h
  · exact ⟨h.heard, h.passed, h.whole⟩

theorem Delivered.continueReading (h : s.Delivered log) : s.continueReading.Delivered log := by
  unfold TlsTunnelSession.continueReading
  split
  · refine ⟨?_, h.passed, h.whole⟩
    rw [List.append_nil]
    exact h.handled_prefix
  · split
    · exact h.readNext
    · exact h

/-- A result that asks to close leaves a session that is closed, or closes behind its queue. -/
theorem applyResult_closes {σ : Type} (h : Handlers σ) (s : TlsTunnelSession) (w : Shared σ)
    {result : SessionResult} (hclose : result.closeTransport = true)
    (hs : (s.applyResult h w result).1.stopped = false) :
    (s.applyResult h w result).1.closeAfterWrite = true := by
  unfold applyResult at hs ⊢
  dsimp only at hs ⊢
  split at hs
  · exact absurd (hs.symm.trans (closeNow_stopped _)) (by decide)
  · exact absurd (hs.symm.trans (closeNow_stopped _)) (by decide)
  · rename_i heq
    simp only [hclose, if_true] at hs ⊢
    split at hs
    · exact absurd (hs.symm.trans (closeNow_stopped _)) (by decide)
    · rename_i hbusy
      rw [if_neg hbusy]

/-- Passing the packets of a frame on. The log is the one from before the frame. -/
theorem Delivered.applyResult {f : Frame} {rest : List Frame} {result : SessionResult}
    (admits : Bool) (heard : s.handled ++ f :: rest <+: (frameParser.parse s.received).1)
    (hwhole : sunk log = dataOf s.handled) (hlog : sunk w.outside = sunk log)
    (ht : s'.handled = s.handled ++ [f] ∧ s'.inbound = rest ∧ s'.received = s.received)
    (hpackets : result.packetsToTun = dataOf [f] ∨
      (result.packetsToTun = [] ∧ result.closeTransport = true)) :
    Delivered (s'.applyResult (HandlerCall.handlers admits) w result).1
      (s'.applyResult (HandlerCall.handlers admits) w result).2.outside := by
  obtain ⟨hhandled, hinbound, hreceived⟩ := ht
  have hmoved := transported_applyResult (HandlerCall.handlers admits) s' w result
  have hsunk : sunk (s'.applyResult (HandlerCall.handlers admits) w result).2.outside =
      dataOf s.handled ++ result.packetsToTun := by
    rw [(applyResult_shared (HandlerCall.handlers admits) s' w result).2, HandlerCall.sunk_foldl,
      hlog, hwhole]
  have hframes : (s'.applyResult (HandlerCall.handlers admits) w result).1.handled =
      s.handled ++ [f] := hmoved.handled.trans hhandled
  refine ⟨?_, ?_, ?_⟩
  · rw [hframes, hmoved.received, hreceived]
    have hpre : (s.handled ++ [f]) ++ rest <+: (frameParser.parse s.received).1 := by
      rwa [List.append_assoc, List.singleton_append]
    obtain ⟨-, -, hi⟩ | ⟨-, -, -, hi⟩ := hmoved.closing
    · rw [hi, hinbound]
      exact hpre
    · rw [hi, List.append_nil]
      exact (List.prefix_append _ _).trans hpre
  · rw [hsunk, hframes, dataOf_append]
    obtain hsame | ⟨hnone, -⟩ := hpackets
    · rw [hsame]
    · rw [hnone, List.append_nil]
      exact List.prefix_append _ _
  · intro hs hc
    rw [hsunk, hframes, dataOf_append]
    obtain hsame | ⟨-, hclose⟩ := hpackets
    · rw [hsame]
    · exact absurd ((applyResult_closes _ s' w hclose hs).symm.trans hc) (by decide)

/-- A frame that was handled while the session closed. -/
theorem Delivered.handledLast {f : Frame} {rest : List Frame}
    (heard : s.handled ++ f :: rest <+: (frameParser.parse s.received).1)
    (hpassed : sunk log <+: dataOf s.handled) (hs : s'.stopped = false)
    (ht : s'.handled = s.handled ++ [f] ∧ s'.received = s.received) : s'.closeNow.Delivered log := by
  obtain ⟨hhandled, hreceived⟩ := ht
  have hclosed : s'.closeNow = { s' with stopped := true, closing := .releasing, inbound := [] } := by
    simp [closeNow, hs]
  rw [hclosed]
  refine ⟨?_, ?_, fun hno => absurd hno (by simp)⟩
  · rw [List.append_nil]
    dsimp only
    rw [hhandled, hreceived]
    have hpre := List.prefix_append (s.handled ++ [f]) rest
    rw [List.append_assoc, List.singleton_append] at hpre
    exact hpre.trans heard
  · dsimp only
    rw [hhandled, dataOf_append]
    exact hpassed.trans (List.prefix_append _ _)

/-- The next frame of the loop of `handle_read`. -/
theorem Delivered.handleNextFrame (h : s.Delivered w.outside) (hf : s.Flushes) (hr : s.Reads)
    (hs : s.stopped = false) (hholds : ∀ c, s.controller = some c → c.Holds) (admits : Bool)
    (now : TimePoint) :
    Delivered (s.handleNextFrame (HandlerCall.handlers admits) w now).1
      (s.handleNextFrame (HandlerCall.handlers admits) w now).2.outside := by
  unfold TlsTunnelSession.handleNextFrame
  cases hi : s.inbound with
  | nil => exact h
  | cons f rest =>
    obtain ⟨-, hopen⟩ := hf.not_reading hr hs (by simp [hi])
    have hwhole := h.whole hs hopen
    have heard := h.heard
    rw [hi] at heard
    dsimp only
    apply Delivered.continueReading
    have hcases := handleFrame_cases (HandlerCall.handlers admits) { s with inbound := rest } w f now
    generalize handleFrame (HandlerCall.handlers admits) { s with inbound := rest } w f now = after
      at hcases ⊢
    cases hcases with
    | unopened hctl => exact absurd ((hr hs hopen).2.2 hctl).2 (by simp [hi])
    | threw => exact Delivered.handledLast heard h.passed hs ⟨rfl, rfl⟩
    | @handled c c' manager result old handle =>
      obtain ⟨result', s₁, m₁, heq, hhandled⟩ :=
        SessionController.handle_handled (hholds c old) w.manager f now
      obtain ⟨hresult, -⟩ := Prod.mk.inj (heq.symm.trans handle)
      have hpackets := hhandled.packets
      rw [Except.ok.inj hresult] at hpackets
      have hcases := conclude_cases (HandlerCall.handlers admits)
        { s with inbound := rest, controller := some c', handled := s.handled ++ [f] }
        { w with manager } c' result
      generalize conclude (HandlerCall.handlers admits)
        { s with inbound := rest, controller := some c', handled := s.handled ++ [f] }
        { w with manager } c' result = after at hcases ⊢
      have hannounced (l : Lease) : sunk (((HandlerCall.handlers admits).established l w.outside).2) =
          sunk w.outside := by
        simp [HandlerCall.handlers, sunk, HandlerCall.packet]
      cases hcases with
      | known =>
        exact Delivered.applyResult admits heard hwhole rfl ⟨rfl, rfl, rfl⟩ hpackets
      | @admitted l =>
        exact Delivered.applyResult admits heard hwhole (hannounced l) ⟨rfl, rfl, rfl⟩ hpackets
      | @rejected l =>
        refine Delivered.handledLast heard ?_ hs ⟨rfl, rfl⟩
        dsimp only
        rw [hannounced l]
        exact h.passed

theorem Delivered.handleRead (h : s.Delivered log) (hf : s.Flushes) (hr : s.Reads)
    (hs : s.stopped = false) (hi : s.inbound = []) (hread : s.reading = true)
    (read : Option Bytes) : (s.handleRead read).Delivered log := by
  have hopen : s.closeAfterWrite = false := by
    cases hc : s.closeAfterWrite with
    | false => rfl
    | true => exact absurd (hread.symm.trans (hf hs hc).2.1) (by decide)
  have hidle (reading : Bool) : Delivered { s with reading } log := ⟨h.heard, h.passed, h.whole⟩
  have hcases := handleRead_cases s read
  generalize TlsTunnelSession.handleRead s read = s' at hcases ⊢
  cases hcases with
  | stopped => exact hidle false
  | ended => exact (hidle false).transported (transported_closeNow _)
  | @malformed live data e decoder push =>
    refine Delivered.transported (s := { s with
      reading := false, received := s.received ++ data, decoder }) ?_ (transported_closeNow _)
    exact ⟨h.heard.trans (StreamParser.parse_prefix _ _), h.passed, h.whole⟩
  | @frames live data frames decoder push =>
    have hdecoded := (hr hs hopen).1
    rw [hi, List.append_nil] at hdecoded
    apply Delivered.continueReading
    refine ⟨?_, h.passed, h.whole⟩
    dsimp only
    rw [(hdecoded.push push).2]

theorem Delivered.sendFromTun (h : s.Delivered w.outside) (overflow sent : ServerMetrics → ServerMetrics)
    (packet : Bytes) (now : TimePoint) :
    Delivered (s.sendFromTun overflow sent w packet now).1
      (s.sendFromTun overflow sent w packet now).2.outside := by
  have hcases := sendFromTun_cases overflow sent s w packet now
  generalize TlsTunnelSession.sendFromTun overflow sent s w packet now = after at hcases ⊢
  have hqueue (c' : SessionController) (f : Frame) :
      Delivered ({ s with controller := some c' }.enqueueFrame f).2 w.outside :=
    (h.withController (some c')).transported (transported_enqueueFrame _ f)
  cases hcases with
  | ignored => exact h
  | dropped => exact h.withController _
  | ended => exact (h.withController _).transported (transported_closeNow _)
  | @queued c c' manager f s₁ live old make enqueue =>
    have hqueued := hqueue c' f
    rwa [enqueue] at hqueued
  | @overflowed c c' manager f s₁ live old make enqueue =>
    have hqueued := hqueue c' f
    rw [enqueue] at hqueued
    exact hqueued.transported (transported_closeNow _)
  | @threw c c' manager f s₁ e live old make enqueue =>
    have hqueued := hqueue c' f
    rwa [enqueue] at hqueued

/-- One event of an open session. -/
theorem Delivered.step (h : s.Delivered w.outside) (hf : s.Flushes) (hr : s.Reads)
    (hs : s.stopped = false) (hholds : ∀ c, s.controller = some c → c.Holds) (admits : Bool)
    {e : SessionEvent} (hclose : e ≠ .close) :
    Delivered (s.step (HandlerCall.handlers admits) w e).1
      (s.step (HandlerCall.handlers admits) w e).2.outside := by
  have hclosed : s.closeNow.Delivered w.outside := h.transported (transported_closeNow s)
  have hcases := step_cases (HandlerCall.handlers admits) s w e
  generalize TlsTunnelSession.step (HandlerCall.handlers admits) s w e = after at hcases ⊢
  cases hcases with
  | busy => exact h
  | unawaited => exact h
  | handshake fingerprint =>
    have hcases := handleHandshake_cases s w fingerprint
    generalize handleHandshake s w fingerprint = after at hcases ⊢
    cases hcases with
    | stopped => exact h
    | anonymous => exact hclosed
    | refused => exact hclosed
    | opened => exact (h.withController _).readNext
  | handshakeTimeout => exact hclosed
  | read read idle reading => exact h.handleRead hf hr hs idle reading read
  | frame now => exact h.handleNextFrame hf hr hs hholds admits now
  | write failed => exact h.transported (transported_handleWrite s failed)
  | sendIpv4 packet now => exact h.sendFromTun _ _ packet now
  | sendIpv6 packet now => exact h.sendFromTun _ _ packet now
  | idleTimeout => exact hclosed
  | stop => exact hclosed
  | close => exact absurd rfl hclose

theorem Delivered.closeStep (h : s.Delivered w.outside) (admits : Bool) :
    Delivered (s.closeStep (HandlerCall.handlers admits) w).1
      (s.closeStep (HandlerCall.handlers admits) w).2.outside := by
  have hcases := closeStep_cases (HandlerCall.handlers admits) s w
  generalize TlsTunnelSession.closeStep (HandlerCall.handlers admits) s w = after at hcases ⊢
  cases hcases with
  | cleared => exact ⟨h.heard, h.passed, h.whole⟩
  | released => exact ⟨h.heard, h.passed, h.whole⟩
  | notified =>
    have hlog (route : Option Lease) :
        sunk ((HandlerCall.handlers admits).closed route w.outside) = sunk w.outside := by
      simp [HandlerCall.handlers, sunk, HandlerCall.packet]
    exact ⟨h.heard, by rw [hlog]; exact h.passed, by rw [hlog]; exact h.whole⟩
  | idle => exact h

end TlsTunnelSession

namespace TlsTunnelSession

variable {σ : Type} {s : TlsTunnelSession}

theorem continueReading_received (s : TlsTunnelSession) :
    s.continueReading.received = s.received := by
  unfold continueReading TlsTunnelSession.readNext
  split_ifs <;> rfl

theorem handleFrame_received (h : Handlers σ) (s : TlsTunnelSession) (w : Shared σ) (f : Frame)
    (now : TimePoint) : (s.handleFrame h w f now).1.received = s.received := by
  have hcases := handleFrame_cases h s w f now
  generalize s.handleFrame h w f now = after at hcases ⊢
  cases hcases with
  | unopened => rfl
  | threw => exact (transported_closeNow _).received
  | @handled c c' manager r =>
    have hcases := conclude_cases h { s with controller := some c', handled := s.handled ++ [f] }
      { w with manager } c' r
    generalize conclude h { s with controller := some c', handled := s.handled ++ [f] }
      { w with manager } c' r = after at hcases ⊢
    cases hcases with
    | known => exact (transported_applyResult _ _ _ _).received
    | admitted => exact (transported_applyResult _ _ _ _).received
    | rejected => exact (transported_closeNow _).received

theorem sendFromTun_received (overflow sent : ServerMetrics → ServerMetrics) (s : TlsTunnelSession)
    (w : Shared σ) (packet : Bytes) (now : TimePoint) :
    (s.sendFromTun overflow sent w packet now).1.received = s.received := by
  have hcases := sendFromTun_cases overflow sent s w packet now
  generalize TlsTunnelSession.sendFromTun overflow sent s w packet now = after at hcases ⊢
  have hqueue (c' : SessionController) (f : Frame) :
      ({ s with controller := some c' }.enqueueFrame f).2.received = s.received :=
    (transported_enqueueFrame _ f).received
  cases hcases with
  | ignored => rfl
  | dropped => rfl
  | ended => exact (transported_closeNow _).received
  | @queued c c' manager f s₁ live old make enqueue =>
    have hqueued := hqueue c' f
    rwa [enqueue] at hqueued
  | @overflowed c c' manager f s₁ live old make enqueue =>
    have hqueued := hqueue c' f
    rw [enqueue] at hqueued
    exact (transported_closeNow _).received.trans hqueued
  | @threw c c' manager f s₁ e live old make enqueue =>
    have hqueued := hqueue c' f
    rwa [enqueue] at hqueued

/-- Bytes are received in a completed read, and only those of that read. -/
theorem step_received (h : Handlers σ) (s : TlsTunnelSession) (w : Shared σ) (e : SessionEvent) :
    (s.step h w e).1.received = s.received ∨
      ∃ data, e = .read (some data) ∧ (s.step h w e).1.received = s.received ++ data := by
  have hcases := step_cases h s w e
  generalize TlsTunnelSession.step h s w e = after at hcases ⊢
  cases hcases with
  | busy => exact .inl rfl
  | unawaited => exact .inl rfl
  | handshake fingerprint =>
    left
    have hcases := handleHandshake_cases s w fingerprint
    generalize handleHandshake s w fingerprint = after at hcases ⊢
    cases hcases with
    | stopped => rfl
    | anonymous => exact (transported_closeNow s).received
    | refused => exact (transported_closeNow s).received
    | opened =>
      unfold TlsTunnelSession.readNext
      split <;> rfl
  | handshakeTimeout => exact .inl (transported_closeNow s).received
  | read read =>
    unfold TlsTunnelSession.handleRead
    dsimp only
    split
    · exact .inl rfl
    cases read with
    | none => exact .inl (transported_closeNow _).received
    | some data =>
      refine .inr ⟨data, rfl, ?_⟩
      dsimp only
      split
      · exact (transported_closeNow _).received
      · exact continueReading_received _
  | frame now =>
    left
    unfold TlsTunnelSession.handleNextFrame
    split
    · rfl
    · exact (continueReading_received _).trans (handleFrame_received _ _ _ _ _)
  | write failed => exact .inl (transported_handleWrite s failed).received
  | sendIpv4 packet now => exact .inl (sendFromTun_received _ _ s w packet now)
  | sendIpv6 packet now => exact .inl (sendFromTun_received _ _ s w packet now)
  | idleTimeout => exact .inl (transported_closeNow s).received
  | stop => exact .inl (transported_closeNow s).received
  | close =>
    left
    unfold TlsTunnelSession.closeStep
    split
    · dsimp only
      split <;> rfl
    · rfl
    · rfl

theorem closeStep_received (h : Handlers σ) (s : TlsTunnelSession) (w : Shared σ) :
    (s.closeStep h w).1.received = s.received := by
  obtain hsame | ⟨data, hno, -⟩ := step_received h s w .close
  · exact hsame
  · cases hno

end TlsTunnelSession

/-- The packets from the TUN device that an event offers to the session. -/
def SessionEvent.offered : SessionEvent → List Bytes
  | .sendIpv4 packet _ => [packet]
  | .sendIpv6 packet _ => [packet]
  | _ => []

namespace TlsTunnelSession

variable {σ : Type}

/-- The packets that the controller frames in an event are the ones it is offered. -/
theorem dataOf_framesMade {s : TlsTunnelSession} (hholds : ∀ c, s.controller = some c → c.Holds)
    (w : Shared σ) (e : SessionEvent) : (dataOf (s.framesMade w e)).Sublist e.offered := by
  cases hctl : s.controller with
  | none =>
    rw [framesMade_none (.inl hctl)]
    exact List.nil_sublist _
  | some c =>
    cases hcall : s.call w e with
    | none =>
      rw [framesMade_none (.inr hcall)]
      exact List.nil_sublist _
    | some made =>
      rw [framesMade_call hctl hcall]
      have hsent (packet : Bytes) (now : TimePoint) :
          (dataOf (SessionEntry.frames ⟨c.state, .makeDataToClient w.manager packet now,
            (SessionHistory.answer c (.makeDataToClient w.manager packet now)).1⟩)).Sublist
            [packet] := by
        obtain ⟨r, c', m', heq, hs⟩ :=
          SessionController.makeDataToClient_sent c w.manager packet now
        simp only [SessionHistory.answer, heq, SessionEntry.frames]
        cases hs with
        | ignored => exact List.nil_sublist _
        | lost => exact List.nil_sublist _
        | @sent l l' m₁ type state lease renew delivers =>
          have htype : type = .dataIpv4 ∨ type = .dataIpv6 := delivers.imp (·.1) (·.1)
          rw [Option.toList_some, dataOf_single htype]
      unfold call at hcall
      split at hcall
      · rename_i now
        cases hi : s.inbound with
        | nil =>
          rw [hi] at hcall
          cases hcall
        | cons f rest =>
          rw [hi] at hcall
          obtain rfl := Option.some.inj hcall
          obtain ⟨r, c', m', heq, hh⟩ :=
            SessionController.handle_handled (hholds c hctl) w.manager f now
          simp only [SessionHistory.answer, heq, SessionEntry.frames, hh.dataOf_frames]
          exact List.nil_sublist _
      · split at hcall
        · obtain rfl := Option.some.inj hcall
          exact hsent _ _
        · cases hcall
      · split at hcall
        · obtain rfl := Option.some.inj hcall
          exact hsent _ _
        · cases hcall
      · split at hcall
        · obtain rfl := Option.some.inj hcall
          exact List.nil_sublist _
        · cases hcall
      · cases hcall

end TlsTunnelSession

namespace SessionRun

variable {r : SessionRun} {x : SessionMoment}

/-- The invariant of a run, with what the session has passed on. -/
structure Delivering (r : SessionRun) : Prop extends r.Reading where
  delivered : r.session.Delivered r.log

theorem delivering_start (maximumFrames maximumBytes : Nat) :
    (start maximumFrames maximumBytes).Delivering where
  toReading := reading_start maximumFrames maximumBytes
  delivered := TlsTunnelSession.delivered_fresh _

theorem Delivering.step (h : r.Delivering) (x : SessionMoment) : (r.step x).Delivering := by
  refine ⟨h.toReading.step x, ?_⟩
  obtain hopen | hended := h.phase
  · have hhandle : (r.handle x).1.Delivered (r.handle x).2.outside := by
      by_cases hclose : x.event = .close
      · have heq : r.handle x = (r.session, r.shared x) := by simp [handle, hclose]
        rw [heq]
        exact h.delivered
      · rw [h.handle_eq hopen hclose]
        exact h.delivered.step h.flushes h.reads hopen.stopped h.holds x.admits hclose
    exact (TlsTunnelSession.Delivered.closeStep (w := { (r.handle x).2 with manager := x.releasing })
      hhandle x.admits).closeStep x.admits
  · obtain ⟨reading, heq⟩ := hended.step_eq (x := x)
    rw [heq]
    exact ⟨h.delivered.heard, h.delivered.passed, h.delivered.whole⟩

/-- Bytes are received in a completed read, and only those of that read. -/
theorem step_received (r : SessionRun) (x : SessionMoment) :
    (r.step x).session.received = r.session.received ∨
      ∃ data, x.event = .read (some data) ∧
        (r.step x).session.received = r.session.received ++ data := by
  have hclose : (r.step x).session.received = (r.handle x).1.received :=
    (TlsTunnelSession.closeStep_received _ _ _).trans (TlsTunnelSession.closeStep_received _ _ _)
  rw [hclose]
  unfold handle
  split
  · left
    split
    · exact (TlsTunnelSession.transported_handleWrite _ _).received
    · rfl
  · exact .inl rfl
  · exact TlsTunnelSession.step_received _ _ _ _

end SessionRun

end PersonalVpn.Server
