import PersonalVpn.Core.FrameWriter
import PersonalVpn.Core.SessionHistory
import PersonalVpn.Server.SessionReads

namespace PersonalVpn.Core

open Protocol

/-- Every frame of a session controller can be encoded. -/
theorem SessionHistory.answer_wellFormed {s : SessionController} (hs : s.Holds)
    (call : SessionCall) :
    ∀ f ∈ SessionEntry.frames ⟨s.state, call, (answer s call).1⟩, WellFormed f := by
  have hmtu (mtu : UInt16) : mtu.toNat ≤ kMaxPayloadSize := Nat.le_of_lt_succ mtu.toNat_lt
  intro f hf
  cases call with
  | handle m frame now =>
    obtain ⟨r, s', m', heq, hh⟩ := SessionController.handle_handled hs m frame now
    simp only [answer, heq, SessionEntry.frames] at hf
    cases hh with
    | inert => simp at hf
    | failed state encode =>
      obtain ⟨hlen, hpayload⟩ := (encodeErrorMessage_ok_iff _ _).mp encode
      rw [List.mem_singleton.mp hf, hpayload]
      refine ⟨rfl, ?_⟩
      simp only [List.length_append, BigEndian.length_bytes, kMaximumErrorMessageSize,
        kMaxPayloadSize] at hlen ⊢
      omega
    | granted state sequence type decode acquire encode =>
      obtain ⟨-, hpayload⟩ := (encodeIpAssignment_ok_iff _ _).mp encode
      rw [List.mem_singleton.mp hf, hpayload]
      exact ⟨rfl, by simp [length_assignmentBytes, kMaxPayloadSize]⟩
    | packet => simp at hf
    | pong state sequence lease renew type size =>
      rw [List.mem_singleton.mp hf]
      exact ⟨rfl, by simp [size, kMaxPayloadSize]⟩
    | closed => simp at hf
  | makeDataToClient m packet now =>
    obtain ⟨r, s', m', heq, hh⟩ := SessionController.makeDataToClient_sent s m packet now
    simp only [answer, heq, SessionEntry.frames] at hf
    cases hh with
    | ignored => simp at hf
    | lost => simp at hf
    | sent state lease renew delivers =>
      have hlen : packet.length ≤ s.negotiatedMtu.toNat := by
        obtain ⟨-, -, hlen, -⟩ | ⟨-, -, hlen, -⟩ := delivers
        · exact hlen
        · exact hlen
      rw [List.mem_singleton.mp hf]
      exact ⟨rfl, hlen.trans (hmtu _)⟩
  | onTransportClosed m => simp [answer, SessionEntry.frames] at hf

end PersonalVpn.Core

namespace PersonalVpn.Server

open PersonalVpn.Core Protocol Sequenced

namespace TlsTunnelSession

variable {σ : Type} {s s' : TlsTunnelSession} {f : Frame}

def writer (s : TlsTunnelSession) : FifoWriter Bytes :=
  ⟨s.outboundQueue.queue, s.writeInProgress, s.written⟩

/-- A write is outstanding exactly while something is queued. -/
def Busy (s : TlsTunnelSession) : Prop := s.writeInProgress = true ↔ s.outboundQueue.queue ≠ []

/-- `s'` is `s` after a handler, in which a write may have completed and frames may have been made. -/
def Wrote (s : TlsTunnelSession) (completes : Bool) (made : List Frame) (s' : TlsTunnelSession) :
    Prop := s.writer.Wrote completes (made.map wireBytes) s'.writer s'.stopped

/-- Nothing is written on closing. -/
theorem wrote_closeNow {completes : Bool} {made : List Frame} (hw : s'.written = s.written) :
    s.Wrote completes made s'.closeNow := by
  have hclose : s'.closeNow.written = s'.written := by
    unfold closeNow
    split <;> rfl
  unfold Wrote
  rw [closeNow_stopped]
  exact .close (hclose.trans hw)

/-- Nothing the writer knows of has changed. -/
theorem wrote_same (hs : s'.stopped = false) (hw : s'.writer = s.writer) : s.Wrote false [] s' := by
  rw [Wrote, hs, hw]
  exact .keep

/-- What an open session does with a frame: the queue takes it, or it is full. -/
theorem enqueueFrame_cases (hs : s.stopped = false) (hb : s.Busy) (hf : WellFormed f) :
    s.enqueueFrame f = (.ok false, { s with refused := s.refused ++ [f] }) ∨
      ∃ s', s.enqueueFrame f = (.ok true, s') ∧ s'.stopped = false ∧
        s'.closeAfterWrite = s.closeAfterWrite ∧ s'.writer = s.writer.put (wireBytes f) := by
  have he := s.outboundQueue.tryEnqueue_enqueued f
  rcases heq : s.outboundQueue.tryEnqueue f with ⟨r, q⟩
  rw [heq] at he
  unfold enqueueFrame
  rw [if_neg (by simp [hs]), heq]
  cases he with
  | malformed hno => exact absurd hf hno
  | refused => exact .inl rfl
  | accepted _ frames bytes =>
    refine .inr ⟨_, rfl, ?_⟩
    dsimp only
    by_cases hw : s.writeInProgress = true
    · rw [if_pos hw]
      exact ⟨hs, rfl, by simp [writer, FifoWriter.put, hw]⟩
    · have hnil : s.outboundQueue.queue = [] := by
        by_contra hne
        exact hw (hb.mpr hne)
      rw [if_neg hw]
      simp [writeNext, hs, OutboundFrameQueue.front, hnil, writer, FifoWriter.put, hw]

/-- Applying a result queues its frame or closes the session. -/
theorem applyResult_wrote (h : Handlers σ) (w : Shared σ) {r : SessionResult}
    (hs : s.stopped = false) (hb : s.Busy)
    (hframes : r.outboundFrames = [] ∨ ∃ f, r.outboundFrames = [f] ∧ WellFormed f) :
    s.Wrote false r.outboundFrames (s.applyResult h w r).1 := by
  unfold applyResult
  dsimp only
  obtain hnone | ⟨f, hone, hf⟩ := hframes
  · rw [hnone]
    simp only [enqueueAll]
    split
    · dsimp only
      split
      · exact wrote_closeNow rfl
      · exact wrote_same hs rfl
    · exact wrote_same hs rfl
  · rw [hone]
    obtain hfull | ⟨s', htaken, hs', -, hput⟩ := enqueueFrame_cases hs hb hf
    · simp only [enqueueAll, hfull]
      exact wrote_closeNow rfl
    · have hput' : s.Wrote false [f] s' := by
        rw [Wrote, hs', hput]
        exact .put _
      have hbusy : s'.writeInProgress = true := congrArg FifoWriter.busy hput
      simp only [enqueueAll, htaken]
      split
      · dsimp only
        rw [if_neg (by simp [hbusy])]
        exact hput'
      · exact hput'

/-- The call that an event makes on the controller, if there is one. -/
def call (s : TlsTunnelSession) (w : Shared σ) : SessionEvent → Option SessionCall
  | .frame now => s.inbound.head?.map fun frame => .handle w.manager frame now
  | .sendIpv4 packet now | .sendIpv6 packet now =>
    if s.inbound = [] ∧ s.stopped = false then some (.makeDataToClient w.manager packet now) else none
  | .close => if s.closing = .releasing then some (.onTransportClosed w.manager) else none
  | _ => none

/-- The frames that the controller makes in an event. -/
def framesMade (s : TlsTunnelSession) (w : Shared σ) (e : SessionEvent) : List Frame :=
  match s.controller, s.call w e with
  | some c, some call => SessionEntry.frames ⟨c.state, call, (SessionHistory.answer c call).1⟩
  | _, _ => []

theorem framesMade_call {c : SessionController} {call : SessionCall} {w : Shared σ}
    {e : SessionEvent} (hctl : s.controller = some c) (hcall : s.call w e = some call) :
    s.framesMade w e = SessionEntry.frames ⟨c.state, call, (SessionHistory.answer c call).1⟩ := by
  rw [framesMade, hctl, hcall]

/-- While the loop of `handle_read` has frames left no other call is made. -/
theorem call_busy (w : Shared σ) {e : SessionEvent} (inbound : s.inbound ≠ [])
    (notFrame : ∀ now, e ≠ .frame now) (notClose : e ≠ .close) : s.call w e = none := by
  cases e with
  | frame now => exact absurd rfl (notFrame now)
  | close => exact absurd rfl notClose
  | sendIpv4 packet now => exact if_neg fun hno => inbound hno.1
  | sendIpv6 packet now => exact if_neg fun hno => inbound hno.1
  | _ => rfl

theorem call_unawaited (w : Shared σ) {e : SessionEvent} (notFrame : ∀ now, e ≠ .frame now)
    (notClose : e ≠ .close) (notIpv4 : ∀ packet now, e ≠ .sendIpv4 packet now)
    (notIpv6 : ∀ packet now, e ≠ .sendIpv6 packet now) : s.call w e = none := by
  cases e with
  | frame now => exact absurd rfl (notFrame now)
  | close => exact absurd rfl notClose
  | sendIpv4 packet now => exact absurd rfl (notIpv4 packet now)
  | sendIpv6 packet now => exact absurd rfl (notIpv6 packet now)
  | _ => rfl

theorem framesMade_none {w : Shared σ} {e : SessionEvent}
    (h : s.controller = none ∨ s.call w e = none) : s.framesMade w e = [] := by
  unfold framesMade
  split
  · rename_i hctl hcall
    obtain hno | hno := h
    · cases hctl.symm.trans hno
    · cases hcall.symm.trans hno
  · rfl

theorem conclude_wrote (h : Handlers σ) (w : Shared σ) (c : SessionController)
    {r : SessionResult} (hs : s.stopped = false) (hb : s.Busy)
    (hframes : r.outboundFrames = [] ∨ ∃ f, r.outboundFrames = [f] ∧ WellFormed f) :
    s.Wrote false r.outboundFrames (s.conclude h w c r).1 := by
  have hcases := conclude_cases h s w c r
  generalize s.conclude h w c r = after at hcases ⊢
  cases hcases with
  | known => exact applyResult_wrote h w hs hb hframes
  | @admitted l counted metrics =>
    exact applyResult_wrote (s := { s with routeLease := some l, establishedCounted := counted })
      h _ hs hb hframes
  | rejected => exact wrote_closeNow rfl

theorem writer_continueReading (s : TlsTunnelSession) : s.continueReading.writer = s.writer := by
  unfold continueReading readNext
  split_ifs <;> rfl

theorem Wrote.continueReading {completes : Bool} {made : List Frame}
    (h : s.Wrote completes made s') : s.Wrote completes made s'.continueReading := by
  rwa [Wrote, writer_continueReading, (continueReading_flags s').1]

/-- The frames of one call of a controller: none, or one that can be encoded. -/
theorem frames_single {c : SessionController} (hc : c.Holds) (call : SessionCall) :
    let made := SessionEntry.frames ⟨c.state, call, (SessionHistory.answer c call).1⟩
    made = [] ∨ ∃ f, made = [f] ∧ WellFormed f := by
  intro made
  have hformed := SessionHistory.answer_wellFormed hc call
  obtain ⟨hnone, -⟩ | ⟨f, hone, -⟩ := (SessionHistory.answer_extends hc call).sends
  · exact .inl hnone
  · rw [hone] at hformed
    exact .inr ⟨f, hone, hformed f (List.mem_singleton.mpr rfl)⟩

theorem handleNextFrame_wrote (h : Handlers σ) (w : Shared σ) (now : TimePoint)
    (hs : s.stopped = false) (hb : s.Busy) (hc : ∀ c, s.controller = some c → c.Holds) :
    s.Wrote false (s.framesMade w (.frame now)) (s.handleNextFrame h w now).1 := by
  unfold handleNextFrame
  cases hi : s.inbound with
  | nil =>
    rw [framesMade_none (.inr (by simp [call, hi]))]
    exact wrote_same hs rfl
  | cons frame inbound =>
    apply Wrote.continueReading
    unfold handleFrame
    cases hctl : s.controller with
    | none =>
      rw [framesMade_none (.inl hctl)]
      exact wrote_same hs rfl
    | some c =>
      obtain ⟨r, c', m', heq, -⟩ := SessionController.handle_handled (hc c hctl) w.manager frame now
      have hframes := frames_single (hc c hctl) (.handle w.manager frame now)
      have hcall : s.call w (.frame now) = some (.handle w.manager frame now) := by simp [call, hi]
      rw [framesMade_call hctl hcall]
      simp only [SessionHistory.answer, heq, SessionEntry.frames] at hframes ⊢
      exact conclude_wrote (s := { s with
        inbound, controller := some c', handled := s.handled ++ [frame] }) h _ c' hs hb hframes

/-- A packet from the TUN device is queued, or ignored, or closes the session. -/
theorem sendFromTun_wrote (overflow sent : ServerMetrics → ServerMetrics) (w : Shared σ)
    (packet : Bytes) (now : TimePoint) (hi : s.inbound = []) (hs : s.stopped = false) (hb : s.Busy)
    (hc : ∀ c, s.controller = some c → c.Holds) :
    s.Wrote false (s.framesMade w (.sendIpv4 packet now))
      (s.sendFromTun overflow sent w packet now).1 := by
  have hcall : s.call w (.sendIpv4 packet now) = some (.makeDataToClient w.manager packet now) := by
    simp [call, hi, hs]
  have hcases := sendFromTun_cases overflow sent s w packet now
  generalize s.sendFromTun overflow sent w packet now = after at hcases ⊢
  have hmade {c : SessionController} (old : s.controller = some c) :
      s.framesMade w (.sendIpv4 packet now) = (c.makeDataToClient w.manager packet now).1.toList := by
    rw [framesMade_call old hcall]
    rfl
  have hput {c c' : SessionController} {manager : LeaseManager} {f : Frame}
      (old : s.controller = some c)
      (make : c.makeDataToClient w.manager packet now = (some f, c', manager)) :
      enqueueFrame { s with controller := some c' } f =
          (.ok false, { s with controller := some c', refused := s.refused ++ [f] }) ∨
        ∃ s', enqueueFrame { s with controller := some c' } f = (.ok true, s') ∧
          s'.stopped = false ∧ s'.closeAfterWrite = s.closeAfterWrite ∧
          s'.writer = s.writer.put (wireBytes f) := by
    have hframes := frames_single (hc c old) (.makeDataToClient w.manager packet now)
    have hf : WellFormed f := by
      simpa [SessionHistory.answer, make, SessionEntry.frames] using hframes
    exact enqueueFrame_cases (s := { s with controller := some c' }) hs hb hf
  cases hcases with
  | ignored absent =>
    rw [framesMade_none (.inl (absent hs))]
    exact wrote_same hs rfl
  | dropped live old make =>
    rw [hmade old, make]
    exact wrote_same hs rfl
  | ended => exact wrote_closeNow rfl
  | queued live old make enqueue =>
    rw [hmade old, make]
    obtain hfull | ⟨s', htaken, hs', -, hw⟩ := hput old make
    · cases enqueue.symm.trans hfull
    · cases enqueue.symm.trans htaken
      rw [Wrote, hs', hw]
      exact .put _
  | overflowed live old make enqueue =>
    obtain hfull | ⟨s', htaken, -⟩ := hput old make
    · cases enqueue.symm.trans hfull
      exact wrote_closeNow rfl
    · cases enqueue.symm.trans htaken
  | threw live old make enqueue =>
    obtain hfull | ⟨s', htaken, -⟩ := hput old make
    · cases enqueue.symm.trans hfull
    · cases enqueue.symm.trans htaken

/-- What `write_next` does in an open session. -/
theorem writeNext_cases (hs : s.stopped = false) :
    (∃ buffer rest, s.outboundQueue.queue = buffer :: rest ∧ s.writeNext = { s with
      writeInProgress := true, written := s.written ++ [buffer] }) ∨
    (s.outboundQueue.queue = [] ∧ s.writeNext =
      if s.closeAfterWrite then closeNow { s with writeInProgress := false }
      else { s with writeInProgress := false }) := by
  cases hqueue : s.outboundQueue.queue with
  | nil =>
    refine .inr ⟨rfl, ?_⟩
    simp [writeNext, hs, OutboundFrameQueue.front, hqueue]
  | cons buffer rest =>
    refine .inl ⟨buffer, rest, rfl, ?_⟩
    simp [writeNext, hs, OutboundFrameQueue.front, hqueue]

/-- A completed write hands the next buffer to the transport, or closes a session that was to close
behind the last one. -/
theorem handleWrite_wrote (hs : s.stopped = false) (hb : s.Busy) (hw : s.writeInProgress = true)
    (failed : Bool) : s.Wrote true [] (s.handleWrite failed) := by
  unfold handleWrite
  rw [if_neg (by simp [hs])]
  cases failed with
  | true => exact wrote_closeNow rfl
  | false =>
    obtain ⟨q, hpop, hq⟩ := OutboundFrameQueue.popFront_queue (hb.mp hw)
    have hs' : ({ s with outboundQueue := q } : TlsTunnelSession).stopped = false := hs
    simp only [Bool.false_eq_true, if_false, hpop]
    obtain ⟨next, rest, hqueue, heq⟩ | ⟨hqueue, heq⟩ := writeNext_cases hs'
    · have hfinish : writer (writeNext { s with outboundQueue := q }) = s.writer.finish := by
        dsimp only at hqueue
        simp [heq, writer, FifoWriter.finish, ← hq, hqueue]
      rw [Wrote, hfinish, heq]
      dsimp only
      rw [hs]
      exact .finish
    · rw [heq]
      dsimp only
      split
      · exact wrote_closeNow rfl
      · have hfinish : writer { s with outboundQueue := q, writeInProgress := false } =
            s.writer.finish := by
          dsimp only at hqueue
          simp [writer, FifoWriter.finish, ← hq, hqueue]
        rw [Wrote, hfinish]
        dsimp only
        rw [hs]
        exact .finish

theorem writer_readNext (s : TlsTunnelSession) : s.readNext.writer = s.writer := by
  unfold readNext
  split <;> rfl

theorem handleRead_wrote (hs : s.stopped = false) (read : Option Bytes) :
    s.Wrote false [] (s.handleRead read) := by
  have hcases := handleRead_cases s read
  generalize s.handleRead read = s' at hcases ⊢
  cases hcases with
  | stopped => exact wrote_same hs rfl
  | ended => exact wrote_closeNow rfl
  | malformed => exact wrote_closeNow rfl
  | frames =>
    apply Wrote.continueReading
    exact wrote_same hs rfl

theorem handleHandshake_wrote (w : Shared σ) (hs : s.stopped = false) (fingerprint : Option Bytes) :
    s.Wrote false [] (s.handleHandshake w fingerprint).1 := by
  have hcases := handleHandshake_cases s w fingerprint
  generalize s.handleHandshake w fingerprint = after at hcases ⊢
  cases hcases with
  | stopped => exact wrote_same hs rfl
  | anonymous => exact wrote_closeNow rfl
  | refused => exact wrote_closeNow rfl
  | opened => exact wrote_same (by rwa [readNext_stopped]) (writer_readNext _)

/-- What an event other than a completed write does to the writer of an open session. -/
theorem step_wrote (h : Handlers σ) (w : Shared σ) {e : SessionEvent} (hs : s.stopped = false)
    (hb : s.Busy) (hc : ∀ c, s.controller = some c → c.Holds) (hclose : e ≠ .close)
    (hwrite : ∀ failed, e ≠ .write failed) : s.Wrote false (s.framesMade w e) (s.step h w e).1 := by
  have hsame : s.Wrote false [] s := wrote_same hs rfl
  have hcases := step_cases h s w e
  generalize s.step h w e = after at hcases ⊢
  cases hcases with
  | busy inbound notFrame notClose =>
    rw [framesMade_none (.inr (call_busy w inbound notFrame notClose))]
    exact hsame
  | unawaited notFrame notClose notIpv4 notIpv6 =>
    rw [framesMade_none (.inr (call_unawaited w notFrame notClose notIpv4 notIpv6))]
    exact hsame
  | handshake fingerprint =>
    rw [framesMade_none (.inr rfl)]
    exact handleHandshake_wrote w hs fingerprint
  | handshakeTimeout => exact wrote_closeNow rfl
  | read read =>
    rw [framesMade_none (.inr rfl)]
    exact handleRead_wrote hs read
  | frame now => exact handleNextFrame_wrote h w now hs hb hc
  | write failed => exact absurd rfl (hwrite failed)
  | sendIpv4 packet now idle => exact sendFromTun_wrote _ _ w packet now idle hs hb hc
  | sendIpv6 packet now idle => exact sendFromTun_wrote _ _ w packet now idle hs hb hc
  | idleTimeout => exact wrote_closeNow rfl
  | stop => exact wrote_closeNow rfl
  | close => exact absurd rfl hclose

theorem handleRead_controller (s : TlsTunnelSession) (read : Option Bytes) :
    (s.handleRead read).controller = s.controller := by
  have hcases := handleRead_cases s read
  generalize s.handleRead read = s' at hcases ⊢
  cases hcases with
  | stopped => rfl
  | ended => exact (transported_closeNow _).controller
  | malformed => exact (transported_closeNow _).controller
  | frames => exact (continueReading_keeps _).1

theorem sendFromTun_controller {c : SessionController} (overflow sent : ServerMetrics → ServerMetrics)
    (w : Shared σ) (packet : Bytes) (now : TimePoint) (hs : s.stopped = false)
    (hctl : s.controller = some c) : (s.sendFromTun overflow sent w packet now).1.controller =
      some (c.makeDataToClient w.manager packet now).2.1 := by
  have hcases := sendFromTun_cases overflow sent s w packet now
  generalize s.sendFromTun overflow sent w packet now = after at hcases ⊢
  cases hcases with
  | ignored absent => cases hctl.symm.trans (absent hs)
  | dropped live old make =>
    cases hctl.symm.trans old
    rw [make]
  | ended live old make =>
    cases hctl.symm.trans old
    rw [make, (transported_closeNow _).controller]
  | @queued c₀ c' manager f s' live old make enqueue =>
    cases hctl.symm.trans old
    have ht := (transported_enqueueFrame { s with controller := some c' } f).controller
    rw [enqueue] at ht
    rw [make, ht]
  | @overflowed c₀ c' manager f s' live old make enqueue =>
    cases hctl.symm.trans old
    have ht := (transported_enqueueFrame { s with controller := some c' } f).controller
    rw [enqueue] at ht
    rw [make, (transported_closeNow _).controller, ht]
  | @threw c₀ c' manager f s' e live old make enqueue =>
    cases hctl.symm.trans old
    have ht := (transported_enqueueFrame { s with controller := some c' } f).controller
    rw [enqueue] at ht
    rw [make, ht]

/-- An event changes a controller only through the call it makes on it. -/
theorem step_controller {c : SessionController} (h : Handlers σ) (w : Shared σ) (e : SessionEvent)
    (hctl : s.controller = some c) (hc : c.Holds) : (s.step h w e).1.controller =
      some ((s.call w e).elim c fun call => (SessionHistory.answer c call).2) := by
  have hclosed : s.closeNow.controller = some c := (transported_closeNow s).controller.trans hctl
  have hsend (overflow sent : ServerMetrics → ServerMetrics) (packet : Bytes) (now : TimePoint)
      (idle : s.inbound = []) : (s.sendFromTun overflow sent w packet now).1.controller =
        some ((s.call w (.sendIpv4 packet now)).elim c
          fun call => (SessionHistory.answer c call).2) := by
    cases hs : s.stopped with
    | true => simp [sendFromTun, call, hs, hctl]
    | false =>
      rw [sendFromTun_controller _ _ w packet now hs hctl, call, if_pos ⟨idle, hs⟩]
      rfl
  have hcases := step_cases h s w e
  generalize s.step h w e = after at hcases ⊢
  cases hcases with
  | busy inbound notFrame notClose =>
    rw [call_busy w inbound notFrame notClose]
    exact hctl
  | unawaited notFrame notClose notIpv4 notIpv6 =>
    rw [call_unawaited w notFrame notClose notIpv4 notIpv6]
    exact hctl
  | handshake fingerprint idle none => cases hctl.symm.trans none
  | handshakeTimeout => exact hclosed
  | read read => exact (handleRead_controller s read).trans hctl
  | frame now =>
    unfold handleNextFrame call
    cases hi : s.inbound with
    | nil => exact hctl
    | cons f rest =>
      obtain ⟨-, hcon, -⟩ := handleFrame_announced (s := { s with inbound := rest }) h hctl hc w f now
      exact (continueReading_keeps _).1.trans hcon
  | write failed => exact (transported_handleWrite s failed).controller.trans hctl
  | sendIpv4 packet now idle => exact hsend _ _ packet now idle
  | sendIpv6 packet now idle => exact hsend _ _ packet now idle
  | idleTimeout => exact hclosed
  | stop => exact hclosed
  | close =>
    have hcases := closeStep_cases h s w
    generalize s.closeStep h w = after at hcases ⊢
    rw [call]
    cases hcases with
    | cleared closing none => cases hctl.symm.trans none
    | released closing old =>
      cases hctl.symm.trans old
      rw [if_pos closing]
      rfl
    | notified closing =>
      rw [if_neg (by simp [closing])]
      exact hctl
    | idle notReleasing =>
      rw [if_neg notReleasing]
      exact hctl

/-- A session without a controller gets a new one, if any. -/
theorem step_controller_none (h : Handlers σ) (w : Shared σ) (e : SessionEvent)
    (hctl : s.controller = none) : (s.step h w e).1.controller = none ∨
      ∃ identity c, SessionController.create identity = .ok c ∧
        (s.step h w e).1.controller = some c := by
  have ha := step_acted h (s := s) (by simp [hctl]) w e
  generalize s.step h w e = after at ha ⊢
  obtain ⟨s', w'⟩ := after
  cases ha with
  | quiet _ controller => exact .inl (controller.trans hctl)
  | opened _ _ create controller => exact .inr ⟨_, _, create, controller⟩
  | framed _ old => cases hctl.symm.trans old
  | sent _ old => cases hctl.symm.trans old
  | released _ old => cases hctl.symm.trans old
  | cleared => exact .inl hctl
  | notified => exact .inl hctl

/-- An event keeps the controller one that holds a lease exactly while it is established. -/
theorem step_holds (h : Handlers σ) (w : Shared σ) (e : SessionEvent)
    (hc : ∀ c, s.controller = some c → c.Holds) :
    ∀ c, (s.step h w e).1.controller = some c → c.Holds := by
  intro c hafter
  cases hctl : s.controller with
  | none =>
    obtain hnone | ⟨identity, c', hcreate, hsome⟩ := step_controller_none h w e hctl
    · cases hnone.symm.trans hafter
    · cases hsome.symm.trans hafter
      exact (SessionHistory.consistent_create hcreate).holds
  | some c₀ =>
    have hafter₀ := step_controller h w e hctl (hc c₀ hctl)
    cases hcall : s.call w e with
    | none =>
      rw [hcall, Option.elim_none] at hafter₀
      cases hafter₀.symm.trans hafter
      exact hc _ hctl
    | some call =>
      rw [hcall, Option.elim_some] at hafter₀
      cases hafter₀.symm.trans hafter
      exact (SessionHistory.answer_extends (hc c₀ hctl) call).holds

end TlsTunnelSession

end PersonalVpn.Server
