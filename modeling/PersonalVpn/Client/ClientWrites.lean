import PersonalVpn.Client.ClientReads
import PersonalVpn.Client.ClientPhases
import PersonalVpn.Core.ClientHistory
import PersonalVpn.Core.FrameWriter

namespace PersonalVpn.Core

open Protocol Sequenced

namespace ClientHistory

variable {c : ClientSessionController}

/-- The frames that a call makes. -/
def made (c : ClientSessionController) (call : ClientCall) : List Frame :=
  ClientEntry.frames ⟨c.state, call, (answer c call).1⟩

/-- What a client's controller keeps from its construction on. -/
structure Fit (c : ClientSessionController) : Prop where
  assigned : c.Assigned
  hello : ValidClientHello (clientHello c.requestedMtu)

theorem Fit.answer (hc : Fit c) (call : ClientCall) : Fit (answer c call).2 := by
  have hext := answer_extends hc.assigned hc.hello call
  refine ⟨?_, by rw [hext.requested]; exact hc.hello⟩
  intro hst
  cases hnew : ClientEntry.assignment ⟨c.state, call, (ClientHistory.answer c call).1⟩ with
  | some a => exact ⟨a, (hext.assigned a hnew).2.2.1⟩
  | none =>
    obtain hold | hno := hext.established hst
    · rw [hext.unassigned hnew]
      exact hc.assigned hold
    · exact absurd hnew hno

theorem Fit.sends (hc : Fit c) (call : ClientCall) : Adds Frame.sequence (made c call)
    c.nextOutboundSequence (ClientHistory.answer c call).2.nextOutboundSequence :=
  (answer_extends hc.assigned hc.hello call).sends

/-- Every frame of a client's controller can be encoded. -/
theorem Fit.wellFormed (hc : Fit c) (call : ClientCall) : ∀ f ∈ made c call, WellFormed f := by
  intro f hf
  unfold made at hf
  cases call with
  | start =>
    by_cases hst : c.state = .idle
    · have hencode := (encodeClientHello_ok_iff (clientHello c.requestedMtu) _).mpr ⟨hc.hello, rfl⟩
      simp only [ClientHistory.answer, ClientSessionController.start_ok hst hencode, Except.map,
        ClientEntry.frames, List.mem_singleton] at hf
      rw [hf]
      exact ⟨rfl, by simp [kMaxPayloadSize]⟩
    · simp [ClientHistory.answer, ClientSessionController.start, hst, Except.map,
        ClientEntry.frames] at hf
  | handle frame =>
    obtain ⟨r, c', heq, hh⟩ := ClientSessionController.handle_handled hc.assigned frame
    simp only [ClientHistory.answer, heq, ClientEntry.frames] at hf
    cases hh with
    | failed state encode =>
      obtain ⟨hlen, hpayload⟩ := (encodeErrorMessage_ok_iff _ _).mp encode
      rw [List.mem_singleton.mp hf, hpayload]
      refine ⟨rfl, ?_⟩
      simp only [List.length_append, BigEndian.length_bytes, kMaximumErrorMessageSize,
        kMaxPayloadSize] at hlen ⊢
      omega
    | pong state sequence type size =>
      rw [List.mem_singleton.mp hf]
      exact ⟨rfl, by simp [size, kMaxPayloadSize]⟩
    | inert => simp at hf
    | assigned => simp at hf
    | packet => simp at hf
    | alive => simp at hf
    | remote => simp at hf
    | closed => simp at hf
  | makeDataToServer packet =>
    obtain heq | ⟨a, type, -, -, hpass, heq⟩ := c.makeDataToServer_cases hc.assigned packet
    · simp [ClientHistory.answer, heq, ClientEntry.frames] at hf
    · have hlen : packet.length ≤ a.mtu.toNat := (within_of_passes hpass).1
      have hmtu := a.mtu.toNat_lt
      simp only [ClientHistory.answer, heq, ClientEntry.frames, Option.toList_some,
        List.mem_singleton] at hf
      rw [hf]
      exact ⟨rfl, by simp only [kMaxPayloadSize]; omega⟩
  | makePing nonce =>
    obtain heq | ⟨-, -, heq⟩ := c.makePing_cases nonce
    · simp [ClientHistory.answer, heq, ClientEntry.frames] at hf
    · simp only [ClientHistory.answer, heq, ClientEntry.frames, Option.toList_some,
        List.mem_singleton] at hf
      rw [hf]
      exact ⟨rfl, by simp [encodeLivenessProbe, appendU64_eq, kMaxPayloadSize]⟩
  | makeClose code =>
    obtain heq | ⟨-, heq⟩ := c.makeClose_cases code
    · simp [ClientHistory.answer, heq, ClientEntry.frames] at hf
    · simp only [ClientHistory.answer, heq, ClientEntry.frames, Option.toList_some,
        List.mem_singleton] at hf
      rw [hf]
      exact ⟨rfl, by simp [encodeCloseMessage, appendU16_eq, kMaxPayloadSize]⟩
  | onTransportClosed => simp [ClientHistory.answer, ClientEntry.frames] at hf

theorem Fit.single (hc : Fit c) (call : ClientCall) :
    made c call = [] ∨ ∃ f, made c call = [f] ∧ WellFormed f := by
  have hformed := hc.wellFormed call
  obtain ⟨hnone, -⟩ | ⟨f, hone, -⟩ := hc.sends call
  · exact .inl hnone
  · rw [hone] at hformed
    exact .inr ⟨f, hone, hformed f (List.mem_singleton.mpr rfl)⟩

end ClientHistory

end PersonalVpn.Core

namespace PersonalVpn.Client

open PersonalVpn.Core Protocol Sequenced

namespace TlsTunnelClient

variable {t t' : TlsTunnelClient} {c : ClientSessionController} {f : Frame} {completes : Bool}
  {made : List Frame}

def writer (t : TlsTunnelClient) : FifoWriter Bytes :=
  ⟨t.outboundQueue.queue, t.writeInProgress, t.written⟩

/-- `t'` is the open client `t` after a call that has left the controller as `c` and made some
frames. Either these are queued, or the client has closed. -/
structure Acted (t : TlsTunnelClient) (c : ClientSessionController) (completes : Bool)
    (made : List Frame) (t' : TlsTunnelClient) : Prop where
  wrote : t.writer.Wrote completes (made.map wireBytes) t'.writer t'.stopped
  phase : (t'.stopped = false ∧ t'.controller = c ∧ t'.closeCalls = t.closeCalls) ∨
    (t'.stopped = true ∧ t'.controller = c.onTransportClosed ∧ t'.closeCalls = t.closeCalls + 1)

theorem acted_closeNow (hs : t'.stopped = false) (hw : t'.written = t.written)
    (hc : t'.controller = c) (hn : t'.closeCalls = t.closeCalls) :
    t.Acted c completes made t'.closeNow := by
  rw [closeNow_open hs]
  exact ⟨.close hw, .inr ⟨rfl, by rw [hc], by rw [hn]⟩⟩

theorem acted_same (hs : t'.stopped = false) (hw : t'.writer = t.writer) (hc : t'.controller = c)
    (hn : t'.closeCalls = t.closeCalls) : t.Acted c false [] t' := by
  refine ⟨?_, .inl ⟨hs, hc, hn⟩⟩
  rw [hs, hw]
  exact .keep

/-- Reading on changes nothing that the writer knows of. -/
theorem Acted.readNext (h : t.Acted c completes made t') : t.Acted c completes made t'.readNext := by
  unfold TlsTunnelClient.readNext
  split
  · exact h
  · exact ⟨h.wrote, h.phase⟩

/-- What `write_next` does in an open client. -/
theorem writeNext_cases (hs : t.stopped = false) :
    (∃ buffer rest, t.outboundQueue.queue = buffer :: rest ∧ t.writeNext = { t with
      writeInProgress := true, written := t.written ++ [buffer] }) ∨
    (t.outboundQueue.queue = [] ∧ t.writeNext =
      if t.closeAfterWrite then closeNow { t with writeInProgress := false }
      else { t with writeInProgress := false }) := by
  cases hqueue : t.outboundQueue.queue with
  | nil =>
    refine .inr ⟨rfl, ?_⟩
    simp [writeNext, hs, OutboundFrameQueue.front, hqueue]
  | cons buffer rest =>
    refine .inl ⟨buffer, rest, rfl, ?_⟩
    simp [writeNext, hs, OutboundFrameQueue.front, hqueue]

/-- What an open client does with a frame: the queue takes it, or it is full. -/
theorem enqueueFrame_cases (hs : t.stopped = false) (hb : t.Busy) (hf : WellFormed f) :
    t.enqueueFrame f = (.ok false, { t with retryableClose := false }) ∨
      ∃ outboundQueue written, t.enqueueFrame f = (.ok true, { t with
        outboundQueue, writeInProgress := true, written }) ∧
        (⟨outboundQueue.queue, true, written⟩ : FifoWriter Bytes) = t.writer.put (wireBytes f) := by
  have he := t.outboundQueue.tryEnqueue_enqueued f
  rcases heq : t.outboundQueue.tryEnqueue f with ⟨r, q⟩
  rw [heq] at he
  unfold enqueueFrame
  rw [if_neg (by simp [hs]), heq]
  cases he with
  | malformed hno => exact absurd hf hno
  | refused => exact .inl rfl
  | accepted _ frames bytes =>
    dsimp only
    by_cases hw : t.writeInProgress = true
    · rw [if_pos hw]
      refine .inr ⟨_, t.written, by rw [← hw], ?_⟩
      simp [writer, FifoWriter.put, hw]
    · have hnil : t.outboundQueue.queue = [] := by
        by_contra hne
        exact hw (hb.mpr hne)
      rw [if_neg hw]
      obtain ⟨buffer, rest, hqueue, hnext⟩ | ⟨hqueue, -⟩ := writeNext_cases
        (t := { t with outboundQueue := { t.outboundQueue with
          queuedBytes := t.outboundQueue.queuedBytes + (wireBytes f).length
          queue := t.outboundQueue.queue ++ [wireBytes f] } }) hs
      · rw [hnext]
        refine .inr ⟨_, _, rfl, ?_⟩
        dsimp only at hqueue ⊢
        rw [hnil] at hqueue ⊢
        cases hqueue
        simp [writer, FifoWriter.put, hw, hnil]
      · simp at hqueue

/-- The frame of a call is queued, or the client closes. -/
theorem acted_enqueue (t t' : TlsTunnelClient) (hs : t'.stopped = false) (hb : t.Busy)
    (hf : WellFormed f) (hw : t'.writer = t.writer) (hc : t'.controller = c)
    (hn : t'.closeCalls = t.closeCalls) :
    (∃ t₁, t'.enqueueFrame f = (.ok false, t₁) ∧ t.Acted c false [f] t₁.closeNow ∧
      t.Acted c false [f] t₁.closeForGood) ∨
    ∃ t₁, t'.enqueueFrame f = (.ok true, t₁) ∧ t.Acted c false [f] t₁ ∧
      t₁.writeInProgress = true := by
  have hbusy : t'.writer.busy = true ↔ t'.writer.queue ≠ [] := by
    rw [hw]
    exact hb
  have hwritten : t'.written = t.written := congrArg FifoWriter.written hw
  obtain hfull | ⟨outboundQueue, written, htaken, hput⟩ := enqueueFrame_cases hs hbusy hf
  · exact .inl ⟨_, hfull, acted_closeNow hs hwritten hc hn, acted_closeNow hs hwritten hc hn⟩
  · refine .inr ⟨_, htaken, ⟨?_, .inl ⟨hs, hc, hn⟩⟩, rfl⟩
    rw [hw] at hput
    change t.writer.Wrote false [wireBytes f] ⟨outboundQueue.queue, true, written⟩ t'.stopped
    rw [hput, hs]
    exact .put _

/-- The output of a call: at most one frame. -/
theorem acted_applyOutput {r : ClientSessionResult} (hs : t'.stopped = false) (hb : t.Busy)
    (hw : t'.writer = t.writer) (hc : t'.controller = c) (hn : t'.closeCalls = t.closeCalls)
    (hframes : r.outboundFrames = [] ∨ ∃ f, r.outboundFrames = [f] ∧ WellFormed f) :
    t.Acted c false r.outboundFrames (t'.applyOutput r) := by
  have hwritten : t'.written = t.written := congrArg FifoWriter.written hw
  unfold applyOutput
  obtain hnone | ⟨f, hone, hf⟩ := hframes
  · rw [hnone]
    simp only [enqueueAll]
    split
    · split
      · exact acted_closeNow hs hwritten hc hn
      · exact acted_same hs hw hc hn
    · exact acted_same hs hw hc hn
  · rw [hone]
    obtain ⟨t₁, hfull, -, hacted⟩ | ⟨t₁, htaken, hacted, hbusy⟩ := acted_enqueue
      t { t' with tun := t'.tun ++ r.packetsToTun } hs hb hf hw hc hn
    · simp only [enqueueAll, hfull]
      exact hacted
    · simp only [enqueueAll, htaken]
      split
      · rw [if_neg (by simp [hbusy])]
        exact ⟨hacted.wrote, hacted.phase⟩
      · exact hacted

theorem acted_applyResult {r : ClientSessionResult} (accepts : IpAssignment → Bool)
    (hs : t'.stopped = false) (hb : t.Busy) (hw : t'.writer = t.writer) (hc : t'.controller = c)
    (hn : t'.closeCalls = t.closeCalls)
    (hframes : r.outboundFrames = [] ∨ ∃ f, r.outboundFrames = [f] ∧ WellFormed f) :
    t.Acted c false r.outboundFrames (t'.applyResult accepts r) := by
  have hwritten : t'.written = t.written := congrArg FifoWriter.written hw
  unfold applyResult
  cases r.remoteError with
  | none =>
    dsimp only
    split
    · split
      · exact acted_applyOutput hs hb hw hc hn hframes
      · exact acted_closeNow hs hwritten hc hn
    · exact acted_applyOutput hs hb hw hc hn hframes
  | some e =>
    dsimp only
    split
    · split
      · exact acted_applyOutput hs hb hw hc hn hframes
      · exact acted_closeNow hs hwritten hc hn
    · exact acted_applyOutput hs hb hw hc hn hframes

/-- One frame of the loop of `handle_read`. -/
theorem acted_handleFrame (hs : t.stopped = false) (hb : t.Busy)
    (hfit : ClientHistory.Fit t.controller) (accepts : IpAssignment → Bool) (f : Frame) :
    t.Acted (ClientHistory.answer t.controller (.handle f)).2 false
      (ClientHistory.made t.controller (.handle f)) (t.handleFrame accepts f) := by
  obtain ⟨r, c', heq, -⟩ := ClientSessionController.handle_handled hfit.assigned f
  have hframes := hfit.single (.handle f)
  simp only [handleFrame, ClientHistory.made, ClientHistory.answer, heq, ClientEntry.frames]
    at hframes ⊢
  exact acted_applyResult accepts hs hb rfl rfl rfl hframes

/-- The common part of `send_ipv4_from_tun` and `ping`. -/
theorem acted_sendFrame {made : Option Frame × ClientSessionController} (hs : t.stopped = false)
    (hb : t.Busy) (hclosing : t.closeAfterWrite = false) (hf : ∀ f, made.1 = some f → WellFormed f) :
    t.Acted made.2 false made.1.toList (t.sendFrame made) := by
  unfold sendFrame
  rw [if_neg (by simp [hs, hclosing])]
  obtain ⟨frame, controller⟩ := made
  cases frame with
  | none => exact acted_same hs rfl rfl rfl
  | some f =>
    obtain ⟨t₁, hfull, hacted, -⟩ | ⟨t₁, htaken, hacted, -⟩ :=
      acted_enqueue t { t with controller } hs hb (hf f rfl) rfl rfl rfl
    · simp only [hfull]
      exact hacted
    · simp only [htaken]
      exact hacted

theorem acted_stop (hs : t.stopped = false) (hb : t.Busy) (hfit : ClientHistory.Fit t.controller)
    (code : UInt16) : t.Acted (ClientHistory.answer t.controller (.makeClose code)).2 false
      (ClientHistory.made t.controller (.makeClose code)) (t.stop code) := by
  have hframes := hfit.single (.makeClose code)
  unfold stop
  rw [if_neg (by simp [hs])]
  simp only [ClientHistory.made, ClientHistory.answer, ClientEntry.frames] at hframes ⊢
  rcases heq : t.controller.makeClose code with ⟨frame, controller⟩
  rw [heq] at hframes
  cases frame with
  | none => exact acted_closeNow hs rfl rfl rfl
  | some f =>
    have hf : WellFormed f := by simpa using hframes
    obtain ⟨t₁, hfull, hacted, -⟩ | ⟨t₁, htaken, hacted, -⟩ := acted_enqueue t
      { t with controller, closeAfterWrite := true } hs hb hf rfl rfl rfl
    · simp only [hfull]
      exact hacted
    · simp only [htaken]
      exact hacted

theorem acted_handleHandshake (hs : t.stopped = false) (hb : t.Busy)
    (hfit : ClientHistory.Fit t.controller) :
    t.Acted (ClientHistory.answer t.controller .start).2 false
      (ClientHistory.made t.controller .start) (t.handleHandshake none) := by
  have hframes := hfit.single .start
  unfold handleHandshake
  dsimp only
  rw [if_neg (by simp [hs])]
  simp only [ClientHistory.made, ClientHistory.answer, ClientEntry.frames] at hframes ⊢
  rcases heq : t.controller.start with ⟨frame, controller⟩
  rw [heq] at hframes
  cases frame with
  | error e => exact acted_same hs rfl rfl rfl
  | ok f =>
    have hf : WellFormed f := by simpa [Except.map] using hframes
    obtain ⟨t₁, hfull, -, hacted⟩ | ⟨t₁, htaken, hacted, -⟩ := acted_enqueue t
      { t with handshaking := false, controller } hs hb hf rfl rfl rfl
    · simp only [hfull]
      exact hacted
    · simp only [htaken]
      exact hacted.readNext

/-- A completed write hands the next buffer to the transport, or closes a client that was to close
behind the last one. -/
theorem acted_handleWrite (hs : t.stopped = false) (hb : t.Busy) (hw : t.writeInProgress = true)
    (error : Option ErrorCategory) : t.Acted t.controller true [] (t.handleWrite error) := by
  unfold handleWrite
  rw [if_neg (by simp [hs])]
  cases error with
  | some error => exact acted_closeNow hs rfl rfl rfl
  | none =>
    obtain ⟨q, hpop, hq⟩ := OutboundFrameQueue.popFront_queue (hb.mp hw)
    have hs' : ({ t with outboundQueue := q } : TlsTunnelClient).stopped = false := hs
    simp only [hpop]
    obtain ⟨next, rest, hqueue, heq⟩ | ⟨hqueue, heq⟩ := writeNext_cases hs'
    · rw [heq]
      refine ⟨?_, .inl ⟨hs, rfl, rfl⟩⟩
      have hfinish : (⟨q.queue, true, t.written ++ [next]⟩ : FifoWriter Bytes) = t.writer.finish := by
        dsimp only at hqueue
        simp [writer, FifoWriter.finish, ← hq, hqueue]
      change t.writer.Wrote true [] ⟨q.queue, true, t.written ++ [next]⟩ t.stopped
      rw [hfinish, hs]
      exact .finish
    · rw [heq]
      dsimp only
      split
      · exact acted_closeNow hs rfl rfl rfl
      · refine ⟨?_, .inl ⟨hs, rfl, rfl⟩⟩
        have hfinish : (⟨q.queue, false, t.written⟩ : FifoWriter Bytes) = t.writer.finish := by
          dsimp only at hqueue
          simp [writer, FifoWriter.finish, ← hq, hqueue]
        change t.writer.Wrote true [] ⟨q.queue, false, t.written⟩ t.stopped
        rw [hfinish, hs]
        exact .finish

end TlsTunnelClient

end PersonalVpn.Client
