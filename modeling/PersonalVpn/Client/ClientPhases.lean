import PersonalVpn.Client.TlsTunnelClient
import PersonalVpn.Core.Conforming

namespace PersonalVpn.Client

open PersonalVpn.Core Protocol

namespace TlsTunnelClient

/-- A write is outstanding exactly while something is queued. -/
def Busy (t : TlsTunnelClient) : Prop :=
  t.writeInProgress = true ↔ t.outboundQueue.queue ≠ []

/-- The handshake is over. -/
def Opened (t : TlsTunnelClient) : Prop := t.started = true ∧ t.handshaking = false

/-- A client that has seen no fault and has not been asked to close. -/
structure Running (t : TlsTunnelClient) : Prop where
  stopped : t.stopped = false
  closed : t.closed = none
  closeAfterWrite : t.closeAfterWrite = false
  fault : t.fault = none
  remoteError : t.remoteError = none
  retryable : t.retryableClose = true
  busy : t.Busy
  starts : t.handshaking = true → t.started = true
  reads : t.reading = true → t.Opened

/-- How far a client without `stop` or `abort` has come: it runs, it flushes its queue before it
closes, or its close handler has been called. -/
inductive Phase (t : TlsTunnelClient) : Prop where
  | running (running : t.Running)
  | flushing (stopped : t.stopped = false) (closed : t.closed = none)
      (closeAfterWrite : t.closeAfterWrite = true) (opened : t.Opened) (reading : t.reading = false)
      (queue : t.outboundQueue.queue ≠ []) (writeInProgress : t.writeInProgress = true)
      (decodable : t.fault ≠ some .undecodable)
      (remote : t.fault = some .remote ↔ t.remoteError ≠ none)
      (retryable : t.remoteError = none → t.retryableClose = true)
  | ended (stopped : t.stopped = true) (closed : t.closed ≠ none)

/-- After a fault the close handler is told not to retry, or of a remote error. -/
def Terminal (t : TlsTunnelClient) : Prop :=
  t.fault ≠ none → ∀ remote retryable, t.closed = some (remote, retryable) →
    remote ≠ none ∨ retryable = false

theorem closeNow_open {t : TlsTunnelClient} (h : t.stopped = false) :
    t.closeNow = { t with
      stopped := true
      controller := t.controller.onTransportClosed
      outboundQueue := t.outboundQueue.clear
      closed := some (t.remoteError, t.retryableClose)
      closeCalls := t.closeCalls + 1 } := by
  simp [closeNow, h]

theorem phase_closeNow {t : TlsTunnelClient} (h : t.stopped = false) : t.closeNow.Phase := by
  rw [closeNow_open h]
  exact .ended rfl (Option.some_ne_none _)

theorem terminal_closeNow {t : TlsTunnelClient} (h : t.stopped = false) :
    t.closeNow.Terminal ↔ (t.fault ≠ none → t.remoteError ≠ none ∨ t.retryableClose = false) := by
  rw [closeNow_open h]
  constructor
  · intro ht hf
    exact ht hf _ _ rfl
  · intro ht hf remote retryable hclosed
    cases hclosed
    exact ht hf

theorem terminal_closeForGood {t : TlsTunnelClient} (h : t.stopped = false) :
    t.closeForGood.Terminal := (terminal_closeNow (by exact h)).mpr fun _ => .inr rfl

theorem phase_closeForGood {t : TlsTunnelClient} (h : t.stopped = false) : t.closeForGood.Phase :=
  phase_closeNow (by exact h)

theorem assigned_closeNow {t : TlsTunnelClient} (h : t.controller.Assigned) :
    t.closeNow.controller.Assigned := by
  unfold closeNow
  split
  · exact h
  · intro h; cases h

/-- `t'` is `t` after an attempt to queue frames. -/
structure Queued (t t' : TlsTunnelClient) (fs : List Frame) (r : Except Exception Bool) : Prop where
  controller : t'.controller = t.controller
  remoteError : t'.remoteError = t.remoteError
  closeAfterWrite : t'.closeAfterWrite = t.closeAfterWrite
  stopped : t'.stopped = t.stopped
  started : t'.started = t.started
  handshaking : t'.handshaking = t.handshaking
  reading : t'.reading = t.reading
  closed : t'.closed = t.closed
  fault : t'.fault = t.fault
  handled : t'.handled = t.handled
  decoder : t'.decoder = t.decoder
  retryable : r ≠ .ok false → t'.retryableClose = t.retryableClose
  busy : t'.Busy
  queue : r = .ok true → fs ≠ [] ∨ t.outboundQueue.queue ≠ [] → t'.outboundQueue.queue ≠ []

theorem enqueueFrame_queued {t : TlsTunnelClient} (hs : t.stopped = false) (hb : t.Busy)
    (f : Frame) : Queued t (t.enqueueFrame f).2 [f] (t.enqueueFrame f).1 := by
  have he := t.outboundQueue.tryEnqueue_enqueued f
  rcases heq : t.outboundQueue.tryEnqueue f with ⟨r, q⟩
  rw [heq] at he
  unfold enqueueFrame
  rw [if_neg (by rw [hs]; decide), heq]
  cases he with
  | malformed =>
    exact ⟨rfl, rfl, rfl, rfl, rfl, rfl, rfl, rfl, rfl, rfl, rfl, fun _ => rfl, hb, (by simp)⟩
  | refused =>
    exact ⟨rfl, rfl, rfl, rfl, rfl, rfl, rfl, rfl, rfl, rfl, rfl, absurd rfl, hb, (by simp)⟩
  | accepted =>
    dsimp only
    have hne : t.outboundQueue.queue ++ [wireBytes f] ≠ [] := by simp
    split
    · rename_i hw
      refine ⟨rfl, rfl, rfl, rfl, rfl, rfl, rfl, rfl, rfl, rfl, rfl, fun _ => rfl, ?_, fun _ _ => hne⟩
      exact ⟨fun _ => hne, fun _ => hw⟩
    · rename_i hw
      have hnil : t.outboundQueue.queue = [] := by
        by_contra hq
        exact hw (hb.mpr hq)
      unfold writeNext
      rw [hnil]
      dsimp only
      rw [hs]
      exact ⟨rfl, rfl, rfl, hs.symm, rfl, rfl, rfl, rfl, rfl, rfl, rfl, fun _ => rfl,
        ⟨fun _ hno => (by cases hno), fun _ => rfl⟩, fun _ _ hno => by cases hno⟩

theorem Queued.trans {t₁ t₂ t₃ : TlsTunnelClient} {f : Frame} {fs : List Frame}
    {r : Except Exception Bool} (h : Queued t₁ t₂ [f] (.ok true)) (h' : Queued t₂ t₃ fs r) :
    Queued t₁ t₃ (f :: fs) r where
  controller := h'.controller.trans h.controller
  remoteError := h'.remoteError.trans h.remoteError
  closeAfterWrite := h'.closeAfterWrite.trans h.closeAfterWrite
  stopped := h'.stopped.trans h.stopped
  started := h'.started.trans h.started
  handshaking := h'.handshaking.trans h.handshaking
  reading := h'.reading.trans h.reading
  closed := h'.closed.trans h.closed
  fault := h'.fault.trans h.fault
  handled := h'.handled.trans h.handled
  decoder := h'.decoder.trans h.decoder
  retryable hb := (h'.retryable hb).trans (h.retryable (by simp))
  busy := h'.busy
  queue hb _ := h'.queue hb (.inr (h.queue rfl (.inl (List.cons_ne_nil f []))))

theorem enqueueAll_queued {t : TlsTunnelClient} (hs : t.stopped = false) (hb : t.Busy)
    (fs : List Frame) : Queued t (t.enqueueAll fs).2 fs (t.enqueueAll fs).1 := by
  induction fs generalizing t with
  | nil =>
    exact ⟨rfl, rfl, rfl, rfl, rfl, rfl, rfl, rfl, rfl, rfl, rfl, fun _ => rfl, hb,
      fun _ h => h.resolve_left (· rfl)⟩
  | cons f fs ih =>
    have hf := enqueueFrame_queued hs hb f
    unfold enqueueAll
    rcases heq : t.enqueueFrame f with ⟨r, t'⟩
    rw [heq] at hf
    -- a refusal ends the loop
    have hrefused (hr : r ≠ .ok true) : Queued t t' (f :: fs) r :=
      ⟨hf.controller, hf.remoteError, hf.closeAfterWrite, hf.stopped, hf.started, hf.handshaking,
        hf.reading, hf.closed, hf.fault, hf.handled, hf.decoder, hf.retryable, hf.busy,
        fun ht => absurd ht hr⟩
    cases r with
    | error e => exact hrefused (by simp)
    | ok b =>
      cases b with
      | false => exact hrefused (by simp)
      | true => exact hf.trans (ih (hf.stopped.trans hs) hf.busy)

theorem Queued.opened {t t' : TlsTunnelClient} {fs : List Frame} {r : Except Exception Bool}
    (h : Queued t t' fs r) (ho : t.Opened) : t'.Opened :=
  ⟨h.started.trans ho.1, h.handshaking.trans ho.2⟩

/-- A client whose phase is known, and which has its assignment when established. -/
structure Sound (t : TlsTunnelClient) : Prop where
  phase : t.Phase
  assigned : t.controller.Assigned

/-- A client inside the loop of `handle_read`. -/
structure Working (t : TlsTunnelClient) : Prop where
  stopped : t.stopped = false
  closed : t.closed = none
  closeAfterWrite : t.closeAfterWrite = false
  opened : t.Opened
  reading : t.reading = false
  busy : t.Busy
  decodable : t.fault ≠ some .undecodable
  remote : t.fault = some .remote ↔ t.remoteError ≠ none
  retryable : t.remoteError = none → t.retryableClose = true
  assigned : t.controller.Assigned

theorem Working.sound {t : TlsTunnelClient} (h : t.Working) (hf : t.fault = none) : t.Sound := by
  have hremote : t.remoteError = none := by
    by_contra hno
    have := h.remote.mpr hno
    rw [hf] at this
    cases this
  exact ⟨.running ⟨h.stopped, h.closed, h.closeAfterWrite, hf, hremote, h.retryable hremote, h.busy,
    fun _ => h.opened.1, fun _ => h.opened⟩, h.assigned⟩

theorem terminal_of_open {t : TlsTunnelClient} (h : t.closed = none) : t.Terminal := by
  intro _ remote retryable hclosed
  rw [h] at hclosed
  cases hclosed

theorem Sound.closeForGood {t : TlsTunnelClient} (hs : t.stopped = false)
    (ha : t.controller.Assigned) : t.closeForGood.Sound :=
  ⟨phase_closeForGood hs, assigned_closeNow ha⟩

/-- What holds after a frame: the phase is known, a fault has not ended the client for a retry, and no
read is outstanding. -/
structure Applied (t : TlsTunnelClient) : Prop where
  sound : t.Sound
  terminal : t.Terminal
  opened : t.Opened
  reading : t.reading = false

theorem closeNow_reading (t : TlsTunnelClient) : t.closeNow.reading = t.reading := by
  unfold closeNow
  split <;> rfl

theorem Opened.closeNow {t : TlsTunnelClient} (h : t.Opened) : t.closeNow.Opened := by
  unfold TlsTunnelClient.closeNow
  split
  · exact h
  · exact h

theorem Applied.closeForGood {t : TlsTunnelClient} (hs : t.stopped = false)
    (ha : t.controller.Assigned) (ho : t.Opened) (hr : t.reading = false) :
    t.closeForGood.Applied where
  sound := .closeForGood hs ha
  terminal := terminal_closeForGood hs
  opened := Opened.closeNow (by exact ho)
  reading := (closeNow_reading _).trans hr

theorem Working.applyOutput {t : TlsTunnelClient} (h : t.Working) {r : ClientSessionResult}
    (hclose : t.fault ≠ none → r.closeTransport = true)
    (hrejected : t.fault = some .rejected → r.outboundFrames ≠ []) :
    (t.applyOutput r).Applied := by
  have hq := enqueueAll_queued (t := { t with tun := t.tun ++ r.packetsToTun }) h.stopped h.busy
    r.outboundFrames
  unfold TlsTunnelClient.applyOutput
  dsimp only
  rcases heq : enqueueAll { t with tun := t.tun ++ r.packetsToTun } r.outboundFrames with ⟨ok, t'⟩
  rw [heq] at hq
  have hs' : t'.stopped = false := hq.stopped.trans h.stopped
  have ha' : t'.controller.Assigned := by
    rw [hq.controller]
    exact h.assigned
  have hread' : t'.reading = false := hq.reading.trans h.reading
  have ho' : t'.Opened := hq.opened h.opened
  have hgood : t'.closeForGood.Applied := .closeForGood hs' ha' ho' hread'
  cases ok with
  | error e => exact hgood
  | ok taken =>
    cases taken with
    | false => exact hgood
    | true =>
      have hremote : t'.fault = some .remote ↔ t'.remoteError ≠ none := by
        rw [hq.fault, hq.remoteError]
        exact h.remote
      have hretry (hr : t'.remoteError = none) : t'.retryableClose = true := by
        rw [hq.retryable (by simp)]
        exact h.retryable (hq.remoteError.symm.trans hr)
      have hclosed : t'.closed = none := hq.closed.trans h.closed
      dsimp only
      split
      · split
        · rename_i hidle
          -- nothing is queued, so the fault is no rejection
          have hnil : t'.outboundQueue.queue = [] := by
            rw [Bool.and_eq_true, List.isEmpty_iff] at hidle
            exact hidle.2
          refine ⟨⟨phase_closeNow hs', assigned_closeNow ha'⟩, ?_,
            Opened.closeNow (by exact ho'), (closeNow_reading _).trans hread'⟩
          apply (terminal_closeNow (t := { t' with closeAfterWrite := true }) hs').mpr
          intro hfault
          refine .inl (hremote.mp ?_)
          cases hf : t'.fault with
          | none => exact absurd hf hfault
          | some fault =>
            have hf₀ : t.fault = some fault := hq.fault.symm.trans hf
            cases fault with
            | undecodable => exact absurd hf₀ h.decodable
            | remote => rfl
            | rejected => exact absurd hnil (hq.queue rfl (.inl (hrejected hf₀)))
        · rename_i hidle
          have hne : t'.outboundQueue.queue ≠ [] := by
            intro hnil
            have hw : t'.writeInProgress = false := by
              apply Bool.eq_false_of_not_eq_true
              intro hw
              exact hq.busy.mp hw hnil
            exact hidle (by rw [hw, hnil]; rfl)
          refine ⟨⟨?_, ha'⟩, terminal_of_open hclosed, ho', hread'⟩
          refine .flushing hs' hclosed rfl ho' hread' hne (hq.busy.mpr hne) ?_ hremote hretry
          intro hf
          exact h.decodable (hq.fault.symm.trans hf)
      · rename_i hopen
        have hfault : t'.fault = none := by
          by_contra hno
          exact hopen (hclose (by rwa [← hq.fault]))
        have hw : t'.Working :=
          ⟨hs', hclosed, hq.closeAfterWrite.trans h.closeAfterWrite, ho', hread',
            hq.busy, by rw [hfault]; simp, hremote, hretry, ha'⟩
        exact ⟨hw.sound hfault, terminal_of_open hclosed, ho', hread'⟩

/-- The same with the assignment handler, for a result without a remote error. -/
theorem Working.applyResult {t : TlsTunnelClient} (h : t.Working) {r : ClientSessionResult}
    (accepts : IpAssignment → Bool) (hr : r.remoteError = none)
    (hclose : t.fault ≠ none → r.closeTransport = true)
    (hrejected : t.fault = some .rejected → r.outboundFrames ≠ []) :
    (t.applyResult accepts r).Applied := by
  unfold TlsTunnelClient.applyResult
  rw [hr]
  dsimp only
  split
  · split
    · exact h.applyOutput hclose hrejected
    · exact .closeForGood h.stopped h.assigned h.opened h.reading
  · exact h.applyOutput hclose hrejected

/-- One frame of the loop. -/
theorem Working.handleFrame {t : TlsTunnelClient} (h : t.Working) (hf : t.fault = none)
    (accepts : IpAssignment → Bool) (f : Frame) :
    (t.handleFrame accepts f).Applied := by
  obtain ⟨r, c', heq, hh⟩ := ClientSessionController.handle_handled h.assigned f
  have ha' : c'.Assigned := hh.stays_assigned h.assigned
  have hremote : t.remoteError = none := by
    by_contra hno
    have := h.remote.mpr hno
    rw [hf] at this
    cases this
  unfold TlsTunnelClient.handleFrame
  rw [heq]
  dsimp only
  -- a result without a remote error
  have hplain (hr : r.remoteError = none) (hclose : faultOf r ≠ none → r.closeTransport = true) :
      let t' := { t with controller := c', handled := t.handled ++ [f], fault := faultOf r }
      (t'.applyResult accepts r).Applied := by
    intro t'
    have hd : faultOf r ≠ some .undecodable ∧ faultOf r ≠ some .remote := by
      rw [faultOf, hr, if_neg (by decide)]
      split
      · exact ⟨(by simp), (by simp)⟩
      · exact ⟨(by simp), (by simp)⟩
    have hw : t'.Working := by
      refine ⟨h.stopped, h.closed, h.closeAfterWrite, h.opened,
        h.reading, h.busy, hd.1, ?_, h.retryable, ha'⟩
      exact ⟨fun hno => absurd hno hd.2, fun hno => absurd hremote hno⟩
    refine hw.applyResult accepts hr hclose fun hrejected hnil => ?_
    change faultOf r = some .rejected at hrejected
    rw [faultOf, hr, hnil] at hrejected
    cases hrejected
  cases hh with
  | inert => exact hplain rfl (fun _ => rfl)
  | failed => exact hplain rfl (fun _ => rfl)
  | packet => exact hplain rfl (absurd rfl)
  | pong => exact hplain rfl (absurd rfl)
  | alive => exact hplain rfl (absurd rfl)
  | closed => exact hplain rfl (fun _ => rfl)
  | assigned => exact hplain rfl (absurd rfl)
  | remote =>
    rename_i message _ _ _ _
    have hw : Working { t with
        controller := { t.controller with
          state := .closed, nextExpectedSequence := t.controller.nextExpectedSequence + 1 }
        handled := t.handled ++ [f], fault := some .remote
        remoteError := some message, retryableClose := false } :=
      ⟨h.stopped, h.closed, h.closeAfterWrite, h.opened,
        h.reading, h.busy, (by simp),
        ⟨fun _ => (by simp), fun _ => rfl⟩, (by simp), ha'⟩
    exact hw.applyOutput (r := { remoteError := some message, closeTransport := true })
      (fun _ => rfl) (by simp)

end TlsTunnelClient

end PersonalVpn.Client
