import PersonalVpn.Client.TlsTunnelClient
import PersonalVpn.Lib.Run
import PersonalVpn.Protocol.DecoderProgress

namespace PersonalVpn.Client

open PersonalVpn.Core Protocol

namespace TlsTunnelClient

/-- `t'` has read what `t` has, and is open only if `t` is. -/
structure Kept (t t' : TlsTunnelClient) : Prop where
  decoder : t'.decoder = t.decoder
  received : t'.received = t.received
  handled : t'.handled = t.handled
  stopped : t.stopped = true → t'.stopped = true
  flushing : t.closeAfterWrite = true → t'.closeAfterWrite = true

theorem Kept.refl (t : TlsTunnelClient) : Kept t t := ⟨rfl, rfl, rfl, id, id⟩

theorem Kept.trans {t₁ t₂ t₃ : TlsTunnelClient} (h : Kept t₁ t₂) (h' : Kept t₂ t₃) : Kept t₁ t₃ :=
  ⟨h'.decoder.trans h.decoder, h'.received.trans h.received, h'.handled.trans h.handled,
    fun hs => h'.stopped (h.stopped hs), fun hf => h'.flushing (h.flushing hf)⟩

/-- The same with the later part first, which says what the state between is. -/
theorem Kept.after {t₁ t₂ t₃ : TlsTunnelClient} (h' : Kept t₂ t₃) (h : Kept t₁ t₂) : Kept t₁ t₃ :=
  h.trans h'

theorem kept_closeNow (t : TlsTunnelClient) : Kept t t.closeNow := by
  unfold closeNow
  split
  · exact .refl t
  · exact ⟨rfl, rfl, rfl, fun _ => rfl, id⟩

@[simp] theorem closeNow_stopped (t : TlsTunnelClient) : t.closeNow.stopped = true := by
  unfold closeNow
  split
  · assumption
  · rfl

theorem kept_closeForGood (t : TlsTunnelClient) : Kept t t.closeForGood :=
  (kept_closeNow _).after ⟨rfl, rfl, rfl, id, id⟩

theorem kept_closeOnError (t : TlsTunnelClient) (error : ErrorCategory) :
    Kept t (t.closeOnError error) :=
  (kept_closeNow _).after ⟨rfl, rfl, rfl, id, id⟩

theorem kept_readNext (t : TlsTunnelClient) : Kept t t.readNext := by
  unfold readNext
  split
  · exact .refl t
  · exact ⟨rfl, rfl, rfl, id, id⟩

theorem kept_writeNext (t : TlsTunnelClient) : Kept t t.writeNext := by
  unfold writeNext
  split
  · exact ⟨rfl, rfl, rfl, id, id⟩
  · dsimp only
    split
    · exact (kept_closeNow _).after ⟨rfl, rfl, rfl, id, id⟩
    · exact ⟨rfl, rfl, rfl, id, id⟩

theorem kept_enqueueFrame (t : TlsTunnelClient) (f : Frame) : Kept t (t.enqueueFrame f).2 := by
  unfold enqueueFrame
  split
  · exact ⟨rfl, rfl, rfl, id, id⟩
  · split
    · dsimp only
      split
      · exact ⟨rfl, rfl, rfl, id, id⟩
      · exact (kept_writeNext _).after ⟨rfl, rfl, rfl, id, id⟩
    · exact ⟨rfl, rfl, rfl, id, id⟩
    · exact ⟨rfl, rfl, rfl, id, id⟩

theorem kept_enqueueAll (t : TlsTunnelClient) (fs : List Frame) : Kept t (t.enqueueAll fs).2 := by
  induction fs generalizing t with
  | nil => exact .refl t
  | cons f fs ih =>
    have hf := kept_enqueueFrame t f
    unfold enqueueAll
    split
    · rename_i t' heq
      rw [heq] at hf
      exact hf.trans (ih t')
    · exact hf

theorem kept_applyOutput (t : TlsTunnelClient) (r : ClientSessionResult) :
    Kept t (t.applyOutput r) := by
  have hall : Kept t (enqueueAll { t with tun := t.tun ++ r.packetsToTun } r.outboundFrames).2 :=
    (kept_enqueueAll _ _).after ⟨rfl, rfl, rfl, id, id⟩
  unfold applyOutput
  dsimp only
  split
  · rename_i heq
    rw [heq] at hall
    exact hall.trans (kept_closeForGood _)
  · rename_i heq
    rw [heq] at hall
    exact hall.trans (kept_closeForGood _)
  · rename_i t' heq
    rw [heq] at hall
    split
    · have hflag : Kept t' { t' with closeAfterWrite := true } := ⟨rfl, rfl, rfl, id, fun _ => rfl⟩
      split
      · exact (hall.trans hflag).trans (kept_closeNow _)
      · exact hall.trans hflag
    · exact hall

theorem kept_applyResult (accepts : IpAssignment → Bool) (t : TlsTunnelClient)
    (r : ClientSessionResult) : Kept t (t.applyResult accepts r) := by
  have hremote (e : ErrorMessage) :
      Kept t { t with remoteError := some e, retryableClose := false } := ⟨rfl, rfl, rfl, id, id⟩
  unfold applyResult
  cases r.remoteError with
  | none =>
    dsimp only
    split
    · split
      · exact kept_applyOutput _ _
      · exact kept_closeForGood _
    · exact kept_applyOutput _ _
  | some e =>
    dsimp only
    split
    · split
      · exact (hremote e).trans (kept_applyOutput _ _)
      · exact (hremote e).trans (kept_closeForGood _)
    · exact (hremote e).trans (kept_applyOutput _ _)

theorem kept_handleFrame (accepts : IpAssignment → Bool) (t : TlsTunnelClient) (f : Frame) :
    Kept { t with handled := t.handled ++ [f] } (t.handleFrame accepts f) := by
  unfold handleFrame
  split
  · exact (kept_closeForGood _).after ⟨rfl, rfl, rfl, id, id⟩
  · exact (kept_applyResult accepts _ _).after ⟨rfl, rfl, rfl, id, id⟩

/-- The loop of `handle_read` hands all frames to the controller, unless it leaves a client that is
closed or about to. -/
theorem handleFrames_open (accepts : IpAssignment → Bool) (t : TlsTunnelClient) (fs : List Frame)
    (hs : (t.handleFrames accepts fs).stopped = false)
    (hw : (t.handleFrames accepts fs).closeAfterWrite = false) :
    Kept { t with handled := t.handled ++ fs } (t.handleFrames accepts fs) := by
  induction fs generalizing t with
  | nil =>
    rw [List.append_nil]
    exact .refl t
  | cons f fs ih =>
    have hf := kept_handleFrame accepts t f
    unfold TlsTunnelClient.handleFrames at hs hw ⊢
    dsimp only at hs hw ⊢
    split at hs
    · rename_i hopen
      rw [if_pos hopen] at hw
      rw [hs, hw] at hopen
      cases hopen
    · rename_i hopen
      rw [if_neg hopen] at hw ⊢
      have hrest := ih _ hs hw
      refine ⟨hrest.decoder.trans hf.decoder, hrest.received.trans hf.received, ?_,
        fun h => hrest.stopped (hf.stopped h), fun h => hrest.flushing (hf.flushing h)⟩
      rw [hrest.handled]
      dsimp only
      rw [hf.handled, List.append_assoc, List.singleton_append]

/-- What holds while a client has not been asked to close. -/
def Reads (t : TlsTunnelClient) : Prop :=
  t.stopped = false → t.closeAfterWrite = false → t.decoder.Decoded t.received t.handled

theorem reads_stopped {t : TlsTunnelClient} (h : t.stopped = true) : t.Reads :=
  fun hno => absurd (h.symm.trans hno) (by decide)

theorem reads_create {name : Bytes} {mtu : UInt16} {frames bytes : Nat} {t : TlsTunnelClient}
    (h : create name mtu frames bytes = .ok t) : t.Reads := by
  simp only [create, bind_eq_ok] at h
  obtain ⟨c, -, q, -, -, -, ht⟩ := h
  obtain rfl := Except.ok.inj ht
  exact fun _ _ => FrameDecoder.decoded_fresh

theorem Reads.kept {t t' : TlsTunnelClient} (h : t.Reads) (hk : Kept t t') : t'.Reads := by
  intro hs hw
  rw [hk.decoder, hk.received, hk.handled]
  apply h
  · apply Bool.eq_false_of_not_eq_true
    intro hno
    exact absurd ((hk.stopped hno).symm.trans hs) (by decide)
  · apply Bool.eq_false_of_not_eq_true
    intro hno
    exact absurd ((hk.flushing hno).symm.trans hw) (by decide)

theorem Reads.handleRead {t : TlsTunnelClient} (h : t.Reads) (accepts : IpAssignment → Bool)
    (read : Except ErrorCategory Bytes) : (t.handleRead accepts read).Reads := by
  unfold TlsTunnelClient.handleRead
  dsimp only
  split
  · rename_i hs
    exact reads_stopped hs
  rename_i hs
  cases read with
  | error error => exact reads_stopped (closeNow_stopped _)
  | ok data =>
    dsimp only
    split
    · exact reads_stopped (closeNow_stopped _)
    · rename_i frames d hpush
      refine Reads.kept ?_ (kept_readNext _)
      intro hs' hw'
      have hk := handleFrames_open accepts _ frames hs' hw'
      rw [hk.decoder, hk.received, hk.handled]
      refine (h (Bool.eq_false_of_not_eq_true hs) ?_).push hpush
      apply Bool.eq_false_of_not_eq_true
      intro hno
      exact absurd ((hk.flushing hno).symm.trans hw') (by decide)

theorem kept_sendFrame (t : TlsTunnelClient) (made : Option Frame × ClientSessionController) :
    Kept t (t.sendFrame made) := by
  unfold sendFrame
  split
  · exact .refl t
  · split
    · exact ⟨rfl, rfl, rfl, id, id⟩
    · rename_i frame c
      have hset : Kept t { t with controller := c } := ⟨rfl, rfl, rfl, id, id⟩
      have hq := hset.trans (kept_enqueueFrame _ frame)
      split
      · rename_i heq
        rwa [heq] at hq
      · rename_i heq
        rw [heq] at hq
        exact hq.trans (kept_closeNow _)
      · rename_i heq
        rwa [heq] at hq

theorem kept_handleWrite (t : TlsTunnelClient) (error : Option ErrorCategory) :
    Kept t (t.handleWrite error) := by
  unfold handleWrite
  split
  · exact .refl t
  · split
    · exact kept_closeOnError t _
    · split
      · exact (kept_writeNext _).after ⟨rfl, rfl, rfl, id, id⟩
      · exact .refl t

theorem kept_handleHandshake (t : TlsTunnelClient) (error : Option ErrorCategory) :
    Kept t (t.handleHandshake error) := by
  unfold handleHandshake
  dsimp only
  split
  · exact ⟨rfl, rfl, rfl, id, id⟩
  · split
    · exact (kept_closeOnError _ _).after ⟨rfl, rfl, rfl, id, id⟩
    · split
      · exact ⟨rfl, rfl, rfl, id, id⟩
      · rename_i frame c _
        have hset : Kept t { t with handshaking := false, controller := c } :=
          ⟨rfl, rfl, rfl, id, id⟩
        have hq := hset.trans (kept_enqueueFrame _ frame)
        split
        · rename_i heq
          rw [heq] at hq
          exact hq.trans (kept_readNext _)
        · rename_i heq
          rw [heq] at hq
          exact hq.trans (kept_closeForGood _)
        · rename_i heq
          rwa [heq] at hq

theorem kept_startOnStrand (t : TlsTunnelClient) (sniConfigured : Bool) :
    Kept t (t.startOnStrand sniConfigured) := by
  unfold startOnStrand
  split
  · exact .refl t
  · dsimp only
    split
    · exact ⟨rfl, rfl, rfl, id, id⟩
    · exact (kept_closeForGood _).after ⟨rfl, rfl, rfl, id, id⟩

theorem kept_stop (t : TlsTunnelClient) (code : UInt16) : Kept t (t.stop code) := by
  unfold stop
  split
  · exact .refl t
  · split
    · exact (kept_closeNow _).after ⟨rfl, rfl, rfl, id, id⟩
    · rename_i frame c _
      have hset : Kept t { t with controller := c, closeAfterWrite := true } :=
        ⟨rfl, rfl, rfl, id, fun _ => rfl⟩
      have hq := hset.trans (kept_enqueueFrame _ frame)
      split
      · rename_i heq
        rwa [heq] at hq
      · rename_i heq
        rw [heq] at hq
        exact hq.trans (kept_closeNow _)
      · rename_i heq
        rwa [heq] at hq

/-- Every event but a completed read leaves what was read. -/
theorem step_kept_or_read (accepts : IpAssignment → Bool) (t : TlsTunnelClient) (e : ClientEvent) :
    Kept t (t.step accepts e) ∨ ∃ read, t.step accepts e = t.handleRead accepts read := by
  cases e with
  | start sniConfigured => exact .inl (kept_startOnStrand t sniConfigured)
  | handshake error =>
    unfold step
    dsimp only
    split
    · exact .inl (kept_handleHandshake t error)
    · exact .inl (.refl t)
  | read read =>
    unfold step
    dsimp only
    split
    · exact .inr ⟨read, rfl⟩
    · exact .inl (.refl t)
  | write error =>
    unfold step
    dsimp only
    split
    · exact .inl (kept_handleWrite t error)
    · exact .inl (.refl t)
  | sendIpv4 packet => exact .inl (kept_sendFrame t _)
  | ping nonce => exact .inl (kept_sendFrame t _)
  | stop code => exact .inl (kept_stop t code)
  | abort => exact .inl (kept_closeNow t)

theorem Reads.step {t : TlsTunnelClient} (h : t.Reads) (accepts : IpAssignment → Bool)
    (e : ClientEvent) : (t.step accepts e).Reads := by
  obtain hk | ⟨read, heq⟩ := step_kept_or_read accepts t e
  · exact h.kept hk
  · rw [heq]
    exact h.handleRead accepts read

/-- A client that has closed hands nothing more to its controller. -/
theorem run_stopped (accepts : IpAssignment → Bool) {t : TlsTunnelClient} (hs : t.stopped = true)
    (es : List ClientEvent) : (Run.run (step accepts) t es).handled = t.handled := by
  let P (t' : TlsTunnelClient) := t'.stopped = true ∧ t'.handled = t.handled
  have hstep : ∀ t' e, P t' → P (t'.step accepts e) := by
    intro t' e ht'
    obtain hk | ⟨read, heq⟩ := step_kept_or_read accepts t' e
    · exact ⟨hk.stopped ht'.1, hk.handled.trans ht'.2⟩
    · rw [heq]
      unfold TlsTunnelClient.handleRead
      dsimp only
      rw [if_pos ht'.1]
      exact ht'
  have hrun : P (Run.run (step accepts) t es) := Run.invariant hstep ⟨hs, rfl⟩ es
  exact hrun.2

/-- The read that completes an invalid header closes the client, which has handed the frames before it
to its controller exactly if the read starts behind them. -/
theorem Reads.bad {t : TlsTunnelClient} (h : t.Reads) (hread : t.reading = true)
    (hs : t.stopped = false) (hw : t.closeAfterWrite = false) {frames : List Frame}
    {encoded bad data : Bytes} (he : encodeFrames frames = .ok encoded) (hbad : InvalidHeader bad)
    (hstream : t.received ++ data = encoded ++ bad) (accepts : IpAssignment → Bool)
    (es : List ClientEvent) :
    (t.step accepts (.read (.ok data))).stopped = true ∧
      ((Run.run (TlsTunnelClient.step accepts) t (.read (.ok data) :: es)).handled = frames ↔
        encoded.length ≤ t.received.length) := by
  obtain ⟨⟨e, d, hpush⟩, hiff⟩ := (h hs hw).bad he hbad hstream
  have hstep : t.step accepts (.read (.ok data)) = { t with
      reading := false, received := t.received ++ data, decoder := d
      fault := some .undecodable }.closeForGood := by
    unfold TlsTunnelClient.step TlsTunnelClient.handleRead
    dsimp only
    rw [if_pos hread, if_neg (by rw [hs]; decide), hpush]
  have hclosed : (t.step accepts (.read (.ok data))).stopped = true := by
    rw [hstep]
    exact closeNow_stopped _
  refine ⟨hclosed, ?_⟩
  rw [Run.run_cons, run_stopped accepts hclosed, hstep, (kept_closeForGood _).handled]
  exact hiff

end TlsTunnelClient

end PersonalVpn.Client
