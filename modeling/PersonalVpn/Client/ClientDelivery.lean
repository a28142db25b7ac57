import PersonalVpn.Client.ClientRun
import PersonalVpn.Core.TunnelAgreement

namespace PersonalVpn.Core

open Protocol

theorem type_of_passes {a : IpAssignment} {fromServer : Bool} {type : MessageType} {packet : Bytes}
    (h : ClientSessionController.Passes a fromServer type packet) : type = .dataIpv4 ∨ type = .dataIpv6 :=
  h.imp (·.1) (·.1)

namespace ClientSessionController

variable {c c' : ClientSessionController} {f : Frame} {r : ClientSessionResult}

/-- The packet of a data frame is passed on, and no other, unless the frame ends the session. -/
theorem Handled.packets (h : Handled c f r c') :
    r.packetsToTun = dataOf [f] ∨ (r.packetsToTun = [] ∧ r.closeTransport = true) := by
  cases h with
  | inert => exact .inr ⟨rfl, rfl⟩
  | failed => exact .inr ⟨rfl, rfl⟩
  | remote => exact .inr ⟨rfl, rfl⟩
  | closed => exact .inr ⟨rfl, rfl⟩
  | assigned _ _ type => exact .inl (dataOf_eq_nil (by simp [type])).symm
  | pong _ _ type => exact .inl (dataOf_eq_nil (by simp [type])).symm
  | alive _ _ type => exact .inl (dataOf_eq_nil (by simp [type])).symm
  | packet _ _ _ passes => exact .inl (dataOf_single (type_of_passes passes)).symm

/-- The answers to a frame carry no packets. -/
theorem Handled.dataOf_frames (h : Handled c f r c') : dataOf r.outboundFrames = [] := by
  cases h with
  | failed => exact dataOf_eq_nil (by simp)
  | pong => exact dataOf_eq_nil (by simp)
  | inert => rfl
  | assigned => rfl
  | packet => rfl
  | alive => rfl
  | remote => rfl
  | closed => rfl

end ClientSessionController

end PersonalVpn.Core

namespace PersonalVpn.Client

open PersonalVpn.Core Protocol

namespace TlsTunnelClient

variable {t t' : TlsTunnelClient}

/-- Nothing was passed to the TUN device, and no read was begun or completed. -/
structure Mute (t t' : TlsTunnelClient) : Prop where
  tun : t'.tun = t.tun
  reading : t'.reading = t.reading

theorem Mute.refl (t : TlsTunnelClient) : Mute t t := ⟨rfl, rfl⟩

theorem Mute.trans {t₁ t₂ t₃ : TlsTunnelClient} (h : Mute t₁ t₂) (h' : Mute t₂ t₃) : Mute t₁ t₃ :=
  ⟨h'.tun.trans h.tun, h'.reading.trans h.reading⟩

/-- The same with the later part first, which says what the state between is. -/
theorem Mute.after {t₁ t₂ t₃ : TlsTunnelClient} (h' : Mute t₂ t₃) (h : Mute t₁ t₂) : Mute t₁ t₃ :=
  h.trans h'

theorem mute_closeNow (t : TlsTunnelClient) : Mute t t.closeNow := by
  unfold closeNow
  split
  · exact .refl t
  · exact ⟨rfl, rfl⟩

theorem mute_closeForGood (t : TlsTunnelClient) : Mute t t.closeForGood :=
  (mute_closeNow _).after ⟨rfl, rfl⟩

theorem mute_closeOnError (t : TlsTunnelClient) (error : ErrorCategory) :
    Mute t (t.closeOnError error) :=
  (mute_closeNow _).after ⟨rfl, rfl⟩

theorem mute_writeNext (t : TlsTunnelClient) : Mute t t.writeNext := by
  unfold writeNext
  split
  · exact ⟨rfl, rfl⟩
  · dsimp only
    split
    · exact (mute_closeNow _).after ⟨rfl, rfl⟩
    · exact ⟨rfl, rfl⟩

theorem mute_enqueueFrame (t : TlsTunnelClient) (f : Frame) : Mute t (t.enqueueFrame f).2 := by
  unfold enqueueFrame
  split
  · exact ⟨rfl, rfl⟩
  · split
    · dsimp only
      split
      · exact ⟨rfl, rfl⟩
      · exact (mute_writeNext _).after ⟨rfl, rfl⟩
    · exact ⟨rfl, rfl⟩
    · exact ⟨rfl, rfl⟩

theorem mute_enqueueAll (t : TlsTunnelClient) (fs : List Frame) : Mute t (t.enqueueAll fs).2 := by
  induction fs generalizing t with
  | nil => exact .refl t
  | cons f fs ih =>
    have hf := mute_enqueueFrame t f
    unfold enqueueAll
    split
    · rename_i t' heq
      rw [heq] at hf
      exact hf.trans (ih t')
    · exact hf

theorem mute_handleWrite (t : TlsTunnelClient) (error : Option ErrorCategory) :
    Mute t (t.handleWrite error) := by
  unfold handleWrite
  split
  · exact .refl t
  · split
    · exact mute_closeOnError t _
    · split
      · exact (mute_writeNext _).after ⟨rfl, rfl⟩
      · exact .refl t

theorem mute_startOnStrand (t : TlsTunnelClient) (sniConfigured : Bool) :
    Mute t (t.startOnStrand sniConfigured) := by
  unfold startOnStrand
  split
  · exact .refl t
  · dsimp only
    split
    · exact ⟨rfl, rfl⟩
    · exact (mute_closeForGood _).after ⟨rfl, rfl⟩

theorem mute_sendFrame (t : TlsTunnelClient) (made : Option Frame × ClientSessionController) :
    Mute t (t.sendFrame made) := by
  unfold sendFrame
  split
  · exact .refl t
  · split
    · exact ⟨rfl, rfl⟩
    · rename_i frame controller
      have hq : Mute t ({ t with controller }.enqueueFrame frame).2 :=
        (mute_enqueueFrame _ frame).after ⟨rfl, rfl⟩
      split
      · rename_i heq
        rwa [heq] at hq
      · rename_i heq
        rw [heq] at hq
        exact hq.trans (mute_closeNow _)
      · rename_i heq
        rwa [heq] at hq

theorem mute_stop (t : TlsTunnelClient) (code : UInt16) : Mute t (t.stop code) := by
  unfold stop
  split
  · exact .refl t
  · split
    · exact (mute_closeNow _).after ⟨rfl, rfl⟩
    · rename_i frame controller _
      have hq : Mute t ({ t with controller, closeAfterWrite := true }.enqueueFrame frame).2 :=
        (mute_enqueueFrame _ frame).after ⟨rfl, rfl⟩
      split
      · rename_i heq
        rwa [heq] at hq
      · rename_i heq
        rw [heq] at hq
        exact hq.trans (mute_closeNow _)
      · rename_i heq
        rwa [heq] at hq

/-- What a client has received, handled and passed on fits together: the frames are those on the wire,
and the packets those of the frames. While it goes on reading, or waits for a last read, nothing is
missing. -/
structure Delivered (t : TlsTunnelClient) : Prop where
  heard : t.handled <+: (frameParser.parse t.received).1
  passed : t.tun <+: dataOf t.handled
  whole : t.stopped = false → t.closeAfterWrite = false ∨ t.reading = true →
    t.tun = dataOf t.handled ∧ t.decoder.Decoded t.received t.handled

theorem delivered_create {name : Bytes} {mtu : UInt16} {frames bytes : Nat}
    (h : create name mtu frames bytes = .ok t) : t.Delivered := by
  simp only [create, bind_eq_ok] at h
  obtain ⟨c, -, q, -, -, -, ht⟩ := h
  obtain rfl := Except.ok.inj ht
  exact ⟨List.nil_prefix, List.nil_prefix, fun _ _ => ⟨rfl, FrameDecoder.decoded_fresh⟩⟩

/-- A client that has closed only keeps what it has. -/
theorem delivered_stopped (heard : t.handled <+: (frameParser.parse t.received).1)
    (passed : t.tun <+: dataOf t.handled) (hs : t.stopped = true) : t.Delivered :=
  ⟨heard, passed, fun hno => absurd (hs.symm.trans hno) (by decide)⟩

theorem Delivered.muted (h : t.Delivered) (hk : Kept t t') (hm : Mute t t') : t'.Delivered := by
  have hopen (hs : t'.stopped = false) : t.stopped = false := by
    apply Bool.eq_false_of_not_eq_true
    intro hno
    exact absurd ((hk.stopped hno).symm.trans hs) (by decide)
  have hgoes (hc : t'.closeAfterWrite = false) : t.closeAfterWrite = false := by
    apply Bool.eq_false_of_not_eq_true
    intro hno
    exact absurd ((hk.flushing hno).symm.trans hc) (by decide)
  refine ⟨?_, ?_, ?_⟩
  · rw [hk.handled, hk.received]
    exact h.heard
  · rw [hm.tun, hk.handled]
    exact h.passed
  · intro hs hor
    rw [hm.tun, hk.handled, hk.received, hk.decoder]
    rw [hm.reading] at hor
    exact h.whole (hopen hs) (hor.imp_left hgoes)

/-- Only a client that has not been asked to close begins to read. -/
theorem Delivered.readNext (h : t.Delivered) : t.readNext.Delivered := by
  unfold TlsTunnelClient.readNext
  split
  · exact h
  · rename_i hgoes
    simp only [Bool.or_eq_true, not_or, Bool.not_eq_true] at hgoes
    exact ⟨h.heard, h.passed, fun hs _ => h.whole hs (.inl hgoes.2)⟩

theorem Delivered.handleHandshake (h : t.Delivered) (error : Option ErrorCategory) :
    (t.handleHandshake error).Delivered := by
  have hover : Delivered { t with handshaking := false } := ⟨h.heard, h.passed, h.whole⟩
  unfold TlsTunnelClient.handleHandshake
  dsimp only
  split
  · exact hover
  · split
    · exact hover.muted (kept_closeOnError _ _) (mute_closeOnError _ _)
    · split
      · exact hover.muted ⟨rfl, rfl, rfl, id, id⟩ ⟨rfl, rfl⟩
      · rename_i frame controller _
        have hset : Delivered { t with handshaking := false, controller } :=
          hover.muted ⟨rfl, rfl, rfl, id, id⟩ ⟨rfl, rfl⟩
        have hq := hset.muted (kept_enqueueFrame _ frame) (mute_enqueueFrame _ frame)
        split
        · rename_i heq
          rw [heq] at hq
          exact hq.readNext
        · rename_i heq
          rw [heq] at hq
          exact hq.muted (kept_closeForGood _) (mute_closeForGood _)
        · rename_i heq
          rwa [heq] at hq

/-- The packets of a result are passed on as they are, and a result that asks to close leaves a client
that is closed, or closes behind its queue. -/
theorem applyOutput_passes (t : TlsTunnelClient) (result : ClientSessionResult) :
    (t.applyOutput result).tun = t.tun ++ result.packetsToTun ∧
      (t.applyOutput result).reading = t.reading ∧ (result.closeTransport = true →
        (t.applyOutput result).stopped = false → (t.applyOutput result).closeAfterWrite = true) := by
  have hall := mute_enqueueAll { t with tun := t.tun ++ result.packetsToTun } result.outboundFrames
  unfold applyOutput
  dsimp only
  split
  · rename_i heq
    rw [heq] at hall
    have hm := hall.trans (mute_closeForGood _)
    exact ⟨hm.tun, hm.reading, fun _ hs => absurd (hs.symm.trans (closeNow_stopped _)) (by decide)⟩
  · rename_i heq
    rw [heq] at hall
    have hm := hall.trans (mute_closeForGood _)
    exact ⟨hm.tun, hm.reading, fun _ hs => absurd (hs.symm.trans (closeNow_stopped _)) (by decide)⟩
  · rename_i t' heq
    rw [heq] at hall
    split
    · split
      · have hflag : Mute t' { t' with closeAfterWrite := true } := ⟨rfl, rfl⟩
        have hm := (hall.trans hflag).trans (mute_closeNow _)
        exact ⟨hm.tun, hm.reading,
          fun _ hs => absurd (hs.symm.trans (closeNow_stopped _)) (by decide)⟩
      · exact ⟨hall.tun, hall.reading, fun _ _ => rfl⟩
    · rename_i hclose
      exact ⟨hall.tun, hall.reading, fun hno => absurd hno hclose⟩

/-- The same with the assignment handler, which may refuse the assignment before any packet is passed
on. -/
theorem applyResult_passes (accepts : IpAssignment → Bool) (t : TlsTunnelClient)
    (result : ClientSessionResult) :
    ((t.applyResult accepts result).tun = t.tun ++ result.packetsToTun ∧
      (t.applyResult accepts result).reading = t.reading ∧ (result.closeTransport = true →
        (t.applyResult accepts result).stopped = false →
        (t.applyResult accepts result).closeAfterWrite = true)) ∨
    ((t.applyResult accepts result).tun = t.tun ∧
      (t.applyResult accepts result).reading = t.reading ∧
      (t.applyResult accepts result).stopped = true) := by
  have hrefused (t₁ : TlsTunnelClient) (htun : t₁.tun = t.tun) (hr : t₁.reading = t.reading) :
      t₁.closeForGood.tun = t.tun ∧ t₁.closeForGood.reading = t.reading ∧
        t₁.closeForGood.stopped = true := by
    have hm := mute_closeForGood t₁
    exact ⟨hm.tun.trans htun, hm.reading.trans hr, closeNow_stopped _⟩
  unfold applyResult
  cases result.remoteError with
  | none =>
    dsimp only
    split
    · split
      · exact .inl (applyOutput_passes _ _)
      · exact .inr (hrefused _ rfl rfl)
    · exact .inl (applyOutput_passes _ _)
  | some e =>
    dsimp only
    split
    · split
      · exact .inl (applyOutput_passes _ _)
      · exact .inr (hrefused _ rfl rfl)
    · exact .inl (applyOutput_passes _ _)

/-- One frame of the loop of `handle_read`. -/
theorem handleFrame_passes (hc : t.controller.Assigned) (accepts : IpAssignment → Bool) (f : Frame) :
    (t.handleFrame accepts f).reading = t.reading ∧
      ((t.handleFrame accepts f).tun = t.tun ++ dataOf [f] ∨
        ((t.handleFrame accepts f).tun = t.tun ∧ ((t.handleFrame accepts f).stopped = false →
          (t.handleFrame accepts f).closeAfterWrite = true))) := by
  obtain ⟨result, c', heq, hhandled⟩ := ClientSessionController.handle_handled hc f
  have hpackets := hhandled.packets
  simp only [handleFrame, heq]
  obtain ⟨htun, hreading, hcloses⟩ | ⟨htun, hreading, hstopped⟩ := applyResult_passes accepts
    { t with controller := c', handled := t.handled ++ [f], fault := faultOf result } result
  · refine ⟨hreading, ?_⟩
    obtain hsame | ⟨hnone, hclose⟩ := hpackets
    · rw [hsame] at htun
      exact .inl htun
    · rw [hnone, List.append_nil] at htun
      exact .inr ⟨htun, hcloses hclose⟩
  · exact ⟨hreading, .inr ⟨htun, fun hno => absurd (hstopped.symm.trans hno) (by decide)⟩⟩

end TlsTunnelClient

namespace ClientRun

variable {r : ClientRun}

/-- The loop of `handle_read` handles the frames from the first one on, and passes their packets on. -/
theorem Sound.passes (accepts : IpAssignment → Bool) (h : r.Sound) (hopen : r.client.stopped = false)
    (hwhole : r.client.tun = dataOf r.client.handled) (fs : List Frame) :
    let t := r.client.handleFrames accepts fs
    (∃ done, done <+: fs ∧ t.handled = r.client.handled ++ done) ∧
      t.received = r.client.received ∧ t.reading = r.client.reading ∧ t.tun <+: dataOf t.handled ∧
      (t.stopped = false → t.closeAfterWrite = false → t.tun = dataOf t.handled) := by
  induction fs generalizing r with
  | nil => exact ⟨⟨[], List.prefix_rfl, by simp [TlsTunnelClient.handleFrames]⟩, rfl, rfl,
      by rw [TlsTunnelClient.handleFrames, hwhole], fun _ _ => hwhole⟩
  | cons f fs ih =>
    have hnext := h.called hopen (.handle f)
      (TlsTunnelClient.acted_handleFrame hopen (h.busy hopen).1 h.fit accepts f)
    have hkept := TlsTunnelClient.kept_handleFrame accepts r.client f
    obtain ⟨hreading, htun⟩ := TlsTunnelClient.handleFrame_passes h.fit.assigned accepts f
    have hhandled : (r.client.handleFrame accepts f).handled = r.client.handled ++ [f] :=
      hkept.handled
    have hpassed : (r.client.handleFrame accepts f).tun <+:
        dataOf (r.client.handleFrame accepts f).handled := by
      rw [hhandled, dataOf_append]
      obtain hsame | ⟨hsame, -⟩ := htun
      · rw [hsame, hwhole]
      · rw [hsame, hwhole]
        exact List.prefix_append _ _
    have hequal (hs : (r.client.handleFrame accepts f).stopped = false)
        (hc : (r.client.handleFrame accepts f).closeAfterWrite = false) :
        (r.client.handleFrame accepts f).tun =
          dataOf (r.client.handleFrame accepts f).handled := by
      rw [hhandled, dataOf_append]
      obtain hsame | ⟨-, hcloses⟩ := htun
      · rw [hsame, hwhole]
      · exact absurd ((hcloses hs).symm.trans hc) (by decide)
    intro t
    simp only [t, TlsTunnelClient.handleFrames]
    split
    · exact ⟨⟨[f], by simp, hhandled⟩, hkept.received, hreading, hpassed, hequal⟩
    · rename_i hgoes
      simp only [Bool.or_eq_true, not_or, Bool.not_eq_true] at hgoes
      obtain ⟨⟨done, hdone, hall⟩, hreceived, hreading', hrest⟩ :=
        ih hnext hgoes.1 (hequal hgoes.1 hgoes.2)
      refine ⟨⟨f :: done, ?_, ?_⟩, hreceived.trans hkept.received, hreading'.trans hreading, hrest⟩
      · exact (List.prefix_cons_inj f).mpr hdone
      · dsimp only at hall
        rw [hall, hhandled, List.append_assoc, List.singleton_append]

/-- The invariant of a run, with what the client has passed on. -/
structure Delivering (r : ClientRun) : Prop extends r.Sound where
  delivered : r.client.Delivered

theorem delivering_create {name : Bytes} {mtu : UInt16} {frames bytes : Nat} {t : TlsTunnelClient}
    (h : TlsTunnelClient.create name mtu frames bytes = .ok t) : Delivering { client := t } where
  toSound := sound_create h
  delivered := TlsTunnelClient.delivered_create h

theorem Delivering.handleRead (h : r.Delivering) (accepts : IpAssignment → Bool)
    (hopen : r.client.stopped = false) (hread : r.client.reading = true)
    (read : Except ErrorCategory Bytes) : (r.client.handleRead accepts read).Delivered := by
  have hd := h.delivered
  obtain ⟨hwhole, hdecoded⟩ := hd.whole hopen (.inr hread)
  unfold TlsTunnelClient.handleRead
  dsimp only
  rw [if_neg (by simp [hopen])]
  cases read with
  | error error =>
    have hm := TlsTunnelClient.mute_closeOnError { r.client with reading := false } error
    have hk := TlsTunnelClient.kept_closeOnError { r.client with reading := false } error
    refine TlsTunnelClient.delivered_stopped ?_ ?_ (TlsTunnelClient.closeNow_stopped _)
    · rw [hk.handled, hk.received]
      exact hd.heard
    · rw [hm.tun, hk.handled]
      exact hd.passed
  | ok data =>
    dsimp only
    split
    · rename_i e decoder hpush
      have hm := TlsTunnelClient.mute_closeForGood { r.client with
        reading := false, received := r.client.received ++ data, decoder
        fault := some .undecodable }
      have hk := TlsTunnelClient.kept_closeForGood { r.client with
        reading := false, received := r.client.received ++ data, decoder
        fault := some .undecodable }
      refine TlsTunnelClient.delivered_stopped ?_ ?_ (TlsTunnelClient.closeNow_stopped _)
      · rw [hk.handled, hk.received]
        exact hd.heard.trans (StreamParser.parse_prefix _ _)
      · rw [hm.tun, hk.handled]
        exact hd.passed
    · rename_i frames decoder hpush
      have h' : Sound { r with client := { r.client with
          reading := false, received := r.client.received ++ data, decoder } } :=
        ⟨h.books, h.fit, h.phase⟩
      have hdecoded' := hdecoded.push hpush
      obtain ⟨⟨done, hdone, hall⟩, hreceived, hreading, hpassed, hequal⟩ :=
        h'.passes accepts hopen hwhole frames
      apply TlsTunnelClient.Delivered.readNext
      refine ⟨?_, hpassed, ?_⟩
      · rw [hreceived, hall, hdecoded'.2]
        exact (List.prefix_append_right_inj _).mpr hdone
      · intro hs hor
        have hc := hor.resolve_right (by simp [hreading])
        have hk := TlsTunnelClient.handleFrames_open accepts _ frames hs hc
        refine ⟨hequal hs hc, ?_⟩
        rw [hk.decoder, hk.received, hk.handled]
        exact hdecoded'

/-- One event. -/
theorem Delivering.step (accepts : IpAssignment → Bool) (h : r.Delivering) (e : ClientEvent) :
    (r.step accepts e).Delivering := by
  refine ⟨h.toSound.step accepts e, ?_⟩
  have hd := h.delivered
  obtain ⟨hopen, -⟩ | ⟨hstopped, -⟩ := h.phase
  · unfold ClientRun.step handle
    cases e with
    | start sniConfigured =>
      exact hd.muted (TlsTunnelClient.kept_startOnStrand _ _) (TlsTunnelClient.mute_startOnStrand _ _)
    | handshake error =>
      simp only [TlsTunnelClient.step]
      split
      · exact hd.handleHandshake error
      · exact hd
    | read read =>
      simp only [TlsTunnelClient.step]
      split
      · rename_i hread
        exact h.handleRead accepts hopen hread read
      · exact hd
    | write error =>
      dsimp only
      split
      · exact hd.muted (TlsTunnelClient.kept_handleWrite _ _) (TlsTunnelClient.mute_handleWrite _ _)
      · exact hd
    | sendIpv4 packet =>
      exact hd.muted (TlsTunnelClient.kept_sendFrame _ _) (TlsTunnelClient.mute_sendFrame _ _)
    | ping nonce =>
      exact hd.muted (TlsTunnelClient.kept_sendFrame _ _) (TlsTunnelClient.mute_sendFrame _ _)
    | stop code => exact hd.muted (TlsTunnelClient.kept_stop _ _) (TlsTunnelClient.mute_stop _ _)
    | abort => exact hd.muted (TlsTunnelClient.kept_closeNow _) (TlsTunnelClient.mute_closeNow _)
  · obtain ⟨handshaking, reading, heq⟩ := step_stopped accepts hstopped e
    rw [heq]
    exact TlsTunnelClient.delivered_stopped hd.heard hd.passed hstopped

end ClientRun

namespace TlsTunnelClient

theorem handleFrames_received (accepts : IpAssignment → Bool) (t : TlsTunnelClient)
    (fs : List Frame) : (t.handleFrames accepts fs).received = t.received := by
  induction fs generalizing t with
  | nil => rfl
  | cons f fs ih =>
    have hkept := kept_handleFrame accepts t f
    unfold TlsTunnelClient.handleFrames
    dsimp only
    split
    · exact hkept.received
    · exact (ih _).trans hkept.received

/-- Bytes are received in a completed read, and only those of that read. -/
theorem step_received (accepts : IpAssignment → Bool) (t : TlsTunnelClient) (e : ClientEvent) :
    (t.step accepts e).received = t.received ∨
      ∃ data, e = .read (.ok data) ∧ (t.step accepts e).received = t.received ++ data := by
  cases e with
  | read read =>
    unfold step
    dsimp only
    split
    · unfold TlsTunnelClient.handleRead
      dsimp only
      split
      · exact .inl rfl
      cases read with
      | error error => exact .inl (kept_closeOnError _ error).received
      | ok data =>
        refine .inr ⟨data, rfl, ?_⟩
        dsimp only
        split
        · exact (kept_closeForGood _).received
        · exact (kept_readNext _).received.trans (handleFrames_received accepts _ _)
    · exact .inl rfl
  | start sniConfigured => exact .inl (kept_startOnStrand t sniConfigured).received
  | handshake error =>
    left
    unfold step
    dsimp only
    split
    · exact (kept_handleHandshake t error).received
    · rfl
  | write error =>
    left
    unfold step
    dsimp only
    split
    · exact (kept_handleWrite t error).received
    · rfl
  | sendIpv4 packet => exact .inl (kept_sendFrame t _).received
  | ping nonce => exact .inl (kept_sendFrame t _).received
  | stop code => exact .inl (kept_stop t code).received
  | abort => exact .inl (kept_closeNow t).received

end TlsTunnelClient

/-- Bytes are received in a completed read, and only those of that read. -/
theorem ClientRun.step_received (accepts : IpAssignment → Bool) (r : ClientRun) (e : ClientEvent) :
    (r.step accepts e).client.received = r.client.received ∨
      ∃ data, e = .read (.ok data) ∧
        (r.step accepts e).client.received = r.client.received ++ data := by
  unfold ClientRun.step handle
  dsimp only
  split
  · left
    split
    · exact (TlsTunnelClient.kept_handleWrite _ _).received
    · rfl
  · exact TlsTunnelClient.step_received accepts r.client e

/-- The packets from the TUN device that an event offers to the client. -/
def ClientEvent.offered : ClientEvent → List Bytes
  | .sendIpv4 packet => [packet]
  | _ => []

namespace TlsTunnelClient

/-- The packet that a call of the controller frames is the one it is given. -/
theorem dataOf_made {c : ClientSessionController} (hc : ClientHistory.Fit c) (call : ClientCall)
    (hcall : ∀ packet, call ≠ .makeDataToServer packet) :
    dataOf (ClientHistory.made c call) = [] := by
  unfold ClientHistory.made
  cases call with
  | start =>
    by_cases hst : c.state = .idle
    · have hencode := (encodeClientHello_ok_iff (clientHello c.requestedMtu) _).mpr ⟨hc.hello, rfl⟩
      simp only [ClientHistory.answer, ClientSessionController.start_ok hst hencode, Except.map,
        ClientEntry.frames]
      exact dataOf_eq_nil (by simp)
    · simp [ClientHistory.answer, ClientSessionController.start, hst, Except.map,
        ClientEntry.frames, dataOf]
  | handle frame =>
    obtain ⟨r, c', heq, hh⟩ := ClientSessionController.handle_handled hc.assigned frame
    simp only [ClientHistory.answer, heq, ClientEntry.frames]
    exact hh.dataOf_frames
  | makeDataToServer packet => exact absurd rfl (hcall packet)
  | makePing nonce =>
    obtain heq | ⟨-, -, heq⟩ := c.makePing_cases nonce
    · simp [ClientHistory.answer, heq, ClientEntry.frames, dataOf]
    · simp only [ClientHistory.answer, heq, ClientEntry.frames]
      exact dataOf_eq_nil (by simp)
  | makeClose code =>
    obtain heq | ⟨-, heq⟩ := c.makeClose_cases code
    · simp [ClientHistory.answer, heq, ClientEntry.frames, dataOf]
    · simp only [ClientHistory.answer, heq, ClientEntry.frames]
      exact dataOf_eq_nil (by simp)
  | onTransportClosed => rfl

theorem dataOf_makeDataToServer {c : ClientSessionController} (hc : ClientHistory.Fit c)
    (packet : Bytes) : (dataOf (ClientHistory.made c (.makeDataToServer packet))).Sublist [packet] := by
  unfold ClientHistory.made
  obtain heq | ⟨a, type, -, -, hpass, heq⟩ := c.makeDataToServer_cases hc.assigned packet
  · simp [ClientHistory.answer, heq, ClientEntry.frames, dataOf]
  · simp only [ClientHistory.answer, heq, ClientEntry.frames, Option.toList_some]
    rw [dataOf_single (type_of_passes hpass)]

end TlsTunnelClient

namespace ClientRun

variable {r : ClientRun}

/-- The answers of the loop of `handle_read` carry no packets. -/
theorem Sound.dataOf_framesRead (accepts : IpAssignment → Bool) (h : r.Sound)
    (hopen : r.client.stopped = false) (fs : List Frame) :
    dataOf (r.client.framesRead accepts fs) = [] := by
  induction fs generalizing r with
  | nil => rfl
  | cons f fs ih =>
    have hnext := h.called hopen (.handle f)
      (TlsTunnelClient.acted_handleFrame hopen (h.busy hopen).1 h.fit accepts f)
    rw [TlsTunnelClient.framesRead, dataOf_append,
      TlsTunnelClient.dataOf_made h.fit (.handle f) (by simp), List.nil_append]
    split
    · rfl
    · rename_i hgoes
      simp only [Bool.or_eq_true, not_or, Bool.not_eq_true] at hgoes
      exact ih hnext hgoes.1

/-- The packets that the controller frames in an event are the ones it is offered. -/
theorem Sound.dataOf_framesMade (accepts : IpAssignment → Bool) (h : r.Sound) (e : ClientEvent) :
    (dataOf (r.client.framesMade accepts e)).Sublist e.offered := by
  have hnil {fs : List Frame} (hfs : dataOf fs = []) : (dataOf fs).Sublist e.offered := by
    rw [hfs]
    exact List.nil_sublist _
  have hmade (call : ClientCall) (hcall : ∀ packet, call ≠ .makeDataToServer packet)
      (busy : Bool) : dataOf (if busy then [] else ClientHistory.made r.client.controller call) = [] := by
    cases busy with
    | true => rfl
    | false => exact TlsTunnelClient.dataOf_made h.fit call hcall
  cases e with
  | start sniConfigured => exact hnil rfl
  | handshake error =>
    cases error with
    | some error => exact hnil rfl
    | none =>
      apply hnil
      rw [TlsTunnelClient.framesMade]
      split
      · exact TlsTunnelClient.dataOf_made h.fit .start (by simp)
      · rfl
  | read read =>
    apply hnil
    cases read with
    | error error => rfl
    | ok data =>
      rw [TlsTunnelClient.framesMade]
      split
      · rename_i hgoes
        have hopen : r.client.stopped = false := by simpa using (Bool.and_eq_true_iff.mp hgoes).2
        split
        · rename_i frames decoder hpush
          have h' : Sound { r with client := { r.client with
              reading := false, received := r.client.received ++ data, decoder } } :=
            ⟨h.books, h.fit, h.phase⟩
          exact h'.dataOf_framesRead accepts hopen frames
        · rfl
      · rfl
  | write error => exact hnil rfl
  | sendIpv4 packet =>
    rw [TlsTunnelClient.framesMade, ClientEvent.offered]
    split
    · exact List.nil_sublist _
    · exact TlsTunnelClient.dataOf_makeDataToServer h.fit packet
  | ping nonce => exact hnil (hmade (.makePing nonce) (by simp) _)
  | stop code => exact hnil (hmade (.makeClose code) (by simp) _)
  | abort => exact hnil rfl

end ClientRun

end PersonalVpn.Client
