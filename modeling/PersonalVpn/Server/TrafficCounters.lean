import PersonalVpn.Server.SessionWrites
import PersonalVpn.Server.TlsTunnelServer

namespace PersonalVpn.Server

open PersonalVpn.Core Protocol

/-- The counters of the traffic. -/
@[ext]
structure Traffic where
  uplinkPackets : UInt64
  uplinkBytes : UInt64
  downlinkPackets : UInt64
  downlinkBytes : UInt64
  queueOverflows : UInt64
  deriving DecidableEq, Repr

namespace Traffic

instance : Add Traffic where
  add a b := ⟨a.uplinkPackets + b.uplinkPackets, a.uplinkBytes + b.uplinkBytes,
    a.downlinkPackets + b.downlinkPackets, a.downlinkBytes + b.downlinkBytes,
    a.queueOverflows + b.queueOverflows⟩

theorem add_def (a b : Traffic) : a + b = ⟨a.uplinkPackets + b.uplinkPackets,
    a.uplinkBytes + b.uplinkBytes, a.downlinkPackets + b.downlinkPackets,
    a.downlinkBytes + b.downlinkBytes, a.queueOverflows + b.queueOverflows⟩ := rfl

theorem add_assoc (a b c : Traffic) : a + b + c = a + (b + c) := by
  simp only [add_def, UInt64.add_assoc]

def isData (f : Frame) : Bool := f.type = .dataIpv4 || f.type = .dataIpv6

/-- What the counters should read once these packets have gone to the sink, and these frames have
been taken and refused by outbound queues. -/
def tally (packets : List Bytes) (queued refused : List Frame) : Traffic where
  uplinkPackets := UInt64.ofNat packets.length
  uplinkBytes := UInt64.ofNat (packets.map List.length).sum
  downlinkPackets := UInt64.ofNat (queued.countP isData)
  downlinkBytes := UInt64.ofNat ((queued.filter isData).map (·.payload.length)).sum
  queueOverflows := UInt64.ofNat refused.length

theorem tally_append (ps ps' : List Bytes) (fs fs' gs gs' : List Frame) :
    tally (ps ++ ps') (fs ++ fs') (gs ++ gs') = tally ps fs gs + tally ps' fs' gs' := by
  simp [tally, add_def]

theorem add_tally_nil (a : Traffic) : a + tally [] [] [] = a := by simp [add_def, tally]

/-- A frame that carries a packet, taken or refused, shows in the tally. -/
theorem add_tally_frame (a : Traffic) {f : Frame} (hf : isData f = true) :
    a + tally [] [f] [] ≠ a ∧ a + tally [] [] [f] ≠ a := by
  constructor
  · intro h
    have hdown := congrArg downlinkPackets h
    simp [add_def, tally, hf] at hdown
  · intro h
    have hover := congrArg queueOverflows h
    simp [add_def, tally] at hover

end Traffic

def ServerMetrics.traffic (m : ServerMetrics) : Traffic :=
  ⟨m.uplinkPackets, m.uplinkBytes, m.downlinkPackets, m.downlinkBytes, m.queueOverflows⟩

/-- `sunk` is what the packet sink has been given, and the other handlers leave it alone. -/
structure Handlers.Sinks {σ : Type} (h : Handlers σ) (sunk : σ → List Bytes) : Prop where
  packetSink : ∀ packet x, sunk (h.packetSink packet x) = sunk x ++ [packet]
  established : ∀ lease x, sunk (h.established lease x).2 = sunk x
  closed : ∀ lease x, sunk (h.closed lease x) = sunk x

namespace TlsTunnelSession

open Traffic

variable {σ : Type} {h : Handlers σ} {sunk : σ → List Bytes} {s s' s'' : TlsTunnelSession}
  {w w' w'' : Shared σ}

/-- What an event adds to the counters is what it moves. -/
def Metered (sunk : σ → List Bytes) (s : TlsTunnelSession) (w : Shared σ) (s' : TlsTunnelSession)
    (w' : Shared σ) : Prop :=
  ∃ packets taken turned, sunk w'.outside = sunk w.outside ++ packets ∧
    s'.queued = s.queued ++ taken ∧ s'.refused = s.refused ++ turned ∧
    w'.metrics.traffic = w.metrics.traffic + tally packets taken turned

theorem Metered.same (hx : sunk w'.outside = sunk w.outside) (hq : s'.queued = s.queued)
    (hr : s'.refused = s.refused) (hm : w'.metrics.traffic = w.metrics.traffic) :
    Metered sunk s w s' w' :=
  ⟨[], [], [], by simp [hx], by simp [hq], by simp [hr], by rw [hm, add_tally_nil]⟩

theorem Metered.refl (s : TlsTunnelSession) (w : Shared σ) : Metered sunk s w s w :=
  .same rfl rfl rfl rfl

theorem Metered.trans (h₁ : Metered sunk s w s' w') (h₂ : Metered sunk s' w' s'' w'') :
    Metered sunk s w s'' w'' := by
  obtain ⟨packets, taken, turned, hx, hq, hr, hm⟩ := h₁
  obtain ⟨packets', taken', turned', hx', hq', hr', hm'⟩ := h₂
  refine ⟨packets ++ packets', taken ++ taken', turned ++ turned', ?_, ?_, ?_, ?_⟩
  · rw [hx', hx, List.append_assoc]
  · rw [hq', hq, List.append_assoc]
  · rw [hr', hr, List.append_assoc]
  · rw [hm', hm, add_assoc, tally_append]

@[simp] theorem closeNow_queued (s : TlsTunnelSession) : s.closeNow.queued = s.queued := by
  unfold closeNow
  split <;> rfl

@[simp] theorem closeNow_refused (s : TlsTunnelSession) : s.closeNow.refused = s.refused := by
  unfold closeNow
  split <;> rfl

theorem Metered.closeNow (h₁ : Metered sunk s w s' w') : Metered sunk s w s'.closeNow w' := by
  simpa [Metered] using h₁

theorem writeNext_histories (s : TlsTunnelSession) :
    s.writeNext.queued = s.queued ∧ s.writeNext.refused = s.refused := by
  unfold writeNext
  split
  · exact ⟨rfl, rfl⟩
  · dsimp only
    split
    · simp
    · exact ⟨rfl, rfl⟩

theorem readNext_histories (s : TlsTunnelSession) :
    s.readNext.queued = s.queued ∧ s.readNext.refused = s.refused := by
  unfold readNext
  split
  · exact ⟨rfl, rfl⟩
  · exact ⟨rfl, rfl⟩

theorem continueReading_histories (s : TlsTunnelSession) :
    s.continueReading.queued = s.queued ∧ s.continueReading.refused = s.refused := by
  unfold continueReading
  split
  · exact ⟨rfl, rfl⟩
  · split
    · exact readNext_histories s
    · exact ⟨rfl, rfl⟩

/-- An open session offers a frame to its queue, which takes it, refuses it or throws. -/
theorem enqueueFrame_histories (hs : s.stopped = false) (f : Frame) :
    let after := s.enqueueFrame f
    (after.1 = .ok true ∧ after.2.queued = s.queued ++ [f] ∧ after.2.refused = s.refused) ∨
      (after.1 = .ok false ∧ after.2.queued = s.queued ∧ after.2.refused = s.refused ++ [f]) ∨
      (∃ e, after.1 = .error e ∧ after.2.queued = s.queued ∧ after.2.refused = s.refused) := by
  unfold enqueueFrame
  rw [if_neg (by simp [hs])]
  split
  · dsimp only
    split
    · exact .inl ⟨rfl, rfl, rfl⟩
    · obtain ⟨hq, hr⟩ := writeNext_histories
        { s with outboundQueue := _, queued := s.queued ++ [f] }
      exact .inl ⟨rfl, hq, hr⟩
  · exact .inr (.inl ⟨rfl, rfl, rfl⟩)
  · rename_i e _ _
    exact .inr (.inr ⟨e, rfl, rfl, rfl⟩)

theorem enqueueFrame_wellFormed (s : TlsTunnelSession) {f : Frame} (hf : WellFormed f)
    (e : Exception) : (s.enqueueFrame f).1 ≠ .error e := by
  have he := s.outboundQueue.tryEnqueue_enqueued f
  unfold enqueueFrame
  split
  · simp
  · split
    · simp
    · simp
    · rename_i e' q heq
      rw [heq] at he
      cases he with
      | malformed hno => exact absurd hf hno

/-- The packets of a result go to the sink and are counted. -/
theorem deliver_traffic (hh : h.Sinks sunk) (w : Shared σ) (packets : List Bytes) :
    sunk (deliver h w packets).outside = sunk w.outside ++ packets ∧
      (deliver h w packets).metrics.traffic = w.metrics.traffic + tally packets [] [] := by
  induction packets generalizing w with
  | nil => simp [deliver, add_tally_nil]
  | cons packet packets ih =>
    obtain ⟨hx, hm⟩ := ih { w with
      metrics := { w.metrics with
        uplinkPackets := w.metrics.uplinkPackets + 1
        uplinkBytes := w.metrics.uplinkBytes + UInt64.ofNat packet.length }
      outside := h.packetSink packet w.outside }
    refine ⟨?_, ?_⟩
    · rw [deliver, hx, hh.packetSink, List.append_assoc, List.singleton_append]
    · have hcons : tally (packet :: packets) [] [] = tally [packet] [] [] + tally packets [] [] :=
        tally_append [packet] packets [] [] [] []
      rw [deliver, hm, hcons, ← add_assoc]
      simp [ServerMetrics.traffic, add_def, tally]

/-- What `apply_result` counts for a result of a controller, which has at most one frame, and none
that carries a packet. -/
theorem applyResult_metered (hh : h.Sinks sunk) (hs : s.stopped = false) (w : Shared σ)
    {r : SessionResult}
    (hframes : r.outboundFrames = [] ∨ ∃ f, r.outboundFrames = [f] ∧ isData f = false) :
    Metered sunk s w (s.applyResult h w r).1 (s.applyResult h w r).2 := by
  obtain ⟨hx, hm⟩ := deliver_traffic hh w r.packetsToTun
  have hdelivered : Metered sunk s w s (deliver h w r.packetsToTun) :=
    ⟨r.packetsToTun, [], [], hx, by simp, by simp, hm⟩
  refine hdelivered.trans ?_
  unfold applyResult
  generalize deliver h w r.packetsToTun = w₁
  have hend (s₁ : TlsTunnelSession) (hmetered : Metered sunk s w₁ s₁ w₁) :
      let after := if r.closeTransport then
          let s := { s₁ with closeAfterWrite := true }
          (if !s.writeInProgress && s.outboundQueue.queue.isEmpty then s.closeNow else s, w₁)
        else (s₁, w₁)
      Metered sunk s w₁ after.1 after.2 := by
    intro after
    have hflag : Metered sunk s w₁ { s₁ with closeAfterWrite := true } w₁ := hmetered
    simp only [after]
    split
    · dsimp only
      split
      · exact hflag.closeNow
      · exact hflag
    · exact hmetered
  obtain hnone | ⟨f, hone, hf⟩ := hframes
  · simp only [hnone, enqueueAll]
    exact hend s (.refl s w₁)
  · simp only [hone, enqueueAll]
    have hcases := enqueueFrame_histories hs f
    generalize s.enqueueFrame f = after at hcases ⊢
    obtain ⟨answer, s₁⟩ := after
    dsimp only at hcases
    obtain ⟨htaken, hq, hr⟩ | ⟨hfull, hq, hr⟩ | ⟨e, herror, hq, hr⟩ := hcases
    · rw [htaken]
      refine hend s₁ ⟨[], [f], [], by simp, hq, by simp [hr], ?_⟩
      simp [add_def, tally, hf]
    · rw [hfull]
      refine Metered.closeNow ⟨[], [], [f], by simp, by simp [hq], hr, ?_⟩
      simp [ServerMetrics.traffic, add_def, tally]
    · rw [herror]
      exact Metered.closeNow (.same rfl hq hr rfl)

theorem conclude_metered (hh : h.Sinks sunk) (hs : s.stopped = false) (w : Shared σ)
    (c : SessionController) {r : SessionResult}
    (hframes : r.outboundFrames = [] ∨ ∃ f, r.outboundFrames = [f] ∧ isData f = false) :
    Metered sunk s w (s.conclude h w c r).1 (s.conclude h w c r).2 := by
  have hannounce : (s.announce h w c).2.1.stopped = false ∧
      Metered sunk s w (s.announce h w c).2.1 (s.announce h w c).2.2 := by
    unfold announce
    split
    · rename_i lease _ _ _
      have hx := hh.established lease w.outside
      dsimp only
      split
      · rename_i heq
        rw [heq] at hx
        exact ⟨hs, .same hx rfl rfl rfl⟩
      · rename_i heq
        rw [heq] at hx
        refine ⟨hs, .same hx rfl rfl ?_⟩
        dsimp only
        split <;> rfl
    · exact ⟨hs, .refl s w⟩
  unfold conclude
  generalize s.announce h w c = after at hannounce ⊢
  obtain ⟨ok, s₁, w₁⟩ := after
  cases ok with
  | false => exact hannounce.2.closeNow
  | true => exact hannounce.2.trans (applyResult_metered hh hannounce.1 w₁ hframes)

theorem handleNextFrame_metered (hh : h.Sinks sunk) (hs : s.Sound)
    (hc : ∀ c, s.controller = some c → c.Holds) (w : Shared σ) (now : TimePoint) :
    Metered sunk s w (s.handleNextFrame h w now).1 (s.handleNextFrame h w now).2 := by
  unfold handleNextFrame
  split
  · exact .refl s w
  · rename_i f rest hi
    have hopen : s.stopped = false := hs.busy (by simp [hi])
    have hreads {s₁ : TlsTunnelSession} {w₁ : Shared σ} (hmetered : Metered sunk s w s₁ w₁) :
        Metered sunk s w s₁.continueReading w₁ := by
      obtain ⟨hq, hr⟩ := continueReading_histories s₁
      exact hmetered.trans (.same rfl hq hr rfl)
    apply hreads
    unfold handleFrame
    split
    · exact .same rfl rfl rfl rfl
    · rename_i c hctl
      obtain ⟨r, c', m', heq, hhandled⟩ :=
        SessionController.handle_handled (hc c hctl) w.manager f now
      have hframes : r.outboundFrames = [] ∨ ∃ f, r.outboundFrames = [f] ∧ isData f = false := by
        cases hhandled with
        | inert => exact .inl rfl
        | failed => exact .inr ⟨_, rfl, rfl⟩
        | granted => exact .inr ⟨_, rfl, rfl⟩
        | packet => exact .inl rfl
        | pong => exact .inr ⟨_, rfl, rfl⟩
        | closed => exact .inl rfl
      simp only [heq]
      have hkept : Metered sunk s w { s with
          inbound := rest, controller := some c', handled := s.handled ++ [f] }
          { w with manager := m' } := .same rfl rfl rfl rfl
      exact hkept.trans (conclude_metered (s := { s with
        inbound := rest, controller := some c', handled := s.handled ++ [f] }) hh hopen _ c' hframes)

theorem handleRead_metered (s : TlsTunnelSession) (w : Shared σ) (read : Option Bytes) :
    Metered sunk s w (s.handleRead read) w := by
  have hcases := handleRead_cases s read
  generalize s.handleRead read = s' at hcases ⊢
  cases hcases with
  | stopped => exact .same rfl rfl rfl rfl
  | ended => exact Metered.closeNow (.same rfl rfl rfl rfl)
  | malformed => exact Metered.closeNow (.same rfl rfl rfl rfl)
  | @frames live data frames decoder push =>
    obtain ⟨hq, hr⟩ := continueReading_histories { s with
      reading := false, received := s.received ++ data, decoder, inbound := frames }
    exact .same rfl hq hr rfl

theorem handleWrite_metered (s : TlsTunnelSession) (w : Shared σ) (failed : Bool) :
    Metered sunk s w (s.handleWrite failed) w := by
  unfold handleWrite
  split
  · exact .refl s w
  split
  · exact Metered.closeNow (.refl s w)
  · split
    · rename_i outboundQueue _
      obtain ⟨hq, hr⟩ := writeNext_histories { s with outboundQueue }
      exact .same rfl hq hr rfl
    · exact .refl s w

theorem handleHandshake_metered (s : TlsTunnelSession) (w : Shared σ)
    (fingerprint : Option Bytes) : Metered sunk s w (s.handleHandshake w fingerprint).1
      (s.handleHandshake w fingerprint).2 := by
  have hcases := handleHandshake_cases s w fingerprint
  generalize s.handleHandshake w fingerprint = after at hcases ⊢
  cases hcases with
  | stopped => exact .refl s w
  | anonymous => exact Metered.closeNow (.same rfl rfl rfl rfl)
  | refused => exact Metered.closeNow (.refl s w)
  | @opened live identity c create =>
    obtain ⟨hq, hr⟩ := readNext_histories { s with controller := some c }
    exact .same rfl hq hr rfl

theorem closeStep_metered (hh : h.Sinks sunk) (s : TlsTunnelSession) (w : Shared σ) :
    Metered sunk s w (s.closeStep h w).1 (s.closeStep h w).2 := by
  have hcases := closeStep_cases h s w
  generalize s.closeStep h w = after at hcases ⊢
  cases hcases with
  | cleared => exact .same rfl rfl rfl rfl
  | released => exact .same rfl rfl rfl rfl
  | notified => exact .same (hh.closed _ _) rfl rfl rfl
  | idle => exact .refl s w

/-- The session has an established controller with a lease that can be renewed, and the packet is one
for its client. -/
def Transmits (s : TlsTunnelSession) (m : LeaseManager) (packet : Bytes) (now : TimePoint) : Prop :=
  s.inbound = [] ∧ s.stopped = false ∧ ∃ c l type, s.controller = some c ∧
    c.state = .established ∧ c.lease = some l ∧ (m.renew l now).1.isSome = true ∧
    SessionController.Delivers c.negotiatedMtu l type packet

/-- `s'` is `s` after its queue was offered a frame that carries the packet, and took it or refused
it. -/
def Offered (s : TlsTunnelSession) (packet : Bytes) (taken : Bool) (s' : TlsTunnelSession) : Prop :=
  ∃ f, isData f = true ∧ f.payload = packet ∧
    s'.queued = s.queued ++ (if taken then [f] else []) ∧
    s'.refused = s.refused ++ (if taken then [] else [f])

theorem transmits_iff {c : SessionController} (hi : s.inbound = []) (hs : s.stopped = false)
    (hc : s.controller = some c) (m : LeaseManager) (packet : Bytes) (now : TimePoint) :
    s.Transmits m packet now ↔ (c.makeDataToClient m packet now).1.isSome = true := by
  rw [SessionController.makeDataToClient_isSome]
  constructor
  · rintro ⟨-, -, c', l, type, hc', hst, hl, hr, hd⟩
    cases hc.symm.trans hc'
    exact ⟨l, type, hst, hl, hr, hd⟩
  · intro ⟨l, type, hst, hl, hr, hd⟩
    exact ⟨hi, hs, c, l, type, hc, hst, hl, hr, hd⟩

/-- The frame made of a packet carries it, and can be encoded. -/
theorem makeDataToClient_frame {c c' : SessionController} {m m' : LeaseManager} {packet : Bytes}
    {now : TimePoint} {f : Frame} (heq : c.makeDataToClient m packet now = (some f, c', m')) :
    isData f = true ∧ f.payload = packet ∧ WellFormed f := by
  obtain ⟨r, c₁, m₁, heq₁, hsent⟩ := SessionController.makeDataToClient_sent c m packet now
  cases heq.symm.trans heq₁
  have hmtu : c.negotiatedMtu.toNat ≤ kMaxPayloadSize :=
    Nat.le_of_lt_succ c.negotiatedMtu.toNat_lt
  cases hsent with
  | sent state lease renew delivers =>
    obtain ⟨ht, -, hlen, -⟩ | ⟨ht, -, hlen, -⟩ := delivers
    · exact ⟨by simp [isData, ht], rfl, rfl, hlen.trans hmtu⟩
    · exact ⟨by simp [isData, ht], rfl, rfl, hlen.trans hmtu⟩

/-- What a packet from the TUN device comes to. -/
theorem sendFromTun_counted (overflow sent : ServerMetrics → ServerMetrics) (hi : s.inbound = [])
    (w : Shared σ) (packet : Bytes) (now : TimePoint) :
    let after := s.sendFromTun overflow sent w packet now
    after.2.outside = w.outside ∧
      ((¬s.Transmits w.manager packet now ∧ after.1.queued = s.queued ∧
          after.1.refused = s.refused ∧ after.2.metrics = w.metrics) ∨
        (s.Transmits w.manager packet now ∧
          (s.Offered packet true after.1 ∧ after.2.metrics = sent w.metrics ∨
            s.Offered packet false after.1 ∧ after.2.metrics = overflow w.metrics))) := by
  have hcases := sendFromTun_cases overflow sent s w packet now
  generalize s.sendFromTun overflow sent w packet now = after at hcases ⊢
  cases hcases with
  | ignored absent =>
    refine ⟨rfl, .inl ⟨?_, rfl, rfl, rfl⟩⟩
    rintro ⟨-, hs, c, l, type, hc, -⟩
    cases hc.symm.trans (absent hs)
  | dropped live old make =>
    have hiff := transmits_iff hi live old w.manager packet now
    exact ⟨rfl, .inl ⟨by simp [hiff, make], rfl, rfl, rfl⟩⟩
  | ended live old make =>
    have hiff := transmits_iff hi live old w.manager packet now
    exact ⟨rfl, .inl ⟨by simp [hiff, make], by simp, by simp, rfl⟩⟩
  | @queued c c' manager f s' live old make enqueue =>
    have hiff := transmits_iff hi live old w.manager packet now
    obtain ⟨hdata, hpayload, -⟩ := makeDataToClient_frame make
    have hoffers := enqueueFrame_histories (s := { s with controller := some c' }) live f
    obtain ⟨hq, hr⟩ : s'.queued = s.queued ++ [f] ∧ s'.refused = s.refused := by
      simpa [enqueue] using hoffers
    exact ⟨rfl, .inr ⟨hiff.mpr (by simp [make]), .inl ⟨⟨f, hdata, hpayload, by simp [hq],
      by simp [hr]⟩, rfl⟩⟩⟩
  | @overflowed c c' manager f s' live old make enqueue =>
    have hiff := transmits_iff hi live old w.manager packet now
    obtain ⟨hdata, hpayload, -⟩ := makeDataToClient_frame make
    have hoffers := enqueueFrame_histories (s := { s with controller := some c' }) live f
    obtain ⟨hq, hr⟩ : s'.queued = s.queued ∧ s'.refused = s.refused ++ [f] := by
      simpa [enqueue] using hoffers
    exact ⟨rfl, .inr ⟨hiff.mpr (by simp [make]), .inr ⟨⟨f, hdata, hpayload, by simp [hq],
      by simp [hr]⟩, rfl⟩⟩⟩
  | @threw c c' manager f s' e live old make enqueue =>
    obtain ⟨-, -, hf⟩ := makeDataToClient_frame make
    exact absurd (by rw [enqueue]) (enqueueFrame_wellFormed { s with controller := some c' } hf e)

theorem sendIpv4FromTun_metered (hi : s.inbound = []) (w : Shared σ) (packet : Bytes)
    (now : TimePoint) : Metered sunk s w (s.sendIpv4FromTun w packet now).1
      (s.sendIpv4FromTun w packet now).2 := by
  obtain ⟨hx, hcases⟩ := sendFromTun_counted
    (fun m => { m with queueOverflows := m.queueOverflows + 1 })
    (fun m => { m with
      downlinkPackets := m.downlinkPackets + 1
      downlinkBytes := m.downlinkBytes + UInt64.ofNat packet.length }) hi w packet now
  obtain ⟨-, hq, hr, hm⟩ | ⟨-, ⟨⟨f, hf, hpayload, hq, hr⟩, hm⟩ | ⟨⟨f, hf, -, hq, hr⟩, hm⟩⟩ := hcases
  · exact .same (congrArg sunk hx) hq hr (congrArg ServerMetrics.traffic hm)
  · refine ⟨[], [f], [], ?_, hq, hr, ?_⟩
    · rw [List.append_nil]
      exact congrArg sunk hx
    · refine (congrArg ServerMetrics.traffic hm).trans ?_
      simp [ServerMetrics.traffic, add_def, tally, hf, hpayload]
  · refine ⟨[], [], [f], ?_, hq, hr, ?_⟩
    · rw [List.append_nil]
      exact congrArg sunk hx
    · refine (congrArg ServerMetrics.traffic hm).trans ?_
      simp [ServerMetrics.traffic, add_def, tally]

/-- What an IPv6 packet from the TUN device comes to is not counted. -/
theorem sendIpv6FromTun_uncounted (hi : s.inbound = []) (w : Shared σ) (packet : Bytes)
    (now : TimePoint) :
    let after := s.sendIpv6FromTun w packet now
    after.2.outside = w.outside ∧ after.2.metrics = w.metrics ∧
      ((¬s.Transmits w.manager packet now ∧ after.1.queued = s.queued ∧
          after.1.refused = s.refused) ∨
        (s.Transmits w.manager packet now ∧ ∃ taken, s.Offered packet taken after.1)) := by
  obtain ⟨hx, hcases⟩ := sendFromTun_counted id id hi w packet now
  obtain ⟨hno, hq, hr, hm⟩ | ⟨htransmits, ⟨hoffered, hm⟩ | ⟨hoffered, hm⟩⟩ := hcases
  · exact ⟨hx, hm, .inl ⟨hno, hq, hr⟩⟩
  · exact ⟨hx, hm, .inr ⟨htransmits, true, hoffered⟩⟩
  · exact ⟨hx, hm, .inr ⟨htransmits, false, hoffered⟩⟩

/-- Every event counts what it moves, but for an IPv6 packet from the TUN device. -/
theorem step_metered (hh : h.Sinks sunk) (hs : s.Sound)
    (hc : ∀ c, s.controller = some c → c.Holds) (w : Shared σ) {e : SessionEvent}
    (he : ∀ packet now, e ≠ .sendIpv6 packet now) :
    Metered sunk s w (s.step h w e).1 (s.step h w e).2 := by
  have hcases := step_cases h s w e
  generalize s.step h w e = after at hcases ⊢
  cases hcases with
  | busy => exact .refl s w
  | unawaited => exact .refl s w
  | handshake fingerprint => exact handleHandshake_metered s w fingerprint
  | handshakeTimeout => exact Metered.closeNow (.same rfl rfl rfl rfl)
  | read read => exact handleRead_metered s w read
  | frame now => exact handleNextFrame_metered hh hs hc w now
  | write failed => exact handleWrite_metered s w failed
  | sendIpv4 packet now idle => exact sendIpv4FromTun_metered idle w packet now
  | sendIpv6 packet now => exact absurd rfl (he packet now)
  | idleTimeout => exact Metered.closeNow (.same rfl rfl rfl rfl)
  | stop => exact Metered.closeNow (.refl s w)
  | close => exact closeStep_metered hh s w

end TlsTunnelSession

end PersonalVpn.Server
