import PersonalVpn.Core.TunnelErrors

namespace PersonalVpn.Core

open Protocol Sequenced

namespace SessionController

variable {s : SessionController} {m m' : LeaseManager} {f : Frame} {now : TimePoint} {l l' : Lease}

/-- A first message that is a good hello is answered with the assignment. -/
theorem handle_hello {hello : ClientHello} {payload : Bytes} (hs : s.state = .awaitingHello)
    (hseq : f.sequence = s.nextExpectedSequence) (ht : f.type = .clientHello)
    (hd : decodeClientHello f.payload = .ok hello)
    (ha : m.acquire s.identity now = (.ok l, m'))
    (he : encodeIpAssignment { m'.toAssignment l with mtu := min hello.requestedMtu m'.mtu } =
      .ok payload) :
    s.handle m f now =
      (.ok { outboundFrames := [⟨.ipAssign, 0, s.nextOutboundSequence, payload⟩] },
        { s with
          lease := some l, negotiatedMtu := min hello.requestedMtu m'.mtu, state := .established
          nextExpectedSequence := s.nextExpectedSequence + 1
          nextOutboundSequence := s.nextOutboundSequence + 1 }, m') := by
  have hmtu : (m'.toAssignment l).mtu = m'.mtu := rfl
  simp [handle, hs, hseq, handleHello, ht, acceptHello, hd, ha, hmtu, he, makeOutbound]

/-- A packet the renewed lease accepts goes to the TUN device. -/
theorem handle_accepts (hs : s.state = .established) (hseq : f.sequence = s.nextExpectedSequence)
    (hl : s.lease = some l) (hr : m.renew l now = (some l', m'))
    (hacc : Accepts s.negotiatedMtu l' f) :
    s.handle m f now = (.ok { packetsToTun := [f.payload] },
      { s with lease := some l', nextExpectedSequence := s.nextExpectedSequence + 1 }, m') := by
  obtain ⟨ht, h4⟩ | ⟨ht, h6⟩ := hacc
  · have hv : { s with
        nextExpectedSequence := s.nextExpectedSequence + 1
        lease := some l' }.validateIpv4Packet f.payload .invalidIpv4Packet = .ok () :=
      (validateIpv4Packet_ok_iff rfl _ _).mpr h4
    rw [hs] at hv
    simp [handle, hs, hseq, handleEstablished, ht, renewLease, hl, hr, dispatch, hv]
  · have hv : { s with
        nextExpectedSequence := s.nextExpectedSequence + 1
        lease := some l' }.validateIpv6Packet f.payload .invalidIpv6Packet = .ok () :=
      (validateIpv6Packet_ok_iff rfl _ _).mpr h6
    rw [hs] at hv
    simp [handle, hs, hseq, handleEstablished, ht, renewLease, hl, hr, dispatch, hv]

/-- A probe is answered with its nonce. -/
theorem handle_ping (hs : s.state = .established) (hseq : f.sequence = s.nextExpectedSequence)
    (hl : s.lease = some l) (hr : m.renew l now = (some l', m')) (ht : f.type = .ping)
    {nonce : UInt64} (hp : f.payload = encodeLivenessProbe ⟨nonce⟩) :
    s.handle m f now =
      (.ok { outboundFrames := [⟨.pong, 0, s.nextOutboundSequence, f.payload⟩] },
        { s with
          lease := some l', nextExpectedSequence := s.nextExpectedSequence + 1
          nextOutboundSequence := s.nextOutboundSequence + 1 }, m') := by
  have hd : decodeLivenessProbe f.payload = .ok ⟨nonce⟩ :=
    (decodeLivenessProbe_ok_iff _ _).mpr hp.symm
  rw [hp] at hd
  simp [handle, hs, hseq, handleEstablished, ht, renewLease, hl, hr, dispatch, hd, makeOutbound,
    hp]

/-- A CLOSE ends the session and frees the lease. -/
theorem handle_close (hs : s.state = .established) (hseq : f.sequence = s.nextExpectedSequence)
    (ht : f.type = .close) {code : UInt16} (hp : f.payload = encodeCloseMessage ⟨code⟩) :
    s.handle m f now = (.ok { closeTransport := true },
      { s with
        state := .closed, lease := none
        nextExpectedSequence := s.nextExpectedSequence + 1 }, (s.releaseLease m).2) := by
  have hd : decodeCloseMessage f.payload = .ok ⟨code⟩ :=
    (decodeCloseMessage_ok_iff _ _).mpr hp.symm
  simp [handle, hs, hseq, handleEstablished, ht, dispatch, hd]
  rw [releaseLease_eq (s := s) (by rfl)]

end SessionController

namespace ClientSessionController

variable {c : ClientSessionController} {f : Frame} {a : IpAssignment}

/-- A first message with an assignment the client accepts. -/
theorem handle_assign (hs : c.state = .awaitingAssignment)
    (hseq : f.sequence = c.nextExpectedSequence) (ht : f.type = .ipAssign)
    (hp : encodeIpAssignment a = .ok f.payload) (hacc : c.assignmentIsAcceptable a = true) :
    c.handle f = (.ok { assignment := some a },
      { c with
        assignment := some a, state := .established
        nextExpectedSequence := c.nextExpectedSequence + 1 }) := by
  have hd : decodeIpAssignment f.payload = .ok a := (decodeIpAssignment_ok_iff _ _).mpr hp
  have hacc' : { c with
      nextExpectedSequence := c.nextExpectedSequence + 1 }.assignmentIsAcceptable a = true := hacc
  rw [hs] at hacc'
  simp [handle, hs, hseq, handleAssignment, ht, hd, hacc']

theorem handle_passes (hs : c.state = .established) (hseq : f.sequence = c.nextExpectedSequence)
    (ha : c.assignment = some a) (hpass : Passes a true f.type f.payload) :
    c.handle f = (.ok { packetsToTun := [f.payload] },
      { c with nextExpectedSequence := c.nextExpectedSequence + 1 }) := by
  have htype : f.type = .dataIpv4 ∨ f.type = .dataIpv6 := hpass.imp (·.1) (·.1)
  obtain ht | ht := htype
  · rw [ht] at hpass
    have hv : { c with
        nextExpectedSequence := c.nextExpectedSequence + 1 }.validateIpv4Packet f.payload true
        .invalidIpv4Packet = .ok () := (validateIpv4Packet_ok_iff (by exact ha) _ _ _).mpr hpass
    rw [hs] at hv
    simp [handle, hs, hseq, dispatch, ht, hv]
  · rw [ht] at hpass
    have hv : { c with
        nextExpectedSequence := c.nextExpectedSequence + 1 }.validateIpv6Packet f.payload true
        .invalidIpv6Packet = .ok () := (validateIpv6Packet_ok_iff (by exact ha) _ _ _).mpr hpass
    rw [hs] at hv
    simp [handle, hs, hseq, dispatch, ht, hv]

theorem handle_pong (hs : c.state = .established) (hseq : f.sequence = c.nextExpectedSequence)
    (ht : f.type = .pong) {nonce : UInt64} (hp : f.payload = encodeLivenessProbe ⟨nonce⟩)
    (hpend : c.pendingPingNonce = some nonce) :
    c.handle f = (.ok {},
      { c with
        nextExpectedSequence := c.nextExpectedSequence + 1, pendingPingNonce := none }) := by
  have hd : decodeLivenessProbe f.payload = .ok ⟨nonce⟩ :=
    (decodeLivenessProbe_ok_iff _ _).mpr hp.symm
  simp [handle, hs, hseq, dispatch, ht, hd, hpend]

theorem create_ok {requestedMtu : UInt16} (h : create requestedMtu = .ok c) :
    c = { requestedMtu } ∧ ValidClientHello (clientHello requestedMtu) := by
  rw [create, bind_eq_ok] at h
  obtain ⟨payload, he, hc⟩ := h
  exact ⟨(Except.ok.inj hc).symm, ((encodeClientHello_ok_iff _ _).mp he).1⟩

/-- `start` sends the hello of an idle client. -/
theorem start_ok (hs : c.state = .idle) {payload : Bytes}
    (he : encodeClientHello (clientHello c.requestedMtu) = .ok payload) :
    c.start = (.ok ⟨.clientHello, 0, c.nextOutboundSequence, payload⟩,
      { c with
        state := .awaitingAssignment, nextOutboundSequence := c.nextOutboundSequence + 1 }) := by
  simp [start, hs, he, makeOutbound]

/-- `make_data_to_server` drops the packet or sends one the assignment allows. -/
theorem makeDataToServer_cases (hc : c.Assigned) (packet : Bytes) :
    c.makeDataToServer packet = (none, c) ∨ ∃ a type, c.state = .established ∧
      c.assignment = some a ∧ Passes a false type packet ∧ c.makeDataToServer packet =
        (some ⟨type, 0, c.nextOutboundSequence, packet⟩,
          { c with nextOutboundSequence := c.nextOutboundSequence + 1 }) := by
  rw [makeDataToServer]
  by_cases hs : c.state ≠ .established
  · rw [if_pos hs]
    exact .inl rfl
  rw [if_neg hs]
  rw [not_not] at hs
  obtain ⟨a, ha⟩ := hc hs
  split_ifs with h6
  · split
    · exact .inl rfl
    · rename_i hv
      have hpass := (validateIpv6Packet_ok_iff ha _ _ _).mp hv
      exact .inr ⟨a, .dataIpv6, hs, ha, hpass, rfl⟩
  · split
    · exact .inl rfl
    · rename_i hv
      have hpass := (validateIpv4Packet_ok_iff ha _ _ _).mp hv
      exact .inr ⟨a, .dataIpv4, hs, ha, hpass, rfl⟩

theorem makePing_cases (c : ClientSessionController) (nonce : UInt64) :
    c.makePing nonce = (none, c) ∨ (c.state = .established ∧ c.pendingPingNonce = none ∧
      c.makePing nonce = (some ⟨.ping, 0, c.nextOutboundSequence, encodeLivenessProbe ⟨nonce⟩⟩,
        { c with
          pendingPingNonce := some nonce
          nextOutboundSequence := c.nextOutboundSequence + 1 })) := by
  rw [makePing]
  split_ifs with hs hp
  · exact .inl rfl
  · exact .inl rfl
  · exact .inr ⟨not_not.mp hs, not_not.mp hp, rfl⟩

theorem makeClose_cases (c : ClientSessionController) (code : UInt16) :
    c.makeClose code = (none, c) ∨ (c.Live ∧
      c.makeClose code = (some ⟨.close, 0, c.nextOutboundSequence, encodeCloseMessage ⟨code⟩⟩,
        { c with
          state := .closing, nextOutboundSequence := c.nextOutboundSequence + 1 })) := by
  rw [makeClose]
  split_ifs with hs
  · exact .inl rfl
  · have hlive : c.Live := by
      rw [not_and_or, not_not, not_not] at hs
      exact hs
    exact .inr ⟨hlive, rfl⟩

/-- A client that is past its session ignores what it gets. -/
theorem handle_closing (hs : c.state = .closing) :
    c.handle f = (.ok { closeTransport := true }, c) := by
  simp [handle, hs]

end ClientSessionController

end PersonalVpn.Core
