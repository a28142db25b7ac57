import PersonalVpn.Core.LeaseOperations
import PersonalVpn.Core.SessionController
import PersonalVpn.Protocol.ControlCodec

namespace PersonalVpn.Core

open Protocol

/-- Decimal texts of 64-bit numbers are short. -/
theorem length_toText_lt {n : Nat} (h : n < 2 ^ 64) : (toText n).length ≤ 20 := by
  rw [toText, List.length_map, Nat.length_toDigits_le_iff (by decide) (by decide)]
  exact lt_trans h (by decide)

namespace SessionController

/-- The packets an established session with this lease and MTU passes to the TUN device. -/
def Accepts (mtu : UInt16) (l : Lease) (f : Frame) : Prop :=
  (f.type = .dataIpv4 ∧ IsIpv4 f.payload ∧ f.payload.length ≤ mtu.toNat ∧
    ipv4Source f.payload = l.address) ∨
  (f.type = .dataIpv6 ∧ IsIpv6 f.payload ∧ f.payload.length ≤ mtu.toNat ∧
    l.ipv6Address ≠ Ipv6Address.zero ∧ ipv6Source f.payload = l.ipv6Address)

theorem validateIpv4Packet_ok_iff {s : SessionController} {l : Lease} (hl : s.lease = some l)
    (packet : Bytes) (code : SessionErrorCode) :
    s.validateIpv4Packet packet code = .ok () ↔ IsIpv4 packet ∧
      packet.length ≤ s.negotiatedMtu.toNat ∧ ipv4Source packet = l.address := by
  simp only [validateIpv4Packet, hl, ite_error_eq_ok, not_or, not_lt, not_not, gt_iff_lt, and_true]
  constructor
  · intro h
    obtain ⟨hsize, hmtu, ⟨hv, hge, hle⟩, htotal, hsrc⟩ := h
    exact ⟨⟨hv, hsize, hge, hle, htotal⟩, hmtu, hsrc⟩
  · intro h
    obtain ⟨⟨hv, hsize, hge, hle, htotal⟩, hmtu, hsrc⟩ := h
    exact ⟨hsize, hmtu, ⟨hv, hge, hle⟩, htotal, hsrc⟩

theorem validateIpv6Packet_ok_iff {s : SessionController} {l : Lease} (hl : s.lease = some l)
    (packet : Bytes) (code : SessionErrorCode) :
    s.validateIpv6Packet packet code = .ok () ↔ IsIpv6 packet ∧
      packet.length ≤ s.negotiatedMtu.toNat ∧ l.ipv6Address ≠ Ipv6Address.zero ∧
      ipv6Source packet = l.ipv6Address := by
  simp only [validateIpv6Packet, hl, ite_error_eq_ok, not_or, not_lt, not_not, gt_iff_lt, and_true]
  constructor
  · intro h
    obtain ⟨⟨hz, hsize, hmtu, hv⟩, hpayload, hsrc⟩ := h
    exact ⟨⟨hv, hsize, hpayload⟩, hmtu, hz, hsrc⟩
  · intro h
    obtain ⟨⟨hv, hsize, hpayload⟩, hmtu, hz, hsrc⟩ := h
    exact ⟨⟨hz, hsize, hmtu, hv⟩, hpayload, hsrc⟩

theorem validateIpv4Packet_error {s : SessionController} {packet : Bytes}
    {code code' : SessionErrorCode} {message : Bytes}
    (h : s.validateIpv4Packet packet code = .error (code', message)) :
    message.length ≤ kMaximumErrorMessageSize := by
  unfold validateIpv4Packet at h
  split at h
  · cases h
    decide
  · split_ifs at h <;> cases h <;> decide

theorem validateIpv6Packet_error {s : SessionController} {packet : Bytes}
    {code code' : SessionErrorCode} {message : Bytes}
    (h : s.validateIpv6Packet packet code = .error (code', message)) :
    message.length ≤ kMaximumErrorMessageSize := by
  unfold validateIpv6Packet at h
  split at h
  · cases h
    decide
  · split_ifs at h <;> cases h <;> decide

/-- How the manager looks after a session has given its lease up: it released the one it had, or
one it acquired or renewed in the same call, or could not acquire or renew one. -/
inductive Dropped (s : SessionController) (m : LeaseManager) (now : TimePoint) :
    LeaseManager → Prop where
  | released : Dropped s m now (s.releaseLease m).2
  | refused {e : Exception} {m' : LeaseManager} (state : s.state = .awaitingHello)
      (acquire : m.acquire s.identity now = (.error e, m')) : Dropped s m now m'
  | returned {l : Lease} {m₁ : LeaseManager} (state : s.state = .awaitingHello)
      (acquire : m.acquire s.identity now = (.ok l, m₁)) : Dropped s m now (m₁.release l).2
  | lost {l : Lease} {m₁ : LeaseManager} (lease : s.lease = some l)
      (renew : m.renew l now = (none, m₁)) : Dropped s m now (m₁.release l).2
  | renewed {l l' : Lease} {m₁ : LeaseManager} (lease : s.lease = some l)
      (renew : m.renew l now = (some l', m₁)) : Dropped s m now (m₁.release l').2

/-- Everything `handle` can do. -/
inductive Handled (s : SessionController) (m : LeaseManager) (f : Frame) (now : TimePoint) :
    SessionResult → SessionController → LeaseManager → Prop where
  | inert (state : s.state = .closing ∨ s.state = .closed) :
      Handled s m f now { closeTransport := true } s m
  | failed {code : SessionErrorCode} {message payload : Bytes} {mtu : UInt16} {next : UInt64}
      {m' : LeaseManager} (state : s.state = .awaitingHello ∨ s.state = .established)
      (encode : encodeErrorMessage ⟨code.raw, message⟩ = .ok payload)
      (manager : Dropped s m now m') :
      Handled s m f now
        { outboundFrames := [⟨.error, 0, s.nextOutboundSequence, payload⟩], closeTransport := true }
        { s with
          state := .closing, lease := none, negotiatedMtu := mtu, nextExpectedSequence := next
          nextOutboundSequence := s.nextOutboundSequence + 1 } m'
  | granted {hello : ClientHello} {l : Lease} {payload : Bytes} {m' : LeaseManager}
      (state : s.state = .awaitingHello) (sequence : f.sequence = s.nextExpectedSequence)
      (type : f.type = .clientHello) (decode : decodeClientHello f.payload = .ok hello)
      (acquire : m.acquire s.identity now = (.ok l, m'))
      (encode : encodeIpAssignment
        { m'.toAssignment l with mtu := min hello.requestedMtu m'.mtu } = .ok payload) :
      Handled s m f now { outboundFrames := [⟨.ipAssign, 0, s.nextOutboundSequence, payload⟩] }
        { s with
          lease := some l, negotiatedMtu := min hello.requestedMtu m'.mtu, state := .established
          nextExpectedSequence := s.nextExpectedSequence + 1
          nextOutboundSequence := s.nextOutboundSequence + 1 } m'
  | packet {l l' : Lease} {m' : LeaseManager} (state : s.state = .established)
      (sequence : f.sequence = s.nextExpectedSequence) (lease : s.lease = some l)
      (renew : m.renew l now = (some l', m')) (accepts : Accepts s.negotiatedMtu l' f) :
      Handled s m f now { packetsToTun := [f.payload] }
        { s with lease := some l', nextExpectedSequence := s.nextExpectedSequence + 1 } m'
  | pong {l l' : Lease} {m' : LeaseManager} (state : s.state = .established)
      (sequence : f.sequence = s.nextExpectedSequence) (lease : s.lease = some l)
      (renew : m.renew l now = (some l', m')) (type : f.type = .ping)
      (size : f.payload.length = 8) :
      Handled s m f now { outboundFrames := [⟨.pong, 0, s.nextOutboundSequence, f.payload⟩] }
        { s with
          lease := some l', nextExpectedSequence := s.nextExpectedSequence + 1
          nextOutboundSequence := s.nextOutboundSequence + 1 } m'
  | closed (state : s.state = .established) (sequence : f.sequence = s.nextExpectedSequence)
      (type : f.type = .close ∨ f.type = .error) :
      Handled s m f now { closeTransport := true }
        { s with
          state := .closed, lease := none
          nextExpectedSequence := s.nextExpectedSequence + 1 } (s.releaseLease m).2

/-- A controller holds a lease exactly while it is established. -/
def Holds (s : SessionController) : Prop := s.lease.isSome = true ↔ s.state = .established

theorem Holds.none {s : SessionController} (h : s.Holds) (hs : s.state ≠ .established) :
    s.lease = none := by
  cases hl : s.lease with
  | none => rfl
  | some l => exact absurd (h.mp (by simp [hl])) hs

theorem Holds.some {s : SessionController} (h : s.Holds) (hs : s.state = .established) :
    ∃ l, s.lease = some l := Option.isSome_iff_exists.mp (h.mpr hs)

theorem releaseLease_of_none {s : SessionController} {m : LeaseManager} (h : s.lease = none) :
    s.releaseLease m = (s, m) := by
  rw [releaseLease, h]

theorem releaseLease_of_some {s : SessionController} {m : LeaseManager} {l : Lease}
    (h : s.lease = some l) : s.releaseLease m = ({ s with lease := none }, (m.release l).2) := by
  rw [releaseLease, h]

/-- The controller loses its lease, and only the lease decides what the manager loses. -/
theorem releaseLease_eq {s t : SessionController} (h : t.lease = s.lease) (m : LeaseManager) :
    t.releaseLease m = ({ t with lease := none }, (s.releaseLease m).2) := by
  cases hs : s.lease with
  | none =>
    rw [hs] at h
    rw [releaseLease_of_none h, releaseLease_of_none hs, ← h]
  | some l =>
    rw [hs] at h
    rw [releaseLease_of_some h, releaseLease_of_some hs]

/-- `fail` with a short text sends it and gives the lease up. -/
theorem fail_eq (s : SessionController) (m : LeaseManager) (code : SessionErrorCode)
    {message : Bytes} (h : message.length ≤ kMaximumErrorMessageSize) :
    ∃ payload, encodeErrorMessage ⟨code.raw, message⟩ = .ok payload ∧
      s.fail m code message =
        (.ok { outboundFrames := [⟨.error, 0, s.nextOutboundSequence, payload⟩]
               closeTransport := true },
         { s with
            state := .closing, lease := none
            nextOutboundSequence := s.nextOutboundSequence + 1 }, (s.releaseLease m).2) := by
  refine ⟨_, (encodeErrorMessage_ok_iff _ _).mpr ⟨h, rfl⟩, ?_⟩
  rw [fail, (encodeErrorMessage_ok_iff _ _).mpr ⟨h, rfl⟩]
  simp only [makeOutbound, Prod.mk.injEq, true_and]
  rw [releaseLease_eq (s := s) (by rfl)]

theorem handled_fail {s s₁ : SessionController} {m m₁ : LeaseManager} {f : Frame}
    {now : TimePoint} {code : SessionErrorCode} {message : Bytes}
    (hstate : s.state = .awaitingHello ∨ s.state = .established)
    (hid : s₁.identity = s.identity) (hout : s₁.nextOutboundSequence = s.nextOutboundSequence)
    (hm : Dropped s m now (s₁.releaseLease m₁).2)
    (hlen : message.length ≤ kMaximumErrorMessageSize) :
    ∃ r s' m', s₁.fail m₁ code message = (.ok r, s', m') ∧ Handled s m f now r s' m' := by
  obtain ⟨payload, henc, heq⟩ := fail_eq s₁ m₁ code hlen
  rw [heq, hout, hid]
  exact ⟨_, _, _, rfl, .failed hstate henc hm⟩

/-- The lease a controller carries decides what it drops. -/
theorem dropped_releaseLease {s s₁ : SessionController} {m : LeaseManager} {now : TimePoint}
    (h : s₁.lease = s.lease) : Dropped s m now (s₁.releaseLease m).2 := by
  rw [releaseLease_eq h]
  exact .released

private theorem handleHello_handled {s : SessionController} (hs : s.Holds)
    (hstate : s.state = .awaitingHello) (m : LeaseManager) (f : Frame) (now : TimePoint)
    (hseq : f.sequence = s.nextExpectedSequence) :
    ∃ r s' m', { s with nextExpectedSequence := s.nextExpectedSequence + 1 }.handleHello m f now =
      (.ok r, s', m') ∧ Handled s m f now r s' m' := by
  have hnone : s.lease = none := hs.none (by rw [hstate]; decide)
  rw [handleHello]
  by_cases ht : f.type ≠ .clientHello
  · rw [if_pos ht]
    exact handled_fail (.inl hstate) rfl rfl (dropped_releaseLease rfl) (by decide)
  rw [if_neg ht, acceptHello]
  cases hd : decodeClientHello f.payload with
  | error e =>
    obtain ⟨what, rfl, hlen⟩ := decodeClientHello_terse _ _ hd
    exact handled_fail (.inl hstate) rfl rfl (dropped_releaseLease rfl) hlen
  | ok hello =>
    rcases ha : m.acquire s.identity now with ⟨r, m'⟩
    cases r with
    | error e =>
      have hdrop : Dropped s m now
          ({ s with nextExpectedSequence := s.nextExpectedSequence + 1 }.releaseLease m').2 := by
        rw [releaseLease_of_none (by exact hnone)]
        exact .refused hstate ha
      obtain ⟨-, -, what, rfl, hlen⟩ | ⟨-, what, rfl, hlen⟩ := LeaseManager.acquire_error ha
      · exact handled_fail (.inl hstate) rfl rfl hdrop (le_trans hlen (by decide))
      · exact handled_fail (.inl hstate) rfl rfl hdrop (le_trans hlen (by decide))
    | ok l =>
      have hmtu : (m'.toAssignment l).mtu = m'.mtu := rfl
      simp only [hmtu]
      cases he : encodeIpAssignment
          { m'.toAssignment l with mtu := min hello.requestedMtu m'.mtu } with
      | error e =>
        obtain ⟨what, rfl, hlen⟩ := encodeIpAssignment_terse _ _ he
        exact handled_fail (.inl hstate) rfl rfl (.returned hstate ha) hlen
      | ok payload =>
        exact ⟨_, _, _, rfl, .granted hstate hseq (not_not.mp ht) hd ha he⟩

private theorem dispatch_handled {s : SessionController} (hstate : s.state = .established)
    (m : LeaseManager) (f : Frame) (now : TimePoint) (hseq : f.sequence = s.nextExpectedSequence)
    {l l' : Lease} {m' : LeaseManager} (hl : s.lease = some l)
    (hr : m.renew l now = (some l', m'))
    (ht : f.type = .dataIpv4 ∨ f.type = .dataIpv6 ∨ f.type = .ping) :
    ∃ r s' m'', { s with
        nextExpectedSequence := s.nextExpectedSequence + 1, lease := some l' }.dispatch m' f =
      (.ok r, s', m'') ∧ Handled s m f now r s' m'' := by
  have hdrop : Dropped s m now ({ s with
      nextExpectedSequence := s.nextExpectedSequence + 1, lease := some l' }.releaseLease m').2 :=
    .renewed hl hr
  rw [dispatch]
  obtain ht | ht | ht := ht <;> rw [ht] <;> dsimp only
  · split
    · rename_i code message hv
      exact handled_fail (.inr hstate) rfl rfl hdrop (validateIpv4Packet_error hv)
    · rename_i hv
      rw [validateIpv4Packet_ok_iff (l := l') rfl] at hv
      exact ⟨_, _, _, rfl, .packet hstate hseq hl hr (.inl ⟨ht, hv⟩)⟩
  · split
    · rename_i code message hv
      exact handled_fail (.inr hstate) rfl rfl hdrop (validateIpv6Packet_error hv)
    · rename_i hv
      rw [validateIpv6Packet_ok_iff (l := l') rfl] at hv
      exact ⟨_, _, _, rfl, .packet hstate hseq hl hr (.inr ⟨ht, hv⟩)⟩
  · cases hd : decodeLivenessProbe f.payload with
    | error e =>
      obtain ⟨what, rfl, hlen⟩ := decodeLivenessProbe_terse _ _ hd
      exact handled_fail (.inr hstate) rfl rfl hdrop hlen
    | ok probe =>
      have hp := (decodeLivenessProbe_ok_iff _ _).mp hd
      simp only [hp]
      refine ⟨_, _, _, rfl, .pong hstate hseq hl hr ht ?_⟩
      rw [← hp, encodeLivenessProbe, appendU64_eq]
      exact BigEndian.length_bytes _ _

private theorem dispatch_handled_control {s : SessionController} (hstate : s.state = .established)
    (m : LeaseManager) (f : Frame) (now : TimePoint) (hseq : f.sequence = s.nextExpectedSequence)
    (ht : ¬(f.type = .dataIpv4 ∨ f.type = .dataIpv6 ∨ f.type = .ping)) :
    ∃ r s' m', { s with nextExpectedSequence := s.nextExpectedSequence + 1 }.dispatch m f =
      (.ok r, s', m') ∧ Handled s m f now r s' m' := by
  have hfail {code : SessionErrorCode} {what : Bytes}
      (hlen : what.length ≤ kMaximumErrorMessageSize) :
      ∃ r s' m', { s with nextExpectedSequence := s.nextExpectedSequence + 1 }.fail m code what =
        (.ok r, s', m') ∧ Handled s m f now r s' m' :=
    handled_fail (.inr hstate) rfl rfl (dropped_releaseLease rfl) hlen
  have hclosed (ht : f.type = .close ∨ f.type = .error) :
      ∃ r s' m', ((.ok { closeTransport := true } : Except Exception SessionResult),
        { s with
          nextExpectedSequence := s.nextExpectedSequence + 1
          state := .closed }.releaseLease m) = (.ok r, s', m') ∧ Handled s m f now r s' m' := by
    rw [releaseLease_eq (s := s) (by rfl)]
    exact ⟨_, _, _, rfl, .closed hstate hseq ht⟩
  rw [dispatch]
  cases hf : f.type with
  | dataIpv4 => exact absurd (.inl hf) ht
  | dataIpv6 => exact absurd (.inr (.inl hf)) ht
  | ping => exact absurd (.inr (.inr hf)) ht
  | close =>
    dsimp only
    cases hd : decodeCloseMessage f.payload with
    | error e =>
      obtain ⟨what, rfl, hlen⟩ := decodeCloseMessage_terse _ _ hd
      exact hfail hlen
    | ok c => exact hclosed (.inl hf)
  | error =>
    dsimp only
    cases hd : decodeErrorMessage f.payload with
    | error e =>
      obtain ⟨what, rfl, hlen⟩ := decodeErrorMessage_terse _ _ hd
      exact hfail hlen
    | ok c => exact hclosed (.inr hf)
  | clientHello => exact hfail (by decide)
  | ipAssign => exact hfail (by decide)
  | pong => exact hfail (by decide)

/-- `handle` never throws and does one of the things listed. -/
theorem handle_handled {s : SessionController} (hs : s.Holds) (m : LeaseManager) (f : Frame)
    (now : TimePoint) :
    ∃ r s' m', s.handle m f now = (.ok r, s', m') ∧ Handled s m f now r s' m' := by
  rw [handle]
  by_cases hend : s.state = .closing ∨ s.state = .closed
  · rw [if_pos hend]
    exact ⟨_, _, _, rfl, .inert hend⟩
  rw [if_neg hend]
  have hlive : s.state = .awaitingHello ∨ s.state = .established := by
    cases h : s.state <;> simp_all
  by_cases hseq : f.sequence ≠ s.nextExpectedSequence
  · rw [if_pos hseq]
    refine handled_fail hlive rfl rfl (dropped_releaseLease rfl) ?_
    have hn := length_toText_lt s.nextExpectedSequence.toNat_lt
    have ht : (text "unexpected inbound sequence; expected ").length = 38 := by decide
    simp only [List.length_append, ht, kMaximumErrorMessageSize]
    omega
  rw [if_neg hseq]
  rw [not_not] at hseq
  obtain hstate | hstate := hlive
  · simp only [hstate, if_true]
    rw [← hstate]
    exact handleHello_handled hs hstate m f now hseq
  simp only [hstate, reduceCtorEq, if_false]
  rw [← hstate]
  obtain ⟨l, hl⟩ := hs.some hstate
  rw [handleEstablished]
  by_cases ht : f.type = .dataIpv4 ∨ f.type = .dataIpv6 ∨ f.type = .ping
  · rw [if_pos ht]
    rcases hr : m.renew l now with ⟨r, m'⟩
    have hrl : { s with nextExpectedSequence := s.nextExpectedSequence + 1 }.renewLease m now =
        (r, m') := by simp only [renewLease, hl, hr]
    rw [hrl]
    cases r with
    | none =>
      refine handled_fail (.inr hstate) rfl rfl ?_ (by decide)
      rw [releaseLease_of_some (l := l) (by exact hl)]
      exact .lost hl hr
    | some l' => exact dispatch_handled hstate m f now hseq hl hr ht
  · rw [if_neg ht]
    exact dispatch_handled_control hstate m f now hseq ht

/-- The packets an established session with this lease and MTU frames for its client. -/
def Delivers (mtu : UInt16) (l : Lease) (type : MessageType) (packet : Bytes) : Prop :=
  (type = .dataIpv4 ∧ IsIpv4 packet ∧ packet.length ≤ mtu.toNat ∧
    ipv4Destination packet = l.address) ∨
  (type = .dataIpv6 ∧ IsIpv6 packet ∧ packet.length ≤ mtu.toNat ∧
    l.ipv6Address ≠ Ipv6Address.zero ∧ ipv6Destination packet = l.ipv6Address)

/-- Everything `make_data_to_client` can do. -/
inductive Sent (s : SessionController) (m : LeaseManager) (packet : Bytes) (now : TimePoint) :
    Option Frame → SessionController → LeaseManager → Prop where
  | ignored : Sent s m packet now none s m
  | lost {l : Lease} {m₁ : LeaseManager} {type : MessageType} (state : s.state = .established)
      (lease : s.lease = some l) (renew : m.renew l now = (none, m₁))
      (delivers : Delivers s.negotiatedMtu l type packet) :
      Sent s m packet now none { s with state := .closing, lease := none } (m₁.release l).2
  | sent {l l' : Lease} {m' : LeaseManager} {type : MessageType} (state : s.state = .established)
      (lease : s.lease = some l) (renew : m.renew l now = (some l', m'))
      (delivers : Delivers s.negotiatedMtu l type packet) :
      Sent s m packet now (some ⟨type, 0, s.nextOutboundSequence, packet⟩)
        { s with lease := some l', nextOutboundSequence := s.nextOutboundSequence + 1 } m'

private theorem renewAndSend_sent {s : SessionController} {m : LeaseManager} {type : MessageType}
    {packet : Bytes} {now : TimePoint} {l : Lease} (hs : s.state = .established)
    (hl : s.lease = some l) (hd : Delivers s.negotiatedMtu l type packet) :
    ∃ r s' m', s.renewAndSend m type packet now = (r, s', m') ∧ Sent s m packet now r s' m' := by
  rcases hr : m.renew l now with ⟨r, m'⟩
  have hrl : s.renewLease m now = (r, m') := by simp only [renewLease, hl, hr]
  rw [renewAndSend, hrl]
  cases r with
  | none =>
    dsimp only
    rw [releaseLease_of_some (l := l) (by exact hl)]
    exact ⟨_, _, _, rfl, .lost hs hl hr hd⟩
  | some l' => exact ⟨_, _, _, rfl, .sent hs hl hr hd⟩

theorem makeDataToClient_sent (s : SessionController) (m : LeaseManager) (packet : Bytes)
    (now : TimePoint) :
    ∃ r s' m', s.makeDataToClient m packet now = (r, s', m') ∧ Sent s m packet now r s' m' := by
  rw [makeDataToClient]
  cases hl : s.lease with
  | none => exact ⟨_, _, _, rfl, .ignored⟩
  | some l =>
    dsimp only
    split_ifs with h1 h2 h3 h4 h5 h6
    · exact ⟨_, _, _, rfl, .ignored⟩
    · exact ⟨_, _, _, rfl, .ignored⟩
    · exact ⟨_, _, _, rfl, .ignored⟩
    · simp only [not_or, not_not, not_lt, gt_iff_lt] at h1 h3 h4
      exact renewAndSend_sent h1.1 hl (.inr ⟨rfl, ⟨h2, h3.1, h4.1⟩, h1.2.2, h3.2, h4.2⟩)
    · exact ⟨_, _, _, rfl, .ignored⟩
    · exact ⟨_, _, _, rfl, .ignored⟩
    · simp only [not_or, not_not, not_lt, gt_iff_lt] at h1 h5 h6
      obtain ⟨hv, hge, hle, htot, hdst⟩ := h6
      exact renewAndSend_sent h1.1 hl (.inl ⟨rfl, ⟨hv, h5, hge, hle, htot⟩, h1.2.2, hdst⟩)

theorem renewAndSend_isSome {s : SessionController} {m : LeaseManager} {l : Lease}
    (hl : s.lease = some l) (type : MessageType) (packet : Bytes) (now : TimePoint) :
    (s.renewAndSend m type packet now).1.isSome = (m.renew l now).1.isSome := by
  have hrl : s.renewLease m now = m.renew l now := by simp only [renewLease, hl]
  rw [renewAndSend, hrl]
  rcases m.renew l now with ⟨r, m'⟩
  cases r with
  | none => rfl
  | some l' => rfl

/-- A packet is framed exactly if it is one for this client and the lease can be renewed. -/
theorem makeDataToClient_isSome (s : SessionController) (m : LeaseManager) (packet : Bytes)
    (now : TimePoint) : (s.makeDataToClient m packet now).1.isSome = true ↔
      ∃ l type, s.state = .established ∧ s.lease = some l ∧ (m.renew l now).1.isSome = true ∧
        Delivers s.negotiatedMtu l type packet := by
  constructor
  · intro h
    obtain ⟨r, s', m', heq, hsent⟩ := makeDataToClient_sent s m packet now
    rw [heq] at h
    cases hsent with
    | ignored => cases h
    | lost => cases h
    | sent state lease renew delivers => exact ⟨_, _, state, lease, by rw [renew]; rfl, delivers⟩
  · intro ⟨l, type, hs, hl, hr, hd⟩
    obtain ⟨-, ⟨hv, hlen, hge, hle, htot⟩, hmtu, hdst⟩ | ⟨-, ⟨hv, hlen, htot⟩, hmtu, hz, hdst⟩ := hd
    · have hne : packet ≠ [] := by
        intro hnil
        rw [hnil, List.length_nil] at hlen
        omega
      simp only [makeDataToClient, hl]
      rw [if_neg (by simp [hs, hne, hmtu]), if_neg (by simp [hv]), if_neg (by omega),
        if_neg (by simp [hv, hge, hle, htot, hdst]), renewAndSend_isSome hl, hr]
    · have hne : packet ≠ [] := by
        intro hnil
        rw [hnil, List.length_nil] at hlen
        omega
      simp only [makeDataToClient, hl]
      rw [if_neg (by simp [hs, hne, hmtu]), if_pos hv, if_neg (by simp [hlen, hz]),
        if_neg (by simp [htot, hdst]), renewAndSend_isSome hl, hr]

end SessionController

end PersonalVpn.Core
