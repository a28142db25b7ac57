import PersonalVpn.Core.ClientSessionController
import PersonalVpn.Core.SessionSteps

namespace PersonalVpn.Core

open Protocol

namespace ClientSessionController

variable {c c' : ClientSessionController} {a : IpAssignment} {f : Frame}

/-- The packets a client with this assignment exchanges. `fromServer` says which of the packet's
addresses must be the client's. -/
def Passes (a : IpAssignment) (fromServer : Bool) (type : MessageType) (packet : Bytes) : Prop :=
  (type = .dataIpv4 ∧ IsIpv4 packet ∧ packet.length ≤ a.mtu.toNat ∧
    (if fromServer then ipv4Destination packet else ipv4Source packet) = a.clientAddress) ∨
  (type = .dataIpv6 ∧ IsIpv6 packet ∧ packet.length ≤ a.mtu.toNat ∧ a.ipv6PrefixLength ≠ 0 ∧
    (if fromServer then ipv6Destination packet else ipv6Source packet) = a.clientIpv6Address)

theorem validateIpv4Packet_ok_iff (ha : c.assignment = some a) (packet : Bytes)
    (fromServer : Bool) (code : ClientSessionErrorCode) :
    c.validateIpv4Packet packet fromServer code = .ok () ↔
      Passes a fromServer .dataIpv4 packet := by
  simp only [validateIpv4Packet, ha, ite_error_eq_ok, not_or, not_lt, not_not, gt_iff_lt, and_true,
    Passes, reduceCtorEq, false_and, or_false, true_and]
  constructor
  · intro h
    obtain ⟨⟨hsize, hmtu⟩, ⟨hv, hge, hle, htotal⟩, haddr⟩ := h
    exact ⟨⟨hv, hsize, hge, hle, htotal⟩, hmtu, haddr⟩
  · intro h
    obtain ⟨⟨hv, hsize, hge, hle, htotal⟩, hmtu, haddr⟩ := h
    exact ⟨⟨hsize, hmtu⟩, ⟨hv, hge, hle, htotal⟩, haddr⟩

theorem validateIpv6Packet_ok_iff (ha : c.assignment = some a) (packet : Bytes)
    (fromServer : Bool) (code : ClientSessionErrorCode) :
    c.validateIpv6Packet packet fromServer code = .ok () ↔
      Passes a fromServer .dataIpv6 packet := by
  have haddr : copyN packet (if fromServer then 24 else 8) 16 =
      if fromServer then ipv6Destination packet else ipv6Source packet := by
    cases fromServer <;> rfl
  simp only [validateIpv6Packet, ha, haddr, ite_error_eq_ok, not_or, not_lt, not_not, gt_iff_lt,
    and_true, Passes, reduceCtorEq, false_and, false_or, true_and]
  constructor
  · intro h
    obtain ⟨⟨hz, hsize, hmtu, hv⟩, hpayload, haddr⟩ := h
    exact ⟨⟨hv, hsize, hpayload⟩, hmtu, hz, haddr⟩
  · intro h
    obtain ⟨⟨hv, hsize, hpayload⟩, hmtu, hz, haddr⟩ := h
    exact ⟨⟨hz, hsize, hmtu, hv⟩, hpayload, haddr⟩

theorem validateIpv4Packet_error {packet message : Bytes} {fromServer : Bool}
    {code code' : ClientSessionErrorCode}
    (h : c.validateIpv4Packet packet fromServer code = .error (code', message)) :
    message.length ≤ kMaximumErrorMessageSize := by
  unfold validateIpv4Packet at h
  split at h
  · cases h
    decide
  · cases fromServer <;> dsimp only at h <;> split_ifs at h <;> cases h <;> decide

theorem validateIpv6Packet_error {packet message : Bytes} {fromServer : Bool}
    {code code' : ClientSessionErrorCode}
    (h : c.validateIpv6Packet packet fromServer code = .error (code', message)) :
    message.length ≤ kMaximumErrorMessageSize := by
  unfold validateIpv6Packet at h
  split at h
  · cases h
    decide
  · cases fromServer <;> dsimp only at h <;> split_ifs at h <;> cases h <;> decide

/-- Everything `handle` can do. -/
inductive Handled (c : ClientSessionController) (f : Frame) :
    ClientSessionResult → ClientSessionController → Prop where
  | inert (state : c.state = .idle ∨ c.state = .closing ∨ c.state = .closed) :
      Handled c f { closeTransport := true } c
  | failed {code : ClientSessionErrorCode} {message payload : Bytes} {next : UInt64}
      (state : c.state = .awaitingAssignment ∨ c.state = .established)
      (encode : encodeErrorMessage ⟨code.raw, message⟩ = .ok payload) :
      Handled c f
        { outboundFrames := [⟨.error, 0, c.nextOutboundSequence, payload⟩], closeTransport := true }
        { c with
          state := .closing, nextExpectedSequence := next
          nextOutboundSequence := c.nextOutboundSequence + 1 }
  | assigned {a : IpAssignment} (state : c.state = .awaitingAssignment)
      (sequence : f.sequence = c.nextExpectedSequence) (type : f.type = .ipAssign)
      (decode : decodeIpAssignment f.payload = .ok a)
      (acceptable : c.assignmentIsAcceptable a = true) :
      Handled c f { assignment := some a }
        { c with
          assignment := some a, state := .established
          nextExpectedSequence := c.nextExpectedSequence + 1 }
  | packet {a : IpAssignment} (state : c.state = .established)
      (sequence : f.sequence = c.nextExpectedSequence) (assignment : c.assignment = some a)
      (passes : Passes a true f.type f.payload) :
      Handled c f { packetsToTun := [f.payload] }
        { c with nextExpectedSequence := c.nextExpectedSequence + 1 }
  | pong (state : c.state = .established) (sequence : f.sequence = c.nextExpectedSequence)
      (type : f.type = .ping) (size : f.payload.length = 8) :
      Handled c f { outboundFrames := [⟨.pong, 0, c.nextOutboundSequence, f.payload⟩] }
        { c with
          nextExpectedSequence := c.nextExpectedSequence + 1
          nextOutboundSequence := c.nextOutboundSequence + 1 }
  | alive {nonce : UInt64} (state : c.state = .established)
      (sequence : f.sequence = c.nextExpectedSequence) (type : f.type = .pong)
      (payload : f.payload = encodeLivenessProbe ⟨nonce⟩)
      (pending : c.pendingPingNonce = some nonce) :
      Handled c f {}
        { c with
          nextExpectedSequence := c.nextExpectedSequence + 1, pendingPingNonce := none }
  | remote {message : ErrorMessage} (state : c.state = .established)
      (sequence : f.sequence = c.nextExpectedSequence) (type : f.type = .error)
      (decode : decodeErrorMessage f.payload = .ok message) :
      Handled c f { remoteError := some message, closeTransport := true }
        { c with state := .closed, nextExpectedSequence := c.nextExpectedSequence + 1 }
  | closed (state : c.state = .established) (sequence : f.sequence = c.nextExpectedSequence)
      (type : f.type = .close) :
      Handled c f { closeTransport := true }
        { c with state := .closed, nextExpectedSequence := c.nextExpectedSequence + 1 }

/-- `fail` with a short text sends it and closes. -/
theorem handled_fail {c₁ : ClientSessionController} {code : ClientSessionErrorCode}
    {message : Bytes} {next : UInt64}
    (hstate : c.state = .awaitingAssignment ∨ c.state = .established)
    (hc : c₁ = { c with nextExpectedSequence := next })
    (hlen : message.length ≤ kMaximumErrorMessageSize) :
    ∃ r c', c₁.fail code message = (.ok r, c') ∧ Handled c f r c' := by
  have henc := (encodeErrorMessage_ok_iff ⟨code.raw, message⟩ _).mpr ⟨hlen, rfl⟩
  rw [fail, henc, hc]
  exact ⟨_, _, rfl, .failed hstate henc⟩

private theorem handleAssignment_handled (hstate : c.state = .awaitingAssignment)
    (hseq : f.sequence = c.nextExpectedSequence) :
    ∃ r c', { c with nextExpectedSequence := c.nextExpectedSequence + 1 }.handleAssignment f =
      (.ok r, c') ∧ Handled c f r c' := by
  rw [handleAssignment]
  by_cases ht : f.type ≠ .ipAssign
  · rw [if_pos ht]
    exact handled_fail (.inl hstate) rfl (by decide)
  rw [if_neg ht]
  cases hd : decodeIpAssignment f.payload with
  | error e =>
    obtain ⟨what, rfl, hlen⟩ := decodeIpAssignment_terse _ _ hd
    exact handled_fail (.inl hstate) rfl hlen
  | ok a =>
    dsimp only
    have hsame : { c with
        nextExpectedSequence := c.nextExpectedSequence + 1 }.assignmentIsAcceptable a =
        c.assignmentIsAcceptable a := rfl
    rw [hsame]
    by_cases hacc : c.assignmentIsAcceptable a = true
    · rw [if_neg (by simp [hacc])]
      exact ⟨_, _, rfl, .assigned hstate hseq (not_not.mp ht) hd hacc⟩
    · rw [if_pos (by simp [hacc])]
      exact handled_fail (.inl hstate) rfl (by decide)

private theorem dispatch_handled (hstate : c.state = .established)
    (hassign : ∃ a, c.assignment = some a) (hseq : f.sequence = c.nextExpectedSequence) :
    ∃ r c', { c with nextExpectedSequence := c.nextExpectedSequence + 1 }.dispatch f =
      (.ok r, c') ∧ Handled c f r c' := by
  obtain ⟨a, ha⟩ := hassign
  have hfail {code : ClientSessionErrorCode} {what : Bytes}
      (hlen : what.length ≤ kMaximumErrorMessageSize) :
      ∃ r c', { c with nextExpectedSequence := c.nextExpectedSequence + 1 }.fail code what =
        (.ok r, c') ∧ Handled c f r c' := handled_fail (.inr hstate) rfl hlen
  rw [dispatch]
  cases hf : f.type with
  | dataIpv4 =>
    dsimp only
    split
    · rename_i code message hv
      exact hfail (validateIpv4Packet_error hv)
    · rename_i hv
      have hpass := (validateIpv4Packet_ok_iff (by exact ha) _ _ _).mp hv
      exact ⟨_, _, rfl, .packet hstate hseq ha (by rw [hf]; exact hpass)⟩
  | dataIpv6 =>
    dsimp only
    split
    · rename_i code message hv
      exact hfail (validateIpv6Packet_error hv)
    · rename_i hv
      have hpass := (validateIpv6Packet_ok_iff (by exact ha) _ _ _).mp hv
      exact ⟨_, _, rfl, .packet hstate hseq ha (by rw [hf]; exact hpass)⟩
  | ping =>
    dsimp only
    cases hd : decodeLivenessProbe f.payload with
    | error e =>
      obtain ⟨what, rfl, hlen⟩ := decodeLivenessProbe_terse _ _ hd
      exact hfail hlen
    | ok probe =>
      have hp := (decodeLivenessProbe_ok_iff _ _).mp hd
      have hsize : f.payload.length = 8 := by
        rw [← hp, encodeLivenessProbe, appendU64_eq]
        exact BigEndian.length_bytes _ _
      simp only [hp]
      exact ⟨_, _, rfl, .pong hstate hseq hf hsize⟩
  | pong =>
    dsimp only
    cases hd : decodeLivenessProbe f.payload with
    | error e =>
      obtain ⟨what, rfl, hlen⟩ := decodeLivenessProbe_terse _ _ hd
      exact hfail hlen
    | ok probe =>
      have hp := (decodeLivenessProbe_ok_iff _ _).mp hd
      dsimp only
      by_cases hn : c.pendingPingNonce ≠ some probe.nonce
      · rw [if_pos hn]
        exact hfail (by decide)
      · rw [if_neg hn]
        exact ⟨_, _, rfl, .alive hstate hseq hf hp.symm (not_not.mp hn)⟩
  | error =>
    dsimp only
    cases hd : decodeErrorMessage f.payload with
    | error e =>
      obtain ⟨what, rfl, hlen⟩ := decodeErrorMessage_terse _ _ hd
      exact hfail hlen
    | ok message => exact ⟨_, _, rfl, .remote hstate hseq hf hd⟩
  | close =>
    dsimp only
    cases hd : decodeCloseMessage f.payload with
    | error e =>
      obtain ⟨what, rfl, hlen⟩ := decodeCloseMessage_terse _ _ hd
      exact hfail hlen
    | ok message => exact ⟨_, _, rfl, .closed hstate hseq hf⟩
  | clientHello => exact hfail (by decide)
  | ipAssign => exact hfail (by decide)

/-- An established client has its assignment. -/
def Assigned (c : ClientSessionController) : Prop :=
  c.state = .established → ∃ a, c.assignment = some a

/-- `handle` never throws and does one of the things listed. -/
theorem handle_handled (hc : c.Assigned) (f : Frame) :
    ∃ r c', c.handle f = (.ok r, c') ∧ Handled c f r c' := by
  rw [handle]
  by_cases hend : c.state = .idle ∨ c.state = .closing ∨ c.state = .closed
  · rw [if_pos hend]
    exact ⟨_, _, rfl, .inert hend⟩
  rw [if_neg hend]
  have hlive : c.state = .awaitingAssignment ∨ c.state = .established := by
    cases h : c.state <;> simp_all
  by_cases hseq : f.sequence ≠ c.nextExpectedSequence
  · rw [if_pos hseq]
    refine handled_fail hlive rfl ?_
    have hn := length_toText_lt c.nextExpectedSequence.toNat_lt
    have ht : (text "unexpected inbound sequence; expected ").length = 38 := by decide
    simp only [List.length_append, ht, kMaximumErrorMessageSize]
    omega
  rw [if_neg hseq]
  rw [not_not] at hseq
  obtain hstate | hstate := hlive
  · simp only [hstate, if_true]
    rw [← hstate]
    exact handleAssignment_handled hstate hseq
  · simp only [hstate, reduceCtorEq, if_false]
    rw [← hstate]
    exact dispatch_handled hstate (hc hstate) hseq

theorem Handled.stays_assigned {c' : ClientSessionController} {r : ClientSessionResult}
    (hc : c.Assigned) (hh : Handled c f r c') : c'.Assigned := by
  cases hh with
  | inert state => exact hc
  | failed state encode => intro h; cases h
  | assigned state sequence type decode acceptable => exact fun _ => ⟨_, rfl⟩
  | packet state sequence assignment passes => exact fun _ => ⟨_, assignment⟩
  | pong state sequence type size => exact fun _ => hc state
  | alive state sequence type payload pending => exact fun _ => hc state
  | remote state sequence type decode => intro h; cases h
  | closed state sequence type => intro h; cases h

end ClientSessionController

end PersonalVpn.Core
