import PersonalVpn.Core.TunnelAgreement
import PersonalVpn.Lib.Mask

namespace PersonalVpn.Core

open Protocol

theorem isUnspecified_iff {n : Nat} (v : Vector UInt8 n) :
    isUnspecified v = true ↔ v = Vector.replicate n 0 := by
  rw [isUnspecified, List.all_eq_true]
  constructor
  · intro h
    apply Vector.ext
    intro i hi
    have hmem : v[i] ∈ v.toList := by simp
    simpa using h _ hmem
  · intro h x hx
    rw [h] at hx
    simp at hx
    simp [hx.2]

theorem isUnspecified_ipv4_iff (a : Ipv4Address) : isUnspecified a = true ↔ toInteger a = 0 := by
  rw [isUnspecified_iff]
  constructor
  · intro h
    rw [h]
    decide
  · intro h
    apply toInteger_injective
    rw [h]
    decide

theorem prefixMask_eq {prefixLength : UInt8} (h0 : prefixLength ≠ 0) (h : prefixLength ≤ 32) :
    prefixMask prefixLength = Mask.high (32 - prefixLength.toNat) ∧
      32 - prefixLength.toNat < 32 := by
  have hle : prefixLength.toNat ≤ 32 := UInt8.le_iff_toNat_le.mp h
  have hpos : prefixLength.toNat ≠ 0 := fun hno => h0 (UInt8.toNat_inj.mp hno)
  refine ⟨?_, by omega⟩
  unfold prefixMask
  split
  · rename_i heq
    rw [heq]
    decide
  · have hshift : 32 - prefixLength.toUInt32 = UInt32.ofNat (32 - prefixLength.toNat) := by
      apply UInt32.toNat_inj.mp
      have hwide : prefixLength.toUInt32.toNat = prefixLength.toNat := UInt8.toNat_toUInt32 _
      rw [UInt32.toNat_sub, hwide, UInt32.toNat_ofNat']
      change (2 ^ 32 - prefixLength.toNat + 32) % 2 ^ 32 = (32 - prefixLength.toNat) % 2 ^ 32
      omega
    rw [hshift]
    rfl

/-- The negotiated MTU is one of the two. -/
theorem min_mtu_cases (a b : UInt16) : (min a b = a ∧ a ≤ b) ∨ (min a b = b ∧ b ≤ a) := by
  by_cases h : a ≤ b
  · exact .inl ⟨if_pos h, h⟩
  · exact .inr ⟨if_neg h, UInt16.le_of_lt (UInt16.not_le.mp h)⟩

namespace LeasePolicy

variable {p : LeasePolicy}

def network (p : LeasePolicy) : UInt32 := toInteger p.gatewayAddress &&& prefixMask p.prefixLength

def broadcast (p : LeasePolicy) : UInt32 := p.network ||| ~~~prefixMask p.prefixLength

/-- The constructor keeps the pool off the network and broadcast addresses of its subnet and off the
gateway. It does not keep the gateway off the former, nor the pool off the unspecified address. -/
structure Servable (p : LeasePolicy) : Prop where
  pool : p.firstAddress ≠ 0
  gateway : p.prefixLength ≤ 30 →
    toInteger p.gatewayAddress ≠ p.network ∧ toInteger p.gatewayAddress ≠ p.broadcast

theorem Valid.subnet_of_mem (hp : p.Valid) {x : UInt32} (hfirst : p.firstAddress ≤ x)
    (hlast : x ≤ p.lastAddress) : x &&& prefixMask p.prefixLength = p.network := by
  obtain ⟨hmask, hk⟩ := prefixMask_eq hp.prefix_pos hp.prefix_le
  have hsubnet := hp.subnet
  unfold network
  rw [hmask] at hsubnet ⊢
  exact Mask.and_high_between hfirst hlast hk hsubnet.1 hsubnet.2

/-- Only a pool of the single address 0.0.0.0, next to the gateway 0.0.0.1 on a /31, has the
unspecified address in it. -/
theorem Valid.eq_zero_iff (hp : p.Valid) {x : UInt32} (hfirst : p.firstAddress ≤ x)
    (hlast : x ≤ p.lastAddress) : x = 0 ↔ p.firstAddress = 0 := by
  constructor
  · intro hx
    rw [hx] at hfirst
    exact UInt32.le_antisymm hfirst (UInt32.zero_le)
  · intro hzero
    have hlong : ¬p.prefixLength ≤ 30 := by
      intro hshort
      have := (hp.hosts hshort).1
      rw [hzero] at this
      exact absurd this (UInt32.not_lt_zero)
    have hgt : 30 < p.prefixLength.toNat := UInt8.lt_iff_toNat_lt.mp (UInt8.not_le.mp hlong)
    -- the subnet has at most two addresses, and the gateway is one of them
    obtain ⟨hmask, hk⟩ := prefixMask_eq hp.prefix_pos hp.prefix_le
    have hnetwork : toInteger p.gatewayAddress &&& Mask.high (32 - p.prefixLength.toNat) = 0 := by
      rw [← hmask, ← hp.subnet.1, hzero, UInt32.zero_and]
    have hsmall := Mask.toNat_and_high (toInteger p.gatewayAddress) hk
    rw [hnetwork] at hsmall
    have hblock : 2 ^ (32 - p.prefixLength.toNat) ≤ 2 ^ 1 := Nat.pow_le_pow_right (by decide) (by omega)
    have hpos := Nat.two_pow_pos (32 - p.prefixLength.toNat)
    have hgateway : (toInteger p.gatewayAddress).toNat < 2 ^ (32 - p.prefixLength.toNat) := by
      have hzero' : (toInteger p.gatewayAddress).toNat / 2 ^ (32 - p.prefixLength.toNat) = 0 := by
        have := Nat.mul_eq_zero.mp hsmall.symm
        omega
      exact (Nat.div_eq_zero_iff_lt hpos).mp hzero'
    have hbelow : p.lastAddress < toInteger p.gatewayAddress := by
      apply hp.outside
      rw [hzero]
      exact UInt32.zero_le
    rw [UInt32.lt_iff_toNat_lt] at hbelow
    rw [UInt32.le_iff_toNat_le] at hlast
    apply UInt32.toNat_inj.mp
    change x.toNat = 0
    omega

/-- The derived IPv6 address is in the configured /64. -/
theorem take_deriveIpv6 (h : p.ipv6PrefixLength ≠ 0) (a : Ipv4Address) :
    (p.deriveIpv6 a).toList.take 8 = p.ipv6Prefix.toList.take 8 := by
  apply List.ext_getElem
  · simp
  · intro i hi _
    have hi8 : i < 8 := by
      simp at hi
      omega
    simp [deriveIpv6, h, hi8]

theorem isUnspecified_deriveIpv6 (h : p.ipv6PrefixLength ≠ 0) {a : Ipv4Address}
    (ha : isUnspecified a = false) : isUnspecified (p.deriveIpv6 a) = false := by
  apply Bool.eq_false_of_not_eq_true
  intro hno
  rw [isUnspecified_iff] at hno
  have hzero : isUnspecified a = true := by
    rw [isUnspecified_iff]
    apply Vector.ext
    intro i hi
    have hi' : 12 + i < 16 := by omega
    have hget := congrArg (fun v : Ipv6Address => v[12 + i]) hno
    have h8 : ¬12 + i < 8 := by omega
    simpa [deriveIpv6, h, Vector.get, h8] using hget
  rw [ha] at hzero
  cases hzero

end LeasePolicy

/-- What a client asks of an assignment with an IPv6 address. -/
theorem assignmentIsAcceptable_iff (c : ClientSessionController) {a : IpAssignment}
    (h64 : a.ipv6PrefixLength = 64) :
    let client := toInteger a.clientAddress
    let gateway := toInteger a.gatewayAddress
    let mask := prefixMask a.prefixLength
    let network := gateway &&& mask
    let broadcast := network ||| ~~~mask
    c.assignmentIsAcceptable a = true ↔ a.mtu ≤ c.requestedMtu ∧
      a.clientAddress ≠ a.gatewayAddress ∧ client &&& mask = network ∧
      (a.prefixLength ≤ 30 → client ≠ network ∧ client ≠ broadcast ∧ gateway ≠ network ∧
        gateway ≠ broadcast) ∧
      a.clientIpv6Address ≠ a.gatewayIpv6Address ∧
      a.clientIpv6Address.toList.take 8 = a.gatewayIpv6Address.toList.take 8 := by
  intro client gateway mask network broadcast
  have hne : ¬a.ipv6PrefixLength = 0 := by
    rw [h64]
    decide
  unfold ClientSessionController.assignmentIsAcceptable ClientSessionController.addressValue
  dsimp only
  rw [if_neg hne]
  simp only [Bool.if_false_left, Bool.and_eq_true, Bool.not_eq_true', decide_eq_false_iff_not,
    not_or, not_and, gt_iff_lt, UInt16.not_lt, ne_eq, not_not, h64, true_and, and_true, and_assoc]
  rfl

namespace LeaseManager

/-- A lease as `acquire` hands it out. -/
structure Leased (m : LeaseManager) (l : Lease) : Prop where
  policy : m.toLeasePolicy.Valid
  first : m.firstAddress ≤ toInteger l.address
  last : toInteger l.address ≤ m.lastAddress
  ipv6 : l.ipv6Address = m.deriveIpv6 l.address
  gateway : m.ipv6PrefixLength ≠ 0 → l.ipv6Address ≠ m.ipv6Gateway

theorem Inv.leased {m m' : LeaseManager} (h : m.Inv) {identity : Bytes} {now : TimePoint}
    {l : Lease} (hok : m.acquire identity now = (.ok l, m')) :
    m'.Leased l ∧ m'.toLeasePolicy = m.toLeasePolicy := by
  obtain ⟨h', hg⟩ := h.acquire_ok hok
  refine ⟨⟨h'.policy, (h'.inPool hg.self).1, (h'.inPool hg.self).2, h'.ipv6 hg.self, ?_⟩, hg.policy⟩
  rw [hg.policy]
  exact hg.gateway

variable {m : LeaseManager} {l : Lease}

theorem Leased.unspecified_iff (h : m.Leased l) :
    isUnspecified l.address = true ↔ m.firstAddress = 0 := by
  rw [isUnspecified_ipv4_iff, h.policy.eq_zero_iff h.first h.last]

/-- `encode_ip_assignment` accepts the assignment unless the pool has the unspecified address. -/
theorem Leased.valid_iff (h : m.Leased l) (h64 : m.ipv6PrefixLength = 64)
    (hm : kMinimumIpv6Mtu ≤ m.mtu) {mtu : UInt16} (hmin : kMinimumIpv6Mtu ≤ mtu)
    (hmax : mtu ≤ kMaximumTunnelMtu) :
    ValidIpAssignment (Tunnel.assignmentOf m l mtu) ↔ m.firstAddress ≠ 0 := by
  have hne : m.ipv6PrefixLength ≠ 0 := by
    rw [h64]
    decide
  have hunspecified := h.unspecified_iff
  constructor
  · intro hv hzero
    have hclient : isUnspecified l.address = false := hv.client
    rw [hunspecified.mpr hzero] at hclient
    cases hclient
  · intro hpool
    have hclient : isUnspecified l.address = false := by
      apply Bool.eq_false_of_not_eq_true
      intro hno
      exact hpool (hunspecified.mp hno)
    obtain ⟨-, hgateway6, -, -⟩ := h.policy.ipv6 hne
    have hmtu : kMinimumIpv6Mtu ≤ min mtu m.mtu ∧ min mtu m.mtu ≤ kMaximumTunnelMtu := by
      obtain ⟨hcase, -⟩ | ⟨hcase, -⟩ := min_mtu_cases mtu m.mtu
      · rw [hcase]
        exact ⟨hmin, hmax⟩
      · rw [hcase]
        exact ⟨hm, h.policy.mtu_le⟩
    refine ⟨hclient, h.policy.gateway, h.policy.prefix_pos, h.policy.prefix_le, ?_, hmtu.2, ?_, ?_, ?_⟩
    · exact UInt16.le_trans (by decide) hmtu.1
    · have hpos := h.policy.duration_pos
      have hle := h.policy.duration_le
      intro hno
      have hnat : (m.leaseDuration % 2 ^ 32).toNat % 2 ^ 32 = 0 := by
        rw [← UInt32.toNat_ofNat']
        exact congrArg UInt32.toNat hno
      omega
    · intro _
      change m.ipv6PrefixLength ≤ 128 ∧ isUnspecified l.ipv6Address = false ∧
        isUnspecified m.ipv6Gateway = false ∧ l.ipv6Address ≠ m.ipv6Gateway ∧ _
      refine ⟨by rw [h64]; decide, ?_, hgateway6, h.gateway hne, hmtu.1⟩
      rw [h.ipv6]
      exact LeasePolicy.isUnspecified_deriveIpv6 hne hclient
    · intro hno
      exact absurd hno hne

/-- The client accepts the assignment unless the gateway is the network or broadcast address. -/
theorem Leased.acceptable_iff (h : m.Leased l) (h64 : m.ipv6PrefixLength = 64)
    (c : ClientSessionController) :
    c.assignmentIsAcceptable (Tunnel.assignmentOf m l c.requestedMtu) = true ↔
      (m.prefixLength ≤ 30 → toInteger m.gatewayAddress ≠ m.network ∧
        toInteger m.gatewayAddress ≠ m.broadcast) := by
  have hne : m.ipv6PrefixLength ≠ 0 := by
    rw [h64]
    decide
  have hmtu : min c.requestedMtu m.mtu ≤ c.requestedMtu := by
    obtain ⟨hcase, hle⟩ | ⟨hcase, hle⟩ := min_mtu_cases c.requestedMtu m.mtu
    · rw [hcase]
      exact UInt16.le_refl _
    · rw [hcase]
      exact hle
  have hgateway : l.address ≠ m.gatewayAddress := by
    intro heq
    have hoff := h.policy.outside
    rw [← heq] at hoff
    exact absurd h.last (UInt32.not_le.mpr (hoff h.first))
  have hsubnet := h.policy.subnet_of_mem h.first h.last
  have hhost (hshort : m.prefixLength ≤ 30) :
      toInteger l.address ≠ m.network ∧ toInteger l.address ≠ m.broadcast := by
    obtain ⟨hlow, hhigh⟩ := h.policy.hosts hshort
    constructor
    · intro heq
      exact absurd h.first (UInt32.not_le.mpr (by rw [heq]; exact hlow))
    · intro heq
      exact absurd h.last (UInt32.not_le.mpr (by rw [heq]; exact hhigh))
  have htake : l.ipv6Address.toList.take 8 = m.ipv6Gateway.toList.take 8 := by
    rw [h.ipv6, LeasePolicy.take_deriveIpv6 hne]
    exact (h.policy.ipv6 hne).2.2.1
  refine Iff.trans (assignmentIsAcceptable_iff c (a := Tunnel.assignmentOf m l c.requestedMtu) h64) ?_
  constructor
  · intro hacc hshort
    exact (hacc.2.2.2.1 hshort).2.2
  · intro hgw
    refine ⟨hmtu, hgateway, hsubnet, fun hshort => ?_, h.gateway hne, htake⟩
    exact ⟨(hhost hshort).1, (hhost hshort).2, hgw hshort⟩

end LeaseManager

/-- The first exchange of a client with a server whose manager is `m`: its hello is answered with one
IP_ASSIGN, and both sides are then established with the same addresses and MTU. -/
def Greets (m : LeaseManager) (identity : Bytes) (now : TimePoint) (requestedMtu : UInt16) : Prop :=
  ∃ c hello c₁ s r s₁ m₁ assign r' c₂ l a,
    ClientSessionController.create requestedMtu = .ok c ∧ c.start = (.ok hello, c₁) ∧
    SessionController.create identity = .ok s ∧ s.handle m hello now = (.ok r, s₁, m₁) ∧
    r.outboundFrames = [assign] ∧ assign.type = .ipAssign ∧ c₁.handle assign = (.ok r', c₂) ∧
    s₁.state = .established ∧ c₂.state = .established ∧
    s₁.lease = some l ∧ c₂.assignment = some a ∧ a.clientAddress = l.address ∧
    a.clientIpv6Address = l.ipv6Address ∧ a.mtu = s₁.negotiatedMtu

theorem validClientHello {mtu : UInt16} (hmin : kMinimumIpv6Mtu ≤ mtu)
    (hmax : mtu ≤ kMaximumTunnelMtu) : ValidClientHello (clientHello mtu) :=
  ⟨hmin, hmax, show (3 : UInt32) &&& 1 ≠ 0 by decide, show (3 : UInt32) &&& 2 ≠ 0 by decide,
    show (3 : UInt32) &&& ~~~3 = 0 by decide⟩

section Exchange

variable {m m' : LeaseManager} {identity : Bytes} {now : TimePoint} {l : Lease} {mtu : UInt16}

/-- A fresh session becomes established on a hello only by sending the assignment. -/
theorem answered {s s₁ : SessionController} {m₁ : LeaseManager} {f : Frame} {r : SessionResult}
    (hs : SessionController.create identity = .ok s) (hok : m.acquire identity now = (.ok l, m'))
    (hdecode : decodeClientHello f.payload = .ok (clientHello mtu))
    (hhandle : s.handle m f now = (.ok r, s₁, m₁)) (hestablished : s₁.state = .established) :
    ∃ payload, encodeIpAssignment (Tunnel.assignmentOf m' l mtu) = .ok payload ∧
      r.outboundFrames = [⟨.ipAssign, 0, s.nextOutboundSequence, payload⟩] := by
  rw [SessionController.create, ite_error_eq_ok] at hs
  obtain rfl := Except.ok.inj hs.2
  obtain ⟨r₀, s₀, m₀, heq, hh⟩ := SessionController.handle_handled
    (s := { identity }) ⟨(by simp), (by simp)⟩ m f now
  rw [hhandle] at heq
  obtain ⟨hr, hrest⟩ := Prod.mk.inj heq
  obtain ⟨hs₀, hm₀⟩ := Prod.mk.inj hrest
  obtain rfl := Except.ok.inj hr
  rw [hs₀] at hestablished
  cases hh with
  | inert state => cases hestablished
  | failed => cases hestablished
  | granted state sequence type decode acquire encode =>
    obtain ⟨hl, rfl⟩ := Prod.mk.inj (acquire.symm.trans hok)
    obtain rfl := Except.ok.inj hl
    obtain rfl := Except.ok.inj (decode.symm.trans hdecode)
    exact ⟨_, encode, rfl⟩
  | packet state => cases state
  | pong state => cases state
  | closed state => cases state

/-- A waiting client becomes established only on an assignment it accepts. -/
theorem accepted {c c₂ : ClientSessionController} {f : Frame} {r : ClientSessionResult}
    (hc : c.state = .awaitingAssignment) {a : IpAssignment}
    (hp : encodeIpAssignment a = .ok f.payload) (hhandle : c.handle f = (.ok r, c₂))
    (hestablished : c₂.state = .established) : c.assignmentIsAcceptable a = true := by
  have hassigned : c.Assigned := by
    intro hno
    rw [hc] at hno
    cases hno
  obtain ⟨r₀, c₀, heq, hh⟩ := ClientSessionController.handle_handled hassigned f
  rw [hhandle] at heq
  obtain ⟨-, rfl⟩ := Prod.mk.inj heq
  cases hh with
  | inert state => exact absurd (hc.symm.trans hestablished) (by decide)
  | failed => cases hestablished
  | assigned state sequence type decode acceptable =>
    have ha := (decodeIpAssignment_ok_iff _ _).mpr hp
    obtain rfl := Except.ok.inj (decode.symm.trans ha)
    exact acceptable
  | packet state => exact absurd (hc.symm.trans state) (by decide)
  | pong state => exact absurd (hc.symm.trans state) (by decide)
  | alive state => exact absurd (hc.symm.trans state) (by decide)
  | remote => cases hestablished
  | closed => cases hestablished

/-- The lease granted to the client decides the exchange. -/
theorem greets_iff_acceptable (hok : m.acquire identity now = (.ok l, m'))
    (hmin : kMinimumIpv6Mtu ≤ mtu) (hmax : mtu ≤ kMaximumTunnelMtu) :
    Greets m identity now mtu ↔ ValidIpAssignment (Tunnel.assignmentOf m' l mtu) ∧
      ClientSessionController.assignmentIsAcceptable { requestedMtu := mtu }
        (Tunnel.assignmentOf m' l mtu) = true := by
  have hvalid := validClientHello hmin hmax
  have hhello := (encodeClientHello_ok_iff (clientHello mtu) _).mpr ⟨hvalid, rfl⟩
  have hdecode := (decodeClientHello_ok_iff _ _).mpr hhello
  have hstart := ClientSessionController.start_ok (c := { requestedMtu := mtu }) rfl hhello
  constructor
  · rintro ⟨c, hello, c₁, s, r, s₁, m₁, assign, r', c₂, l', a, hc, hst, hs, hhandle, hout, -,
      hassign, hestablished, hestablished', -⟩
    rw [(ClientSessionController.create_ok hc).1, hstart] at hst
    obtain ⟨hf, rfl⟩ := Prod.mk.inj hst
    obtain rfl := Except.ok.inj hf
    obtain ⟨payload, hencode, hframes⟩ := answered hs hok hdecode hhandle hestablished
    rw [hout] at hframes
    obtain rfl := (List.cons.inj hframes).1
    refine ⟨((encodeIpAssignment_ok_iff _ _).mp hencode).1, ?_⟩
    have hacc := accepted rfl (f := ⟨.ipAssign, 0, s.nextOutboundSequence, payload⟩) hencode hassign
      hestablished'
    exact hacc
  · rintro ⟨hv, hacc⟩
    have hid : identity ≠ [] := by
      intro hno
      rw [LeaseManager.acquire, if_pos hno] at hok
      cases hok
    have hencode := (encodeIpAssignment_ok_iff (Tunnel.assignmentOf m' l mtu) _).mpr ⟨hv, rfl⟩
    have hcreate : ClientSessionController.create mtu = .ok { requestedMtu := mtu } := by
      rw [ClientSessionController.create, hhello]
      rfl
    refine ⟨_, _, _, { identity }, _, _, _, _, _, _, l, Tunnel.assignmentOf m' l mtu, hcreate, hstart,
      if_neg hid, SessionController.handle_hello rfl rfl rfl hdecode hok hencode, rfl, rfl,
      ClientSessionController.handle_assign rfl rfl rfl hencode (by exact hacc), rfl, rfl, rfl, rfl,
      rfl, rfl, rfl⟩

/-- An accepted pool serves a client exactly if it is servable. -/
theorem greets_iff_servable (h : m.Inv) (h64 : m.ipv6PrefixLength = 64)
    (hm : kMinimumIpv6Mtu ≤ m.mtu) (hok : m.acquire identity now = (.ok l, m'))
    (hmin : kMinimumIpv6Mtu ≤ mtu) (hmax : mtu ≤ kMaximumTunnelMtu) :
    Greets m identity now mtu ↔ m.Servable := by
  obtain ⟨hleased, hpolicy⟩ := h.leased hok
  have h64' : m'.ipv6PrefixLength = 64 := by rwa [hpolicy]
  have hm' : kMinimumIpv6Mtu ≤ m'.mtu := by rwa [hpolicy]
  rw [greets_iff_acceptable hok hmin hmax, hleased.valid_iff h64' hm' hmin hmax,
    hleased.acceptable_iff h64' { requestedMtu := mtu }, hpolicy]
  exact ⟨fun hs => ⟨hs.1, hs.2⟩, fun hs => ⟨hs.pool, hs.gateway⟩⟩

end Exchange

end PersonalVpn.Core
