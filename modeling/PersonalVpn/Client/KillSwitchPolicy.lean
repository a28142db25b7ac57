import PersonalVpn.Client.KillSwitchFilters

/-! Which packets leave while the kill switch is enabled. -/

namespace PersonalVpn.Client

open PersonalVpn.Core

/-- The address that the filters of an endpoint are about. -/
def WindowsVpnEndpoint.remote (endpoint : WindowsVpnEndpoint) : RemoteAddress :=
  if endpoint.ipv6 then .ipv6 endpoint.address else .ipv4 (copyN endpoint.address.toList 0 4)

def OutboundPacket.IsTcpTo (p : OutboundPacket) (endpoint : WindowsVpnEndpoint) : Prop :=
  p.remote = endpoint.remote ∧ p.protocol = IPPROTO_TCP ∧ p.remotePort = endpoint.port

/-- The committed filters that outlive the process, and are in force once the platform runs. -/
def persistentFilters (s : WfpState) : List WfpFilter :=
  (addedFilters s.committed).filterMap fun (_, f) =>
    if f.flags &&& kFilterPersistent ≠ 0 then some f else none

/-- The committed filters of dynamic sessions. -/
def dynamicFilters (s : WfpState) : List WfpFilter :=
  (addedFilters s.committed).filterMap fun (sessionFlags, f) =>
    if sessionFlags &&& kDynamicSession ≠ 0 then some f else none

/-! ### What a filter matches -/

theorem ntohl_memcpyWord (a : Ipv4Address) : ntohl (memcpyWord a) = toInteger a := by
  have hlength : a.toList.length = 4 := a.length_toList
  have hlt : LittleEndian.value a.toList < 2 ^ 32 := by
    have h := LittleEndian.value_lt a.toList
    rw [hlength] at h
    exact h
  have hbytes : LittleEndian.bytes 4 (memcpyWord a).toNat = a.toList := by
    have h := LittleEndian.bytes_value a.toList
    rw [hlength] at h
    rw [memcpyWord, UInt32.toNat_ofNat_of_lt' hlt, h]
  have hvalue : (Protocol.readU32 a.toList).toNat = _ := Protocol.readU32_eq hlength.ge
  rw [List.take_of_length_le hlength.le] at hvalue
  rw [ntohl, hbytes, ← hvalue, UInt32.ofNat_toNat, toInteger_eq_readU32]

theorem endpointAddress_matches (endpoint : WindowsVpnEndpoint) (remote : RemoteAddress) :
    (endpointAddressCondition endpoint).conditionValue.MatchesAddress remote ↔
      remote = endpoint.remote := by
  unfold endpointAddressCondition WindowsVpnEndpoint.remote
  cases endpoint.ipv6 with
  | true =>
    cases remote with
    | ipv4 address => simp [ConditionValue.MatchesAddress]
    | ipv6 address =>
      have hiff : BigEndian.value address.toList = BigEndian.value endpoint.address.toList ↔
          address = endpoint.address := by
        constructor
        · intro h
          exact Vector.toList_inj.mp (BigEndian.value_injective (by simp) h)
        · intro h
          rw [h]
      simpa [ConditionValue.MatchesAddress] using hiff
  | false =>
    cases remote with
    | ipv4 address =>
      have hmask (x : UInt32) : x &&& 0xffffffff = x := UInt32.and_neg_one
      simp [ConditionValue.MatchesAddress, hmask, ntohl_memcpyWord, toInteger_injective.eq_iff]
    | ipv6 address => simp [ConditionValue.MatchesAddress]

/-- The conditions of a filter on different fields. -/
theorem matches_iff {f : WfpFilter} (hfields : (f.filterCondition.map (·.fieldKey)).Nodup)
    (p : OutboundPacket) : f.Matches p ↔ ∀ c ∈ f.filterCondition, c.Matches p := by
  constructor
  · intro h c hc
    obtain ⟨c', hc', hkey, hmatches⟩ := h c hc
    have heq : c' = c := List.inj_on_of_nodup_map hfields hc' hc hkey
    rwa [← heq]
  · intro h c hc
    exact ⟨c, hc, rfl, h c hc⟩

/-- A resolved endpoint goes into the policy with its own address. -/
theorem Endpoint.remote_toWindows (e : Endpoint) :
    e.toWindows.remote = match e with
      | v4 address _ => .ipv4 address
      | v6 address _ => .ipv6 address := by
  cases e with
  | v4 address port =>
    have hcopy : copyN (copyN (address.toList ++ List.replicate 12 0) 0 16).toList 0 4 = address := by
      apply Vector.ext
      intro i hi
      simp [copyN, byteAt, Nat.lt_trans hi]
    exact congrArg RemoteAddress.ipv4 hcopy
  | v6 address port => rfl

@[simp] theorem endpointAddressCondition_fieldKey (endpoint : WindowsVpnEndpoint) :
    (endpointAddressCondition endpoint).fieldKey = kRemoteAddressCondition := by
  unfold endpointAddressCondition
  split_ifs <;> rfl

theorem endpointAddressCondition_matches (endpoint : WindowsVpnEndpoint) (p : OutboundPacket) :
    (endpointAddressCondition endpoint).Matches p ↔ p.remote = endpoint.remote := by
  have hother : kRemoteAddressCondition ≠ kInterfaceIndexCondition ∧
      kRemoteAddressCondition ≠ kProtocolCondition ∧
      kRemoteAddressCondition ≠ kRemotePortCondition := by decide
  simp [FilterCondition.Matches, hother, endpointAddress_matches]

theorem interfaceFilter_matches (index : UInt32) (layer : Guid) (p : OutboundPacket) :
    (interfaceFilter index layer).Matches p ↔ p.interfaceIndex = index := by
  have hother : kInterfaceIndexCondition ≠ kRemoteAddressCondition ∧
      kInterfaceIndexCondition ≠ kProtocolCondition ∧
      kInterfaceIndexCondition ≠ kRemotePortCondition := by decide
  rw [matches_iff (by simp [interfaceFilter, killSwitchFilter])]
  simp [interfaceFilter, killSwitchFilter, interfaceCondition, FilterCondition.Matches, hother,
    eq_comm]

theorem packetPermit_matches (layer : Guid) (endpoint : WindowsVpnEndpoint) (p : OutboundPacket) :
    (packetPermit layer endpoint).Matches p ↔ p.remote = endpoint.remote := by
  rw [matches_iff (by simp [packetPermit, killSwitchFilter])]
  simp [packetPermit, killSwitchFilter, endpointAddressCondition_matches]

theorem transportPermit_matches (layer : Guid) (endpoint : WindowsVpnEndpoint)
    (p : OutboundPacket) : (transportPermit layer endpoint).Matches p ↔ p.IsTcpTo endpoint := by
  have hfields : ((transportPermit layer endpoint).filterCondition.map (·.fieldKey)).Nodup := by
    simp only [transportPermit, killSwitchFilter, List.map_cons, List.map_nil,
      endpointAddressCondition_fieldKey]
    decide
  have hprotocol : kProtocolCondition ≠ kRemoteAddressCondition ∧
      kProtocolCondition ≠ kInterfaceIndexCondition ∧
      kProtocolCondition ≠ kRemotePortCondition := by decide
  have hport : kRemotePortCondition ≠ kRemoteAddressCondition ∧
      kRemotePortCondition ≠ kInterfaceIndexCondition ∧
      kRemotePortCondition ≠ kProtocolCondition := by decide
  rw [matches_iff hfields]
  simp only [transportPermit, killSwitchFilter, List.forall_mem_cons,
    endpointAddressCondition_matches]
  simp [FilterCondition.Matches, hprotocol, hport, OutboundPacket.IsTcpTo, eq_comm]

/-! ### Which filters stand at a layer -/

/-- The weight of a filter goes with its action. -/
def WfpFilter.Ranked (f : WfpFilter) : Prop :=
  f.subLayerKey = kSubLayerKey ∧
    f.weight = match f.action with
      | .permit => kAllowWeight
      | .block => kBlockWeight

theorem permitsFirst_of_ranked {filters : List WfpFilter} (h : ∀ f ∈ filters, f.Ranked) :
    filterRules.PermitsFirst filters := by
  intro f hf hpermit f' hf' hblock
  have hweight := (h f hf).2
  have hweight' := (h f' hf').2
  cases haction : f'.action with
  | permit => exact absurd haction hblock
  | block =>
    rw [hpermit] at hweight
    rw [haction] at hweight'
    dsimp only at hweight hweight' ⊢
    rw [hweight, hweight']
    decide

theorem mem_atLayer {layer : Guid} {filters : List WfpFilter} {f : WfpFilter} :
    f ∈ atLayer kSubLayerKey layer filters ↔
      f ∈ filters ∧ f.layerKey = layer ∧ f.subLayerKey = kSubLayerKey := by
  simp [atLayer]

/-- Some filter of the layer permits the packet. -/
def PermitsAt (layer : Guid) (filters : List WfpFilter) (p : OutboundPacket) : Prop :=
  ∃ f ∈ filters, f.layerKey = layer ∧ f.Matches p ∧ f.action = .permit

theorem permitsAt_append {layer : Guid} {xs ys : List WfpFilter} {p : OutboundPacket} :
    PermitsAt layer (xs ++ ys) p ↔ PermitsAt layer xs p ∨ PermitsAt layer ys p := by
  simp only [PermitsAt, List.mem_append, or_and_right, exists_or]

/-- Where a block of everything stands at a layer, the layer lets through what a permit matches. -/
theorem layer_admits_iff {filters : List WfpFilter} (hranked : ∀ f ∈ filters, f.Ranked)
    {layer : Guid} (hblock : blockFilter layer kFilterPersistent ∈ filters) (p : OutboundPacket) :
    filterRules.Admits (atLayer kSubLayerKey layer filters) p ↔ PermitsAt layer filters p := by
  have horder : filterRules.PermitsFirst (atLayer kSubLayerKey layer filters) :=
    permitsFirst_of_ranked fun f hf => hranked f (mem_atLayer.mp hf).1
  have hmatches : (blockFilter layer kFilterPersistent).Matches p := by
    intro c hc
    cases hc
  rw [filterRules.admits_iff horder (mem_atLayer.mpr ⟨hblock, rfl, rfl⟩) hmatches]
  constructor
  · rintro ⟨f, hf, happlies, hpermit⟩
    obtain ⟨hin, hlayer, -⟩ := mem_atLayer.mp hf
    exact ⟨f, hin, hlayer, happlies, hpermit⟩
  · rintro ⟨f, hin, hlayer, happlies, hpermit⟩
    exact ⟨f, mem_atLayer.mpr ⟨hin, hlayer, (hranked f hin).1⟩, happlies, hpermit⟩

theorem mem_familyFilters {packetLayer transportLayer : Guid} {ipv6 : Bool}
    {endpoints : List WindowsVpnEndpoint} {f : WfpFilter} :
    f ∈ familyFilters packetLayer transportLayer ipv6 endpoints ↔
      (∃ e ∈ endpoints, e.ipv6 = ipv6 ∧
        (f = packetPermit packetLayer e ∨ f = transportPermit transportLayer e)) ∨
      f = blockFilter transportLayer kFilterPersistent ∨
      f = blockFilter packetLayer kFilterPersistent := by
  have hmem (e : WindowsVpnEndpoint) :
      (f ∈ if e.ipv6 = ipv6 then [packetPermit packetLayer e, transportPermit transportLayer e]
        else []) ↔
      e.ipv6 = ipv6 ∧ (f = packetPermit packetLayer e ∨ f = transportPermit transportLayer e) := by
    split_ifs with h <;> simp [h]
  simp only [familyFilters, List.mem_append, List.mem_flatMap, hmem, List.mem_cons,
    List.not_mem_nil, or_false]

theorem outboundTransport_ne_outboundIpPacket :
    ∀ ipv6 ipv6', outboundTransport ipv6 ≠ outboundIpPacket ipv6' := by
  decide

theorem WindowsVpnEndpoint.isIpv6_remote (e : WindowsVpnEndpoint) : e.remote.isIpv6 = e.ipv6 := by
  unfold remote
  cases e.ipv6 <;> rfl

section Installed

variable {s : WfpState} {endpoints : List WindowsVpnEndpoint}
  (hs : addedFilters s.committed = WfpProgram.ofSession 0 (killSwitchFilters endpoints))

include hs

/-- The filters for the boot are not among the persistent ones. -/
theorem mem_persistentFilters {f : WfpFilter} :
    f ∈ persistentFilters s ↔ ∃ ipv6, f ∈ familyFilters (outboundIpPacket ipv6)
      (outboundTransport ipv6) ipv6 endpoints := by
  have hpersistent : kFilterPersistent &&& kFilterPersistent ≠ 0 := by decide
  have hbootTime : kFilterBootTime &&& kFilterPersistent = 0 := by decide
  have hflags (ipv6 : Bool) (hf : f ∈ familyFilters (outboundIpPacket ipv6)
      (outboundTransport ipv6) ipv6 endpoints) : f.flags &&& kFilterPersistent ≠ 0 := by
    obtain ⟨e, -, -, rfl | rfl⟩ | rfl | rfl := mem_familyFilters.mp hf <;> exact hpersistent
  have hmem : f ∈ persistentFilters s ↔
      f ∈ killSwitchFilters endpoints ∧ f.flags &&& kFilterPersistent ≠ 0 := by
    rw [persistentFilters, hs, WfpProgram.ofSession, List.filterMap_map, List.mem_filterMap]
    simp
  rw [hmem]
  constructor
  · rintro ⟨hf, hkept⟩
    simp only [killSwitchFilters, List.mem_append, List.mem_cons, List.not_mem_nil, or_false] at hf
    obtain ((rfl | rfl) | hf) | hf := hf
    · exact absurd hbootTime hkept
    · exact absurd hbootTime hkept
    · exact ⟨false, hf⟩
    · exact ⟨true, hf⟩
  · rintro ⟨ipv6, hf⟩
    refine ⟨?_, hflags ipv6 hf⟩
    cases ipv6 with
    | false => exact List.mem_append_left _ (List.mem_append_right _ hf)
    | true => exact List.mem_append_right _ hf

theorem persistent_ranked : ∀ f ∈ persistentFilters s, f.Ranked := by
  intro f hf
  obtain ⟨ipv6, hf⟩ := (mem_persistentFilters hs).mp hf
  obtain ⟨e, -, -, rfl | rfl⟩ | rfl | rfl := mem_familyFilters.mp hf <;> exact ⟨rfl, rfl⟩

theorem permitsAt_packet (p : OutboundPacket) :
    PermitsAt (outboundIpPacket p.remote.isIpv6) (persistentFilters s) p ↔
      ∃ e ∈ endpoints, p.remote = e.remote := by
  constructor
  · rintro ⟨f, hf, hlayer, hmatches, hpermit⟩
    obtain ⟨ipv6, hf⟩ := (mem_persistentFilters hs).mp hf
    obtain ⟨e, he, -, rfl | rfl⟩ | rfl | rfl := mem_familyFilters.mp hf
    · exact ⟨e, he, (packetPermit_matches _ e p).mp hmatches⟩
    · exact absurd hlayer (outboundTransport_ne_outboundIpPacket _ _)
    · cases hpermit
    · cases hpermit
  · rintro ⟨e, he, hremote⟩
    have hf : packetPermit (outboundIpPacket e.ipv6) e ∈ persistentFilters s :=
      (mem_persistentFilters hs).mpr ⟨e.ipv6, mem_familyFilters.mpr (.inl ⟨e, he, rfl, .inl rfl⟩)⟩
    refine ⟨_, hf, ?_, (packetPermit_matches _ e p).mpr hremote, rfl⟩
    rw [hremote, e.isIpv6_remote]
    rfl

theorem permitsAt_transport (p : OutboundPacket) :
    PermitsAt (outboundTransport p.remote.isIpv6) (persistentFilters s) p ↔
      ∃ e ∈ endpoints, p.IsTcpTo e := by
  constructor
  · rintro ⟨f, hf, hlayer, hmatches, hpermit⟩
    obtain ⟨ipv6, hf⟩ := (mem_persistentFilters hs).mp hf
    obtain ⟨e, he, -, rfl | rfl⟩ | rfl | rfl := mem_familyFilters.mp hf
    · exact absurd hlayer.symm (outboundTransport_ne_outboundIpPacket _ _)
    · exact ⟨e, he, (transportPermit_matches _ e p).mp hmatches⟩
    · cases hpermit
    · cases hpermit
  · rintro ⟨e, he, htcp⟩
    have hf : transportPermit (outboundTransport e.ipv6) e ∈ persistentFilters s :=
      (mem_persistentFilters hs).mpr ⟨e.ipv6, mem_familyFilters.mpr (.inl ⟨e, he, rfl, .inr rfl⟩)⟩
    refine ⟨_, hf, ?_, (transportPermit_matches _ e p).mpr htcp, rfl⟩
    rw [htcp.1, e.isIpv6_remote]
    rfl

theorem permitted_iff {extra : List WfpFilter} (hextra : ∀ f ∈ extra, f.Ranked)
    (p : OutboundPacket) :
    Permitted kSubLayerKey (persistentFilters s ++ extra) p ↔
      ((∃ e ∈ endpoints, p.remote = e.remote) ∨
        PermitsAt (outboundIpPacket p.remote.isIpv6) extra p) ∧
      ((∃ e ∈ endpoints, p.IsTcpTo e) ∨
        PermitsAt (outboundTransport p.remote.isIpv6) extra p) := by
  have hranked : ∀ f ∈ persistentFilters s ++ extra, f.Ranked := by
    intro f hf
    rcases List.mem_append.mp hf with hf | hf
    · exact persistent_ranked hs f hf
    · exact hextra f hf
  have hblock (layer : Guid) (hlayer : layer = outboundIpPacket p.remote.isIpv6 ∨
      layer = outboundTransport p.remote.isIpv6) :
      blockFilter layer kFilterPersistent ∈ persistentFilters s ++ extra := by
    apply List.mem_append_left
    rw [mem_persistentFilters hs]
    refine ⟨p.remote.isIpv6, mem_familyFilters.mpr (.inr ?_)⟩
    rcases hlayer with rfl | rfl
    · exact .inr rfl
    · exact .inl rfl
  rw [Permitted, layer_admits_iff hranked (hblock _ (.inl rfl)),
    layer_admits_iff hranked (hblock _ (.inr rfl)), permitsAt_append, permitsAt_append,
    permitsAt_packet hs, permitsAt_transport hs]

end Installed

theorem permitsAt_tunnelFilters {index : UInt32} {layer : Guid} (p : OutboundPacket)
    (hlayer : layer ∈
      [kOutboundIpPacketV4, kOutboundIpPacketV6, kOutboundTransportV4, kOutboundTransportV6]) :
    PermitsAt layer (tunnelFilters index) p ↔ p.interfaceIndex = index := by
  constructor
  · rintro ⟨f, hf, -, hmatches, -⟩
    obtain ⟨layer', -, rfl⟩ := List.mem_map.mp hf
    exact (interfaceFilter_matches index layer' p).mp hmatches
  · intro hindex
    exact ⟨interfaceFilter index layer, List.mem_map_of_mem hlayer, rfl,
      (interfaceFilter_matches index layer p).mpr hindex, rfl⟩

theorem tunnelFilters_ranked (index : UInt32) : ∀ f ∈ tunnelFilters index, f.Ranked := by
  intro f hf
  obtain ⟨layer, -, rfl⟩ := List.mem_map.mp hf
  exact ⟨rfl, rfl⟩

/-- While the kill switch is enabled, a packet leaves exactly on the tunnel interface or to an
endpoint by TCP; without the filters of the dynamic session, only the latter. -/
theorem kill_switch_exact {wfp wfp' : Wfp} {endpoints : List WindowsVpnEndpoint}
    {index : UInt32} {session : Option Engine} {s t : WfpState}
    (henable : enableWindowsKillSwitch wfp endpoints {} = (.ok (), s))
    (hreplace : replaceWindowsTunnelPermit wfp' index { dynamicSession := session } = (.ok (), t))
    (p : OutboundPacket) :
    (Permitted kSubLayerKey (persistentFilters s ++ dynamicFilters t) p ↔
      p.interfaceIndex = index ∨ ∃ e ∈ endpoints, p.IsTcpTo e) ∧
    (Permitted kSubLayerKey (persistentFilters s) p ↔ ∃ e ∈ endpoints, p.IsTcpTo e) := by
  have hs := (WfpProgram.commits_enableWindowsKillSwitch wfp endpoints []).ok rfl henable
  have ht := (WfpProgram.commits_replaceWindowsTunnelPermit wfp' index []).ok rfl hreplace
  have hdynamic : dynamicFilters t = tunnelFilters index := by
    have hflag : kDynamicSession ≠ 0 := by decide
    rw [dynamicFilters, ht]
    simp [addedFilters, WfpProgram.ofSession, hflag]
  have haddress : (∃ e ∈ endpoints, p.IsTcpTo e) → ∃ e ∈ endpoints, p.remote = e.remote := by
    rintro ⟨e, he, htcp⟩
    exact ⟨e, he, htcp.1⟩
  have hpacket : outboundIpPacket p.remote.isIpv6 ∈
      [kOutboundIpPacketV4, kOutboundIpPacketV6, kOutboundTransportV4, kOutboundTransportV6] := by
    cases p.remote.isIpv6 <;> decide
  have htransport : outboundTransport p.remote.isIpv6 ∈
      [kOutboundIpPacketV4, kOutboundIpPacketV6, kOutboundTransportV4, kOutboundTransportV6] := by
    cases p.remote.isIpv6 <;> decide
  constructor
  · rw [hdynamic, permitted_iff hs (tunnelFilters_ranked index) p,
      permitsAt_tunnelFilters p hpacket, permitsAt_tunnelFilters p htransport]
    constructor
    · rintro ⟨-, htcp | hindex⟩
      · exact .inr htcp
      · exact .inl hindex
    · rintro (hindex | htcp)
      · exact ⟨.inr hindex, .inr hindex⟩
      · exact ⟨.inl (haddress htcp), .inl htcp⟩
  · have hnone (layer : Guid) : ¬PermitsAt layer [] p := by simp [PermitsAt]
    have hranked : ∀ f ∈ ([] : List WfpFilter), f.Ranked := by simp
    have h := permitted_iff hs hranked p
    rw [List.append_nil] at h
    rw [h]
    constructor
    · rintro ⟨-, htcp | hpermit⟩
      · exact htcp
      · exact absurd hpermit (hnone _)
    · intro htcp
      exact ⟨.inl (haddress htcp), .inl htcp⟩

theorem kill_switch_exact_granted :
    let wfp : Wfp :=
      { result := fun _ _ => ERROR_SUCCESS
        engineHandle := fun _ => 1
        provider := fun _ => ⟨kProviderKey, [], kProviderPersistent⟩
        subLayer := fun _ => ⟨kSubLayerKey, [], kSubLayerPersistent, some kProviderKey, 0x7fff⟩
        entries := fun _ => [] }
    let endpoint := Endpoint.toWindows (.v4 #v[192, 0, 2, 1] 443)
    let s := (enableWindowsKillSwitch wfp [endpoint] {}).2
    let t := (replaceWindowsTunnelPermit wfp 7 {}).2
    let packet : OutboundPacket := ⟨.ipv4 #v[192, 0, 2, 1], IPPROTO_TCP, 443, 3⟩
    Permitted kSubLayerKey (persistentFilters s ++ dynamicFilters t) packet ∧
      Permitted kSubLayerKey (persistentFilters s) packet := by
  intro wfp endpoint s t packet
  have hremote : packet.remote = endpoint.remote :=
    (Endpoint.remote_toWindows (.v4 #v[192, 0, 2, 1] 443)).symm
  have henable : enableWindowsKillSwitch wfp [endpoint] {} = (.ok (), s) :=
    Prod.ext (ok_of_toOption (by decide +kernel)) rfl
  have hreplace : replaceWindowsTunnelPermit wfp 7 {} = (.ok (), t) :=
    Prod.ext (ok_of_toOption (by decide +kernel)) rfl
  have htcp : ∃ e ∈ [endpoint], packet.IsTcpTo e :=
    ⟨endpoint, List.mem_singleton_self endpoint, hremote, rfl, rfl⟩
  have h := kill_switch_exact henable hreplace packet
  exact ⟨h.1.mpr (.inr htcp), h.2.mpr htcp⟩

end PersonalVpn.Client
