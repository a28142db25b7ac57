import PersonalVpn.Client.WindowsKillSwitch

/-! What the calls of the kill switch commit. -/

namespace PersonalVpn.Client

open PersonalVpn.Core Fallible

/-- The filters among some changes, each with the flags of the session that has added it. -/
def addedFilters (changes : List (Engine × WfpChange)) : List (UInt32 × WfpFilter) :=
  changes.filterMap fun
    | (engine, .filterAdd filter) => some (engine.sessionFlags, filter)
    | _ => none

theorem addedFilters_append (xs ys : List (Engine × WfpChange)) :
    addedFilters (xs ++ ys) = addedFilters xs ++ addedFilters ys :=
  List.filterMap_append

/-! ### The filters of the policy -/

/-- The filter of an endpoint at the packet layer. -/
def packetPermit (layer : Guid) (endpoint : WindowsVpnEndpoint) : WfpFilter :=
  killSwitchFilter layer kFilterPersistent .permit kAllowWeight
    [endpointAddressCondition endpoint] true

def transportPermit (layer : Guid) (endpoint : WindowsVpnEndpoint) : WfpFilter :=
  killSwitchFilter layer kFilterPersistent .permit kAllowWeight
    [endpointAddressCondition endpoint, ⟨kProtocolCondition, .uint8 IPPROTO_TCP⟩,
      ⟨kRemotePortCondition, .uint16 endpoint.port⟩] true

def blockFilter (layer : Guid) (flags : UInt32) : WfpFilter :=
  killSwitchFilter layer flags .block kBlockWeight [] true

def familyFilters (packetLayer transportLayer : Guid) (ipv6 : Bool)
    (endpoints : List WindowsVpnEndpoint) : List WfpFilter :=
  (endpoints.flatMap fun endpoint =>
    if endpoint.ipv6 = ipv6 then
      [packetPermit packetLayer endpoint, transportPermit transportLayer endpoint]
    else []) ++
  [blockFilter transportLayer kFilterPersistent, blockFilter packetLayer kFilterPersistent]

def killSwitchFilters (endpoints : List WindowsVpnEndpoint) : List WfpFilter :=
  [blockFilter kOutboundIpPacketV4 kFilterBootTime,
    blockFilter kOutboundIpPacketV6 kFilterBootTime] ++
  familyFilters kOutboundIpPacketV4 kOutboundTransportV4 false endpoints ++
  familyFilters kOutboundIpPacketV6 kOutboundTransportV6 true endpoints

def interfaceFilter (interfaceIndex : UInt32) (layer : Guid) : WfpFilter :=
  killSwitchFilter layer 0 .permit kAllowWeight [interfaceCondition interfaceIndex] false

def tunnelFilters (interfaceIndex : UInt32) : List WfpFilter :=
  [kOutboundIpPacketV4, kOutboundIpPacketV6, kOutboundTransportV4, kOutboundTransportV6].map
    (interfaceFilter interfaceIndex)

namespace WfpProgram

/-- A part of a transaction that adds these filters, with nothing committed meanwhile. -/
def Adds {α : Type} (x : WfpProgram α) (filters : List (UInt32 × WfpFilter)) : Prop :=
  ∀ committed, Emits (fun s => addedFilters s.pending) (fun s => s.committed = committed) x filters

section Parts

variable {wfp : Wfp} {engine : Engine}

theorem Adds.bind {α β : Type} {x : WfpProgram α} {f : α → WfpProgram β}
    {xs ys : List (UInt32 × WfpFilter)} (hx : Adds x xs) (hf : ∀ a, Adds (f a) ys) :
    Adds (x >>= f) (xs ++ ys) :=
  fun c => (hx c).bind fun a => hf a c

theorem adds_pure {α : Type} (a : α) : Adds (pure a) [] := fun _ => emits_pure a

theorem holds_ask {α : Type} {P : WfpState → Prop} {E : WfpException → WfpState → Prop}
    (answer : Nat → α) (hP : ∀ s, P s → P { s with calls := s.calls + 1 }) :
    Holds P (ask answer) (fun _ => P) E := by
  constructor
  · intro s s' a hs hrun
    cases hrun
    exact hP s hs
  · intro s s' e hs hrun
    cases hrun

theorem adds_ask {α : Type} (answer : Nat → α) : Adds (ask answer) [] :=
  fun _ => emits_nil fun _ => holds_ask answer fun _ hs => hs

theorem holds_checkWfp {P : WfpState → Prop} {E : WfpException → WfpState → Prop}
    (result : UInt32) (operation : Bytes) (hE : ∀ e s, P s → E e s) :
    Holds P (checkWfp result operation) (fun _ s => P s ∧ result = ERROR_SUCCESS) E := by
  unfold checkWfp failIf
  constructor
  · intro s s' a hs hrun
    split_ifs at hrun with hresult
    · cases hrun
    · cases hrun
      exact ⟨hs, not_not.mp hresult⟩
  · intro s s' e hs hrun
    split_ifs at hrun
    · cases hrun
      exact hE _ s hs
    · cases hrun

theorem adds_failIf {c : Prop} [Decidable c] (e : WfpException) : Adds (failIf c e) [] := by
  intro committed
  unfold failIf
  split_ifs
  · exact emits_throw e
  · exact emits_pure ()

theorem change_run (c : WfpChange) (s : WfpState) :
    change wfp engine c s = (.ok (wfp.result s.calls (.change engine c)),
      { s with
        calls := s.calls + 1
        pending := s.pending ++
          if wfp.result s.calls (.change engine c) = ERROR_SUCCESS then [(engine, c)] else [] }) := by
  unfold change
  rw [bind_ok (show call wfp (.change engine c) s = _ from rfl)]
  split_ifs
  · rfl
  · rw [List.append_nil]
    rfl

theorem holds_change (c : WfpChange) (committed : List (Engine × WfpChange))
    (o : List (UInt32 × WfpFilter)) :
    Holds (fun s => s.committed = committed ∧ addedFilters s.pending = o) (change wfp engine c)
      (fun result s => s.committed = committed ∧
        addedFilters s.pending =
          o ++ if result = ERROR_SUCCESS then addedFilters [(engine, c)] else [])
      (fun _ s => s.committed = committed) := by
  constructor
  · intro s s' result hs hrun
    rw [change_run] at hrun
    cases hrun
    refine ⟨hs.1, ?_⟩
    dsimp only
    rw [addedFilters_append, hs.2]
    split_ifs <;> rfl
  · intro s s' e hs hrun
    rw [change_run] at hrun
    cases hrun

/-- A change that is no filter adds none, whatever its result. -/
theorem adds_change {c : WfpChange} (hc : addedFilters [(engine, c)] = []) :
    Adds (change wfp engine c) [] := by
  intro committed o
  have h : Holds _ (change wfp engine c) _ _ := holds_change c committed o
  simpa only [hc, ite_self] using h

theorem adds_addFilter (layer : Guid) (flags : UInt32) (action : ActionType) (weight : UInt64)
    (conditions : List FilterCondition) (owned : Bool) :
    Adds (addFilter wfp engine layer flags action weight conditions owned)
      [(engine.sessionFlags, killSwitchFilter layer flags action weight conditions owned)] := by
  intro committed o
  unfold addFilter
  apply (holds_change _ committed o).bind
  intro result
  refine (holds_checkWfp result _ ?_).weaken ?_
  · exact fun _ _ hs => hs.1
  · rintro - s ⟨⟨hcommitted, hpending⟩, hresult⟩
    rw [if_pos hresult] at hpending
    exact ⟨hcommitted, hpending⟩

theorem adds_call (c : WfpCall) : Adds (call wfp c) [] := adds_ask _

theorem adds_checkWfp (result : UInt32) (operation : Bytes) :
    Adds (checkWfp result operation) [] :=
  adds_failIf _

/-- An object that is there is checked, one that is not is added. -/
theorem adds_ensure {result notFound : UInt32} {operation : Bytes} {check add : WfpProgram Unit}
    (hcheck : Adds check []) (hadd : Adds add []) :
    Adds (if result = ERROR_SUCCESS then check
      else if result = notFound then add
      else throw (.systemError result operation)) [] := by
  split_ifs
  · exact hcheck
  · exact hadd
  · exact fun _ => emits_throw _

theorem adds_ensureProviderAndSublayer (wfp : Wfp) (engine : Engine) :
    Adds (ensureProviderAndSublayer wfp engine) [] := by
  have hprovider : Adds (ensureProvider wfp engine) [] := by
    apply (adds_ask _).bind
    rintro ⟨result, existingProvider⟩
    exact adds_ensure (adds_failIf _) ((adds_change rfl).bind fun result => adds_checkWfp result _)
  have hsublayer : Adds (ensureSubLayer wfp engine) [] := by
    apply (adds_ask _).bind
    rintro ⟨result, existingSublayer⟩
    exact adds_ensure (adds_failIf _) ((adds_change rfl).bind fun result => adds_checkWfp result _)
  exact hprovider.bind fun _ => hsublayer

theorem adds_collectKeys (batches : List (List Guid)) (keys : List Guid) :
    Adds (collectKeys wfp engine batches keys) [] := by
  have hcheck : Adds (do
      checkWfp (← call wfp (.filterEnum engine 128))
        (text "enumerate PersonalVPN WFP filters")) [] :=
    (adds_call _).bind fun result => adds_checkWfp result _
  induction batches generalizing keys with
  | nil => exact hcheck.bind fun _ => adds_pure keys
  | cons entries batches ih =>
    apply hcheck.bind
    intro _
    split_ifs
    · exact adds_pure keys
    · exact ih _

theorem adds_enumerateProviderFilters (wfp : Wfp) (engine : Engine) :
    Adds (enumerateProviderFilters wfp engine) [] := by
  apply (adds_ask _).bind
  rintro ⟨result, batches⟩
  apply (adds_checkWfp result _).bind
  intro _
  have hkeys : Adds (tryCatch (collectKeys wfp engine batches []) fun e => do
      let _ ← call wfp (.filterDestroyEnumHandle engine)
      throw e) [] :=
    fun c => (adds_collectKeys batches [] c).tryCatch_throw fun _ => holds_ask _ fun _ hs => hs
  apply hkeys.bind
  intro keys
  exact (adds_call _).bind fun result => (adds_checkWfp result _).bind fun _ => adds_pure keys

theorem adds_deleteProviderFilters (wfp : Wfp) (engine : Engine) :
    Adds (deleteProviderFilters wfp engine) [] := by
  apply (adds_enumerateProviderFilters wfp engine).bind
  intro keys
  have hdelete (key : Guid) : Adds (do
      let result ← change wfp engine (.filterDelete key)
      failIf (result ≠ ERROR_SUCCESS ∧ result ≠ FWP_E_FILTER_NOT_FOUND)
        (.systemError result (text "delete PersonalVPN WFP filter"))) [] :=
    (adds_change rfl).bind fun _ => adds_failIf _
  intro c
  have h := emits_forM (fun key => hdelete key c) keys
  rwa [List.flatMap_eq_nil_iff.mpr fun _ _ => rfl] at h

theorem adds_removeProvider (wfp : Wfp) (engine : Engine) : Adds (removeProvider wfp engine) [] :=
  (adds_change rfl).bind fun _ => (adds_failIf _).bind fun _ =>
    (adds_change rfl).bind fun _ => adds_failIf _

end Parts

/-! ### The filters that a call commits -/

section Runs

variable {wfp : Wfp} {engine : Engine}

/-- Filters with the flags of a session. -/
def ofSession (sessionFlags : UInt32) (filters : List WfpFilter) : List (UInt32 × WfpFilter) :=
  filters.map fun filter => (sessionFlags, filter)

theorem adds_addEndpointAllow (packetLayer transportLayer : Guid) (endpoint : WindowsVpnEndpoint) :
    Adds (addEndpointAllow wfp engine packetLayer transportLayer endpoint)
      (ofSession engine.sessionFlags
        [packetPermit packetLayer endpoint, transportPermit transportLayer endpoint]) :=
  (adds_addFilter _ _ _ _ _ _).bind fun _ => adds_addFilter _ _ _ _ _ _

theorem adds_addFamilyPolicy (packetLayer transportLayer : Guid) (ipv6 : Bool)
    (endpoints : List WindowsVpnEndpoint) :
    Adds (addFamilyPolicy wfp engine packetLayer transportLayer ipv6 endpoints)
      (ofSession engine.sessionFlags
        (familyFilters packetLayer transportLayer ipv6 endpoints)) := by
  have hendpoint (endpoint : WindowsVpnEndpoint) :
      Adds (if endpoint.ipv6 = ipv6
        then addEndpointAllow wfp engine packetLayer transportLayer endpoint else pure ())
      (ofSession engine.sessionFlags
        (if endpoint.ipv6 = ipv6 then
          [packetPermit packetLayer endpoint, transportPermit transportLayer endpoint]
        else [])) := by
    split_ifs
    · exact adds_addEndpointAllow packetLayer transportLayer endpoint
    · exact adds_pure ()
  have hloop (c : List (Engine × WfpChange)) := emits_forM (fun endpoint => hendpoint endpoint c)
    endpoints
  have hblock (layer : Guid) : Adds (addUnconditionalFilter wfp engine layer kFilterPersistent
      .block kBlockWeight) [(engine.sessionFlags, blockFilter layer kFilterPersistent)] :=
    adds_addFilter _ _ _ _ _ _
  have h := Adds.bind hloop fun _ => (hblock transportLayer).bind fun _ => hblock packetLayer
  rw [familyFilters, ofSession, List.map_append, List.map_flatMap]
  exact h

/-- A run that returns has committed these filters, one that throws has committed nothing. -/
def Commits {α : Type} (x : WfpProgram α) (filters : List (UInt32 × WfpFilter)) : Prop :=
  ∀ committed, Holds (fun s => s.committed = committed) x
    (fun _ s => addedFilters s.committed = addedFilters committed ++ filters)
    fun _ s => s.committed = committed

theorem Adds.commits {body : WfpProgram Unit} {filters : List (UInt32 × WfpFilter)}
    (hbody : Adds body filters) : Commits (transaction wfp engine body) filters := by
  intro c
  have hbegin : Holds (fun s => s.committed = c) (transactionBegin wfp engine)
      (fun _ s => s.committed = c ∧ addedFilters s.pending = []) fun _ s => s.committed = c := by
    apply (holds_ask _ fun _ hs => hs).bind
    intro result
    refine Holds.bind (holds_checkWfp result _ ?_) fun _ => ?_
    · exact fun _ _ hs => hs
    · exact holds_modify fun s hs => ⟨hs.1, rfl⟩
  have hcommit : Holds (fun s => s.committed = c ∧ addedFilters s.pending = filters)
      (transactionCommit wfp engine)
      (fun _ s => addedFilters s.committed = addedFilters c ++ filters)
      fun _ s => s.committed = c := by
    apply (holds_ask _ fun _ hs => hs).bind
    intro result
    refine Holds.bind (holds_checkWfp result _ ?_) fun _ => ?_
    · exact fun _ _ hs => hs.1
    · apply holds_modify
      rintro s ⟨⟨hcommitted, hpending⟩, -⟩
      dsimp only
      rw [addedFilters_append, hcommitted, hpending]
  have habort (e : WfpException) : Holds (fun s => s.committed = c) (transactionAbort wfp engine)
      (fun _ s => s.committed = c) fun _ s => s.committed = c :=
    (holds_ask _ fun _ hs => hs).bind fun _ => holds_modify fun _ hs => hs
  apply hbegin.bind
  intro _
  exact ((hbody c []).bind fun _ => hcommit).tryCatch_throw habort

theorem Adds.commits_bind {α β : Type} {x : WfpProgram α} {f : α → WfpProgram β}
    {filters : List (UInt32 × WfpFilter)} (hx : Adds x []) (hf : ∀ a, Commits (f a) filters) :
    Commits (x >>= f) filters := by
  intro c
  apply Holds.bind (M := fun _ s => s.committed = c)
  · constructor
    · intro s s' a hs hrun
      exact ((hx c (addedFilters s.pending)).ok ⟨hs, rfl⟩ hrun).1
    · intro s s' e hs hrun
      exact (hx c (addedFilters s.pending)).error ⟨hs, rfl⟩ hrun
  · intro a
    exact hf a c

theorem commits_engineOpen_bind {α : Type} {sessionFlags : UInt32} {operation : Bytes}
    {f : Engine → WfpProgram α} {filters : List (UInt32 × WfpFilter)}
    (hf : ∀ handle, Commits (f ⟨handle, sessionFlags⟩) filters) :
    Commits (engineOpen wfp sessionFlags operation >>= f) filters := by
  intro c
  have hopen : Holds (fun s => s.committed = c) (engineOpen wfp sessionFlags operation)
      (fun engine s => s.committed = c ∧ engine.sessionFlags = sessionFlags)
      fun _ s => s.committed = c := by
    apply (holds_ask _ fun _ hs => hs).bind
    rintro ⟨result, handle⟩
    refine Holds.bind (holds_checkWfp result _ ?_) fun _ => ?_
    · exact fun _ _ hs => hs
    · exact holds_pure fun s hs => ⟨hs.1, rfl⟩
  apply hopen.bind
  rintro ⟨handle, flags⟩
  apply holds_of_fact
  rintro rfl
  exact hf handle c

/-- Closing the engine before an exception goes on. -/
theorem Commits.closing {α : Type} {x : WfpProgram α} {filters : List (UInt32 × WfpFilter)}
    (hx : Commits x filters) :
    Commits (tryCatch x fun e => do engineClose wfp engine; throw e) filters :=
  fun c => (hx c).tryCatch_throw fun _ =>
    (holds_ask _ fun _ hs => hs).bind fun _ => holds_pure fun _ hs => hs

theorem commits_withEngine {body : Engine → WfpProgram Unit}
    {filters : List (UInt32 × WfpFilter)} (hbody : ∀ handle, Commits (body ⟨handle, 0⟩) filters) :
    Commits (withEngine wfp body) filters := by
  apply commits_engineOpen_bind
  intro handle c
  refine ((hbody handle).closing c).bind fun _ => ?_
  exact (holds_ask _ fun _ hs => hs).bind fun _ => holds_pure fun _ hs => hs

theorem adds_closeWindowsTunnelPermit (wfp : Wfp) : Adds (closeWindowsTunnelPermit wfp) [] := by
  have hget : Adds get [] := fun _ => emits_nil fun _ => holds_get
  apply hget.bind
  intro s
  cases s.dynamicSession with
  | none => exact adds_pure ()
  | some session =>
    have hclose : Adds (engineClose wfp session) [] := (adds_call _).bind fun _ => adds_pure ()
    apply hclose.bind
    intro _ c
    exact emits_nil fun _ => holds_modify fun _ hs => hs

end Runs

/-- What `enable_windows_kill_switch` commits, and that it commits nothing where it throws. -/
theorem commits_enableWindowsKillSwitch (wfp : Wfp) (endpoints : List WindowsVpnEndpoint) :
    Commits (enableWindowsKillSwitch wfp endpoints) (ofSession 0 (killSwitchFilters endpoints)) := by
  have hchecks : Adds (endpoints.forM checkEndpoint) [] := by
    intro c
    have h := emits_forM (fun endpoint => (adds_failIf _ : Adds (checkEndpoint endpoint) []) c)
      endpoints
    rwa [List.flatMap_eq_nil_iff.mpr fun _ _ => rfl] at h
  apply (adds_failIf _).commits_bind
  intro _
  apply hchecks.commits_bind
  intro _
  apply commits_withEngine
  intro handle
  have hboot (layer : Guid) : Adds (addUnconditionalFilter wfp ⟨handle, 0⟩ layer kFilterBootTime
      .block kBlockWeight) [(0, blockFilter layer kFilterBootTime)] :=
    adds_addFilter _ _ _ _ _ _
  have hfamily (packetLayer transportLayer : Guid) (ipv6 : Bool) :
      Adds (addFamilyPolicy wfp ⟨handle, 0⟩ packetLayer transportLayer ipv6 endpoints)
        (ofSession 0 (familyFilters packetLayer transportLayer ipv6 endpoints)) :=
    adds_addFamilyPolicy packetLayer transportLayer ipv6 endpoints
  have hbody := (adds_ensureProviderAndSublayer wfp ⟨handle, 0⟩).bind fun _ =>
    (adds_deleteProviderFilters wfp ⟨handle, 0⟩).bind fun _ =>
    (hboot kOutboundIpPacketV4).bind fun _ => (hboot kOutboundIpPacketV6).bind fun _ =>
    (hfamily kOutboundIpPacketV4 kOutboundTransportV4 false).bind fun _ =>
    hfamily kOutboundIpPacketV6 kOutboundTransportV6 true
  rw [killSwitchFilters, ofSession, List.append_assoc, List.map_append, List.map_append]
  exact hbody.commits

theorem commits_replaceWindowsTunnelPermit (wfp : Wfp) (index : UInt32) :
    Commits (replaceWindowsTunnelPermit wfp index)
      (ofSession kDynamicSession (tunnelFilters index)) := by
  apply (adds_failIf _).commits_bind
  intro _
  apply (adds_closeWindowsTunnelPermit wfp).commits_bind
  intro _
  apply commits_engineOpen_bind
  intro handle c
  have hallow (layer : Guid) : Adds (addInterfaceAllow wfp ⟨handle, kDynamicSession⟩ layer index)
      [(kDynamicSession, interfaceFilter index layer)] :=
    adds_addFilter _ _ _ _ _ _
  have hbody := (hallow kOutboundIpPacketV4).bind fun _ => (hallow kOutboundIpPacketV6).bind fun _ =>
    (hallow kOutboundTransportV4).bind fun _ => hallow kOutboundTransportV6
  exact (hbody.commits.closing c).bind fun _ => holds_modify fun _ hs => hs

/-- Disabling the kill switch adds no filter. -/
theorem commits_disableWindowsKillSwitch (wfp : Wfp) :
    Commits (disableWindowsKillSwitch wfp) [] := by
  apply commits_withEngine
  intro handle
  apply Adds.commits
  apply (adds_enumerateProviderFilters wfp _).bind
  intro filters
  split_ifs
  · exact adds_removeProvider wfp _
  · exact (adds_deleteProviderFilters wfp _).bind fun _ => adds_removeProvider wfp _

end WfpProgram
end PersonalVpn.Client
