import PersonalVpn.Client.KillSwitchFilters

/-! Which filters the calls of the kill switch delete, and what becomes of the dynamic session. -/

namespace PersonalVpn.Client

open PersonalVpn.Core Fallible

/-- The key of the filter that a change deletes. -/
def deletedKey : Engine × WfpChange → Option Guid
  | (_, .filterDelete key) => some key
  | _ => none

/-- The keys of the filters that some changes delete. -/
def deletedFilters (changes : List (Engine × WfpChange)) : List Guid := changes.filterMap deletedKey

theorem deletedFilters_append (xs ys : List (Engine × WfpChange)) :
    deletedFilters (xs ++ ys) = deletedFilters xs ++ deletedFilters ys :=
  List.filterMap_append

/-- The keys that the calls of an enumeration hand out. -/
def enumerated (batches : List (List Guid)) : List Guid := (batches.takeWhile (· ≠ [])).flatten

/-- An enumeration hands out the keys of the provider's filters, and these can be found when they are
to be deleted. -/
structure Wfp.Truthful (wfp : Wfp) (owned : Set Guid) : Prop where
  enumerates : ∀ n key, key ∈ enumerated (wfp.entries n) ↔ key ∈ owned
  found : ∀ n engine, ∀ key ∈ owned,
    wfp.result n (.change engine (.filterDelete key)) ≠ FWP_E_FILTER_NOT_FOUND

namespace WfpProgram

/-- The state within a transaction, with the keys of the filters that it deletes. -/
def Deleting (committed : List (Engine × WfpChange)) (session : Option Engine) (deleted : Set Guid)
    (s : WfpState) : Prop :=
  s.committed = committed ∧ s.dynamicSession = session ∧
    ∀ key, key ∈ deletedFilters s.pending ↔ key ∈ deleted

def Between (committed : List (Engine × WfpChange)) (session : Option Engine) (s : WfpState) :
    Prop :=
  s.committed = committed ∧ s.dynamicSession = session

/-- A part of a transaction that deletes these filters. -/
def Removes {α : Type} (x : WfpProgram α) (keys : Set Guid) : Prop :=
  ∀ committed session deleted, Holds (Deleting committed session deleted) x
    (fun _ => Deleting committed session (deleted ∪ keys)) fun _ => Between committed session

theorem Deleting.between {committed : List (Engine × WfpChange)} {session : Option Engine}
    {deleted : Set Guid} {s : WfpState} (h : Deleting committed session deleted s) :
    Between committed session s := ⟨h.1, h.2.1⟩

section Parts

variable {wfp : Wfp} {engine : Engine}

theorem Removes.bind {α β : Type} {x : WfpProgram α} {f : α → WfpProgram β} {keys keys' : Set Guid}
    (hx : Removes x keys) (hf : ∀ a, Removes (f a) keys') : Removes (x >>= f) (keys ∪ keys') := by
  intro committed session deleted
  apply (hx committed session deleted).bind
  intro a
  rw [← Set.union_assoc]
  exact hf a committed session _

/-- What keeps the changes of the transaction deletes nothing. -/
theorem removes_nothing {α : Type} {x : WfpProgram α}
    (hx : ∀ committed session deleted, Holds (Deleting committed session deleted) x
      (fun _ => Deleting committed session deleted) fun _ => Between committed session) :
    Removes x ∅ := by
  intro committed session deleted
  rw [Set.union_empty]
  exact hx committed session deleted

/-- Parts that delete nothing, before and after one that does. -/
theorem Removes.then {α β : Type} {x : WfpProgram α} {f : α → WfpProgram β} {keys : Set Guid}
    (hx : Removes x ∅) (hf : ∀ a, Removes (f a) keys) : Removes (x >>= f) keys := by
  simpa only [Set.empty_union] using hx.bind hf

theorem Removes.before {α β : Type} {x : WfpProgram α} {f : α → WfpProgram β} {keys : Set Guid}
    (hx : Removes x keys) (hf : ∀ a, Removes (f a) ∅) : Removes (x >>= f) keys := by
  simpa only [Set.union_empty] using hx.bind hf

theorem removes_pure {α : Type} (a : α) : Removes (pure a) ∅ :=
  removes_nothing fun _ _ _ => holds_pure fun _ hs => hs

theorem removes_throw {α : Type} (e : WfpException) (keys : Set Guid) :
    Removes (throw e : WfpProgram α) keys := by
  intro committed session deleted
  constructor
  · intro s s' a hs hrun
    cases hrun
  · intro s s' e' hs hrun
    cases hrun
    exact hs.between

theorem removes_ask {α : Type} (answer : Nat → α) : Removes (ask answer) ∅ :=
  removes_nothing fun _ _ _ => holds_ask answer fun _ hs => hs

theorem removes_failIf {c : Prop} [Decidable c] (e : WfpException) : Removes (failIf c e) ∅ := by
  unfold failIf
  split_ifs
  · exact removes_throw e ∅
  · exact removes_pure ()

theorem removes_checkWfp (result : UInt32) (operation : Bytes) :
    Removes (checkWfp result operation) ∅ :=
  removes_failIf _

/-- A change that deletes no filter. -/
theorem removes_change {c : WfpChange} (hc : deletedKey (engine, c) = none) :
    Removes (change wfp engine c) ∅ := by
  apply removes_nothing
  intro committed session deleted
  constructor
  · intro s s' result hs hrun
    rw [change_run] at hrun
    cases hrun
    refine ⟨hs.1, hs.2.1, ?_⟩
    have hnone : deletedFilters (if wfp.result s.calls (.change engine c) = ERROR_SUCCESS
        then [(engine, c)] else []) = [] := by
      split_ifs
      · simp [deletedFilters, hc]
      · rfl
    dsimp only
    rw [deletedFilters_append, hnone, List.append_nil]
    exact hs.2.2
  · intro s s' e hs hrun
    rw [change_run] at hrun
    cases hrun

/-- A filter that can be found is deleted, or the transaction fails. -/
theorem removes_filterDelete {key : Guid} {operation : Bytes}
    (hfound : ∀ n, wfp.result n (.change engine (.filterDelete key)) ≠ FWP_E_FILTER_NOT_FOUND) :
    Removes (do
      let result ← change wfp engine (.filterDelete key)
      failIf (result ≠ ERROR_SUCCESS ∧ result ≠ FWP_E_FILTER_NOT_FOUND)
        (.systemError result operation)) {key} := by
  intro committed session deleted
  constructor
  · intro s s' a hs hrun
    rw [bind_ok (change_run (.filterDelete key) s)] at hrun
    unfold failIf at hrun
    by_cases hresult : wfp.result s.calls (.change engine (.filterDelete key)) = ERROR_SUCCESS
    · rw [if_neg (by simp [hresult]), if_pos hresult] at hrun
      cases hrun
      refine ⟨hs.1, hs.2.1, ?_⟩
      intro k
      dsimp only
      rw [deletedFilters_append, List.mem_append, hs.2.2 k]
      simp [deletedFilters, deletedKey, or_comm]
    · rw [if_pos ⟨hresult, hfound s.calls⟩] at hrun
      cases hrun
  · intro s s' e hs hrun
    rw [bind_ok (change_run (.filterDelete key) s)] at hrun
    unfold failIf at hrun
    split_ifs at hrun <;> cases hrun <;> exact ⟨hs.1, hs.2.1⟩

theorem removes_forM {β : Type} {f : β → WfpProgram PUnit} {key : β → Guid} {bs : List β}
    (h : ∀ b ∈ bs, Removes (f b) {key b}) : Removes (bs.forM f) {k | k ∈ bs.map key} := by
  induction bs with
  | nil => simpa using removes_pure PUnit.unit
  | cons b bs ih =>
    have hrest := ih fun b' hb' => h b' (List.mem_cons_of_mem _ hb')
    have hall := (h b List.mem_cons_self).bind fun _ => hrest
    have hset : ({key b} ∪ {k | k ∈ bs.map key} : Set Guid) = {k | k ∈ (b :: bs).map key} := by
      ext k
      simp
    rwa [hset] at hall

/-- A loop of parts that delete nothing. -/
theorem removes_forM_nothing {β : Type} {f : β → WfpProgram PUnit} (h : ∀ b, Removes (f b) ∅)
    (bs : List β) : Removes (bs.forM f) ∅ := by
  induction bs with
  | nil => exact removes_pure PUnit.unit
  | cons b bs ih => exact (h b).then fun _ => ih

theorem removes_addFilter (layer : Guid) (flags : UInt32) (action : ActionType) (weight : UInt64)
    (conditions : List FilterCondition) (owned : Bool) :
    Removes (addFilter wfp engine layer flags action weight conditions owned) ∅ :=
  (removes_change rfl).then fun result => removes_checkWfp result _

/-- An object that is there is checked, one that is not is added. -/
theorem removes_ensure {result notFound : UInt32} {operation : Bytes} {check add : WfpProgram Unit}
    (hcheck : Removes check ∅) (hadd : Removes add ∅) :
    Removes (if result = ERROR_SUCCESS then check
      else if result = notFound then add
      else throw (.systemError result operation)) ∅ := by
  split_ifs
  · exact hcheck
  · exact hadd
  · exact removes_throw _ _

theorem removes_ensureProviderAndSublayer (wfp : Wfp) (engine : Engine) :
    Removes (ensureProviderAndSublayer wfp engine) ∅ := by
  have hprovider : Removes (ensureProvider wfp engine) ∅ := by
    apply (removes_ask _).then
    rintro ⟨result, existingProvider⟩
    exact removes_ensure (removes_failIf _)
      ((removes_change rfl).then fun result => removes_checkWfp result _)
  have hsublayer : Removes (ensureSubLayer wfp engine) ∅ := by
    apply (removes_ask _).then
    rintro ⟨result, existingSublayer⟩
    exact removes_ensure (removes_failIf _)
      ((removes_change rfl).then fun result => removes_checkWfp result _)
  exact hprovider.then fun _ => hsublayer

theorem removes_removeProvider (wfp : Wfp) (engine : Engine) :
    Removes (removeProvider wfp engine) ∅ :=
  (removes_change rfl).then fun _ => (removes_failIf _).then fun _ =>
    (removes_change rfl).then fun _ => removes_failIf _

theorem removes_addFamilyPolicy (packetLayer transportLayer : Guid) (ipv6 : Bool)
    (endpoints : List WindowsVpnEndpoint) :
    Removes (addFamilyPolicy wfp engine packetLayer transportLayer ipv6 endpoints) ∅ := by
  have hendpoint (endpoint : WindowsVpnEndpoint) :
      Removes (if endpoint.ipv6 = ipv6
        then addEndpointAllow wfp engine packetLayer transportLayer endpoint else pure ()) ∅ := by
    split_ifs
    · exact (removes_addFilter _ _ _ _ _ _).then fun _ => removes_addFilter _ _ _ _ _ _
    · exact removes_pure ()
  exact (removes_forM_nothing hendpoint endpoints).then fun _ =>
    (removes_addFilter _ _ _ _ _ _).then fun _ => removes_addFilter _ _ _ _ _ _

/-- The loop of an enumeration hands out the keys of the calls up to the first empty one. -/
theorem holds_collectKeys {P : WfpState → Prop} {E : WfpException → WfpState → Prop}
    (hP : ∀ s, P s → P { s with calls := s.calls + 1 }) (hE : ∀ e s, P s → E e s)
    (batches : List (List Guid)) (keys : List Guid) :
    Holds P (collectKeys wfp engine batches keys)
      (fun handed s => P s ∧ handed = keys ++ enumerated batches) E := by
  have hcheck : Holds P (do
      checkWfp (← call wfp (.filterEnum engine 128))
        (text "enumerate PersonalVPN WFP filters")) (fun _ => P) E :=
    (holds_ask _ hP).bind fun result => (holds_checkWfp result _ hE).weaken fun _ _ hs => hs.1
  induction batches generalizing keys with
  | nil =>
    refine hcheck.bind fun _ => holds_pure fun s hs => ⟨hs, ?_⟩
    simp [enumerated]
  | cons entries batches ih =>
    apply hcheck.bind
    intro _
    split_ifs with hentries
    · refine holds_pure fun s hs => ⟨hs, ?_⟩
      simp [enumerated, hentries]
    · refine (ih (keys ++ entries)).weaken fun handed s hs => ⟨hs.1, ?_⟩
      rw [hs.2, List.append_assoc]
      simp [enumerated, hentries]

theorem holds_enumerateProviderFilters (wfp : Wfp) (engine : Engine)
    (committed : List (Engine × WfpChange)) (session : Option Engine) (deleted : Set Guid) :
    Holds (Deleting committed session deleted) (enumerateProviderFilters wfp engine)
      (fun keys s => Deleting committed session deleted s ∧ ∃ n, keys = enumerated (wfp.entries n))
      fun _ => Between committed session := by
  have hcalls (s : WfpState) (hs : Deleting committed session deleted s) :
      Deleting committed session deleted { s with calls := s.calls + 1 } := hs
  have hbetween (e : WfpException) (s : WfpState) (hs : Deleting committed session deleted s) :
      Between committed session s := hs.between
  have hopen : Holds (Deleting committed session deleted)
      (ask fun n => (wfp.result n (.filterCreateEnumHandle engine kProviderKey
        kIncludeBootTimeFilters), wfp.entries n))
      (fun answer s => Deleting committed session deleted s ∧ ∃ n, answer.2 = wfp.entries n)
      fun _ => Between committed session := by
    constructor
    · intro s s' answer hs hrun
      cases hrun
      exact ⟨hs, s.calls, rfl⟩
    · intro s s' e hs hrun
      cases hrun
  apply hopen.bind
  rintro ⟨result, batches⟩
  apply holds_of_fact
  rintro ⟨n, rfl⟩
  apply ((holds_checkWfp result _ hbetween).weaken fun _ s hs => hs.1).bind
  intro _
  have hkeys := (@holds_collectKeys wfp engine _ _ hcalls hbetween (wfp.entries n) []).tryCatch_throw
    (f := fun _ => call wfp (.filterDestroyEnumHandle engine)) fun _ => holds_ask _ fun _ hs => hs
  apply hkeys.bind
  intro keys
  have hclose (P : WfpState → Prop) (hP : ∀ s, P s → P { s with calls := s.calls + 1 })
      (hE : ∀ s, P s → Between committed session s) : Holds P (do
        checkWfp (← call wfp (.filterDestroyEnumHandle engine))
          (text "destroy WFP filter enumeration")
        return keys) (fun handed s => P s ∧ handed = keys) fun _ => Between committed session :=
    (holds_ask _ hP).bind fun result =>
      ((holds_checkWfp result _ fun _ => hE).weaken fun _ _ hs => hs.1).bind fun _ =>
        holds_pure fun _ hs => ⟨hs, rfl⟩
  refine (hclose _ (fun s hs => ⟨hcalls s hs.1, hs.2⟩) fun s hs => hs.1.between).weaken ?_
  rintro handed s ⟨⟨hs, hkeys⟩, rfl⟩
  exact ⟨hs, n, hkeys⟩

/-- The loop that follows an enumeration. -/
theorem removes_enumerated {α : Type} {f : List Guid → WfpProgram α} {owned keys : Set Guid}
    (ht : wfp.Truthful owned)
    (hf : ∀ handed : List Guid, (∀ key, key ∈ handed ↔ key ∈ owned) → Removes (f handed) keys) :
    Removes (enumerateProviderFilters wfp engine >>= f) keys := by
  intro committed session deleted
  apply (holds_enumerateProviderFilters wfp engine committed session deleted).bind
  intro handed
  apply holds_of_fact
  rintro ⟨n, rfl⟩
  exact hf _ (ht.enumerates n) committed session deleted

theorem removes_deleteProviderFilters {owned : Set Guid} (ht : wfp.Truthful owned) :
    Removes (deleteProviderFilters wfp engine) owned := by
  apply removes_enumerated ht
  intro handed hhanded
  have hloop := @removes_forM Guid _ id handed fun key hkey =>
    @removes_filterDelete wfp engine key (text "delete PersonalVPN WFP filter")
      fun n => ht.found n engine key ((hhanded key).mp hkey)
  have hset : {k | k ∈ handed.map id} = owned := by
    ext key
    simp [hhanded key]
  rwa [hset] at hloop

end Parts

/-! ### The deletions that a call commits -/

section Runs

variable {wfp : Wfp} {engine : Engine} {owned : Set Guid}

/-- A run that returns has committed the deletion of these filters, one that throws has committed
nothing. Either keeps the dynamic session. -/
def Purges {α : Type} (x : WfpProgram α) (keys : Set Guid) : Prop :=
  ∀ committed session, Holds (Between committed session) x
    (fun _ s => s.dynamicSession = session ∧ ∀ key, key ∈ deletedFilters s.committed ↔
      key ∈ deletedFilters committed ∨ key ∈ keys)
    fun _ => Between committed session

theorem holds_transactionBegin (committed : List (Engine × WfpChange)) (session : Option Engine) :
    Holds (Between committed session) (transactionBegin wfp engine)
      (fun _ => Deleting committed session ∅) fun _ => Between committed session := by
  apply (holds_ask _ fun _ hs => hs).bind
  intro result
  refine Holds.bind (holds_checkWfp result _ ?_) fun _ => ?_
  · exact fun _ _ hs => hs
  · exact holds_modify fun s hs => ⟨hs.1.1, hs.1.2, by simp [deletedFilters]⟩

theorem Removes.purges {body : WfpProgram Unit} {keys : Set Guid} (hbody : Removes body keys) :
    Purges (transaction wfp engine body) keys := by
  intro committed session
  have hcommit : Holds (Deleting committed session (∅ ∪ keys)) (transactionCommit wfp engine)
      (fun _ s => s.dynamicSession = session ∧ ∀ key, key ∈ deletedFilters s.committed ↔
        key ∈ deletedFilters committed ∨ key ∈ keys) fun _ => Between committed session := by
    apply (holds_ask _ fun _ hs => hs).bind
    intro result
    refine Holds.bind (holds_checkWfp result _ ?_) fun _ => ?_
    · exact fun _ _ hs => hs.between
    · apply holds_modify
      rintro s ⟨⟨hcommitted, hsession, hdeleted⟩, -⟩
      refine ⟨hsession, ?_⟩
      intro key
      dsimp only
      rw [deletedFilters_append, List.mem_append, hcommitted, hdeleted key, Set.empty_union]
  have habort (e : WfpException) : Holds (Between committed session)
      (transactionAbort wfp engine) (fun _ => Between committed session)
      fun _ => Between committed session :=
    (holds_ask _ fun _ hs => hs).bind fun _ => holds_modify fun _ hs => hs
  apply (holds_transactionBegin committed session).bind
  intro _
  exact ((hbody committed session ∅).bind fun _ => hcommit).tryCatch_throw habort

/-- Steps before a transaction. -/
theorem Removes.purges_bind {α β : Type} {x : WfpProgram α} {f : α → WfpProgram β}
    {keys : Set Guid} (hx : Removes x ∅) (hf : ∀ a, Purges (f a) keys) : Purges (x >>= f) keys := by
  intro committed session
  apply Holds.bind (M := fun _ => Between committed session)
  · constructor
    · intro s s' a hs hrun
      exact ((hx committed session {key | key ∈ deletedFilters s.pending}).ok
        ⟨hs.1, hs.2, fun _ => Iff.rfl⟩ hrun).between
    · intro s s' e hs hrun
      exact (hx committed session {key | key ∈ deletedFilters s.pending}).error
        ⟨hs.1, hs.2, fun _ => Iff.rfl⟩ hrun
  · intro a
    exact hf a committed session

theorem removes_engineOpen (sessionFlags : UInt32) (operation : Bytes) :
    Removes (engineOpen wfp sessionFlags operation) ∅ := by
  apply (removes_ask _).then
  rintro ⟨result, handle⟩
  exact (removes_checkWfp result _).then fun _ => removes_pure _

/-- Closing the engine before an exception goes on. -/
theorem Purges.closing {α : Type} {x : WfpProgram α} {keys : Set Guid} (hx : Purges x keys) :
    Purges (tryCatch x fun e => do engineClose wfp engine; throw e) keys :=
  fun committed session => (hx committed session).tryCatch_throw fun _ =>
    (holds_ask _ fun _ hs => hs).bind fun _ => holds_pure fun _ hs => hs

theorem purges_withEngine {body : Engine → WfpProgram Unit} {keys : Set Guid}
    (hbody : ∀ engine, Purges (body engine) keys) : Purges (withEngine wfp body) keys := by
  apply (removes_engineOpen _ _).purges_bind
  intro engine committed session
  refine ((hbody engine).closing committed session).bind fun _ => ?_
  exact (holds_ask _ fun _ hs => hs).bind fun _ => holds_pure fun _ hs => hs

theorem purges_enableWindowsKillSwitch (ht : wfp.Truthful owned)
    (endpoints : List WindowsVpnEndpoint) : Purges (enableWindowsKillSwitch wfp endpoints) owned := by
  apply (removes_failIf _).purges_bind
  intro _
  have hcheck (endpoint : WindowsVpnEndpoint) : Removes (checkEndpoint endpoint) ∅ :=
    removes_failIf _
  apply (removes_forM_nothing hcheck endpoints).purges_bind
  intro _
  apply purges_withEngine
  intro engine
  have hboot (layer : Guid) : Removes (addUnconditionalFilter wfp engine layer kFilterBootTime
      .block kBlockWeight) ∅ := removes_addFilter _ _ _ _ _ _
  exact ((removes_ensureProviderAndSublayer wfp engine).then fun _ =>
    (removes_deleteProviderFilters ht).before fun _ =>
      (hboot kOutboundIpPacketV4).then fun _ => (hboot kOutboundIpPacketV6).then fun _ =>
        (removes_addFamilyPolicy _ _ _ _).then fun _ => removes_addFamilyPolicy _ _ _ _).purges

theorem purges_disableWindowsKillSwitch (ht : wfp.Truthful owned) :
    Purges (disableWindowsKillSwitch wfp) owned := by
  apply purges_withEngine
  intro engine
  apply Removes.purges
  apply removes_enumerated ht
  intro handed hhanded
  split_ifs with hnone
  · -- a provider without filters
    have hempty : owned = ∅ := by
      ext key
      rw [← hhanded key, hnone]
      simp
    rw [hempty]
    exact removes_removeProvider wfp engine
  · exact (removes_deleteProviderFilters ht).before fun _ => removes_removeProvider wfp engine

theorem closeWindowsTunnelPermit_run (wfp : Wfp) (s : WfpState) :
    ∃ calls, closeWindowsTunnelPermit wfp s =
      (.ok (), { s with calls, dynamicSession := none }) := by
  unfold closeWindowsTunnelPermit
  rw [bind_ok (show (get : WfpProgram WfpState) s = (.ok s, s) from rfl)]
  obtain ⟨calls, pending, committed, session⟩ := s
  cases session with
  | none => exact ⟨calls, rfl⟩
  | some session => exact ⟨calls + 1, rfl⟩

/-- A new permit takes the place of the old one. Unless it is for no interface, a failure leaves
none. -/
theorem holds_replaceWindowsTunnelPermit (wfp : Wfp) (index : UInt32)
    (committed : List (Engine × WfpChange)) (session : Option Engine) :
    Holds (Between committed session) (replaceWindowsTunnelPermit wfp index)
      (fun _ s => s.dynamicSession.isSome = true ∧
        ∀ key, key ∈ deletedFilters s.committed ↔ key ∈ deletedFilters committed)
      fun _ => Between committed (if index = 0 then session else none) := by
  unfold replaceWindowsTunnelPermit failIf
  split_ifs with hindex
  · constructor
    · intro s s' a hs hrun
      cases hrun
    · intro s s' e hs hrun
      cases hrun
      exact hs
  have hclose : Holds (Between committed session) (closeWindowsTunnelPermit wfp)
      (fun _ => Between committed none) fun _ => Between committed none := by
    constructor
    · intro s s' a hs hrun
      obtain ⟨calls, heq⟩ := closeWindowsTunnelPermit_run wfp s
      rw [heq] at hrun
      cases hrun
      exact ⟨hs.1, rfl⟩
    · intro s s' e hs hrun
      obtain ⟨calls, heq⟩ := closeWindowsTunnelPermit_run wfp s
      rw [heq] at hrun
      cases hrun
  have hopen : Holds (Between committed none)
      (engineOpen wfp kDynamicSession (text "open dynamic WFP tunnel-permit session"))
      (fun _ => Between committed none) fun _ => Between committed none := by
    apply (holds_ask _ fun _ hs => hs).bind
    rintro ⟨result, handle⟩
    refine Holds.bind (holds_checkWfp result _ ?_) fun _ => ?_
    · exact fun _ _ hs => hs
    · exact holds_pure fun s hs => hs.1
  apply Holds.bind (M := fun _ => Between committed session)
  · exact holds_pure fun _ hs => hs
  intro _
  apply hclose.bind
  intro _
  apply hopen.bind
  intro newSession
  have hallow (layer : Guid) : Removes (addInterfaceAllow wfp newSession layer index) ∅ :=
    removes_addFilter _ _ _ _ _ _
  have hbody := (hallow kOutboundIpPacketV4).then fun _ => (hallow kOutboundIpPacketV6).then fun _ =>
    (hallow kOutboundTransportV4).then fun _ => hallow kOutboundTransportV6
  apply (hbody.purges.closing committed none).bind
  intro _
  apply holds_modify
  rintro s ⟨-, hdeleted⟩
  refine ⟨rfl, ?_⟩
  simpa using hdeleted

end Runs

end WfpProgram

end PersonalVpn.Client
