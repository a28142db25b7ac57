import PersonalVpn.Client.WindowsCalls

/-! The routes of a full tunnel: which ones enabling it takes away and adds. -/

namespace PersonalVpn.Client

open PersonalVpn.Core Fallible

/-- A route to an endpoint of the server that does not go through the tunnel. -/
def IsBypass (luid : NetLuid) (endpoints : List WindowsVpnEndpoint) (row : ForwardRow) : Prop :=
  ∃ e ∈ endpoints, ∃ priorRoute : ForwardRow,
    priorRoute.interfaceLuid ≠ luid ∧ row = bypassRow e priorRoute

/-- There is a route to the endpoint alone, and not through the tunnel. -/
def IpTables.Bypasses (t : IpTables) (luid : NetLuid) (e : WindowsVpnEndpoint) : Prop :=
  ∃ priorRoute : ForwardRow, priorRoute.interfaceLuid ≠ luid ∧
    t.forward (bypassRow e priorRoute).key ≠ none

/-- Of the tables only default routes of the tunnel have gone. -/
structure Trimmed (luid : NetLuid) (t t' : IpTables) : Prop where
  unicast : t'.unicast = t.unicast
  mtu : t'.mtu = t.mtu
  kept : ∀ row, t.HasRoute row → ¬IsOwnedDefaultRoute luid row → t'.HasRoute row
  old : ∀ key row, t'.forward key = some row → t.forward key = some row

/-- To the tables only routes that bypass the tunnel have come. -/
structure Extended (luid : NetLuid) (endpoints : List WindowsVpnEndpoint) (t t' : IpTables) :
    Prop where
  unicast : t'.unicast = t.unicast
  mtu : t'.mtu = t.mtu
  kept : ∀ key row, t.forward key = some row → t'.forward key = some row
  new : ∀ key row, t'.forward key = some row →
    t.forward key = some row ∨ row.key = key ∧ IsBypass luid endpoints row

theorem Trimmed.refl (luid : NetLuid) (t : IpTables) : Trimmed luid t t where
  unicast := rfl
  mtu := rfl
  kept _ h _ := h
  old _ _ h := h

theorem Extended.refl (luid : NetLuid) (endpoints : List WindowsVpnEndpoint) (t : IpTables) :
    Extended luid endpoints t t where
  unicast := rfl
  mtu := rfl
  kept _ _ h := h
  new _ _ h := .inl h

/-- One more default route of the tunnel goes. -/
theorem Trimmed.delete {luid : NetLuid} {t t' : IpTables} (h : Trimmed luid t t') {row : ForwardRow}
    (howned : IsOwnedDefaultRoute luid row) (hrow : t.HasRoute row) :
    Trimmed luid t (t'.setForward row.key none) where
  unicast := h.unicast
  mtu := h.mtu
  kept := by
    intro row' hrow' hforeign
    have hkey : row'.key ≠ row.key := by
      intro hsame
      have hboth : some row' = some row := by
        rw [← show t.forward row'.key = some row' from hrow', hsame]
        exact hrow
      rw [Option.some.inj hboth] at hforeign
      exact hforeign howned
    rw [IpTables.HasRoute, IpTables.setForward_forward_of_ne _ hkey]
    exact h.kept row' hrow' hforeign
  old := by
    intro key row' hrow'
    by_cases hkey : key = row.key
    · rw [hkey, IpTables.setForward_forward_self] at hrow'
      cases hrow'
    · rw [IpTables.setForward_forward_of_ne _ hkey] at hrow'
      exact h.old key row' hrow'

/-- One more bypass comes. -/
theorem Extended.add {luid : NetLuid} {endpoints : List WindowsVpnEndpoint} {t t' : IpTables}
    (h : Extended luid endpoints t t') {row : ForwardRow} (hrow : IsBypass luid endpoints row)
    (hnew : t'.forward row.key = none) :
    Extended luid endpoints t (t'.setForward row.key (some row)) where
  unicast := h.unicast
  mtu := h.mtu
  kept := by
    intro key row' hrow'
    have hthere := h.kept key row' hrow'
    have hkey : key ≠ row.key := by
      intro hsame
      rw [hsame, hnew] at hthere
      cases hthere
    rwa [IpTables.setForward_forward_of_ne _ hkey]
  new := by
    intro key row' hrow'
    by_cases hkey : key = row.key
    · rw [hkey, IpTables.setForward_forward_self] at hrow'
      cases hrow'
      exact .inr ⟨hkey.symm, hrow⟩
    · rw [IpTables.setForward_forward_of_ne _ hkey] at hrow'
      exact h.new key row' hrow'

/-- The table once the rows of a list have had their turn. -/
def Swept (luid : NetLuid) (t : IpTables) (rows : List ForwardRow) (t' : IpTables) : Prop :=
  Trimmed luid t t' ∧ ∀ row ∈ rows, IsOwnedDefaultRoute luid row → t'.forward row.key = none

/-- A row that is not there has had its turn. -/
theorem Swept.missing {luid : NetLuid} {t t' : IpTables} {rows : List ForwardRow}
    (h : Swept luid t rows t') {row : ForwardRow} (hnone : t'.forward row.key = none) :
    Swept luid t (rows ++ [row]) t' := by
  refine ⟨h.1, ?_⟩
  intro row' hrow' howned
  obtain hbefore | hlast := List.mem_append.mp hrow'
  · exact h.2 row' hbefore howned
  · rw [List.mem_singleton.mp hlast]
    exact hnone

/-- A row that is none of the tunnel's default routes has had its turn. -/
theorem Swept.skip {luid : NetLuid} {t t' : IpTables} {rows : List ForwardRow}
    (h : Swept luid t rows t') {row : ForwardRow} (hforeign : ¬IsOwnedDefaultRoute luid row) :
    Swept luid t (rows ++ [row]) t' := by
  refine ⟨h.1, ?_⟩
  intro row' hrow' howned
  obtain hbefore | hlast := List.mem_append.mp hrow'
  · exact h.2 row' hbefore howned
  · rw [List.mem_singleton.mp hlast] at howned
    exact absurd howned hforeign

theorem Swept.delete {luid : NetLuid} {t t' : IpTables} {rows : List ForwardRow}
    (h : Swept luid t rows t') {row : ForwardRow} (howned : IsOwnedDefaultRoute luid row)
    (hrow : t.HasRoute row) : Swept luid t (rows ++ [row]) (t'.setForward row.key none) := by
  have hrest : Swept luid t rows (t'.setForward row.key none) := by
    refine ⟨h.1.delete howned hrow, ?_⟩
    intro row' hrow' howned'
    by_cases hkey : row'.key = row.key
    · rw [hkey, IpTables.setForward_forward_self]
    · rw [IpTables.setForward_forward_of_ne _ hkey]
      exact h.2 row' hrow' howned'
  exact hrest.missing (IpTables.setForward_forward_self _ _ _)

/-- The endpoints that have had their turn have a route each. -/
def Bypassed (luid : NetLuid) (endpoints : List WindowsVpnEndpoint) (t : IpTables)
    (done : List WindowsVpnEndpoint) (t' : IpTables) : Prop :=
  Extended luid endpoints t t' ∧ ∀ e ∈ done, t'.Bypasses luid e

theorem Bypassed.exists {luid : NetLuid} {endpoints done : List WindowsVpnEndpoint} {t t' : IpTables}
    (h : Bypassed luid endpoints t done t') {e : WindowsVpnEndpoint} (he : t'.Bypasses luid e) :
    Bypassed luid endpoints t (done ++ [e]) t' := by
  refine ⟨h.1, ?_⟩
  intro e' he'
  obtain hbefore | hlast := List.mem_append.mp he'
  · exact h.2 e' hbefore
  · rw [List.mem_singleton.mp hlast]
    exact he

theorem Bypassed.add {luid : NetLuid} {endpoints done : List WindowsVpnEndpoint} {t t' : IpTables}
    (h : Bypassed luid endpoints t done t') {e : WindowsVpnEndpoint} (he : e ∈ endpoints)
    {priorRoute : ForwardRow} (hprior : priorRoute.interfaceLuid ≠ luid)
    (hnew : t'.forward (bypassRow e priorRoute).key = none) :
    Bypassed luid endpoints t (done ++ [e])
      (t'.setForward (bypassRow e priorRoute).key (some (bypassRow e priorRoute))) := by
  have hrest : Bypassed luid endpoints t done
      (t'.setForward (bypassRow e priorRoute).key (some (bypassRow e priorRoute))) := by
    refine ⟨h.1.add ⟨e, he, priorRoute, hprior, rfl⟩ hnew, ?_⟩
    intro e' he'
    obtain ⟨other, hother, hthere⟩ := h.2 e' he'
    refine ⟨other, hother, ?_⟩
    by_cases hkey : (bypassRow e' other).key = (bypassRow e priorRoute).key
    · rw [hkey, IpTables.setForward_forward_self]
      exact Option.some_ne_none _
    · rwa [IpTables.setForward_forward_of_ne _ hkey]
  refine hrest.exists ⟨priorRoute, hprior, ?_⟩
  rw [IpTables.setForward_forward_self]
  exact Option.some_ne_none _

namespace HostProgram

variable {σ : Type} {windows : Windows σ} {tables : σ → IpTables} {created : AdapterHandle → Bool}
  (hd : windows.Documented tables created)
include hd

omit hd in
theorem holds_keeps {α : Type} {x : StateM σ α} (hx : Leaves tables x) {P : IpTables → Prop}
    {E : Exception → σ → Prop} :
    Holds (fun s => P (tables s)) (ask x) (fun _ s => P (tables s)) E := by
  constructor
  · intro s s' a hs hrun
    cases hrun
    rwa [hx s]
  · intro s s' e hs hrun
    cases hrun

theorem holds_flushIpPathTables {P : IpTables → Prop} {E : Exception → σ → Prop} :
    Holds (fun s => P (tables s)) (flushIpPathTables windows) (fun _ s => P (tables s)) E :=
  (holds_keeps (hd.flush .inet)).bind fun _ =>
    (holds_keeps (hd.flush .inet6)).bind fun _ => holds_pure fun _ hs => hs

theorem holds_removeOwnedDefaultRoute {luid : NetLuid} {t : IpTables} {row : ForwardRow}
    (hrow : IsOwnedDefaultRoute luid row → t.HasRoute row) (rows : List ForwardRow) :
    Holds (fun s => Swept luid t rows (tables s)) (removeOwnedDefaultRoute windows luid row)
      (fun _ s => Swept luid t (rows ++ [row]) (tables s))
      (fun _ s => Trimmed luid t (tables s)) := by
  unfold removeOwnedDefaultRoute
  split_ifs with howned
  · have hdelete : Holds (fun s => Swept luid t rows (tables s))
        (ask (windows.deleteIpForwardEntry2 row))
        (fun r s => Trimmed luid t (tables s) ∧
          (r = NO_ERROR ∨ r = ERROR_NOT_FOUND → Swept luid t (rows ++ [row]) (tables s)))
        (fun _ s => Trimmed luid t (tables s)) := by
      constructor
      · intro s s' r hs hrun
        cases hrun
        have hdeleted := hd.deleteForward row s _ _ rfl
        by_cases hr : (windows.deleteIpForwardEntry2 row s).1 = NO_ERROR
        · rw [if_pos hr] at hdeleted
          have hswept := Swept.delete hs howned (hrow howned)
          rw [← hdeleted] at hswept
          exact ⟨hswept.1, fun _ => hswept⟩
        · rw [if_neg hr] at hdeleted
          change Trimmed luid t (tables (windows.deleteIpForwardEntry2 row s).2) ∧ _
          rw [hdeleted]
          refine ⟨hs.1, fun hresult => ?_⟩
          have hmissing := hd.missingForward row s _ (Prod.ext (hresult.resolve_left hr) rfl)
          exact Swept.missing hs hmissing
      · intro s s' e hs hrun
        cases hrun
    apply hdelete.bind
    intro r
    by_cases hfailed : r ≠ NO_ERROR ∧ r ≠ ERROR_NOT_FOUND
    · rw [if_pos hfailed]
      exact (WindowsNetworkBackend.holds_throwWindowsError windows _ r).mono (fun _ hs => hs.1)
        (fun _ _ hs => hs) fun _ _ hs => hs
    · rw [if_neg hfailed]
      have hdone : r = NO_ERROR ∨ r = ERROR_NOT_FOUND := by
        by_contra hno
        exact hfailed (not_or.mp hno)
      exact holds_pure fun s hs => hs.2 hdone
  · exact holds_pure fun s hs => Swept.skip hs howned

/-- Only default routes of the tunnel go, and when it returns they all have. -/
theorem holds_removeOwnedDefaultRoutes (luid : NetLuid) (t : IpTables) :
    Holds (fun s => tables s = t) (removeOwnedDefaultRoutes windows luid)
      (fun _ s => Trimmed luid t (tables s) ∧
        ∀ row, (tables s).HasRoute row → ¬IsOwnedDefaultRoute luid row)
      (fun _ s => Trimmed luid t (tables s)) := by
  have hlist : Holds (fun s => tables s = t) (ask windows.getIpForwardTable2)
      (fun answer s => tables s = t ∧ (answer.1 = NO_ERROR →
        ∀ row : ForwardRow, row.protocol = MIB_IPPROTO_NETMGMT → (row ∈ answer.2 ↔ t.HasRoute row)))
      (fun _ s => Trimmed luid t (tables s)) := by
    constructor
    · intro s s' answer hs hrun
      cases hrun
      refine ⟨(hd.getTable s).trans hs, fun hresult row hrow => ?_⟩
      have hrows := hd.gotTable s _ _ (Prod.ext (Prod.ext hresult rfl) rfl) row hrow
      rw [hs] at hrows
      exact hrows
    · intro s s' e hs hrun
      cases hrun
  apply hlist.bind
  intro answer
  apply holds_of_fact
  intro hrows
  apply ((WindowsNetworkBackend.holds_check windows _ answer.1).mono (fun _ hs => hs)
    (fun _ _ hs => hs) fun _ s hs => by
      rw [hs.1]
      exact Trimmed.refl luid t).bind
  intro _
  apply holds_of_fact
  intro hresult
  have hcomplete := hrows hresult
  have hround (rows : List ForwardRow) (row : ForwardRow) (hrow : row ∈ answer.2) :
      Holds (fun s => Swept luid t rows (tables s)) (removeOwnedDefaultRoute windows luid row)
        (fun _ s => Swept luid t (rows ++ [row]) (tables s)) (fun _ s => Trimmed luid t (tables s)) :=
    holds_removeOwnedDefaultRoute hd (fun howned => (hcomplete row howned.2.2.2.1).mp hrow) rows
  have hloop := holds_forM_done (P := fun rows s => Swept luid t rows (tables s)) answer.2 hround []
  have hrest := hloop.bind fun _ => holds_flushIpPathTables hd (P := Swept luid t ([] ++ answer.2))
  apply hrest.mono
  · intro s hs
    rw [hs]
    exact ⟨Trimmed.refl luid t, fun row hrow => absurd hrow List.not_mem_nil⟩
  · intro _ s hs
    refine ⟨hs.1, fun row hrow howned => ?_⟩
    have hthere : row ∈ answer.2 := (hcomplete row howned.2.2.2.1).mpr (hs.1.old _ _ hrow)
    have hgone := hs.2 row hthere howned
    rw [IpTables.HasRoute, hgone] at hrow
    cases hrow
  · intro _ s hs
    exact hs

theorem holds_addTransportBypassRoute {luid : NetLuid} {endpoints : List WindowsVpnEndpoint}
    {t : IpTables} (done : List WindowsVpnEndpoint) {e : WindowsVpnEndpoint} (he : e ∈ endpoints) :
    Holds (fun s => Bypassed luid endpoints t done (tables s))
      (addTransportBypassRoute windows luid e)
      (fun _ s => Bypassed luid endpoints t (done ++ [e]) (tables s))
      (fun _ s => Extended luid endpoints t (tables s)) := by
  apply (holds_keeps (hd.getBestRoute (endpointSockaddr e))
    (P := Bypassed luid endpoints t done)).bind
  intro answer
  apply ((WindowsNetworkBackend.holds_check windows _ answer.1).mono (fun _ hs => hs)
    (fun _ _ hs => hs.1) fun _ _ hs => hs.1.1).bind
  intro _
  split_ifs with htunnel
  · apply Holds.bind (M := fun _ _ => False)
    · exact holds_throw fun _ hs => hs.1
    · exact fun _ => ⟨fun hs _ => False.elim hs, fun hs _ => False.elim hs⟩
  · have hadd : Holds (fun s => Bypassed luid endpoints t done (tables s))
        (ask (windows.createIpForwardEntry2 (bypassRow e answer.2)))
        (fun r s => Extended luid endpoints t (tables s) ∧
          (r = NO_ERROR ∨ r = ERROR_OBJECT_ALREADY_EXISTS →
            Bypassed luid endpoints t (done ++ [e]) (tables s)))
        (fun _ s => Extended luid endpoints t (tables s)) := by
      constructor
      · intro s s' r hs hrun
        cases hrun
        have hadded := hd.createForward (bypassRow e answer.2) s _ _ rfl
        by_cases hr : (windows.createIpForwardEntry2 (bypassRow e answer.2) s).1 = NO_ERROR
        · obtain ⟨hnew, htables⟩ := (if_pos hr).mp hadded
          have hbypassed := hs.add he htunnel hnew
          rw [← htables] at hbypassed
          exact ⟨hbypassed.1, fun _ => hbypassed⟩
        · have hsame := (if_neg hr).mp hadded
          change Extended luid endpoints t
            (tables (windows.createIpForwardEntry2 (bypassRow e answer.2) s).2) ∧ _
          rw [hsame]
          refine ⟨hs.1, fun hresult => ?_⟩
          have hthere := hd.existsForward (bypassRow e answer.2) s _
            (Prod.ext (hresult.resolve_left hr) rfl)
          exact hs.exists ⟨answer.2, htunnel, hthere⟩
      · intro s s' e' hs hrun
        cases hrun
    apply hadd.bind
    intro r
    by_cases hfailed : r ≠ NO_ERROR ∧ r ≠ ERROR_OBJECT_ALREADY_EXISTS
    · rw [if_pos hfailed]
      exact (WindowsNetworkBackend.holds_throwWindowsError windows _ r).mono (fun _ hs => hs.1)
        (fun _ _ hs => hs) fun _ _ hs => hs
    · rw [if_neg hfailed]
      have hdone : r = NO_ERROR ∨ r = ERROR_OBJECT_ALREADY_EXISTS := by
        by_contra hno
        exact hfailed (not_or.mp hno)
      exact holds_pure fun s hs => hs.2 hdone

/-- Only routes that bypass the tunnel come, and when it returns each endpoint has one. -/
theorem holds_addTransportBypassRoutes (luid : NetLuid) (endpoints : List WindowsVpnEndpoint)
    (t : IpTables) :
    Holds (fun s => tables s = t) (addTransportBypassRoutes windows endpoints luid)
      (fun _ s => Extended luid endpoints t (tables s) ∧ ∀ e ∈ endpoints, (tables s).Bypasses luid e)
      (fun _ s => Extended luid endpoints t (tables s)) := by
  have hround (done : List WindowsVpnEndpoint) (e : WindowsVpnEndpoint) (he : e ∈ endpoints) :
      Holds (fun s => Bypassed luid endpoints t done (tables s))
        (addTransportBypassRoute windows luid e)
        (fun _ s => Bypassed luid endpoints t (done ++ [e]) (tables s))
        (fun _ s => Extended luid endpoints t (tables s)) :=
    holds_addTransportBypassRoute hd done he
  have hloop := holds_forM_done (P := fun done s => Bypassed luid endpoints t done (tables s))
    endpoints hround []
  have hrest := hloop.bind fun _ =>
    holds_flushIpPathTables hd (P := Bypassed luid endpoints t ([] ++ endpoints))
  apply hrest.mono
  · intro s hs
    rw [hs]
    exact ⟨Extended.refl luid endpoints t, fun e he => absurd he List.not_mem_nil⟩
  · intro _ s hs
    exact hs
  · intro _ s hs
    exact hs

end HostProgram

/-- What enabling full tunnels changes for good: default routes of a tunnel go, and routes to the
endpoints come that bypass it. -/
structure Lasting {σ : Type} (windows : Windows σ) (endpoints : List WindowsVpnEndpoint)
    (t t' : IpTables) : Prop where
  unicast : t'.unicast = t.unicast
  mtu : t'.mtu = t.mtu
  kept : ∀ row, t.HasRoute row →
    (∀ adapter, ¬IsOwnedDefaultRoute (windows.wintunGetAdapterLuid adapter) row) → t'.HasRoute row
  new : ∀ key row, t'.forward key = some row → t.forward key = some row ∨
    row.key = key ∧ ∃ adapter, IsBypass (windows.wintunGetAdapterLuid adapter) endpoints row

namespace Lasting

variable {σ : Type} {windows : Windows σ} {endpoints endpoints' : List WindowsVpnEndpoint}
  {t t' t'' : IpTables}

theorem refl (windows : Windows σ) (endpoints : List WindowsVpnEndpoint) (t : IpTables) :
    Lasting windows endpoints t t where
  unicast := rfl
  mtu := rfl
  kept _ h _ := h
  new _ _ h := .inl h

theorem trans (h : Lasting windows endpoints t t') (h' : Lasting windows endpoints t' t'') :
    Lasting windows endpoints t t'' where
  unicast := h'.unicast.trans h.unicast
  mtu := h'.mtu.trans h.mtu
  kept row hrow hforeign := h'.kept row (h.kept row hrow hforeign) hforeign
  new key row hrow := (h'.new key row hrow).elim (h.new key row) .inr

theorem mono (h : Lasting windows endpoints t t') (hsub : endpoints ⊆ endpoints') :
    Lasting windows endpoints' t t' where
  unicast := h.unicast
  mtu := h.mtu
  kept := h.kept
  new := by
    intro key row hrow
    obtain hold | ⟨hkey, adapter, e, he, hbypass⟩ := h.new key row hrow
    · exact .inl hold
    · exact .inr ⟨hkey, adapter, e, hsub he, hbypass⟩

/-- An interface goes. -/
theorem without (h : Lasting windows endpoints t t') (luid : NetLuid) :
    Lasting windows endpoints (t.without luid) (t'.without luid) where
  unicast := by simp only [IpTables.without, h.unicast]
  mtu := by simp only [IpTables.without, h.mtu]
  kept := by
    intro row hrow hforeign
    simp only [IpTables.HasRoute, IpTables.without] at hrow ⊢
    split_ifs at hrow ⊢ with hluid
    exact h.kept row hrow hforeign
  new := by
    intro key row hrow
    simp only [IpTables.without] at hrow ⊢
    split_ifs at hrow ⊢ with hluid
    exact h.new key row hrow

end Lasting

theorem Trimmed.lasting {σ : Type} {windows : Windows σ} {endpoints : List WindowsVpnEndpoint}
    {adapter : AdapterHandle} {t t' t'' : IpTables}
    (h : Trimmed (windows.wintunGetAdapterLuid adapter) t t')
    (h' : Extended (windows.wintunGetAdapterLuid adapter) endpoints t' t'') :
    Lasting windows endpoints t t'' where
  unicast := h'.unicast.trans h.unicast
  mtu := h'.mtu.trans h.mtu
  kept row hrow hforeign := h'.kept _ row (h.kept row hrow (hforeign adapter))
  new key row hrow := (h'.new key row hrow).imp (h.old key row)
    fun hnew => ⟨hnew.1, adapter, hnew.2⟩

/-- A route for one address is no default route. -/
theorem not_owned_of_bypass {luid : NetLuid} {endpoints : List WindowsVpnEndpoint} {row : ForwardRow}
    (h : IsBypass luid endpoints row) : ¬IsOwnedDefaultRoute luid row := by
  obtain ⟨e, -, priorRoute, hprior, rfl⟩ := h
  intro howned
  exact hprior howned.2.2.1

namespace WindowsNetworkBackend

variable {σ : Type} {windows : Windows σ} {tables : σ → IpTables} {created : AdapterHandle → Bool}
  {f : Footprint}

theorem holds_runPolicy (windows : Windows σ) {P : Footprint → Prop} (x : WfpProgram Unit) :
    Holds (fun b => P (footprint tables b)) (runPolicy windows x)
      (fun _ b => P (footprint tables b)) (fun _ b => P (footprint tables b)) := by
  constructor
  · intro b b' a hb hrun
    obtain rfl := congrArg Prod.snd hrun
    exact hb
  · intro b b' e hb hrun
    obtain rfl := congrArg Prod.snd hrun
    exact hb

/-- Where enabling a full tunnel may end that has found `f`: with the adapter open or not, and with
some of the routes changed. -/
def Enabling (windows : Windows σ) (created : AdapterHandle → Bool)
    (endpoints : List WindowsVpnEndpoint) (f f' : Footprint) : Prop :=
  ∃ opened : Footprint, opened.Coherent windows ∧
    opened.closed windows created = f.closed windows created ∧
    Lasting windows endpoints opened.tables f'.tables ∧ f' = { opened with tables := f'.tables }

namespace Enabling

variable {f' : Footprint} {endpoints : List WindowsVpnEndpoint}

theorem coherent (h : Enabling windows created endpoints f f') : f'.Coherent windows := by
  obtain ⟨opened, hcoherent, -, -, hsame⟩ := h
  rw [hsame]
  exact hcoherent

theorem closed (h : Enabling windows created endpoints f f') :
    Lasting windows endpoints (f.closed windows created).tables
      (f'.closed windows created).tables := by
  obtain ⟨opened, -, hclosed, hlasting, hsame⟩ := h
  rw [← hclosed, hsame]
  cases hadapter : opened.adapter with
  | none => simpa [Footprint.closed, hadapter] using hlasting
  | some adapter =>
    simp only [Footprint.closed, hadapter]
    split_ifs
    · exact hlasting.without _
    · exact hlasting

end Enabling

/-- The routes of an enabled full tunnel: none goes into the tunnel by default, and each endpoint has
its own. -/
def RoutesReady (endpoints : List WindowsVpnEndpoint) (f : Footprint) : Prop :=
  (∀ row, f.tables.HasRoute row → ¬IsOwnedDefaultRoute f.luid row) ∧
    ∀ e ∈ endpoints, f.tables.Bypasses f.luid e

theorem holds_prepareFullTunnel (hd : windows.Documented tables created)
    (hf : f.Coherent windows) (wfp : Wfp) (endpoints : List WindowsVpnEndpoint) :
    Holds (At tables f) (prepareFullTunnel windows wfp endpoints)
      (fun _ b => Enabling windows created endpoints f (footprint tables b) ∧
        RoutesReady endpoints (footprint tables b))
      (fun _ b => Enabling windows created endpoints f (footprint tables b)) := by
  have hopen : Holds (At tables f) (openAdapter windows)
      (fun _ b => ∃ g, At tables g b ∧ (g.adapter ≠ none ∧ g.Coherent windows ∧
        g.closed windows created = f.closed windows created))
      (fun _ b => Enabling windows created endpoints f (footprint tables b)) := by
    apply (holds_openAdapter hd hf).mono (fun _ hb => hb) (fun _ _ hb => hb)
    intro _ b hb
    rw [show footprint tables b = f from hb.1]
    exact ⟨f, hf, rfl, Lasting.refl windows endpoints f.tables, rfl⟩
  apply hopen.bind
  intro _
  apply holds_exists
  intro g
  apply holds_of_fact
  intro hg
  obtain ⟨hadapter, hcoherent, hclosed⟩ := hg
  obtain ⟨adapter, hadapter⟩ := Option.ne_none_iff_exists'.mp hadapter
  have hluid : g.luid = windows.wintunGetAdapterLuid adapter := by
    rw [Footprint.Coherent, hadapter] at hcoherent
    exact hcoherent
  -- What holds of the tables once the adapter is open holds of where the backend is.
  have hreached {t : IpTables} (hlasting : Lasting windows endpoints g.tables t)
      (b : WindowsNetworkBackend σ) (hb : At tables { g with tables := t } b) :
      Enabling windows created endpoints f (footprint tables b) := by
    rw [show footprint tables b = { g with tables := t } from hb]
    exact ⟨g, hcoherent, hclosed, hlasting, rfl⟩
  have hlocked : Holds (At tables g) (enableFilters windows wfp endpoints)
      (fun _ => At tables g)
      (fun _ b => Enabling windows created endpoints f (footprint tables b)) :=
    holds_ofExcept.mono (fun _ hb => hb) (fun _ _ hb => hb)
      fun _ b hb => hreached (Lasting.refl windows endpoints g.tables) b hb
  apply hlocked.bind
  intro _
  apply holds_read.bind
  intro b
  apply holds_of_fact
  intro hat
  rw [show b.luid = windows.wintunGetAdapterLuid adapter from
    (congrArg Footprint.luid hat).trans hluid]
  generalize hl : windows.wintunGetAdapterLuid adapter = luid
  have hremove : Holds (At tables g) (onHost (HostProgram.removeOwnedDefaultRoutes windows luid))
      (fun _ b => ∃ t, At tables { g with tables := t } b ∧ (Trimmed luid g.tables t ∧
        ∀ row, t.HasRoute row → ¬IsOwnedDefaultRoute luid row))
      (fun _ b => Enabling windows created endpoints f (footprint tables b)) := by
    apply (holds_onHost (HostProgram.holds_removeOwnedDefaultRoutes hd luid g.tables)
      (Q := fun _ t => Trimmed luid g.tables t ∧
        ∀ row, t.HasRoute row → ¬IsOwnedDefaultRoute luid row)
      (R := fun _ t => Trimmed luid g.tables t)).mono (fun _ hb => hb)
    · intro _ b hb
      obtain ⟨t, ht, hat⟩ := hb
      exact ⟨t, hat, ht⟩
    · intro _ b hb
      obtain ⟨t, ht, hat⟩ := hb
      rw [← hl] at ht
      exact hreached (ht.lasting (Extended.refl _ endpoints t)) b hat
  apply hremove.bind
  intro _
  apply holds_exists
  intro t
  apply holds_of_fact
  intro ht
  have hbypass : Holds (At tables { g with tables := t })
      (onHost (HostProgram.addTransportBypassRoutes windows endpoints luid))
      (fun _ b => Enabling windows created endpoints f (footprint tables b) ∧
        RoutesReady endpoints (footprint tables b))
      (fun _ b => Enabling windows created endpoints f (footprint tables b)) := by
    apply (holds_onHost (HostProgram.holds_addTransportBypassRoutes hd luid endpoints t)
      (f := { g with tables := t })
      (Q := fun _ t' => Extended luid endpoints t t' ∧ ∀ e ∈ endpoints, t'.Bypasses luid e)
      (R := fun _ t' => Extended luid endpoints t t')).mono (fun _ hb => hb)
    · intro _ b hb
      obtain ⟨t', ⟨hextended, hbypasses⟩, hat⟩ := hb
      have hlasting := ht.1
      rw [← hl] at hlasting hextended
      refine ⟨hreached (hlasting.lasting hextended) b hat, ?_⟩
      rw [show footprint tables b = { g with tables := t' } from hat]
      rw [hl] at hextended
      unfold RoutesReady
      rw [show ({ g with tables := t' } : Footprint).luid = luid from hluid.trans hl]
      refine ⟨?_, hbypasses⟩
      intro row hrow
      obtain hbefore | hnew := hextended.new _ row hrow
      · exact ht.2 row hbefore
      · exact not_owned_of_bypass hnew.2
    · intro _ b hb
      obtain ⟨t', hextended, hat⟩ := hb
      have hlasting := ht.1
      rw [← hl] at hlasting hextended
      exact hreached (hlasting.lasting hextended) b hat
  apply hbypass.bind
  intro _
  apply (holds_leaves (hd.luidToIndex luid) (P := fun f' =>
    Enabling windows created endpoints f f' ∧ RoutesReady endpoints f')).bind
  intro answer
  apply ((holds_checked windows _ answer.1).mono (fun _ hb => hb) (fun _ _ hb => hb.1)
    fun _ _ hb => hb.1.1).bind
  intro _
  exact holds_pure fun _ hb => hb

theorem holds_enableKillSwitch (hd : windows.Documented tables created)
    (hf : f.Coherent windows) (wfp permitWfp : Wfp) (endpoints : List WindowsVpnEndpoint) :
    Holds (At tables f) (enableKillSwitch windows wfp permitWfp endpoints)
      (fun _ b => Enabling windows created endpoints f (footprint tables b) ∧
        RoutesReady endpoints (footprint tables b))
      (fun _ b => Enabling windows created endpoints f (footprint tables b)) := by
  apply (holds_prepareFullTunnel hd hf wfp endpoints).bind
  intro interfaceIndex
  exact (holds_runPolicy windows (P := fun f' => Enabling windows created endpoints f f' ∧
    RoutesReady endpoints f') _).mono (fun _ hb => hb) (fun _ _ hb => hb) fun _ _ hb => hb.1

end WindowsNetworkBackend

end PersonalVpn.Client
