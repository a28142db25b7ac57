import PersonalVpn.Core.FleetSafety
import PersonalVpn.Server.SessionActions
import PersonalVpn.Server.TlsTunnelServer

namespace PersonalVpn.Core

namespace TunnelRouter

theorem addressKey_inj {a b : Ipv4Address} (h : addressKey a = addressKey b) : a = b := by
  have ha := fromInteger_toInteger a
  have hb := fromInteger_toInteger b
  have hab : toInteger a = toInteger b := h
  rw [← ha, hab, hb]

end TunnelRouter

end PersonalVpn.Core

namespace PersonalVpn.Server

open PersonalVpn.Core Protocol TunnelRouter

/-- Renewing a cached lease changes none of its addresses. -/
theorem renew_addresses {m m' : LeaseManager} (h : m.Inv) {c : SessionController}
    (hc : c.Coherent m) {l l' : Lease} {now : TimePoint} (hl : c.lease = some l)
    (hr : m.renew l now = (some l', m')) :
    l'.address = l.address ∧ l'.ipv6Address = l.ipv6Address := by
  obtain ⟨-, hren⟩ := h.renew_some hr
  obtain ⟨l₀, hl₀, -, hid₀, -, heq⟩ := hren.old
  rw [heq, hc.matches hl l₀ hl₀ hid₀]
  exact ⟨rfl, rfl⟩

namespace TlsTunnelServer

variable {ι : Type}

/-- The session controllers of the server and their lease manager. -/
def fleet (S : TlsTunnelServer ι) : Fleet ι :=
  ⟨S.shared.manager, fun i => (S.session i).bind (·.controller)⟩

theorem fleet_session {S : TlsTunnelServer ι} {i : ι} {s : TlsTunnelSession}
    (hi : S.session i = some s) : S.fleet.session i = s.controller := by
  simp [fleet, hi]

variable [DecidableEq ι]

/-- Replacing one session replaces its controller. -/
theorem bind_update (f : ι → Option TlsTunnelSession) (i : ι) (o : Option TlsTunnelSession) :
    (fun j => (Function.update f i o j).bind (·.controller)) =
      Function.update (fun j => (f j).bind (·.controller)) i (o.bind (·.controller)) := by
  funext j
  by_cases hj : j = i
  · rw [hj, Function.update_self, Function.update_self]
  · rw [Function.update_of_ne hj, Function.update_of_ne hj]

theorem fleet_put (S : TlsTunnelServer ι) (i : ι) (s : TlsTunnelSession) (w : Shared (Exchange ι)) :
    (S.put i (s, w)).fleet = ⟨w.manager, Function.update S.fleet.session i s.controller⟩ :=
  congrArg (Fleet.mk w.manager) (bind_update S.session i (some s))

/-- An event of a session makes at most one call on its controller. -/
theorem fleet_acted {S : TlsTunnelServer ι} {i : ι} {s s' : TlsTunnelSession}
    {w' : Shared (Exchange ι)} {h : Handlers (Exchange ι)} (hi : S.session i = some s)
    (ha : TlsTunnelSession.Acted h s S.shared s' w') :
    (S.put i (s', w')).fleet = S.fleet ∨ ∃ e, (S.put i (s', w')).fleet = S.fleet.step e := by
  have hsess := fleet_session hi
  rw [fleet_put]
  have hsame (hc : s'.controller = s.controller) (hm : w'.manager = S.shared.manager) :
      (⟨w'.manager, Function.update S.fleet.session i s'.controller⟩ : Fleet ι) = S.fleet := by
    rw [hc, hm, ← hsess, Function.update_eq_self]
    rfl
  cases ha with
  | quiet same controller routeLease manager outside unused => exact .inl (hsame controller manager)
  | opened same none create controller routeLease unused =>
    rename_i identity c
    refine .inr ⟨.create i identity, ?_⟩
    rw [none] at hsess
    simp only [Fleet.step, hsess, create, Fleet.put, controller]
    rfl
  | framed same old inbound controller manager announced =>
    rename_i c f rest now
    refine .inr ⟨.handle i f now, ?_⟩
    rw [old] at hsess
    simp only [Fleet.step, hsess, Fleet.put, controller, manager]
    rfl
  | sent same old controller manager routeLease outside unused =>
    rename_i c packet now
    refine .inr ⟨.makeDataToClient i packet now, ?_⟩
    rw [old] at hsess
    simp only [Fleet.step, hsess, Fleet.put, controller, manager]
    rfl
  | released closing old after manager outside =>
    rename_i c
    refine .inr ⟨.onTransportClosed i, ?_⟩
    rw [old] at hsess
    simp only [Fleet.step, hsess, Fleet.put, after, manager]
    rfl
  | cleared closing none manager outside => exact .inl (hsame rfl manager)
  | notified closing manager outside => exact .inl (hsame rfl manager)

/-- An entry of the router belongs to a session that has not yet been told to unregister, and stands
under an address of the lease which that session has announced. -/
structure Routed (S : TlsTunnelServer ι) : Prop where
  ipv4 : ∀ {k j}, S.shared.outside.router.peers.lookup k = some j → ∃ s l, S.session j = some s ∧
    s.closing ≠ .done ∧ s.routeLease = some l ∧ k = addressKey l.address
  ipv6 : ∀ {k j}, S.shared.outside.router.ipv6Peers.lookup k = some j → ∃ s l,
    S.session j = some s ∧ s.closing ≠ .done ∧ s.routeLease = some l ∧ k = l.ipv6Address ∧
      k ≠ Ipv6Address.zero

/-- The invariant of the server. -/
structure Inv (S : TlsTunnelServer ι) : Prop where
  fleet : S.fleet.Inv
  sound : ∀ {i s}, S.session i = some s → s.Sound
  routed : S.Routed
  leased : ∀ {i s c l k}, S.session i = some s → s.controller = some c → c.lease = some l →
    s.routeLease = some k → k.address = l.address ∧ k.ipv6Address = l.ipv6Address

/-- The established handler enters the peer under the addresses of its lease and nothing else. -/
theorem registerRoutes_lookup {active : ι → Bool} {i : ι} {l : Lease} {x : Exchange ι} :
    (∀ {k j}, (registerRoutes active i l x).2.router.peers.lookup k = some j →
      x.router.peers.lookup k = some j ∨ (j = i ∧ k = addressKey l.address)) ∧
    (∀ {k j}, (registerRoutes active i l x).2.router.ipv6Peers.lookup k = some j →
      x.router.ipv6Peers.lookup k = some j ∨
        (j = i ∧ k = l.ipv6Address ∧ k ≠ Ipv6Address.zero)) := by
  have h4 {k : UInt32} {j : ι}
      (hk : (registerAt active x.router.peers (addressKey l.address) i).2.lookup k = some j) :
      x.router.peers.lookup k = some j ∨ (j = i ∧ k = addressKey l.address) := by
    rw [registerAt_lookup] at hk
    split at hk
    · rename_i hkey
      exact .inr ⟨(Option.some.inj hk).symm, hkey.1⟩
    · exact .inl hk
  have h6 {k : Ipv6Address} {j : ι} (hz : l.ipv6Address ≠ Ipv6Address.zero)
      (hk : (registerAt active x.router.ipv6Peers l.ipv6Address i).2.lookup k = some j) :
      x.router.ipv6Peers.lookup k = some j ∨
        (j = i ∧ k = l.ipv6Address ∧ k ≠ Ipv6Address.zero) := by
    rw [registerAt_lookup] at hk
    split at hk
    · rename_i hkey
      exact .inr ⟨(Option.some.inj hk).symm, hkey.1, hkey.1 ▸ hz⟩
    · exact .inl hk
  simp only [registerRoutes, registerPeer, registerIpv6Peer, unregisterPeer]
  generalize hreg : registerAt active x.router.peers (addressKey l.address) i = o at h4
  obtain ⟨ok, peers⟩ := o
  cases ok with
  | false => exact ⟨h4, .inl⟩
  | true =>
    dsimp only
    split
    · rename_i hz
      specialize @h6
      generalize registerAt active x.router.ipv6Peers l.ipv6Address i = o6 at h6
      obtain ⟨ok6, peers6⟩ := o6
      cases ok6 with
      | true => exact ⟨h4, h6 hz⟩
      | false =>
        refine ⟨fun hk => ?_, h6 hz⟩
        dsimp only at hk
        rw [unregisterAt_lookup] at hk
        exact h4 hk.1
    · exact ⟨h4, .inl⟩

/-- The close handler leaves no entry of the peer under the addresses of its lease. -/
theorem handleSessionClosed_lookup {active : ι → Bool} {i : ι} {lease : Option Lease}
    {x : Exchange ι} :
    (∀ {k j}, (handleSessionClosed active i lease x).router.peers.lookup k = some j →
      x.router.peers.lookup k = some j ∧
        ∀ l, lease = some l → k = addressKey l.address → j ≠ i) ∧
    (∀ {k j}, (handleSessionClosed active i lease x).router.ipv6Peers.lookup k = some j →
      x.router.ipv6Peers.lookup k = some j ∧
        ∀ l, lease = some l → k ≠ Ipv6Address.zero → k = l.ipv6Address → j ≠ i) := by
  cases lease with
  | none => exact ⟨fun hk => ⟨hk, (by simp)⟩, fun hk => ⟨hk, (by simp)⟩⟩
  | some l =>
    have h4 {k : UInt32} {j : ι}
        (hk : (unregisterAt active x.router.peers (addressKey l.address) i).2.lookup k = some j) :
        x.router.peers.lookup k = some j ∧
          ∀ l', some l = some l' → k = addressKey l'.address → j ≠ i := by
      rw [unregisterAt_lookup] at hk
      refine ⟨hk.1, fun l' hl' hkey => ?_⟩
      cases hl'
      exact (hk.2 hkey).2
    simp only [handleSessionClosed, unregisterPeer, unregisterIpv6Peer]
    split
    · refine ⟨h4, fun hk => ?_⟩
      dsimp only at hk
      rw [unregisterAt_lookup] at hk
      refine ⟨hk.1, fun l' hl' _ hkey => ?_⟩
      cases hl'
      exact (hk.2 hkey).2
    · rename_i hz
      refine ⟨h4, fun hk => ⟨hk, fun l' hl' hne hkey => ?_⟩⟩
      cases hl'
      rw [not_not] at hz
      exact absurd (hkey.trans hz) hne

/-- The packet sink does not touch the router. -/
theorem sink_router (active : ι → Bool) (i : ι) (x : Exchange ι) (packets : List Bytes) :
    (packets.foldl (fun x p => (handlers active i).packetSink p x) x).router = x.router := by
  induction packets generalizing x with
  | nil => rfl
  | cons p ps ih => exact ih _

theorem put_self (S : TlsTunnelServer ι) (i : ι) (s' : TlsTunnelSession)
    (w' : Shared (Exchange ι)) : (S.put i (s', w')).session i = some s' := Function.update_self ..

theorem put_of_ne (S : TlsTunnelServer ι) {i j : ι} (h : j ≠ i) (s' : TlsTunnelSession)
    (w' : Shared (Exchange ι)) : (S.put i (s', w')).session j = S.session j :=
  Function.update_of_ne h ..

/-- The sessions after an event of one of them. -/
theorem session_put {S : TlsTunnelServer ι} {i j : ι} {s' t : TlsTunnelSession}
    {w' : Shared (Exchange ι)} (hj : (S.put i (s', w')).session j = some t) :
    (j = i ∧ t = s') ∨ (j ≠ i ∧ S.session j = some t) := by
  by_cases hji : j = i
  · rw [hji, put_self, Option.some.injEq] at hj
    exact .inl ⟨hji, hj.symm⟩
  · rw [put_of_ne S hji] at hj
    exact .inr ⟨hji, hj⟩

/-- An event that only adds entries of its own session, under the addresses it has announced. -/
theorem Routed.put {S : TlsTunnelServer ι} (h : S.Routed) {i : ι} {s s' : TlsTunnelSession}
    {w' : Shared (Exchange ι)} (hi : S.session i = some s)
    (hclosing : s.closing ≠ .done → s'.closing ≠ .done)
    (hroute : ∀ l, s.routeLease = some l → s'.routeLease = some l)
    (h4 : ∀ {k j}, w'.outside.router.peers.lookup k = some j →
      S.shared.outside.router.peers.lookup k = some j ∨ (j = i ∧ s.closing ≠ .done ∧
        ∃ l, s'.routeLease = some l ∧ k = addressKey l.address))
    (h6 : ∀ {k j}, w'.outside.router.ipv6Peers.lookup k = some j →
      S.shared.outside.router.ipv6Peers.lookup k = some j ∨ (j = i ∧ s.closing ≠ .done ∧
        ∃ l, s'.routeLease = some l ∧ k = l.ipv6Address ∧ k ≠ Ipv6Address.zero)) :
    (S.put i (s', w')).Routed := by
  constructor
  · intro k j hk
    obtain hk | ⟨hji, hopen, l, hl, hkey⟩ := h4 hk
    · obtain ⟨t, l, ht, hopen, hl, hkey⟩ := h.ipv4 hk
      by_cases hji : j = i
      · rw [hji, hi] at ht
        cases ht
        rw [hji]
        exact ⟨s', l, put_self S i s' w', hclosing hopen, hroute l hl, hkey⟩
      · exact ⟨t, l, (put_of_ne S hji _ w').trans ht, hopen, hl, hkey⟩
    · rw [hji]
      exact ⟨s', l, put_self S i s' w', hclosing hopen, hl, hkey⟩
  · intro k j hk
    obtain hk | ⟨hji, hopen, l, hl, hkey⟩ := h6 hk
    · obtain ⟨t, l, ht, hopen, hl, hkey⟩ := h.ipv6 hk
      by_cases hji : j = i
      · rw [hji, hi] at ht
        cases ht
        rw [hji]
        exact ⟨s', l, put_self S i s' w', hclosing hopen, hroute l hl, hkey⟩
      · exact ⟨t, l, (put_of_ne S hji _ w').trans ht, hopen, hl, hkey⟩
    · rw [hji]
      exact ⟨s', l, put_self S i s' w', hclosing hopen, hl, hkey⟩

/-- An event that does not touch the router. -/
theorem Routed.put_same {S : TlsTunnelServer ι} (h : S.Routed) {i : ι} {s s' : TlsTunnelSession}
    {w' : Shared (Exchange ι)} (hi : S.session i = some s)
    (hclosing : s.closing ≠ .done → s'.closing ≠ .done) (hroute : s'.routeLease = s.routeLease)
    (hx : w'.outside = S.shared.outside) : (S.put i (s', w')).Routed := by
  apply h.put hi hclosing
  · intro l hl
    rw [hroute, hl]
  · intro k j hk
    rw [hx] at hk
    exact .inl hk
  · intro k j hk
    rw [hx] at hk
    exact .inl hk

/-- The close handler of a session has removed its entries. -/
theorem Routed.notified {S : TlsTunnelServer ι} (h : S.Routed) {i : ι} {s : TlsTunnelSession}
    {w' : Shared (Exchange ι)} (hi : S.session i = some s)
    (hx : w'.outside = handleSessionClosed S.active i s.routeLease S.shared.outside) :
    (S.put i ({ s with closing := .done }, w')).Routed := by
  obtain ⟨h4, h6⟩ := @handleSessionClosed_lookup ι _ S.active i s.routeLease
    S.shared.outside
  constructor
  · intro k j hk
    change w'.outside.router.peers.lookup k = some j at hk
    rw [hx] at hk
    obtain ⟨hk, hne⟩ := h4 hk
    obtain ⟨t, l, ht, hopen, hl, hkey⟩ := h.ipv4 hk
    have hji : j ≠ i := by
      intro hji
      rw [hji, hi] at ht
      cases ht
      exact hne l hl hkey hji
    exact ⟨t, l, (put_of_ne S hji _ w').trans ht, hopen, hl, hkey⟩
  · intro k j hk
    change w'.outside.router.ipv6Peers.lookup k = some j at hk
    rw [hx] at hk
    obtain ⟨hk, hne⟩ := h6 hk
    obtain ⟨t, l, ht, hopen, hl, hkey, hz⟩ := h.ipv6 hk
    have hji : j ≠ i := by
      intro hji
      rw [hji, hi] at ht
      cases ht
      exact hne l hl hz hkey hji
    exact ⟨t, l, (put_of_ne S hji _ w').trans ht, hopen, hl, hkey, hz⟩

omit [DecidableEq ι] in
theorem Inv.holds {S : TlsTunnelServer ι} (h : S.Inv) {i : ι} {s : TlsTunnelSession}
    (hi : S.session i = some s) : ∀ c, s.controller = some c → c.Holds := by
  intro c hc
  exact h.fleet.holds ((fleet_session hi).trans hc)

theorem Inv.routed_acted {S : TlsTunnelServer ι} (h : S.Inv) {i : ι} {s s' : TlsTunnelSession}
    {w' : Shared (Exchange ι)} (hi : S.session i = some s)
    (ha : TlsTunnelSession.Acted (handlers S.active i) s S.shared s' w') :
    (S.put i (s', w')).Routed := by
  have hquiet (hq : TlsTunnelSession.Quiet s s') (hopen : s.closing ≠ .done) :
      s'.closing ≠ .done := by
    obtain ⟨-, hc⟩ | ⟨-, -, hc⟩ := hq.closing
    · rwa [hc]
    · rw [hc]
      decide
  cases ha with
  | quiet same controller routeLease manager outside unused =>
    exact h.routed.put_same hi (hquiet same) routeLease outside
  | opened same none create controller routeLease unused =>
    exact h.routed.put_same hi (hquiet same) routeLease rfl
  | sent same old controller manager routeLease outside unused =>
    exact h.routed.put_same hi (hquiet same) routeLease outside
  | released closing old after manager outside =>
    rw [after]
    exact h.routed.put_same hi (fun _ => (by simp)) rfl outside
  | cleared closing none manager outside =>
    exact h.routed.put_same hi (fun _ => (by simp)) rfl outside
  | notified closing manager outside => exact h.routed.notified hi outside
  | framed same old inbound controller manager announced =>
    generalize hroute : s'.routeLease = route at announced
    generalize hx : w'.outside = x at announced
    cases announced with
    | known _ packets =>
      have hrouter := sink_router S.active i S.shared.outside packets
      rw [← hx] at hrouter
      apply h.routed.put hi (hquiet same)
      · intro l hl
        rw [hroute, hl]
      · intro k j hk
        rw [hrouter] at hk
        exact .inl hk
      · intro k j hk
        rw [hrouter] at hk
        exact .inl hk
    | new unrouted state lease packets =>
      rename_i l
      obtain ⟨h4, h6⟩ := @registerRoutes_lookup ι _ S.active i l S.shared.outside
      have hrouter := sink_router S.active i (registerRoutes S.active i l S.shared.outside).2 packets
      have hopen : s.closing ≠ .done := by
        have hs := h.sound hi
        rw [hs.stage.mp (hs.busy (by rw [inbound]; exact List.cons_ne_nil _ _))]
        decide
      have hsame : w'.outside.router = (registerRoutes S.active i l S.shared.outside).2.router := by
        rw [hx]
        exact hrouter
      apply h.routed.put hi (hquiet same)
      · intro l' hl'
        rw [unrouted] at hl'
        cases hl'
      · intro k j hk
        rw [hsame] at hk
        obtain hk | ⟨hji, hkey⟩ := h4 hk
        · exact .inl hk
        · exact .inr ⟨hji, hopen, l, hroute, hkey⟩
      · intro k j hk
        rw [hsame] at hk
        obtain hk | ⟨hji, hkey⟩ := h6 hk
        · exact .inl hk
        · exact .inr ⟨hji, hopen, l, hroute, hkey⟩

/-- The lease a session has announced keeps the addresses of the one its controller caches. -/
theorem Inv.leased_acted {S : TlsTunnelServer ι} (h : S.Inv) {i : ι} {s s' : TlsTunnelSession}
    {w' : Shared (Exchange ι)} (hi : S.session i = some s)
    (ha : TlsTunnelSession.Acted (handlers S.active i) s S.shared s' w')
    {c' : SessionController} {l k : Lease} (hc' : s'.controller = some c') (hl : c'.lease = some l)
    (hk : s'.routeLease = some k) :
    k.address = l.address ∧ k.ipv6Address = l.ipv6Address := by
  have hrenew {c : SessionController} {l₀ l' : Lease} {m' : LeaseManager} {now : TimePoint}
      (hc : s.controller = some c) (hl₀ : c.lease = some l₀) (hk : s.routeLease = some k)
      (hr : S.shared.manager.renew l₀ now = (some l', m')) :
      k.address = l'.address ∧ k.ipv6Address = l'.ipv6Address := by
    obtain ⟨h4, h6⟩ := h.leased hi hc hl₀ hk
    obtain ⟨h4', h6'⟩ := renew_addresses h.fleet.manager
      (h.fleet.coherent ((fleet_session hi).trans hc)) hl₀ hr
    exact ⟨h4.trans h4'.symm, h6.trans h6'.symm⟩
  cases ha with
  | quiet same controller routeLease manager outside unused =>
    rw [controller] at hc'
    rw [routeLease] at hk
    exact h.leased hi hc' hl hk
  | opened same none create controller routeLease unused =>
    rename_i identity c
    rw [SessionController.create, ite_error_eq_ok] at create
    rw [controller, ← Except.ok.inj create.2] at hc'
    cases hc'
    cases hl
  | framed same old inbound controller manager announced =>
    rename_i c f rest now
    rw [controller] at hc'
    rw [hk] at announced
    generalize hroute : some k = route at announced
    generalize w'.outside = x at announced
    cases announced with
    | new unrouted state lease packets =>
      cases hroute
      rw [Option.some.inj hc'] at lease
      rw [Option.some.inj (lease.symm.trans hl)]
      exact ⟨rfl, rfl⟩
    | known _ packets =>
      obtain ⟨r, c₁, m₁, heq, hh⟩ :=
        SessionController.handle_handled (h.holds hi c old) S.shared.manager f now
      rw [heq] at hc'
      cases hc'
      cases hh with
      | inert state => exact h.leased hi old hl hroute.symm
      | failed => cases hl
      | granted state =>
        have hu := (h.sound hi).greeting (fun c₀ hc₀ => by
          rw [old] at hc₀
          cases hc₀
          exact state)
        rw [hu.routeLease] at hroute
        cases hroute
      | packet state sequence lease renew accepts =>
        cases hl
        exact hrenew old lease hroute.symm renew
      | pong state sequence lease renew type size =>
        cases hl
        exact hrenew old lease hroute.symm renew
      | closed => cases hl
  | sent same old controller manager routeLease outside unused =>
    rename_i c packet now
    rw [controller] at hc'
    rw [routeLease] at hk
    obtain ⟨r, c₁, m₁, heq, hh⟩ :=
      SessionController.makeDataToClient_sent c S.shared.manager packet now
    rw [heq] at hc'
    cases hc'
    cases hh with
    | ignored => exact h.leased hi old hl hk
    | lost => cases hl
    | sent state lease renew delivers =>
      cases hl
      exact hrenew old lease hk renew
  | released closing old after manager outside =>
    rw [after] at hc'
    cases hc'
    rw [SessionController.onTransportClosed_fst] at hl
    cases hl
  | cleared closing none manager outside => exact h.leased hi hc' hl hk
  | notified closing manager outside => exact h.leased hi hc' hl hk

/-- An event of a session keeps the invariant. -/
theorem Inv.acted {S : TlsTunnelServer ι} (h : S.Inv) {i : ι} {s s' : TlsTunnelSession}
    {w' : Shared (Exchange ι)} (hi : S.session i = some s)
    (ha : TlsTunnelSession.Acted (handlers S.active i) s S.shared s' w') :
    (S.put i (s', w')).Inv := by
  constructor
  case fleet =>
    obtain heq | ⟨e, heq⟩ := fleet_acted hi ha
    · rw [heq]
      exact h.fleet
    · rw [heq]
      exact h.fleet.step e
  case sound =>
    intro j t hj
    obtain ⟨-, ht⟩ | ⟨-, hj⟩ := session_put hj
    · rw [ht]
      exact (h.sound hi).acted (h.holds hi) ha
    · exact h.sound hj
  case routed => exact h.routed_acted hi ha
  case leased =>
    intro j t c l k hj hc hl hk
    obtain ⟨-, ht⟩ | ⟨-, hj⟩ := session_put hj
    · rw [ht] at hc hk
      exact h.leased_acted hi ha hc hl hk
    · exact h.leased hj hc hl hk

/-- A new session is sound. -/
theorem sound_fresh : TlsTunnelSession.Sound { outboundQueue } :=
  ⟨by decide, (by simp), rfl, rfl, fun _ => ⟨rfl, rfl, rfl, rfl, rfl⟩⟩

/-- A session without routes and without a controller may come, and one without routes may go. -/
theorem Inv.replace {S S' : TlsTunnelServer ι} (h : S.Inv) {i : ι} {o : Option TlsTunnelSession}
    (hsession : S'.session = Function.update S.session i o)
    (hx : S'.shared.outside = S.shared.outside) (hfleet : Fleet.Inv
      ⟨S'.shared.manager, Function.update S.fleet.session i (o.bind (·.controller))⟩)
    (hold : ∀ s, S.session i = some s → s.closing = .done)
    (hnew : ∀ s, o = some s → s = { outboundQueue }) : S'.Inv := by
  have hcases {j : ι} {t : TlsTunnelSession} (hj : S'.session j = some t) :
      t = { outboundQueue } ∨ S.session j = some t := by
    rw [hsession] at hj
    by_cases hji : j = i
    · rw [hji, Function.update_self] at hj
      exact .inl (hnew t hj)
    · rw [Function.update_of_ne hji] at hj
      exact .inr hj
  have hkeep {j : ι} {t : TlsTunnelSession} (hj : S.session j = some t) (ht : t.closing ≠ .done) :
      S'.session j = some t := by
    have hji : j ≠ i := by
      intro hji
      rw [hji] at hj
      exact ht (hold t hj)
    rw [hsession, Function.update_of_ne hji, hj]
  constructor
  case fleet =>
    rw [TlsTunnelServer.fleet, hsession, bind_update]
    exact hfleet
  case sound =>
    intro j t hj
    obtain ht | hj := hcases hj
    · rw [ht]
      exact sound_fresh
    · exact h.sound hj
  case routed =>
    constructor
    · intro k j hk
      rw [hx] at hk
      obtain ⟨t, l, ht, hopen, hl, hkey⟩ := h.routed.ipv4 hk
      exact ⟨t, l, hkeep ht hopen, hopen, hl, hkey⟩
    · intro k j hk
      rw [hx] at hk
      obtain ⟨t, l, ht, hopen, hl, hkey⟩ := h.routed.ipv6 hk
      exact ⟨t, l, hkeep ht hopen, hopen, hl, hkey⟩
  case leased =>
    intro j t c l k hj hc hl hk
    obtain ht | hj := hcases hj
    · rw [ht] at hc
      cases hc
    · exact h.leased hj hc hl hk

/-- A session without a controller is none to the fleet. -/
theorem update_fleet_none {S : TlsTunnelServer ι} {i : ι} (h : S.fleet.session i = none) :
    (⟨S.shared.manager, Function.update S.fleet.session i none⟩ : Fleet ι) = S.fleet := by
  rw [← h, Function.update_eq_self]
  rfl

theorem Inv.accept {S : TlsTunnelServer ι} (h : S.Inv) {i : ι} (hi : S.session i = none) :
    (S.handleAccept i).Inv := by
  have hold : ∀ s, S.session i = some s → s.closing = .done := by
    intro s hs
    rw [hi] at hs
    cases hs
  have hnone : S.fleet.session i = none := by simp [TlsTunnelServer.fleet, hi]
  have hfleet : Fleet.Inv ⟨S.shared.manager, Function.update S.fleet.session i none⟩ := by
    rw [update_fleet_none hnone]
    exact h.fleet
  unfold handleAccept
  dsimp only
  split
  · refine h.replace (i := i) (o := none) ?_ rfl hfleet hold ?_
    · exact (Function.update_eq_self_iff.mpr hi.symm).symm
    · intro s hs
      cases hs
  · refine h.replace (i := i) (o := some { outboundQueue }) rfl rfl hfleet hold ?_
    intro s hs
    exact (Option.some.inj hs).symm

theorem Inv.remove {S : TlsTunnelServer ι} (h : S.Inv) {i : ι} {s : TlsTunnelSession}
    (hi : S.session i = some s) (hs : s.closing = .done) : (S.removeSession i s).Inv := by
  have hsess := fleet_session hi
  refine h.replace (i := i) (o := none) rfl rfl ?_ ?_ ?_
  · unfold removeSession
    cases hc : s.controller with
    | none =>
      rw [hc] at hsess
      change Fleet.Inv ⟨S.shared.manager, Function.update S.fleet.session i none⟩
      rw [update_fleet_none hsess]
      exact h.fleet
    | some c =>
      rw [hc] at hsess
      have hstep := h.fleet.step (.destroy i)
      simp only [Fleet.step, hsess] at hstep
      exact hstep
  · intro t ht
    rw [hi] at ht
    cases ht
    exact hs
  · intro t ht
    cases ht

/-- Every event keeps the invariant. -/
theorem Inv.step {S : TlsTunnelServer ι} (h : S.Inv) (e : ServerEvent ι) : (S.step e).Inv := by
  have hstop : Inv { S with stopping := true } :=
    ⟨h.fleet, h.sound, ⟨h.routed.ipv4, h.routed.ipv6⟩, h.leased⟩
  cases e with
  | accept i =>
    simp only [TlsTunnelServer.step]
    split
    · exact h
    · rename_i hi
      apply h.accept
      simp only [Bool.or_eq_true, not_or, active, Bool.not_eq_true, Option.isSome_eq_false_iff,
        Option.isNone_iff_eq_none] at hi
      exact hi.2
  | acceptFailed aborted =>
    simp only [TlsTunnelServer.step]
    split
    · exact h
    · exact hstop
  | session i event =>
    simp only [TlsTunnelServer.step]
    cases hi : S.session i with
    | none => exact h
    | some s => exact h.acted hi (TlsTunnelSession.step_acted _ (h.holds hi) S.shared event)
  | remove i =>
    simp only [TlsTunnelServer.step]
    cases hi : S.session i with
    | none => exact h
    | some s =>
      dsimp only
      split
      · rename_i hs
        exact h.remove hi hs
      · exact h
  | stop => exact hstop

omit [DecidableEq ι] in
theorem inv_start {m : LeaseManager} (h : m.Inv) (hm : ∀ id, m.entry id = none)
    (maximumSessions : Nat) : (start m maximumSessions : TlsTunnelServer ι).Inv where
  fleet := Fleet.inv_start h hm
  sound := by
    intro i s hi
    cases hi
  routed := by
    constructor
    · intro k j hk
      cases hk
    · intro k j hk
      cases hk
  leased := by
    intro i s c l k hi
    cases hi

end TlsTunnelServer

end PersonalVpn.Server
