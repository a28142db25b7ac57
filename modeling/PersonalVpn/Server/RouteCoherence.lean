import PersonalVpn.Server.RouteInvariant

namespace PersonalVpn.Server

open PersonalVpn.Core Protocol TunnelRouter

namespace TlsTunnelServer

variable {ι : Type} [DecidableEq ι]

/-- Every entry of the router belongs to a session whose lease is still good at `now`. -/
def RoutesLive (S : TlsTunnelServer ι) (now : TimePoint) : Prop :=
  ∀ j, (∃ k, S.shared.outside.router.peers.lookup k = some j) ∨
      (∃ k, S.shared.outside.router.ipv6Peers.lookup k = some j) →
    ∃ s c l, S.session j = some s ∧ s.controller = some c ∧ c.lease = some l ∧
      S.shared.manager.entry c.identity = some l ∧ now < l.expiresAt

/-- A session may be granted a lease only while no other session has lost its lease and not yet
unregistered its routes. -/
def Admits (S : TlsTunnelServer ι) : ServerEvent ι → Prop
  | .session i (.frame now) => ∀ s c, S.session i = some s → s.controller = some c →
    c.state = .awaitingHello → S.RoutesLive now
  | _ => True

/-- A session that is granted a lease gets its routes registered and stays open. -/
def Admitted (S : TlsTunnelServer ι) : ServerEvent ι → Prop
  | .session i (.frame now) => ∀ s c f rest r c' m' l, S.session i = some s →
    s.controller = some c → s.inbound = f :: rest → c.state = .awaitingHello →
    c.handle S.shared.manager f now = (.ok r, c', m') → c'.lease = some l →
      (∀ j, S.shared.outside.router.peers.lookup (addressKey l.address) = some j → j = i) ∧
      (∀ j, S.shared.outside.router.ipv6Peers.lookup l.ipv6Address = some j → j = i) ∧
      (registerRoutes S.active i l S.shared.outside).1 = true ∧
      ∃ s', (S.step (.session i (.frame now))).session i = some s' ∧ s'.routeLease = some l ∧
        s'.stopped = false
  | _ => True

/-- A newly granted lease shares no address with a lease that is still good. -/
theorem granted_apart {m m' : LeaseManager} (h : m.Inv) {identity id : Bytes} {now : TimePoint}
    {l e : Lease} (ha : m.acquire identity now = (.ok l, m')) (he : m.entry id = some e)
    (hlive : now < e.expiresAt) : e.address ≠ l.address ∧
      (e.ipv6Address ≠ Ipv6Address.zero → l.ipv6Address ≠ e.ipv6Address) := by
  obtain ⟨h', hg⟩ := h.acquire_ok ha
  have hid : id ≠ identity := by
    intro hid
    rw [hid] at he
    exact not_le.mpr hlive (hg.vacant e he)
  have he' := (hg.other id e hid).mpr ⟨he, hlive⟩
  refine ⟨fun haddr => hid (h'.address_inj he' hg.self haddr), ?_⟩
  exact SessionController.ipv6_alone h' he' hg.self hid.symm

omit [DecidableEq ι] in
/-- While every routed session has a good lease, a new lease is free in the router too. -/
theorem Inv.granted_unrouted {S : TlsTunnelServer ι} (h : S.Inv) {identity : Bytes}
    {now : TimePoint} {l : Lease} {m' : LeaseManager} (hlive : S.RoutesLive now)
    (ha : S.shared.manager.acquire identity now = (.ok l, m')) (j : ι) :
    S.shared.outside.router.peers.lookup (addressKey l.address) ≠ some j ∧
      S.shared.outside.router.ipv6Peers.lookup l.ipv6Address ≠ some j := by
  constructor
  · intro hk
    obtain ⟨t, k, ht, -, hroute, hkey⟩ := h.routed.ipv4 hk
    obtain ⟨t', c, e, ht', hc, he, hentry, hexp⟩ := hlive j (.inl ⟨_, hk⟩)
    rw [ht] at ht'
    cases ht'
    obtain ⟨haddr, -⟩ := h.leased ht hc he hroute
    obtain ⟨hne, -⟩ := granted_apart h.fleet.manager ha hentry hexp
    exact hne (haddr.symm.trans (addressKey_inj hkey).symm)
  · intro hk
    obtain ⟨t, k, ht, -, hroute, hkey, hz⟩ := h.routed.ipv6 hk
    obtain ⟨t', c, e, ht', hc, he, hentry, hexp⟩ := hlive j (.inr ⟨_, hk⟩)
    rw [ht] at ht'
    cases ht'
    obtain ⟨-, haddr⟩ := h.leased ht hc he hroute
    obtain ⟨-, hne⟩ := granted_apart h.fleet.manager ha hentry hexp
    have heq : l.ipv6Address = e.ipv6Address := hkey.trans haddr
    rw [heq] at hz
    exact hne hz heq

/-- With both addresses free the established handler succeeds. -/
theorem registerRoutes_free {active : ι → Bool} {i : ι} {l : Lease} {x : Exchange ι}
    (h4 : ∀ j, x.router.peers.lookup (addressKey l.address) ≠ some j)
    (h6 : ∀ j, x.router.ipv6Peers.lookup l.ipv6Address ≠ some j) :
    (registerRoutes active i l x).1 = true := by
  have hreg4 : (registerAt active x.router.peers (addressKey l.address) i).1 = true :=
    registerAt_fst.mpr fun j hj => absurd hj (h4 j)
  have hreg6 : (registerAt active x.router.ipv6Peers l.ipv6Address i).1 = true :=
    registerAt_fst.mpr fun j hj => absurd hj (h6 j)
  simp only [registerRoutes, registerPeer, registerIpv6Peer]
  rw [hreg4]
  dsimp only
  split
  · rw [hreg6]
  · rfl

/-- An admitted step that grants a lease registers its routes. -/
theorem Inv.admitted {S : TlsTunnelServer ι} (h : S.Inv) (e : ServerEvent ι) (hg : S.Admits e) :
    S.Admitted e := by
  cases e with
  | accept => trivial
  | acceptFailed => trivial
  | remove => trivial
  | stop => trivial
  | session i event =>
    cases event with
    | frame now =>
      intro s c f rest r c' m' l hi hc hin hst heq hl
      have hlive := hg s c hi hc hst
      have hh := h.holds hi c hc
      have hacquire : S.shared.manager.acquire c.identity now = (.ok l, m') := by
        obtain ⟨r₀, c₀, m₀, heq₀, hhandled⟩ :=
          SessionController.handle_handled hh S.shared.manager f now
        rw [heq] at heq₀
        cases heq₀
        cases hhandled with
        | granted state sequence type decode acquire encode =>
          cases hl
          exact acquire
        | inert state =>
          rw [hh.none (by rw [hst]; decide)] at hl
          cases hl
        | failed => cases hl
        | packet state => exact absurd (hst.symm.trans state) (by decide)
        | pong state => exact absurd (hst.symm.trans state) (by decide)
        | closed => cases hl
      have hfree := h.granted_unrouted hlive hacquire
      have hok : (registerRoutes S.active i l S.shared.outside).1 = true :=
        registerRoutes_free (fun j => (hfree j).1) fun j => (hfree j).2
      refine ⟨fun j hj => absurd hj (hfree j).1, fun j hj => absurd hj (hfree j).2, hok, ?_⟩
      obtain ⟨hroute, hopen⟩ := TlsTunnelSession.handleNextFrame_granted
        (h := handlers S.active i) (h.sound hi) hh hc hin hst heq hl hok
      refine ⟨_, ?_, hroute, hopen⟩
      simp only [TlsTunnelServer.step, hi]
      exact put_self ..
    | _ => trivial

/-- In every run in which a session is granted a lease only while no session that has lost its lease
still has routes, every session that is granted one gets its routes and stays open. -/
theorem grants_are_routed {first last gateway : Ipv4Address} {prefixLength : UInt8} {mtu : UInt16}
    {duration : Int} {v6Prefix v6Gateway : Ipv6Address} {v6Length : UInt8} {m₀ : LeaseManager}
    (h₀ : LeaseManager.create first last gateway prefixLength mtu duration v6Prefix v6Gateway
      v6Length = .ok m₀) (maximumSessions : Nat) (es : List (ServerEvent ι))
    (hes : Run.Along step Admits (start m₀ maximumSessions) es) :
    Run.Along step Admitted (start m₀ maximumSessions) es := by
  have hstart : (start m₀ maximumSessions : TlsTunnelServer ι).Inv := by
    apply inv_start (LeaseManager.inv_create h₀)
    intro id
    rw [(LeaseManager.create_ok_iff.mp h₀).1]
    rfl
  exact Run.along_of_invariant (P := Inv) (fun _ e h => h.step e) (fun _ e h hg => h.admitted e hg)
    hstart hes

/-- One session up to its hello. -/
def greet {ι : Type} (i : ι) (identity : Bytes) : List (ServerEvent ι) :=
  [.accept i, .session i (.handshake (some identity)),
    .session i (.read (some (wireBytes Fleet.helloFrame)))]

/-- What a session is about to do with its next frame: the frame, the state of its controller, and
the lease the controller will have, if it does not throw. -/
def nextGrant (S : TlsTunnelServer ι) (i : ι) (now : TimePoint) :
    Option (Frame × SessionState × Bool × Option Lease) := do
  let s ← S.session i
  let c ← s.controller
  let f ← s.inbound.head?
  let o := c.handle S.shared.manager f now
  return (f, c.state, o.1.toOption.isSome, o.2.1.lease)

omit [DecidableEq ι] in
theorem nextGrant_some {S : TlsTunnelServer ι} {i : ι} {now : TimePoint} {f : Frame}
    {state : SessionState} {l : Lease} (h : S.nextGrant i now = some (f, state, true, some l)) :
    ∃ s c rest r c' m', S.session i = some s ∧ s.controller = some c ∧ s.inbound = f :: rest ∧
      c.state = state ∧ c.handle S.shared.manager f now = (.ok r, c', m') ∧ c'.lease = some l := by
  simp only [nextGrant, Option.bind_eq_bind, Option.bind_eq_some_iff, Option.pure_def,
    Option.some.injEq, Prod.mk.injEq, List.head?_eq_some_iff] at h
  obtain ⟨s, hs, c, hc, f', ⟨rest, hin⟩, hf, hst, hok, hl⟩ := h
  rw [hf] at hin hok hl
  rcases heq : c.handle S.shared.manager f now with ⟨r, c', m'⟩
  rw [heq] at hok hl
  cases r with
  | error e => cases hok
  | ok r => exact ⟨s, c, rest, r, c', m', hs, hc, hin, hst, heq, hl⟩

theorem grants_are_routed_single :
    let S := Run.run step (start (LeaseManager.singleManager 1) 8) (greet () (text "c"))
    ∃ s, (S.step (.session () (.frame 0))).session () = some s ∧
      s.routeLease = some (LeaseManager.singleLease 1) ∧ s.stopped = false := by
  intro S
  have hrun : S.nextGrant () 0 =
      some (Fleet.helloFrame, .awaitingHello, true, some (LeaseManager.singleLease 1)) := by
    decide +kernel
  have hes : Run.Along step Admits (start (LeaseManager.singleManager 1) 8)
      (greet () (text "c") ++ [.session () (.frame 0)]) := by
    refine ⟨trivial, trivial, trivial, ?_, trivial⟩
    intro s c _ _ _ j hj
    obtain ⟨k, hk⟩ | ⟨k, hk⟩ := hj <;> cases hk
  obtain ⟨s, c, rest, r, c', m', hi, hc, hin, hst, heq, hl⟩ := nextGrant_some hrun
  obtain ⟨-, -, -, hgrant, -⟩ := grants_are_routed LeaseManager.create_single 8 _ hes
  obtain ⟨-, -, -, hopen⟩ := hgrant s c _ rest r c' m' _ hi hc hin hst heq hl
  exact hopen

/-- Two sessions and one address: the first is established and then sends a frame with a used
sequence number, which makes its controller release the lease while the ERROR is being written. The
second is granted the address, which is still routed to the first. -/
def collision : List (ServerEvent Bool) :=
  greet false (text "a") ++ [.session false (.frame 0),
    .session false (.read (some (wireBytes Fleet.helloFrame))), .session false (.frame 0)] ++
  greet true (text "c")

theorem granted_address_still_routed :
    let S := Run.run step (start (LeaseManager.singleManager 1) 8) collision
    S.nextGrant true 0 =
      some (Fleet.helloFrame, .awaitingHello, true, some (LeaseManager.singleLease 2)) ∧
    S.shared.outside.router.peers.lookup (addressKey #v[10, 8, 0, 2]) = some false ∧
    (registerRoutes S.active true (LeaseManager.singleLease 2) S.shared.outside).1 = false ∧
    ((S.step (.session true (.frame 0))).session true).map (·.stopped) = some true ∧
    ¬Run.Along step Admitted (start (LeaseManager.singleManager 1) 8)
      (collision ++ [.session true (.frame 0)]) := by
  intro S
  have hrun : S.nextGrant true 0 =
      some (Fleet.helloFrame, .awaitingHello, true, some (LeaseManager.singleLease 2)) := by
    decide +kernel
  have hfail : (registerRoutes S.active true (LeaseManager.singleLease 2)
      S.shared.outside).1 = false := by
    decide +kernel
  refine ⟨hrun, by decide +kernel, hfail, by decide +kernel, fun hes => ?_⟩
  obtain ⟨s, c, rest, r, c', m', hi, hc, hin, hst, heq, hl⟩ := nextGrant_some hrun
  obtain ⟨-, hlast, -⟩ := (Run.along_append _ _ _).mp hes
  obtain ⟨-, -, hok, -⟩ := hlast s c _ rest r c' m' _ hi hc hin hst heq hl
  exact absurd (hok.symm.trans hfail) (by decide)

end TlsTunnelServer

end PersonalVpn.Server
