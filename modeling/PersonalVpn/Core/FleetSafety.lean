import PersonalVpn.Core.Fleet

namespace PersonalVpn.Core

open Protocol

/-- After a call that left the manager at `m`, the entry under the controller's identity carries
its lease identifier, is live, and shares no address with any other entry. -/
structure Backed (m : LeaseManager) (s : SessionController) (now : TimePoint) (e : Lease) :
    Prop where
  entry : m.entry s.identity = some e
  own : ∃ l, s.lease = some l ∧ l.leaseId = e.leaseId
  live : now < e.expiresAt
  alone : ∀ id e', id ≠ s.identity → m.entry id = some e' → e'.address ≠ e.address ∧
    (e.ipv6Address ≠ Ipv6Address.zero → e'.ipv6Address ≠ e.ipv6Address)

namespace SessionController

theorem expiry_gt {p : LeasePolicy} (h : p.Valid) (now : TimePoint) : now < p.expiry now := by
  have hd := h.duration_pos
  have ht : 0 < p.leaseDuration * ticksPerSecond := Int.mul_pos hd (by decide)
  rw [LeasePolicy.expiry]
  exact lt_add_of_pos_right _ ht

theorem ipv6_alone {m : LeaseManager} (h : m.Inv) {id id' : Bytes} {e e' : Lease}
    (he : m.entry id = some e) (he' : m.entry id' = some e') (hne : id' ≠ id)
    (hz : e.ipv6Address ≠ Ipv6Address.zero) : e'.ipv6Address ≠ e.ipv6Address := by
  intro heq
  by_cases hp : m.ipv6PrefixLength = 0
  · refine hz ?_
    rw [h.ipv6 he, LeasePolicy.deriveIpv6, if_neg (not_not.mpr hp)]
  · rw [h.ipv6 he, h.ipv6 he'] at heq
    exact hne (h.address_inj he' he (LeaseManager.deriveIpv6_inj hp heq))

/-- A renewed lease backs the controller that renewed it. -/
theorem backed_renew {m m' : LeaseManager} (h : m.Inv) {s : SessionController} {l l' : Lease}
    {now : TimePoint} (hr : m.renew l now = (some l', m')) (hl : s.lease = some l)
    (hid : l.identity = s.identity) : Backed m' s now l' := by
  obtain ⟨hinv, hren⟩ := h.renew_some hr
  obtain ⟨l₀, -, -, hid₀, -, rfl⟩ := hren.old
  have hself := hren.self
  rw [hid] at hself
  refine ⟨hself, ⟨l, hl, hid₀.symm⟩, expiry_gt h.policy now,
    fun id e' hne he' => ⟨fun ha => ?_, fun hz => ?_⟩⟩
  · exact hne (hinv.address_inj he' hself ha)
  · exact ipv6_alone hinv hself he' hne hz

/-- What a controller hands to the TUN device is valid, fits its MTU and comes from the address of
the entry that backs it. -/
theorem handle_isolated {m m' : LeaseManager} (h : m.Inv) {s s' : SessionController}
    (hs : s.Holds) (hc : s.Coherent m) {f : Frame} {now : TimePoint} {r : SessionResult}
    (heq : s.handle m f now = (.ok r, s', m')) {p : Bytes} (hp : p ∈ r.packetsToTun) :
    ∃ e, Backed m' s now e ∧ p.length ≤ s.negotiatedMtu.toNat ∧
      ((IsIpv4 p ∧ ipv4Source p = e.address) ∨ (IsIpv6 p ∧ ipv6Source p = e.ipv6Address)) := by
  obtain ⟨r₀, s₀, m₀, heq₀, hh⟩ := handle_handled hs m f now
  rw [heq] at heq₀
  cases heq₀
  cases hh with
  | packet state sequence lease renew accepts =>
    rw [List.mem_singleton] at hp
    subst hp
    refine ⟨_, backed_renew h renew lease (hc _ lease).1, ?_⟩
    obtain ⟨-, h4, hmtu, hsrc⟩ | ⟨-, h6, hmtu, -, hsrc⟩ := accepts
    · exact ⟨hmtu, .inl ⟨h4, hsrc⟩⟩
    · exact ⟨hmtu, .inr ⟨h6, hsrc⟩⟩
  | inert => cases hp
  | failed => cases hp
  | granted => cases hp
  | pong => cases hp
  | closed => cases hp

/-- What a controller frames for its client is addressed to the entry that backs it. -/
theorem makeDataToClient_isolated {m m' : LeaseManager} (h : m.Inv) {s s' : SessionController}
    (hc : s.Coherent m) {packet : Bytes} {now : TimePoint} {f : Frame}
    (heq : s.makeDataToClient m packet now = (some f, s', m')) :
    ∃ e, Backed m' s now e ∧
      ((f.type = .dataIpv4 ∧ IsIpv4 f.payload ∧ ipv4Destination f.payload = e.address) ∨
        (f.type = .dataIpv6 ∧ IsIpv6 f.payload ∧ ipv6Destination f.payload = e.ipv6Address)) := by
  obtain ⟨r₀, s₀, m₀, heq₀, hh⟩ := makeDataToClient_sent s m packet now
  rw [heq] at heq₀
  cases heq₀
  cases hh with
  | sent state lease renew delivers =>
    refine ⟨_, backed_renew h renew lease (hc _ lease).1, ?_⟩
    -- the stored lease is the cached one but for its expiry
    obtain ⟨-, hren⟩ := h.renew_some renew
    obtain ⟨l₀, hl₀, -, hid₀, -, rfl⟩ := hren.old
    have hsame := hc.matches lease l₀ hl₀ hid₀
    subst hsame
    obtain ⟨ht, h4, -, hdst⟩ | ⟨ht, h6, -, -, hdst⟩ := delivers
    · exact .inl ⟨ht, h4, hdst⟩
    · exact .inr ⟨ht, h6, hdst⟩

end SessionController

namespace Fleet

variable {ι : Type} [DecidableEq ι]

/-- In every reachable fleet, whatever a session passes on, in either direction, belongs to the
live entry under its own identity, which no other identity shares an address with. -/
theorem cross_session_isolation {first last gateway : Ipv4Address} {prefixLength : UInt8}
    {mtu : UInt16} {duration : Int} {v6Prefix v6Gateway : Ipv6Address} {v6Length : UInt8}
    {m₀ : LeaseManager} (h₀ : LeaseManager.create first last gateway prefixLength mtu duration
      v6Prefix v6Gateway v6Length = .ok m₀) (es : List (FleetEvent ι)) :
    let F := Run.run step (start m₀) es
    (∀ i s f now r s' m', F.session i = some s → s.handle F.manager f now = (.ok r, s', m') →
      ∀ p ∈ r.packetsToTun, ∃ e, Backed m' s now e ∧ p.length ≤ s.negotiatedMtu.toNat ∧
        ((IsIpv4 p ∧ ipv4Source p = e.address) ∨ (IsIpv6 p ∧ ipv6Source p = e.ipv6Address))) ∧
    (∀ i s packet now f s' m', F.session i = some s →
      s.makeDataToClient F.manager packet now = (some f, s', m') → ∃ e, Backed m' s now e ∧
        ((f.type = .dataIpv4 ∧ IsIpv4 f.payload ∧ ipv4Destination f.payload = e.address) ∨
          (f.type = .dataIpv6 ∧ IsIpv6 f.payload ∧
            ipv6Destination f.payload = e.ipv6Address))) := by
  intro F
  have h : F.Inv := inv_reached h₀ es
  refine ⟨fun i s f now r s' m' hi heq p hp => ?_, fun i s packet now f s' m' hi heq => ?_⟩
  · exact SessionController.handle_isolated h.manager (h.holds hi) (h.coherent hi) heq hp
  · exact SessionController.makeDataToClient_isolated h.manager (h.coherent hi) heq

/-- A hello for an MTU of 1400. -/
def helloFrame : Frame := ⟨.clientHello, 0, 1, [5, 120, 0, 0, 0, 0, 0, 3]⟩

/-- An IPv4 header from 10.8.0.2 to 10.8.0.1 without payload. -/
def dataFrame : Frame :=
  ⟨.dataIpv4, 0, 2, [69, 0, 0, 20, 0, 0, 0, 0, 64, 0, 0, 0, 10, 8, 0, 2, 10, 8, 0, 1]⟩

theorem cross_session_isolation_single :
    let F := Run.run step (start (LeaseManager.singleManager 1))
      [.create () (text "c"), .handle () helloFrame 0]
    ∃ s s' m', F.session () = some s ∧
      s.handle F.manager dataFrame 1 = (.ok { packetsToTun := [dataFrame.payload] }, s', m') ∧
      ∃ e, Backed m' s 1 e := by
  intro F
  have hrun : (F.session ()).map (fun s => (s.handle F.manager dataFrame 1).1.toOption) =
      some (some { packetsToTun := [dataFrame.payload] }) := by decide +kernel
  obtain ⟨s, hs, hr⟩ := Option.map_eq_some_iff.mp hrun
  rcases heq : s.handle F.manager dataFrame 1 with ⟨r, s', m'⟩
  rw [heq] at hr
  cases r with
  | error e => cases hr
  | ok r =>
    cases hr
    obtain ⟨e, he, -⟩ := (cross_session_isolation LeaseManager.create_single _).1 () s dataFrame 1
      _ s' m' hs heq dataFrame.payload (by simp)
    exact ⟨s, s', m', hs, heq, e, he⟩

/-- One event either leaves a controller's lease stored, or leaves a lease that was cached before
and that is gone from the manager only if it had expired. -/
theorem step_lease {F : Fleet ι} (h : F.Inv) (e : FleetEvent ι) {i : ι} {s' : SessionController}
    {l : Lease} (hi : (F.step e).session i = some s') (hl : s'.lease = some l) :
    (F.step e).manager.entry s'.identity = some l ∨
      ∃ s, F.session i = some s ∧ s.identity = s'.identity ∧ s.lease = some l ∧
        (F.manager.entry s'.identity = some l → ∃ now, e.time = some now ∧ l.expiresAt ≤ now) := by
  -- a controller the event does not touch
  have untouched {m' : LeaseManager} (hm : (F.step e).manager = m') (hs : F.session i = some s')
      (hkeep : F.manager.entry s'.identity = some l → m'.entry s'.identity = some l ∨
        ∃ now, e.time = some now ∧ l.expiresAt ≤ now) :
      (F.step e).manager.entry s'.identity = some l ∨
        ∃ s, F.session i = some s ∧ s.identity = s'.identity ∧ s.lease = some l ∧
          (F.manager.entry s'.identity = some l →
            ∃ now, e.time = some now ∧ l.expiresAt ≤ now) := by
    by_cases hx : m'.entry s'.identity = some l
    · exact .inl (by rwa [hm])
    · exact .inr ⟨s', hs, rfl, hl, fun hentry => (hkeep hentry).resolve_left hx⟩
  -- a call on another controller
  have other {j : ι} {t t' : SessionController} {m' : LeaseManager} (hj : F.session j = some t)
      (he : t.Effect F.manager e.time t' m') (hij : i ≠ j) (hs : F.session i = some s') :
      F.manager.entry s'.identity = some l → m'.entry s'.identity = some l ∨
        ∃ now, e.time = some now ∧ l.expiresAt ≤ now := fun hentry =>
    he.others h.manager hentry fun k hk heq => hij (h.apart hs hj hl hk heq.symm)
  obtain heq | ⟨j, identity, hj, heq⟩ | ⟨j, t, t', m', hj, hid, he, heq⟩ |
    ⟨j, t, t', m', hj, hid, hno, he, heq⟩ := step_cases h e
  · rw [heq] at hi
    exact untouched (by rw [heq]) hi .inl
  · rw [heq] at hi
    by_cases hij : i = j
    · subst hij
      simp only [Function.update_self] at hi
      cases hi
      cases hl
    · simp only [Function.update_of_ne hij] at hi
      exact untouched (by rw [heq]) hi .inl
  · by_cases hij : i = j
    · subst hij
      have ht : t' = s' := by
        simp only [heq, put, Function.update_self] at hi
        exact Option.some.inj hi
      subst ht
      have hm : (F.step e).manager = m' := by rw [heq, put]
      cases he with
      | keep lease state manager =>
        rw [lease] at hl
        rw [hm, manager, hid]
        by_cases hx : F.manager.entry t.identity = some l
        · exact .inl hx
        · exact .inr ⟨t, hj, rfl, hl, fun hentry => absurd hentry hx⟩
      | grant at_ none acquire lease state =>
        rw [lease] at hl
        cases hl
        rw [hm, hid]
        exact .inl (h.manager.acquire_ok acquire).2.self
      | renew at_ old renew lease state =>
        rw [lease] at hl
        cases hl
        rw [hm, hid, ← (h.coherent hj _ old).1]
        exact .inl (h.manager.renew_some renew).2.self
      | drop lease state manager =>
        rw [lease] at hl
        cases hl
    · simp only [heq, put, Function.update_of_ne hij] at hi
      have hm : (F.step e).manager = m' := by rw [heq, put]
      exact untouched hm hi (other hj he hij hi)
  · by_cases hij : i = j
    · subst hij
      simp only [heq, Function.update_self] at hi
      cases hi
    · simp only [heq, Function.update_of_ne hij] at hi
      have hm : (F.step e).manager = m' := by rw [heq]
      exact untouched hm hi (other hj he hij hi)

/-- Some event of the run found the lease stored and expired, and took it away. -/
def ReapedIn (F : Fleet ι) (es : List (FleetEvent ι)) (identity : Bytes) (l : Lease) : Prop :=
  ∃ es₁ e es₂ now, es = es₁ ++ e :: es₂ ∧ e.time = some now ∧ l.expiresAt ≤ now ∧
    (Run.run step F es₁).manager.entry identity = some l ∧
    (Run.run step F (es₁ ++ [e])).manager.entry identity ≠ some l

/-- A cached lease is stored in the manager or was reaped in the run. -/
theorem lease_stored_or_reaped {F : Fleet ι} (h : F.Inv)
    (h₀ : ∀ i s l, F.session i = some s → s.lease = some l →
      F.manager.entry s.identity = some l) (es : List (FleetEvent ι)) {i : ι}
    {s : SessionController} {l : Lease} (hi : (Run.run step F es).session i = some s)
    (hl : s.lease = some l) :
    (Run.run step F es).manager.entry s.identity = some l ∨ ReapedIn F es s.identity l := by
  induction es using List.reverseRecOn generalizing s l with
  | nil => exact .inl (h₀ i s l hi hl)
  | append_singleton es e ih =>
    rw [Run.run_append] at hi ⊢
    simp only [Run.run_cons, Run.run_nil] at hi ⊢
    obtain hentry | ⟨t, ht, hid, hlt, hexp⟩ := step_lease (inv_run h es) e hi hl
    · exact .inl hentry
    obtain hentry | ⟨es₁, e', es₂, now, rfl, hrest⟩ := ih ht hlt
    · rw [hid] at hentry
      by_cases hx : ((Run.run step F es).step e).manager.entry s.identity = some l
      · exact .inl hx
      · obtain ⟨now, htime, hle⟩ := hexp hentry
        refine .inr ⟨es, e, [], now, rfl, htime, hle, hentry, ?_⟩
        rw [Run.run_append]
        exact hx
    · rw [hid] at hrest
      exact .inr ⟨es₁, e', es₂ ++ [e], now, by simp, hrest⟩

/-- Closing the transport and destroying the controller take the same from the manager. -/
theorem step_close_manager {F : Fleet ι} {i : ι} {s : SessionController} {c : FleetEvent ι}
    (hi : F.session i = some s) (hc : c = .onTransportClosed i ∨ c = .destroy i) :
    (F.step c).manager = (s.releaseLease F.manager).2 := by
  have hsnd : (s.onTransportClosed F.manager).2 = (s.releaseLease F.manager).2 := by
    rw [SessionController.onTransportClosed, SessionController.releaseLease_eq (s := s) (by rfl)]
  obtain rfl | rfl := hc
  · simp only [step, hi, put, hsnd]
  · simp only [step, hi, SessionController.destroy]

/-- In every reachable fleet leases and established controllers match: a controller has a lease
exactly while established, every entry is the lease of exactly one of them, a cached lease that is
not stored was reaped, and closing or destroying a controller takes away its own entry and no
newer one. -/
theorem no_leaked_no_phantom_leases {first last gateway : Ipv4Address} {prefixLength : UInt8}
    {mtu : UInt16} {duration : Int} {v6Prefix v6Gateway : Ipv6Address} {v6Length : UInt8}
    {m₀ : LeaseManager} (h₀ : LeaseManager.create first last gateway prefixLength mtu duration
      v6Prefix v6Gateway v6Length = .ok m₀) (es : List (FleetEvent ι)) :
    let F := Run.run step (start m₀) es
    (∀ i s, F.session i = some s → (s.lease.isSome = true ↔ s.state = .established)) ∧
    (∀ id e, F.manager.entry id = some e → ∃! i, ∃ s l, F.session i = some s ∧
      s.state = .established ∧ s.identity = id ∧ s.lease = some l ∧ l.identity = e.identity ∧
      l.leaseId = e.leaseId ∧ l.address = e.address) ∧
    (∀ i s l, F.session i = some s → s.lease = some l →
      F.manager.entry s.identity = some l ∨ ReapedIn (start m₀) es s.identity l) ∧
    (∀ i s l c, F.session i = some s → s.lease = some l →
      (c = .onTransportClosed i ∨ c = .destroy i) →
      (∀ id e, (F.step c).manager.entry id = some e → e.leaseId ≠ l.leaseId) ∧
      ∀ id e, F.manager.entry id = some e → e.leaseId ≠ l.leaseId →
        (F.step c).manager.entry id = some e) := by
  intro F
  have h : F.Inv := inv_reached h₀ es
  refine ⟨fun i s hi => h.holds hi, fun id e he => ?_, fun i s l hi hl => ?_,
    fun i s l c hi hl hc => ⟨?_, ?_⟩⟩
  · obtain ⟨i, s, hi, hl⟩ := h.held he
    refine ⟨i, ⟨s, e, hi, (h.holds hi).mp (by simp [hl]), ?_, hl, rfl, rfl, rfl⟩, ?_⟩
    · rw [← (h.coherent hi e hl).1]
      exact h.manager.key he
    · rintro j ⟨t, k, hj, -, -, hk, -, hid, -⟩
      exact h.apart hj hi hk hl hid
  · refine lease_stored_or_reaped (inv_reached h₀ []) ?_ es hi hl
    intro i s l hs
    have hempty : (start m₀ : Fleet ι).session i = none := rfl
    rw [Run.run_nil, hempty] at hs
    cases hs
  · intro id e he heq
    have hshrink := SessionController.shrinks_releaseLease h.manager (h.coherent hi)
    rw [step_close_manager hi hc] at he
    have hentry := hshrink.sub id e he
    obtain ⟨j, t, hj, hle⟩ := h.held hentry
    obtain rfl := h.apart hj hi hle hl heq
    rw [hi] at hj
    cases hj
    refine hshrink.gone e hle ?_
    rw [h.manager.key hentry]
    exact he
  · intro id e he hne
    have hshrink := SessionController.shrinks_releaseLease h.manager (h.coherent hi)
    rw [step_close_manager hi hc]
    refine hshrink.kept id e he ?_ (by simp)
    rw [hl]
    rintro ⟨rfl⟩
    exact hne rfl

theorem no_leaked_no_phantom_leases_single :
    let F := Run.run step (start (LeaseManager.singleManager 1))
      [.create () (text "c"), .handle () helloFrame 0]
    (∃ e, F.manager.entry (text "c") = some e) ∧ ∃! i, ∃ s, F.session i = some s ∧
      s.state = .established := by
  intro F
  have hsome : (F.manager.entry (text "c")).isSome = true := by decide +kernel
  obtain ⟨e, he⟩ := Option.isSome_iff_exists.mp hsome
  obtain ⟨i, ⟨s, l, hi, hs, -⟩, -⟩ := (no_leaked_no_phantom_leases LeaseManager.create_single _).2.1
    (text "c") e he
  exact ⟨⟨e, he⟩, i, ⟨s, hi, hs⟩, fun j _ => rfl⟩

end Fleet

end PersonalVpn.Core
