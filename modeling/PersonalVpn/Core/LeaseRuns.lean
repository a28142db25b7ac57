import Mathlib.Order.Interval.Finset.Nat
import PersonalVpn.Lib.Run
import PersonalVpn.Core.LeaseOperations

namespace PersonalVpn.Core

/-- A call of one of the manager's methods. -/
inductive LeaseCall where
  | acquire (identity : Bytes) (now : TimePoint)
  | findByIdentity (identity : Bytes) (now : TimePoint)
  | renew (expected : Lease) (now : TimePoint)
  | owns (identity : Bytes) (address : Ipv4Address) (now : TimePoint)
  | release (expected : Lease)
  | reapExpired (now : TimePoint)
  | activeCount (now : TimePoint)
  | availableCount (now : TimePoint)

/-- The time argument of a call. Only `release` has none. -/
def LeaseCall.time : LeaseCall → Option TimePoint
  | .acquire _ now => some now
  | .findByIdentity _ now => some now
  | .renew _ now => some now
  | .owns _ _ now => some now
  | .release _ => none
  | .reapExpired now => some now
  | .activeCount now => some now
  | .availableCount now => some now

namespace LeaseManager

/-- The manager after a call. -/
def call (m : LeaseManager) : LeaseCall → LeaseManager
  | .acquire identity now => (m.acquire identity now).2
  | .findByIdentity identity now => (m.findByIdentity identity now).2
  | .renew expected now => (m.renew expected now).2
  | .owns identity address now => (m.owns identity address now).2
  | .release expected => (m.release expected).2
  | .reapExpired now => (m.reapExpired now).2
  | .activeCount now => (m.activeCount now).2
  | .availableCount now => (m.availableCount now).2

/-- The call throws, or returns `nullopt` or `false`. -/
def Fails (m : LeaseManager) : LeaseCall → Prop
  | .acquire identity now => ∃ e, (m.acquire identity now).1 = .error e
  | .findByIdentity identity now => (m.findByIdentity identity now).1 = none
  | .renew expected now => (m.renew expected now).1 = none
  | .owns identity address now => (m.owns identity address now).1 = false
  | .release expected => (m.release expected).1 = false
  | .reapExpired _ => False
  | .activeCount _ => False
  | .availableCount _ => False

/-- Both maps are as they were but for leases expired at `now`. -/
structure OnlyReaped (m : LeaseManager) (now : TimePoint) (m' : LeaseManager) : Prop where
  entry : ∀ id, m'.entry id = m.entry id ∨
    m'.entry id = none ∧ ∃ l, m.entry id = some l ∧ l.expiresAt ≤ now
  owner : ∀ a, m'.ownerOf a = m.ownerOf a ∨
    m'.ownerOf a = none ∧ ∃ id l, m.ownerOf a = some id ∧ m.entry id = some l ∧ l.expiresAt ≤ now

theorem OnlyReaped.refl (m : LeaseManager) (now : TimePoint) : OnlyReaped m now m :=
  ⟨fun _ => .inl rfl, fun _ => .inl rfl⟩

theorem Inv.onlyReaped {m : LeaseManager} (h : m.Inv) (now : TimePoint) :
    OnlyReaped m now (m.reapExpiredLocked now).2 := by
  obtain ⟨-, hr⟩ := h.reap now
  set r := (m.reapExpiredLocked now).2
  refine ⟨fun id => ?_, fun a => ?_⟩
  · cases hl : m.entry id with
    | none =>
      refine .inl (Option.eq_none_iff_forall_ne_some.mpr fun l hrl => ?_)
      have := ((hr.entry id l).mp hrl).1
      rw [hl] at this
      cases this
    | some l =>
      by_cases hx : l.expiresAt ≤ now
      · refine .inr ⟨Option.eq_none_iff_forall_ne_some.mpr fun l' hrl => ?_, l, rfl, hx⟩
        obtain ⟨hl', hlive⟩ := (hr.entry id l').mp hrl
        rw [hl] at hl'
        cases hl'
        exact not_le.mpr hlive hx
      · exact .inl ((hr.entry id l).mpr ⟨hl, not_le.mp hx⟩)
  · cases ho : m.ownerOf a with
    | none =>
      refine .inl (Option.eq_none_iff_forall_ne_some.mpr fun id hro => ?_)
      have := ((hr.owner a id).mp hro).1
      rw [ho] at this
      cases this
    | some id =>
      obtain ⟨l, hl, -⟩ := h.owner.mp ho
      by_cases hx : l.expiresAt ≤ now
      · refine .inr ⟨Option.eq_none_iff_forall_ne_some.mpr fun id' hro => ?_, id, l, rfl, hl, hx⟩
        obtain ⟨ho', l', hl', hlive⟩ := (hr.owner a id').mp hro
        rw [ho] at ho'
        cases ho'
        rw [hl] at hl'
        cases hl'
        exact not_le.mpr hlive hx
      · exact .inl ((hr.owner a id).mpr ⟨ho, l, hl, not_le.mp hx⟩)

/-- One call keeps the invariant and the policy. -/
theorem Inv.call {m : LeaseManager} (h : m.Inv) (c : LeaseCall) :
    (m.call c).Inv ∧ (m.call c).toLeasePolicy = m.toLeasePolicy := by
  have reaped (now : TimePoint) : (m.reapExpiredLocked now).2.Inv ∧
      (m.reapExpiredLocked now).2.toLeasePolicy = m.toLeasePolicy :=
    ⟨(h.reap now).1, (h.reap now).2.policy⟩
  cases c with
  | acquire identity now =>
    simp only [LeaseManager.call]
    rcases hr : m.acquire identity now with ⟨r, m'⟩
    cases r with
    | ok l => exact ⟨(h.acquire_ok hr).1, (h.acquire_ok hr).2.policy⟩
    | error e =>
      obtain ⟨-, rfl, -⟩ | ⟨rfl, -⟩ := acquire_error hr
      · exact ⟨h, rfl⟩
      · exact reaped now
  | renew expected now =>
    simp only [LeaseManager.call]
    rcases hr : m.renew expected now with ⟨r, m'⟩
    cases r with
    | some l => exact ⟨(h.renew_some hr).1, (h.renew_some hr).2.policy⟩
    | none =>
      rw [(h.renew_none hr).1]
      exact reaped now
  | release expected =>
    simp only [LeaseManager.call]
    rcases hr : m.release expected with ⟨r, m'⟩
    cases r with
    | true => exact ⟨(h.release_true hr).1, (h.release_true hr).2.policy⟩
    | false =>
      rw [(release_false hr).1]
      exact ⟨h, rfl⟩
  | owns identity address now =>
    have hs : (m.owns identity address now).2 = (m.reapExpiredLocked now).2 := by
      simp only [owns]
      split <;> rfl
    simp only [LeaseManager.call, hs]
    exact reaped now
  | findByIdentity identity now => exact reaped now
  | reapExpired now => exact reaped now
  | activeCount now => exact reaped now
  | availableCount now => exact reaped now

/-- A failing call takes away at most expired leases, and a failing `release` nothing. -/
theorem Inv.call_fails {m : LeaseManager} (h : m.Inv) {c : LeaseCall} (hf : m.Fails c) :
    (∀ now, c.time = some now → OnlyReaped m now (m.call c)) ∧
      (c.time = none → m.call c = m) := by
  cases c with
  | acquire identity now =>
    refine ⟨?_, by simp [LeaseCall.time]⟩
    rintro _ ⟨rfl⟩
    obtain ⟨e, he⟩ := hf
    simp only [LeaseManager.call]
    rcases hr : m.acquire identity now with ⟨r, m'⟩
    rw [hr] at he
    cases he
    obtain ⟨-, rfl, -⟩ | ⟨rfl, -⟩ := acquire_error hr
    · exact .refl _ _
    · exact h.onlyReaped _
  | renew expected now =>
    refine ⟨?_, by simp [LeaseCall.time]⟩
    rintro _ ⟨rfl⟩
    simp only [LeaseManager.call]
    have hr : m.renew expected now = (none, (m.renew expected now).2) := Prod.ext hf rfl
    rw [(h.renew_none hr).1]
    exact h.onlyReaped _
  | release expected =>
    refine ⟨by simp [LeaseCall.time], fun _ => ?_⟩
    have hr : m.release expected = (false, (m.release expected).2) := Prod.ext hf rfl
    exact (release_false hr).1
  | owns identity address now =>
    refine ⟨?_, by simp [LeaseCall.time]⟩
    rintro _ ⟨rfl⟩
    have hs : (m.owns identity address now).2 = (m.reapExpiredLocked now).2 := by
      simp only [owns]
      split <;> rfl
    simp only [LeaseManager.call, hs]
    exact h.onlyReaped _
  | findByIdentity identity now =>
    refine ⟨?_, by simp [LeaseCall.time]⟩
    rintro _ ⟨rfl⟩
    exact h.onlyReaped _
  | reapExpired now => exact hf.elim
  | activeCount now => exact hf.elim
  | availableCount now => exact hf.elim

/-- The number of addresses in the pool. -/
def poolSize (m : LeaseManager) : Nat := m.lastAddress.toNat - m.firstAddress.toNat + 1

/-- There are never more leases than addresses. -/
theorem Inv.size_le {m : LeaseManager} (h : m.Inv) :
    m.leasesByIdentity.entries.length ≤ m.poolSize := by
  have mem {e : Sigma fun _ : Bytes => Lease} (he : e ∈ m.leasesByIdentity.entries) :
      m.entry e.1 = some e.2 := AList.mem_lookup_iff.mpr he
  let f (e : Sigma fun _ : Bytes => Lease) : Nat := (toInteger e.2.address).toNat
  have hnodup : (m.leasesByIdentity.entries.map f).Nodup := by
    refine List.Nodup.map_on (fun x hx y hy hxy => ?_) m.leasesByIdentity.nodupKeys.nodup
    have haddr := toInteger_injective (UInt32.toNat_inj.mp hxy)
    exact m.leasesByIdentity.nodupKeys.eq_of_fst_eq hx hy
      (h.address_inj (mem hx) (mem hy) haddr)
  have hsub : (m.leasesByIdentity.entries.map f).toFinset ⊆
      Finset.Icc m.firstAddress.toNat m.lastAddress.toNat := by
    intro a ha
    obtain ⟨e, he, rfl⟩ := List.mem_map.mp (List.mem_toFinset.mp ha)
    obtain ⟨h1, h2⟩ := h.inPool (mem he)
    exact Finset.mem_Icc.mpr ⟨UInt32.le_iff_toNat_le.mp h1, UInt32.le_iff_toNat_le.mp h2⟩
  have hcard := Finset.card_le_card hsub
  have hrange := UInt32.le_iff_toNat_le.mp h.policy.range
  rw [List.toFinset_card_of_nodup hnodup, List.length_map, Nat.card_Icc] at hcard
  rw [poolSize]
  omega

/-- `available_count` is what `active_count` leaves of the pool. -/
theorem Inv.availableCount {m : LeaseManager} (h : m.Inv) (now : TimePoint) :
    (m.availableCount now).1.toNat + (m.activeCount now).1 = m.poolSize := by
  obtain ⟨hr, hreap⟩ := h.reap now
  have hsize := hr.size_le
  have hrange := UInt32.le_iff_toNat_le.mp hr.policy.range
  simp only [LeaseManager.availableCount, activeCount]
  rw [poolSize, ← hreap.policy]
  set r := (m.reapExpiredLocked now).2
  rw [poolSize] at hsize
  have hl := r.lastAddress.toNat_lt
  have hf := r.firstAddress.toNat_lt
  have hcap : (r.lastAddress.toUInt64 - r.firstAddress.toUInt64 + 1).toNat =
      r.lastAddress.toNat - r.firstAddress.toNat + 1 := by
    rw [UInt64.toNat_add, UInt64.toNat_sub]
    simp
    omega
  have hlen : (UInt64.ofNat r.leasesByIdentity.entries.length).toNat =
      r.leasesByIdentity.entries.length := by
    rw [UInt64.toNat_ofNat']
    exact Nat.mod_eq_of_lt (by omega)
  rw [UInt64.toNat_sub, hcap, hlen]
  omega

/-- Distinct IPv4 addresses have distinct derived IPv6 addresses. -/
theorem deriveIpv6_inj {p : LeasePolicy} (hp : p.ipv6PrefixLength ≠ 0) {a b : Ipv4Address}
    (h : p.deriveIpv6 a = p.deriveIpv6 b) : a = b := by
  apply Vector.ext
  intro i hi
  have hi' : 12 + i < 16 := by omega
  have hget := congrArg (fun v : Ipv6Address => v[12 + i]) h
  have h8 : ¬12 + i < 8 := by omega
  simpa [LeasePolicy.deriveIpv6, hp, Vector.get, h8] using hget

theorem inv_run {m : LeaseManager} (h : m.Inv) (calls : List LeaseCall) :
    (Run.run call m calls).Inv :=
  Run.invariant (P := Inv) (fun _ c hs => (Inv.call hs c).1) h calls

theorem policy_run {m : LeaseManager} (h : m.Inv) (calls : List LeaseCall) :
    (Run.run call m calls).toLeasePolicy = m.toLeasePolicy := by
  let P (m' : LeaseManager) := m'.Inv ∧ m'.toLeasePolicy = m.toLeasePolicy
  have hstep : ∀ m' c, P m' → P (m'.call c) := by
    intro m' c hm'
    obtain ⟨hinv, hpolicy⟩ := Inv.call hm'.1 c
    exact ⟨hinv, hpolicy.trans hm'.2⟩
  have hrun : P (Run.run call m calls) := Run.invariant hstep ⟨h, rfl⟩ calls
  exact hrun.2

theorem inv_create {first last gateway : Ipv4Address} {prefixLength : UInt8} {mtu : UInt16}
    {duration : Int} {v6Prefix v6Gateway : Ipv6Address} {v6Length : UInt8} {m : LeaseManager}
    (h : create first last gateway prefixLength mtu duration v6Prefix v6Gateway v6Length = .ok m) :
    m.Inv := by
  obtain ⟨rfl, hp⟩ := create_ok_iff.mp h
  exact inv_empty hp rfl rfl

/-- Over every sequence of calls the two maps stay inverse to each other, leases stay in the pool
with distinct addresses and identifiers, the counts add up, and failing calls leave the maps alone
but for expired leases. The identifiers are below the counter until it has wrapped to zero. -/
theorem representation_invariant {first last gateway : Ipv4Address} {prefixLength : UInt8}
    {mtu : UInt16} {duration : Int} {v6Prefix v6Gateway : Ipv6Address} {v6Length : UInt8}
    {m₀ : LeaseManager}
    (h₀ : create first last gateway prefixLength mtu duration v6Prefix v6Gateway v6Length = .ok m₀)
    (calls : List LeaseCall) :
    let m := Run.run call m₀ calls
    (∀ id l, m.entry id = some l → l.identity = id ∧ m.ownerOf (toInteger l.address) = some id ∧
      m.firstAddress ≤ toInteger l.address ∧ toInteger l.address ≤ m.lastAddress ∧
      (l.leaseId < m.nextLeaseId ∨ m.nextLeaseId = 0)) ∧
    (∀ a id, m.ownerOf a = some id → ∃ l, m.entry id = some l ∧ toInteger l.address = a) ∧
    (∀ id id' l l', m.entry id = some l → m.entry id' = some l' → id ≠ id' →
      l.address ≠ l'.address ∧ l.leaseId ≠ l'.leaseId ∧
      (m.ipv6PrefixLength ≠ 0 → l.ipv6Address ≠ l'.ipv6Address)) ∧
    (∀ now, (m.activeCount now).1 ≤ m.poolSize ∧
      (m.availableCount now).1.toNat = m.poolSize - (m.activeCount now).1) ∧
    (∀ c, m.Fails c → (∀ now, c.time = some now → OnlyReaped m now (m.call c)) ∧
      (c.time = none → m.call c = m)) := by
  intro m
  have h : m.Inv := inv_run (inv_create h₀) calls
  refine ⟨fun id l hl => ?_, fun a id ho => h.owner.mp ho, fun id id' l l' hl hl' hne => ?_,
    fun now => ?_, fun c hc => h.call_fails hc⟩
  · obtain ⟨hfirst, hlast⟩ := h.inPool hl
    exact ⟨h.key hl, h.owner.mpr ⟨l, hl, rfl⟩, hfirst, hlast, (h.issued hl).2.symm⟩
  · refine ⟨fun ha => hne (h.address_inj hl hl' ha), fun hi => hne (h.distinct hl hl' hi), ?_⟩
    intro hp h6
    rw [h.ipv6 hl, h.ipv6 hl'] at h6
    exact hne (h.address_inj hl hl' (deriveIpv6_inj hp h6))
  · have := h.availableCount now
    omega

/-- A pool of the one address 10.8.0.2 behind the gateway 10.8.0.1/24. -/
def singlePolicy : LeasePolicy where
  firstAddress := toInteger #v[10, 8, 0, 2]
  lastAddress := toInteger #v[10, 8, 0, 2]
  gatewayAddress := #v[10, 8, 0, 1]
  prefixLength := 24
  mtu := 1400
  leaseDuration := 3600
  ipv6Prefix := Ipv6Address.zero
  ipv6Gateway := Ipv6Address.zero
  ipv6PrefixLength := 0

/-- Its manager before any lease, with the counter at `k`. -/
def singleManager (k : UInt64) : LeaseManager := ⟨singlePolicy, ∅, ∅, k⟩

theorem create_single : create #v[10, 8, 0, 2] #v[10, 8, 0, 2] #v[10, 8, 0, 1] 24 1400 3600
    Ipv6Address.zero Ipv6Address.zero 0 = .ok (singleManager 1) := by
  rw [create_ok_iff, ← LeasePolicy.validate_ok_iff]
  exact ⟨rfl, by decide⟩

theorem representation_invariant_single :
    create #v[10, 8, 0, 2] #v[10, 8, 0, 2] #v[10, 8, 0, 1] 24 1400 3600
      Ipv6Address.zero Ipv6Address.zero 0 = .ok (singleManager 1) ∧
    ∀ calls id l, (Run.run call (singleManager 1) calls).entry id = some l → l.identity = id :=
  ⟨create_single, fun calls id l hl => ((representation_invariant create_single calls).1 id l hl).1⟩

/-- The lease its one address is given with the counter at `k`. -/
def singleLease (k : UInt64) : Lease where
  leaseId := k
  identity := text "c"
  address := #v[10, 8, 0, 2]
  ipv6Address := Ipv6Address.zero
  expiresAt := singlePolicy.expiry 0

theorem acquire_single {k : UInt64} (hk : k ≠ 0) :
    (singleManager k).acquire (text "c") 0 = (.ok (singleLease k), { singleManager k with
      leasesByIdentity := AList.insert (text "c") (singleLease k) ∅
      identityByAddress := AList.insert (toInteger #v[10, 8, 0, 2]) (text "c") ∅
      nextLeaseId := k + 1 }) := by
  have hfind : (singleManager k).findFree (toInteger #v[10, 8, 0, 2]) =
      some (toInteger #v[10, 8, 0, 2]) := by
    rw [findFree]
    rfl
  rw [acquire, if_neg (by decide)]
  have hreap : ((singleManager k).reapExpiredLocked 0).2 = singleManager k := rfl
  have hfirst : (singleManager k).firstAddress = toInteger #v[10, 8, 0, 2] := rfl
  have hnext : (singleManager k).nextLeaseId = k := rfl
  have hlookup : (singleManager k).leasesByIdentity.lookup (text "c") = none := rfl
  simp only [hreap, hlookup, hfirst, hfind, allocate, hnext, hk, ne_eq, not_true_eq_false,
    if_false, fromInteger_toInteger]
  rfl

theorem release_single {k : UInt64} (hk : k ≠ 0) :
    (((singleManager k).acquire (text "c") 0).2.release (singleLease k)).2 =
      singleManager (k + 1) := by
  rw [acquire_single hk]
  simp only [release, matching, singleLease, AList.lookup_insert, ne_eq, not_true_eq_false,
    or_self, if_false]
  rfl

/-- Acquiring and releasing the address `n` times. -/
def churn (n : Nat) : List LeaseCall :=
  (List.range n).flatMap fun i =>
    [.acquire (text "c") 0, .release (singleLease (UInt64.ofNat (i + 1)))]

private theorem run_churn {n : Nat} (hn : n < 2 ^ 64) :
    Run.run call (singleManager 1) (churn n) = singleManager (UInt64.ofNat (n + 1)) := by
  induction n with
  | zero => rfl
  | succ n ih =>
    have hne : UInt64.ofNat (n + 1) ≠ 0 := by
      rw [ne_eq, ← UInt64.toNat_inj, UInt64.toNat_ofNat', Nat.mod_eq_of_lt hn]
      exact Nat.succ_ne_zero n
    rw [churn, List.range_succ, List.flatMap_append, ← churn, Run.run_append, ih (by omega)]
    simp only [List.flatMap_cons, List.flatMap_nil, List.append_nil, Run.run_cons, Run.run_nil, call]
    rw [release_single hne, UInt64.ofNat_add (n + 1) 1]
    rfl

/-- Reusing the address until the counter wraps leaves a lease whose identifier is not below it. -/
theorem leaseId_not_below_counter :
    create #v[10, 8, 0, 2] #v[10, 8, 0, 2] #v[10, 8, 0, 1] 24 1400 3600
      Ipv6Address.zero Ipv6Address.zero 0 = .ok (singleManager 1) ∧
    let m := Run.run call (singleManager 1) (churn (2 ^ 64 - 2) ++ [.acquire (text "c") 0])
    m.entry (text "c") = some (singleLease (UInt64.ofNat (2 ^ 64 - 1))) ∧
      ¬(singleLease (UInt64.ofNat (2 ^ 64 - 1))).leaseId < m.nextLeaseId := by
  refine ⟨create_single, ?_⟩
  have hrun : Run.run call (singleManager 1) (churn (2 ^ 64 - 2)) =
      singleManager (UInt64.ofNat (2 ^ 64 - 1)) := run_churn (by decide)
  have hne : UInt64.ofNat (2 ^ 64 - 1) ≠ 0 := by decide
  rw [Run.run_append, hrun]
  simp only [Run.run_cons, Run.run_nil, call, acquire_single hne]
  exact ⟨AList.lookup_insert _, by decide⟩

end LeaseManager

end PersonalVpn.Core
