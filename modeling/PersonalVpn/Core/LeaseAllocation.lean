import PersonalVpn.Core.LeaseRuns

namespace PersonalVpn.Core

namespace LeaseManager

/-- The identity has a lease that has not expired. -/
def HasLease (m : LeaseManager) (now : TimePoint) (identity : Bytes) : Prop :=
  ∃ l, m.entry identity = some l ∧ now < l.expiresAt

/-- The address is held by a lease that has not expired. -/
def Held (m : LeaseManager) (now : TimePoint) (address : UInt32) : Prop :=
  ∃ id l, m.entry id = some l ∧ now < l.expiresAt ∧ toInteger l.address = address

def InPool (m : LeaseManager) (address : UInt32) : Prop :=
  m.firstAddress ≤ address ∧ address ≤ m.lastAddress

/-- The lowest address of the pool that is not held. -/
structure LowestFree (m : LeaseManager) (now : TimePoint) (address : UInt32) : Prop where
  inPool : m.InPool address
  free : ¬m.Held now address
  lowest : ∀ a, m.InPool a → ¬m.Held now a → address ≤ a

/-- The IPv6 address derived for this address is the gateway's. -/
def Collides (p : LeasePolicy) (address : UInt32) : Prop :=
  p.ipv6PrefixLength ≠ 0 ∧ p.deriveIpv6 (fromInteger address) = p.ipv6Gateway

/-- The addresses the loop of `acquire` looks at. -/
def searched (m : LeaseManager) (candidate : UInt32) : List UInt32 :=
  if m.identityByAddress.lookup candidate = none then [candidate]
  else if candidate = m.lastAddress then [candidate]
  else candidate :: searched m (candidate + 1)
termination_by (m.lastAddress - candidate).toNat
decreasing_by
  rename_i hne
  have hne' : candidate.toNat ≠ m.lastAddress.toNat := fun h => hne (UInt32.toNat_inj.mp h)
  have hc := candidate.toNat_lt
  have hl := m.lastAddress.toNat_lt
  have hone : (1 : UInt32).toNat = 1 := rfl
  simp only [UInt32.toNat_sub, UInt32.toNat_add, hone]
  omega

/-- Before the last address the loop variable does not wrap. -/
theorem toNat_next {c last : UInt32} (hc : c ≤ last) (hne : c ≠ last) :
    (c + 1).toNat = c.toNat + 1 ∧ c + 1 ≤ last := by
  have hle := UInt32.le_iff_toNat_le.mp hc
  have hn : c.toNat ≠ last.toNat := fun h => hne (UInt32.toNat_inj.mp h)
  have hl := last.toNat_lt
  have hsucc : (c + 1).toNat = c.toNat + 1 := by
    rw [UInt32.toNat_add]
    exact Nat.mod_eq_of_lt (by simp; omega)
  refine ⟨hsucc, UInt32.le_iff_toNat_le.mpr ?_⟩
  omega

/-- The loop looks at consecutive addresses, up to the last one at most. -/
theorem searched_consecutive {m : LeaseManager} {c : UInt32} (hc : c ≤ m.lastAddress) :
    ∃ n, (m.searched c).map UInt32.toNat = List.range' c.toNat n ∧
      c.toNat + n ≤ m.lastAddress.toNat + 1 := by
  have hle := UInt32.le_iff_toNat_le.mp hc
  fun_induction searched m c with
  | case1 c hfree => exact ⟨1, rfl, by omega⟩
  | case2 hused => exact ⟨1, rfl, by omega⟩
  | case3 c hused hne ih =>
    obtain ⟨hsucc, hnext⟩ := toNat_next hc hne
    obtain ⟨n, hrange, hbound⟩ := ih hnext (UInt32.le_iff_toNat_le.mp hnext)
    refine ⟨n + 1, ?_, by omega⟩
    rw [List.map_cons, hrange, hsucc, List.range'_succ]

/-- The search fails only if every address is taken. -/
theorem findFree_none {m : LeaseManager} {c : UInt32} (hc : c ≤ m.lastAddress)
    (h : m.findFree c = none) : ∀ y, c ≤ y → y ≤ m.lastAddress → m.ownerOf y ≠ none := by
  fun_induction findFree m c with
  | case1 => cases h
  | case2 hused =>
    intro y hy hlast
    have heq : y = m.lastAddress := UInt32.le_antisymm hlast hy
    rw [heq]
    exact hused
  | case3 c hused hne ih =>
    intro y hy hlast
    obtain ⟨hsucc, hnext⟩ := toNat_next hc hne
    by_cases heq : y = c
    · rw [heq]
      exact hused
    · refine ih hnext h y (UInt32.le_iff_toNat_le.mpr ?_) hlast
      have hle := UInt32.le_iff_toNat_le.mp hy
      have hn : y.toNat ≠ c.toNat := fun h => heq (UInt32.toNat_inj.mp h)
      omega

/-- What a reaped manager has is what was live. -/
theorem Inv.reaped_live {m : LeaseManager} (h : m.Inv) (now : TimePoint) :
    let r := (m.reapExpiredLocked now).2
    (∀ id, r.entry id ≠ none ↔ m.HasLease now id) ∧ (∀ a, r.ownerOf a ≠ none ↔ m.Held now a) := by
  obtain ⟨-, hreap⟩ := h.reap now
  intro r
  constructor
  · intro id
    rw [← Option.isSome_iff_ne_none, Option.isSome_iff_exists]
    exact exists_congr (hreap.entry id)
  · intro a
    rw [← Option.isSome_iff_ne_none, Option.isSome_iff_exists]
    constructor
    · rintro ⟨id, ho⟩
      obtain ⟨howner, l, hl, hlive⟩ := (hreap.owner a id).mp ho
      obtain ⟨l', hl', haddr⟩ := h.owner.mp howner
      rw [hl] at hl'
      cases hl'
      exact ⟨id, l, hl, hlive, haddr⟩
    · rintro ⟨id, l, hl, hlive, haddr⟩
      exact ⟨id, (hreap.owner a id).mpr ⟨h.owner.mpr ⟨l, hl, haddr⟩, l, hl, hlive⟩⟩

/-- The search over a reaped manager stops at the lowest free address. -/
theorem Inv.findFree_reaped {m : LeaseManager} (h : m.Inv) (now : TimePoint) :
    let r := (m.reapExpiredLocked now).2
    (∀ a, r.findFree r.firstAddress = some a → m.LowestFree now a) ∧
      (r.findFree r.firstAddress = none → ∀ a, m.InPool a → m.Held now a) := by
  obtain ⟨hr, hreap⟩ := h.reap now
  obtain ⟨-, hheld⟩ := h.reaped_live now
  intro r
  have hpool (a : UInt32) : r.InPool a ↔ m.InPool a := by rw [InPool, InPool, hreap.policy]
  constructor
  · intro a ha
    obtain ⟨hfree, hfirst, hlast, hlow⟩ := findFree_some hr.policy.range ha
    refine ⟨(hpool a).mp ⟨hfirst, hlast⟩, ?_, ?_⟩
    · rw [← hheld a, not_not]
      exact hfree
    · intro b hb hfreeb
      by_contra hlt
      have hused := hlow b ((hpool b).mpr hb).1 (UInt32.not_le.mp hlt)
      exact hfreeb ((hheld b).mp hused)
  · intro hnone a ha
    obtain ⟨hfirst, hlast⟩ := (hpool a).mpr ha
    exact (hheld a).mp (findFree_none hr.policy.range hnone a hfirst hlast)

theorem LowestFree.unique {m : LeaseManager} {now : TimePoint} {a b : UInt32}
    (ha : m.LowestFree now a) (hb : m.LowestFree now b) : a = b :=
  UInt32.le_antisymm (ha.lowest b hb.inPool hb.free) (hb.lowest a ha.inPool ha.free)

/-- The lease given for an address. -/
def leaseFor (m : LeaseManager) (identity : Bytes) (now : TimePoint) (address : UInt32) : Lease where
  leaseId := m.nextLeaseId
  identity := identity
  address := fromInteger address
  ipv6Address := m.deriveIpv6 (fromInteger address)
  expiresAt := m.expiry now

/-- When `acquire` succeeds, and what it returns. -/
theorem Inv.acquire_ok_iff {m : LeaseManager} (h : m.Inv) {identity : Bytes} (hid : identity ≠ [])
    (now : TimePoint) (l : Lease) :
    (m.acquire identity now).1 = .ok l ↔ ¬m.HasLease now identity ∧ m.nextLeaseId ≠ 0 ∧
      ∃ a, m.LowestFree now a ∧ ¬Collides m.toLeasePolicy a ∧ l = m.leaseFor identity now a := by
  obtain ⟨-, hreap⟩ := h.reap now
  obtain ⟨hleased, -⟩ := h.reaped_live now
  obtain ⟨hfound, hnone⟩ := h.findFree_reaped now
  rw [acquire, if_neg hid]
  dsimp only
  generalize hr : (m.reapExpiredLocked now).2 = r at hreap hleased hfound hnone ⊢
  have hpol := hreap.policy
  have hnext := hreap.nextLeaseId
  by_cases hin : r.leasesByIdentity.lookup identity ≠ none
  · rw [if_pos hin]
    refine iff_of_false (by simp) ?_
    rintro ⟨hno, -⟩
    exact hno ((hleased identity).mp hin)
  have hno : ¬m.HasLease now identity := fun hl => hin ((hleased identity).mpr hl)
  rw [if_neg hin]
  cases hf : r.findFree r.firstAddress with
  | none =>
    refine iff_of_false (by simp) ?_
    rintro ⟨-, -, a, ha, -⟩
    exact ha.free (hnone hf a ha.inPool)
  | some candidate =>
    have hlow := hfound candidate hf
    simp only [LeaseManager.allocate, hnext, hpol, hno, not_false_eq_true, true_and]
    by_cases hz : m.nextLeaseId = 0
    · rw [if_pos hz]
      refine iff_of_false (by simp) ?_
      rintro ⟨hne, -⟩
      exact hne hz
    rw [if_neg hz]
    have hcollides : Collides m.toLeasePolicy candidate ↔ m.ipv6PrefixLength ≠ 0 ∧
        m.deriveIpv6 (fromInteger candidate) = m.ipv6Gateway := Iff.rfl
    by_cases hg : Collides m.toLeasePolicy candidate
    · rw [if_pos (hcollides.mp hg)]
      refine iff_of_false (by simp) ?_
      rintro ⟨-, a, ha, hnot, -⟩
      rw [ha.unique hlow] at hnot
      exact hnot hg
    · have hsame : (Except.ok (m.leaseFor identity now candidate) : Except Exception Lease) = .ok l ↔
          l = m.leaseFor identity now candidate := by
        rw [Except.ok.injEq]
        exact eq_comm
      rw [if_neg fun hc => hg (hcollides.mpr hc)]
      refine hsame.trans ⟨fun hl => ⟨hz, candidate, hlow, hg, hl⟩, ?_⟩
      rintro ⟨-, a, ha, -, hl⟩
      rwa [ha.unique hlow] at hl

/-- A pool with an address to spare has a lowest one. -/
theorem exists_lowestFree {m : LeaseManager} {now : TimePoint} {a : UInt32} (ha : m.InPool a)
    (hfree : ¬m.Held now a) : ∃ b, m.LowestFree now b := by
  let P (n : Nat) := ∃ b : UInt32, b.toNat = n ∧ m.InPool b ∧ ¬m.Held now b
  have hex : ∃ n, P n := ⟨a.toNat, a, rfl, ha, hfree⟩
  classical
  obtain ⟨b, hb, hpool, hnot⟩ := Nat.find_spec hex
  refine ⟨b, hpool, hnot, fun c hc hfreec => ?_⟩
  have hmin := Nat.find_min' hex ⟨c, rfl, hc, hfreec⟩
  rw [UInt32.le_iff_toNat_le, hb]
  exact hmin

/-- If something is available, not every address is held. -/
theorem Inv.free_of_available {m : LeaseManager} (h : m.Inv) {now : TimePoint}
    (hpos : 0 < (m.availableCount now).1) : ∃ a, m.InPool a ∧ ¬m.Held now a := by
  obtain ⟨hr, hreap⟩ := h.reap now
  obtain ⟨-, hheld⟩ := h.reaped_live now
  have hcount := h.availableCount now
  by_contra hno
  have hall (a : UInt32) (ha : m.InPool a) : m.Held now a := by
    by_contra hfree
    exact hno ⟨a, ha, hfree⟩
  set r := (m.reapExpiredLocked now).2 with hrdef
  let f (e : Sigma fun _ : Bytes => Lease) : Nat := (toInteger e.2.address).toNat
  have hsub : Finset.Icc m.firstAddress.toNat m.lastAddress.toNat ⊆
      (r.leasesByIdentity.entries.map f).toFinset := by
    intro n hn
    obtain ⟨hfirst, hlast⟩ := Finset.mem_Icc.mp hn
    have hn32 : n < 2 ^ 32 := Nat.lt_of_le_of_lt hlast m.lastAddress.toNat_lt
    have hto : (UInt32.ofNat n).toNat = n := by
      rw [UInt32.toNat_ofNat', Nat.mod_eq_of_lt hn32]
    have hpool : m.InPool (UInt32.ofNat n) := by
      rw [InPool, UInt32.le_iff_toNat_le, UInt32.le_iff_toNat_le, hto]
      exact ⟨hfirst, hlast⟩
    obtain ⟨id, l, hl, hlive, haddr⟩ := hall _ hpool
    have hmem : (⟨id, l⟩ : Sigma fun _ : Bytes => Lease) ∈ r.leasesByIdentity.entries :=
      AList.mem_lookup_iff.mp ((hreap.entry id l).mpr ⟨hl, hlive⟩)
    have hf : f ⟨id, l⟩ = n := by
      simp only [f, haddr, hto]
    rw [List.mem_toFinset, ← hf]
    exact List.mem_map_of_mem hmem
  have hcard := Finset.card_le_card hsub
  have hlen := List.toFinset_card_le (r.leasesByIdentity.entries.map f)
  have hrange := UInt32.le_iff_toNat_le.mp h.policy.range
  have hactive : (m.activeCount now).1 = r.leasesByIdentity.entries.length := rfl
  have hpos' : 0 < (m.availableCount now).1.toNat := UInt64.lt_iff_toNat_lt.mp hpos
  rw [Nat.card_Icc] at hcard
  rw [List.length_map] at hlen
  rw [hactive, poolSize] at hcount
  omega

/-- Allocation is complete for a call of `acquire`: it succeeds whenever the identity has no live
lease and an address is free, with the lowest free address; the search looks at consecutive addresses
of the pool; and what is available can be had. -/
structure Complete (m : LeaseManager) (identity : Bytes) (now : TimePoint) : Prop where
  succeeds : (∃ l, (m.acquire identity now).1 = .ok l) ↔
    ¬m.HasLease now identity ∧ ∃ a, m.InPool a ∧ ¬m.Held now a
  lowest : ∀ l, (m.acquire identity now).1 = .ok l → m.LowestFree now (toInteger l.address)
  search : ∃ n ≤ m.poolSize, ((m.reapExpiredLocked now).2.searched m.firstAddress).map UInt32.toNat =
    List.range' m.firstAddress.toNat n
  available : 0 < (m.availableCount now).1 → ¬m.HasLease now identity →
    ∃ l, (m.acquire identity now).1 = .ok l

/-- No address of the pool has the gateway as its derived IPv6 address. -/
def CollisionFree (p : LeasePolicy) : Prop :=
  ∀ a, p.firstAddress ≤ a → a ≤ p.lastAddress → ¬Collides p a

theorem Inv.complete {m : LeaseManager} (h : m.Inv) (hp : CollisionFree m.toLeasePolicy)
    (hnext : m.nextLeaseId ≠ 0) {identity : Bytes} (hid : identity ≠ []) (now : TimePoint) :
    m.Complete identity now := by
  have hsucceeds : (∃ l, (m.acquire identity now).1 = .ok l) ↔
      ¬m.HasLease now identity ∧ ∃ a, m.InPool a ∧ ¬m.Held now a := by
    constructor
    · rintro ⟨l, hl⟩
      obtain ⟨hno, -, a, ha, -⟩ := (h.acquire_ok_iff hid now l).mp hl
      exact ⟨hno, a, ha.inPool, ha.free⟩
    · rintro ⟨hno, a, hpool, hfree⟩
      obtain ⟨b, hb⟩ := exists_lowestFree hpool hfree
      have hnot := hp b hb.inPool.1 hb.inPool.2
      exact ⟨_, (h.acquire_ok_iff hid now _).mpr ⟨hno, hnext, b, hb, hnot, rfl⟩⟩
  refine ⟨hsucceeds, ?_, ?_, ?_⟩
  · intro l hl
    obtain ⟨-, -, a, ha, -, rfl⟩ := (h.acquire_ok_iff hid now l).mp hl
    have haddr : toInteger (m.leaseFor identity now a).address = a := toInteger_fromInteger a
    rwa [haddr]
  · obtain ⟨hr, hreap⟩ := h.reap now
    have hpol := hreap.policy
    have hrange := UInt32.le_iff_toNat_le.mp h.policy.range
    obtain ⟨n, hmap, hbound⟩ := searched_consecutive hr.policy.range
    rw [hpol] at hmap hbound
    refine ⟨n, ?_, hmap⟩
    rw [poolSize]
    omega
  · intro hpos hno
    exact hsucceeds.mpr ⟨hno, h.free_of_available hpos⟩

/-! ### Filling the pool up to an address -/

/-- Distinct identities. -/
def nthIdentity (i : Nat) : Bytes := List.replicate (i + 1) 0

theorem nthIdentity_inj {i j : Nat} (h : nthIdentity i = nthIdentity j) : i = j := by
  have hlen := congrArg List.length h
  simp only [nthIdentity, List.length_replicate] at hlen
  omega

/-- The first `k` identities ask for an address each, all at once. -/
def fill (k : Nat) : List LeaseCall := (List.range k).map fun i => .acquire (nthIdentity i) 0

/-- A granted lease adds its identity and its address to those of its time. -/
theorem Granted.live {m m' : LeaseManager} {identity : Bytes} {now : TimePoint} {l : Lease}
    (h : Granted m identity now l m') (hpos : 0 < m.leaseDuration) :
    (∀ id, m'.HasLease now id ↔ m.HasLease now id ∨ id = identity) ∧
      (∀ a, m'.Held now a ↔ m.Held now a ∨ a = toInteger l.address) := by
  have hlive : now < l.expiresAt := by
    have hticks : 0 < m.leaseDuration * ticksPerSecond := Int.mul_pos hpos (by decide)
    rw [h.expires]
    exact Int.lt_add_of_pos_right now hticks
  have hold {id : Bytes} {l₀ : Lease} (hl₀ : m.entry id = some l₀) (hx : now < l₀.expiresAt) :
      id ≠ identity ∧ m'.entry id = some l₀ := by
    have hne : id ≠ identity := by
      rintro rfl
      exact absurd hx (not_lt.mpr (h.vacant l₀ hl₀))
    exact ⟨hne, (h.other id l₀ hne).mpr ⟨hl₀, hx⟩⟩
  have hnew {id : Bytes} {l₀ : Lease} (hl₀ : m'.entry id = some l₀) :
      (id = identity ∧ l₀ = l) ∨ (m.entry id = some l₀ ∧ now < l₀.expiresAt) := by
    by_cases hid : id = identity
    · subst hid
      rw [h.self] at hl₀
      exact .inl ⟨rfl, (Option.some.inj hl₀).symm⟩
    · exact .inr ((h.other id l₀ hid).mp hl₀)
  constructor
  · intro id
    constructor
    · rintro ⟨l₀, hl₀, -⟩
      obtain ⟨hid, -⟩ | ⟨hl, hx⟩ := hnew hl₀
      · exact .inr hid
      · exact .inl ⟨l₀, hl, hx⟩
    · rintro (⟨l₀, hl₀, hx⟩ | rfl)
      · exact ⟨l₀, (hold hl₀ hx).2, hx⟩
      · exact ⟨l, h.self, hlive⟩
  · intro a
    constructor
    · rintro ⟨id, l₀, hl₀, -, haddr⟩
      obtain ⟨-, rfl⟩ | ⟨hl, hx⟩ := hnew hl₀
      · exact .inr haddr.symm
      · exact .inl ⟨id, l₀, hl, hx, haddr⟩
    · rintro (⟨id, l₀, hl₀, hx, haddr⟩ | rfl)
      · exact ⟨id, l₀, (hold hl₀ hx).2, hx, haddr⟩
      · exact ⟨identity, l, h.self, hlive, rfl⟩

/-- The first `k` addresses are held by the first `k` identities. -/
structure Filled (p : LeasePolicy) (m : LeaseManager) (k : Nat) : Prop where
  inv : m.Inv
  policy : m.toLeasePolicy = p
  next : m.nextLeaseId.toNat = k + 1
  held : ∀ a, m.Held 0 a ↔ p.firstAddress.toNat ≤ a.toNat ∧ a.toNat < p.firstAddress.toNat + k
  leased : ∀ id, m.HasLease 0 id ↔ ∃ i < k, id = nthIdentity i

/-- The next address is the lowest free one. -/
theorem Filled.lowestFree {p : LeasePolicy} {m : LeaseManager} {k : Nat} (h : Filled p m k)
    {a : UInt32} (ha : a.toNat = p.firstAddress.toNat + k) (hlast : a ≤ p.lastAddress) :
    m.LowestFree 0 a := by
  have hpool : m.InPool a := by
    rw [InPool, h.policy]
    exact ⟨UInt32.le_iff_toNat_le.mpr (by omega), hlast⟩
  refine ⟨hpool, ?_, ?_⟩
  · rw [h.held]
    omega
  · intro b hb hfree
    rw [InPool, h.policy] at hb
    have hfirst := UInt32.le_iff_toNat_le.mp hb.1
    rw [h.held] at hfree
    rw [UInt32.le_iff_toNat_le]
    omega

theorem Filled.acquire {p : LeasePolicy} {m : LeaseManager} {k : Nat} (h : Filled p m k)
    {a : UInt32} (ha : a.toNat = p.firstAddress.toNat + k) (hlast : a ≤ p.lastAddress)
    (hnot : ¬Collides p a) :
    Filled p (m.call (.acquire (nthIdentity k) 0)) (k + 1) := by
  have hsmall := a.toNat_lt
  have hnext : m.nextLeaseId ≠ 0 := by
    intro hz
    have hn := h.next
    rw [hz] at hn
    cases hn
  have hfresh : ¬m.HasLease 0 (nthIdentity k) := by
    rw [h.leased]
    rintro ⟨i, hi, heq⟩
    have hik := nthIdentity_inj heq
    omega
  have hok : (m.acquire (nthIdentity k) 0).1 = .ok (m.leaseFor (nthIdentity k) 0 a) := by
    rw [h.inv.acquire_ok_iff (by simp [nthIdentity])]
    refine ⟨hfresh, hnext, a, h.lowestFree ha hlast, ?_, rfl⟩
    rwa [h.policy]
  obtain ⟨hinv, hgranted⟩ := h.inv.acquire_ok (Prod.ext hok rfl)
  obtain ⟨hleased, hheld⟩ := hgranted.live h.inv.policy.duration_pos
  have haddr : toInteger (m.leaseFor (nthIdentity k) 0 a).address = a := toInteger_fromInteger a
  rw [haddr] at hheld
  refine ⟨hinv, hgranted.policy.trans h.policy, ?_, ?_, ?_⟩
  · have hn := h.next
    rw [call, hgranted.next, UInt64.toNat_add, hn]
    exact Nat.mod_eq_of_lt (by simp; omega)
  · intro b
    have hb : b = a ↔ b.toNat = a.toNat := UInt32.toNat_inj.symm
    rw [call, hheld, h.held, hb]
    omega
  · intro id
    rw [call, hleased, h.leased]
    constructor
    · rintro (⟨i, hi, rfl⟩ | rfl)
      · exact ⟨i, by omega, rfl⟩
      · exact ⟨k, by omega, rfl⟩
    · rintro ⟨i, hi, rfl⟩
      by_cases hik : i = k
      · exact .inr (by rw [hik])
      · exact .inl ⟨i, by omega, rfl⟩

/-- Filling stops short of the first address that collides. -/
theorem filled_run {m₀ : LeaseManager} (h₀ : Filled m₀.toLeasePolicy m₀ 0) {a : UInt32}
    (hlast : a ≤ m₀.lastAddress)
    (hnot : ∀ b, m₀.firstAddress ≤ b → b < a → ¬Collides m₀.toLeasePolicy b) {k : Nat}
    (hk : m₀.firstAddress.toNat + k ≤ a.toNat) :
    Filled m₀.toLeasePolicy (Run.run call m₀ (fill k)) k := by
  induction k with
  | zero => exact h₀
  | succ k ih =>
    have hsmall := a.toNat_lt
    have hto : (UInt32.ofNat (m₀.firstAddress.toNat + k)).toNat = m₀.firstAddress.toNat + k := by
      rw [UInt32.toNat_ofNat', Nat.mod_eq_of_lt (by omega)]
    have hfilled := ih (by omega)
    have hle := UInt32.le_iff_toNat_le.mp hlast
    have hnext := hfilled.acquire hto (UInt32.le_iff_toNat_le.mpr (by omega))
      (hnot _ (UInt32.le_iff_toNat_le.mpr (by omega)) (UInt32.lt_iff_toNat_lt.mpr (by omega)))
    rw [fill, List.range_succ, List.map_append, ← fill, Run.run_append]
    exact hnext

theorem filled_create {first last gateway : Ipv4Address} {prefixLength : UInt8} {mtu : UInt16}
    {duration : Int} {v6Prefix v6Gateway : Ipv6Address} {v6Length : UInt8} {m : LeaseManager}
    (h : create first last gateway prefixLength mtu duration v6Prefix v6Gateway v6Length = .ok m) :
    Filled m.toLeasePolicy m 0 := by
  have hinv := inv_create h
  obtain ⟨rfl, -⟩ := create_ok_iff.mp h
  refine ⟨hinv, rfl, rfl, fun a => ?_, fun id => ?_⟩
  · refine iff_of_false ?_ (by omega)
    rintro ⟨id, l, hl, -⟩
    simp [entry] at hl
  · refine iff_of_false ?_ (by simp)
    rintro ⟨l, hl, -⟩
    simp [entry] at hl

/-- At most one address collides. -/
theorem Collides.unique {p : LeasePolicy} {a b : UInt32} (ha : Collides p a) (hb : Collides p b) :
    a = b := by
  have hsame := deriveIpv6_inj ha.1 (ha.2.trans hb.2.symm)
  rw [← toInteger_fromInteger a, hsame, toInteger_fromInteger]

/-- Allocation is complete in every reachable state before the counter has wrapped if and only if no
address of the pool collides: the address that does is never skipped. -/
theorem allocation_complete_iff {first last gateway : Ipv4Address} {prefixLength : UInt8}
    {mtu : UInt16} {duration : Int} {v6Prefix v6Gateway : Ipv6Address} {v6Length : UInt8}
    {m₀ : LeaseManager}
    (h₀ : create first last gateway prefixLength mtu duration v6Prefix v6Gateway v6Length = .ok m₀) :
    (∀ calls identity now, let m := Run.run call m₀ calls
      m.nextLeaseId ≠ 0 → identity ≠ [] → m.Complete identity now) ↔
    CollisionFree m₀.toLeasePolicy := by
  constructor
  · intro hall a hfirst hlast hcollides
    have hbelow : ∀ b, m₀.firstAddress ≤ b → b < a → ¬Collides m₀.toLeasePolicy b := by
      intro b _ hlt hb
      rw [hb.unique hcollides] at hlt
      exact UInt32.lt_irrefl a hlt
    have hle := UInt32.le_iff_toNat_le.mp hfirst
    obtain ⟨k, hk⟩ := Nat.exists_eq_add_of_le hle
    have hfilled := filled_run (filled_create h₀) hlast hbelow (k := k) (by omega)
    have hlow := hfilled.lowestFree hk hlast
    have hnext : (Run.run call m₀ (fill k)).nextLeaseId ≠ 0 := by
      intro hz
      have hn := hfilled.next
      rw [hz] at hn
      cases hn
    have hfresh : ¬(Run.run call m₀ (fill k)).HasLease 0 (nthIdentity k) := by
      rw [hfilled.leased]
      rintro ⟨i, hi, heq⟩
      have hik := nthIdentity_inj heq
      omega
    have hcomplete := hall (fill k) (nthIdentity k) 0 hnext (by simp [nthIdentity])
    obtain ⟨l, hl⟩ := hcomplete.succeeds.mpr ⟨hfresh, a, hlow.inPool, hlow.free⟩
    obtain ⟨-, -, b, hb, hnot, -⟩ :=
      (hfilled.inv.acquire_ok_iff (by simp [nthIdentity]) 0 l).mp hl
    rw [hb.unique hlow, hfilled.policy] at hnot
    exact hnot hcollides
  · intro hfree calls identity now m hnext hid
    have hinv : m.Inv := inv_run (inv_create h₀) calls
    have hpolicy : m.toLeasePolicy = m₀.toLeasePolicy := policy_run (inv_create h₀) calls
    refine hinv.complete ?_ hnext hid now
    rwa [hpolicy]

/-- Without IPv6 nothing collides, and a pool whose lease has expired gives it to the next one. -/
theorem allocation_complete_single :
    (Run.run call (singleManager 1) [.acquire (text "c") 0]).Complete (text "d") 3600000000000 := by
  have hfree : CollisionFree (singleManager 1).toLeasePolicy := fun _ _ _ h => h.1 rfl
  exact (allocation_complete_iff create_single).mpr hfree [.acquire (text "c") 0] (text "d")
    3600000000000 (by decide +kernel) (by decide)

/-- A pool of 10.8.0.2 and 10.8.0.3 with IPv6, where fd00:7::a08:2 is the gateway. -/
def collidingPolicy : LeasePolicy := { singlePolicy with
  lastAddress := singlePolicy.firstAddress + 1
  ipv6Prefix := #v[0xfd, 0, 0, 7, 0, 0, 0, 0, 0, 0, 0, 0, 0, 0, 0, 0]
  ipv6Gateway := #v[0xfd, 0, 0, 7, 0, 0, 0, 0, 0, 0, 0, 0, 10, 8, 0, 2]
  ipv6PrefixLength := 64 }

/-- The first address of that pool blocks the second: with both free, no identity gets a lease. -/
theorem colliding_address_blocks_pool :
    let p := collidingPolicy
    ∃ m, create (fromInteger p.firstAddress) (fromInteger p.lastAddress) p.gatewayAddress
        p.prefixLength p.mtu p.leaseDuration p.ipv6Prefix p.ipv6Gateway p.ipv6PrefixLength = .ok m ∧
      m.nextLeaseId ≠ 0 ∧ (m.availableCount 0).1 = 2 ∧ ∀ identity now, identity ≠ [] →
        (∀ l, (m.acquire identity now).1 ≠ .ok l) ∧ ¬m.Complete identity now := by
  intro p
  have hcreate : create (fromInteger p.firstAddress) (fromInteger p.lastAddress) p.gatewayAddress
      p.prefixLength p.mtu p.leaseDuration p.ipv6Prefix p.ipv6Gateway p.ipv6PrefixLength =
      .ok ⟨p, ∅, ∅, 1⟩ := by
    have hvalid : p.validate = .ok () := by decide
    rw [create_ok_iff, toInteger_fromInteger, toInteger_fromInteger]
    exact ⟨rfl, (LeasePolicy.validate_ok_iff p).mp hvalid⟩
  refine ⟨_, hcreate, by decide, by decide, fun identity now hid => ?_⟩
  have hinv := inv_create hcreate
  have hnone : ∀ id l, (LeaseManager.mk p ∅ ∅ 1).entry id ≠ some l := by simp [entry]
  have hlow : LowestFree ⟨p, ∅, ∅, 1⟩ now p.firstAddress := by
    refine ⟨⟨UInt32.le_refl _, by decide⟩, ?_, fun a ha _ => ha.1⟩
    rintro ⟨id, l, hl, -⟩
    exact hnone id l hl
  have hno : ∀ l, ((LeaseManager.mk p ∅ ∅ 1).acquire identity now).1 ≠ .ok l := by
    intro l hl
    obtain ⟨-, -, a, ha, hnot, -⟩ := (hinv.acquire_ok_iff hid now l).mp hl
    rw [ha.unique hlow] at hnot
    exact hnot ⟨by decide, by decide⟩
  refine ⟨hno, fun hcomplete => ?_⟩
  have hfresh : ¬(LeaseManager.mk p ∅ ∅ 1).HasLease now identity := by
    rintro ⟨l, hl, -⟩
    exact hnone identity l hl
  obtain ⟨l, hl⟩ := hcomplete.succeeds.mpr ⟨hfresh, _, hlow.inPool, hlow.free⟩
  exact hno l hl

end LeaseManager

end PersonalVpn.Core
