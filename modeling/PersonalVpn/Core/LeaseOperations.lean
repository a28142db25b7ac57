import PersonalVpn.Core.LeaseInvariant

namespace PersonalVpn.Core

namespace LeaseManager

@[simp] theorem create_ok_iff {first last gateway : Ipv4Address} {prefixLength : UInt8}
    {mtu : UInt16} {duration : Int} {v6Prefix v6Gateway : Ipv6Address} {v6Length : UInt8}
    {m : LeaseManager} :
    create first last gateway prefixLength mtu duration v6Prefix v6Gateway v6Length = .ok m ↔
      m = ⟨⟨toInteger first, toInteger last, gateway, prefixLength, mtu, duration, v6Prefix,
        v6Gateway, v6Length⟩, ∅, ∅, 1⟩ ∧ m.toLeasePolicy.Valid := by
  rw [← LeasePolicy.validate_ok_iff]
  simp only [create, bind, Except.bind, pure, Except.pure]
  split
  · rename_i h
    simp only [reduceCtorEq, false_iff, not_and]
    rintro rfl
    simp [h]
  · rename_i h
    simp only [Except.ok.injEq]
    constructor
    · rintro rfl
      exact ⟨rfl, h⟩
    · rintro ⟨rfl, -⟩
      rfl

/-- A manager without leases satisfies the invariant if its policy passed the constructor. -/
theorem inv_empty {m : LeaseManager} (hp : m.toLeasePolicy.Valid)
    (hl : m.leasesByIdentity = ∅) (ho : m.identityByAddress = ∅) : m.Inv := by
  have he (id : Bytes) (l : Lease) : ¬m.entry id = some l := by simp [entry, hl]
  refine ⟨hp, fun h => absurd h (he _ _), ?_, fun h => absurd h (he _ _),
    fun h => absurd h (he _ _), fun h => absurd h (he _ _), fun h => absurd h (he _ _)⟩
  intro a id
  simp [entry, ownerOf, hl, ho]

/-- The counter never takes a value it has already handed out. -/
theorem not_issued_next (m : LeaseManager) : ¬m.Issued m.nextLeaseId := by
  rintro ⟨hne, h | h⟩
  · exact hne h
  · exact UInt64.lt_irrefl _ h

theorem issued_succ {m m' : LeaseManager} (hne : m.nextLeaseId ≠ 0)
    (hn : m'.nextLeaseId = m.nextLeaseId + 1) {i : UInt64} :
    m'.Issued i ↔ m.Issued i ∨ i = m.nextLeaseId := by
  have hpos : m.nextLeaseId.toNat ≠ 0 := fun h => hne (UInt64.toNat_inj.mp h)
  have hi := i.toNat_lt
  have hlt := m.nextLeaseId.toNat_lt
  have hz (x : UInt64) : x = 0 ↔ x.toNat = 0 := UInt64.toNat_inj.symm
  have hsucc : (m.nextLeaseId + 1).toNat = (m.nextLeaseId.toNat + 1) % 2 ^ 64 := by
    rw [UInt64.toNat_add]; rfl
  simp only [Issued, hn, hz, ne_eq, UInt64.lt_iff_toNat_lt, hsucc, ← UInt64.toNat_inj]
  omega

/-- What a successful `acquire` does: a fresh lease is stored, expired ones are gone, and nothing
else changes. -/
structure Granted (m : LeaseManager) (identity : Bytes) (now : TimePoint) (l : Lease)
    (m' : LeaseManager) : Prop where
  policy : m'.toLeasePolicy = m.toLeasePolicy
  nonzero : m.nextLeaseId ≠ 0
  next : m'.nextLeaseId = m.nextLeaseId + 1
  leaseId : l.leaseId = m.nextLeaseId
  expires : l.expiresAt = m.expiry now
  gateway : m.ipv6PrefixLength ≠ 0 → l.ipv6Address ≠ m.ipv6Gateway
  vacant : ∀ l₀, m.entry identity = some l₀ → l₀.expiresAt ≤ now
  self : m'.entry identity = some l
  other : ∀ id l', id ≠ identity →
    (m'.entry id = some l' ↔ m.entry id = some l' ∧ now < l'.expiresAt)

/-- What a successful `renew` does: the stored lease gets a new expiry, expired ones are gone, and
nothing else changes. -/
structure Renewed (m : LeaseManager) (expected : Lease) (now : TimePoint) (l : Lease)
    (m' : LeaseManager) : Prop where
  policy : m'.toLeasePolicy = m.toLeasePolicy
  next : m'.nextLeaseId = m.nextLeaseId
  old : ∃ l₀, m.entry expected.identity = some l₀ ∧ now < l₀.expiresAt ∧
    l₀.leaseId = expected.leaseId ∧ l₀.address = expected.address ∧
    l = { l₀ with expiresAt := m.expiry now }
  self : m'.entry expected.identity = some l
  other : ∀ id l', id ≠ expected.identity →
    (m'.entry id = some l' ↔ m.entry id = some l' ∧ now < l'.expiresAt)

/-- What a successful `release` does: the lease is gone and nothing else changes. -/
structure Released (m : LeaseManager) (expected : Lease) (m' : LeaseManager) : Prop where
  policy : m'.toLeasePolicy = m.toLeasePolicy
  next : m'.nextLeaseId = m.nextLeaseId
  old : ∃ l₀, m.entry expected.identity = some l₀ ∧ l₀.leaseId = expected.leaseId ∧
    l₀.address = expected.address
  entry : ∀ id, m'.entry id = if id = expected.identity then none else m.entry id

theorem matching_eq_some {m : LeaseManager} {expected l : Lease} :
    m.matching expected = some l ↔ m.entry expected.identity = some l ∧
      l.leaseId = expected.leaseId ∧ l.address = expected.address := by
  rw [matching, entry]
  cases m.leasesByIdentity.lookup expected.identity with
  | none => simp
  | some l₀ =>
    by_cases h : l₀.leaseId ≠ expected.leaseId ∨ l₀.address ≠ expected.address
    · simp only [if_pos h, reduceCtorEq, Option.some.injEq, false_iff]
      rintro ⟨rfl, h1, h2⟩
      exact h.elim (absurd h1) (absurd h2)
    · simp only [if_neg h, Option.some.injEq]
      rw [not_or, not_not, not_not] at h
      exact ⟨fun hl => ⟨hl, hl ▸ h⟩, fun hl => hl.1⟩

/-- The free address the search found can be handed to an identity without a lease. -/
private theorem Inv.allocate {m : LeaseManager} (h : m.Inv) {identity : Bytes} {now : TimePoint}
    {candidate : UInt32} {l : Lease} {m' : LeaseManager} (hfree : m.ownerOf candidate = none)
    (hpool : m.firstAddress ≤ candidate ∧ candidate ≤ m.lastAddress)
    (hnone : m.entry identity = none) (hok : m.allocate identity now candidate = (.ok l, m')) :
    m'.Inv ∧ m'.toLeasePolicy = m.toLeasePolicy ∧ m.nextLeaseId ≠ 0 ∧
      m'.nextLeaseId = m.nextLeaseId + 1 ∧ l.leaseId = m.nextLeaseId ∧
      l.expiresAt = m.expiry now ∧ (m.ipv6PrefixLength ≠ 0 → l.ipv6Address ≠ m.ipv6Gateway) ∧
      m'.entry identity = some l ∧ ∀ id, id ≠ identity → m'.entry id = m.entry id := by
  rw [LeaseManager.allocate] at hok
  by_cases hz : m.nextLeaseId = 0
  · rw [if_pos hz] at hok
    cases hok
  rw [if_neg hz] at hok
  dsimp only at hok
  by_cases hg : m.ipv6PrefixLength ≠ 0 ∧ m.deriveIpv6 (fromInteger candidate) = m.ipv6Gateway
  · rw [if_pos hg] at hok
    cases hok
  rw [if_neg hg] at hok
  cases hok
  set l : Lease := ⟨m.nextLeaseId, identity, fromInteger candidate,
    m.deriveIpv6 (fromInteger candidate), m.expiry now⟩ with hl
  set m' : LeaseManager := { m with
    leasesByIdentity := m.leasesByIdentity.insert identity l
    identityByAddress := m.identityByAddress.insert candidate identity
    nextLeaseId := m.nextLeaseId + 1 } with hm'
  have hself : m'.entry identity = some l := by simp [entry, hm']
  have hother (id : Bytes) (hid : id ≠ identity) : m'.entry id = m.entry id := by
    simp [entry, hm', AList.lookup_insert_ne hid]
  have howner (a : UInt32) :
      m'.ownerOf a = if a = toInteger l.address then some identity else m.ownerOf a := by
    rw [hl, toInteger_fromInteger]
    by_cases ha : a = candidate
    · subst ha
      simp [ownerOf, hm']
    · simp [ha, ownerOf, hm', AList.lookup_insert_ne ha]
  have hfresh (id' : Bytes) (l' : Lease) (_ : id' ≠ identity) (hl' : m.entry id' = some l') :
      l'.leaseId ≠ l.leaseId ∧ l'.address ≠ l.address := by
    refine ⟨fun heq => ?_, fun heq => ?_⟩
    · have hi := h.issued hl'
      rw [heq] at hi
      exact not_issued_next m hi
    · have ho := h.owner.mpr ⟨l', hl', rfl⟩
      rw [heq, hl, toInteger_fromInteger, hfree] at ho
      cases ho
  have hinv : m'.Inv := h.store rfl (fun i hi => (issued_succ hz rfl).mpr (.inl hi)) hself hother
    howner rfl (by simpa [hl]) rfl ((issued_succ hz rfl).mpr (.inr rfl)) hfresh
    (fun l₀ hl₀ => by rw [hnone] at hl₀; cases hl₀)
  exact ⟨hinv, rfl, hz, rfl, rfl, rfl, fun hne heq => hg ⟨hne, heq⟩, hself, hother⟩

theorem Inv.acquire_ok {m : LeaseManager} (h : m.Inv) {identity : Bytes} {now : TimePoint}
    {l : Lease} {m' : LeaseManager} (hok : m.acquire identity now = (.ok l, m')) :
    m'.Inv ∧ Granted m identity now l m' := by
  obtain ⟨hr, hreap⟩ := h.reap now
  rw [LeaseManager.acquire] at hok
  by_cases hid : identity = []
  · rw [if_pos hid] at hok
    cases hok
  rw [if_neg hid] at hok
  dsimp only at hok
  set r := (m.reapExpiredLocked now).2
  by_cases hin : r.leasesByIdentity.lookup identity ≠ none
  · rw [if_pos hin] at hok
    cases hok
  rw [if_neg hin] at hok
  have hnone : r.entry identity = none := not_not.mp hin
  cases hf : r.findFree r.firstAddress with
  | none =>
    rw [hf] at hok
    cases hok
  | some candidate =>
    rw [hf] at hok
    obtain ⟨hfree, hfirst, hlast, -⟩ := findFree_some hr.policy.range hf
    obtain ⟨hinv, hp, hz, hn, hlid, hx, hg, hself, hother⟩ :=
      hr.allocate hfree ⟨hfirst, hlast⟩ hnone hok
    have hpol := hreap.policy
    refine ⟨hinv, ⟨hp.trans hpol, ?_, ?_, ?_, ?_, ?_, ?_, hself, ?_⟩⟩
    · rwa [← hreap.nextLeaseId]
    · rw [hn, hreap.nextLeaseId]
    · rw [hlid, hreap.nextLeaseId]
    · rw [hx, hpol]
    · rwa [← hpol]
    · intro l₀ hl₀
      by_contra hx
      have := (hreap.entry identity l₀).mpr ⟨hl₀, not_le.mp hx⟩
      rw [hnone] at this
      cases this
    · intro id l' hne
      rw [hother id hne, hreap.entry]

/-- A failed `acquire` removes at most the expired leases. Unless the identity is empty, it fails
with a short `runtime_error`. -/
theorem acquire_error {m : LeaseManager} {identity : Bytes} {now : TimePoint} {e : Exception}
    {m' : LeaseManager} (herr : m.acquire identity now = (.error e, m')) :
    (identity = [] ∧ m' = m ∧ ∃ w, e = .invalidArgument w ∧ w.length ≤ 64) ∨
      (m' = (m.reapExpiredLocked now).2 ∧ ∃ w, e = .runtimeError w ∧ w.length ≤ 64) := by
  rw [acquire] at herr
  by_cases hid : identity = []
  · rw [if_pos hid] at herr
    cases herr
    exact .inl ⟨hid, rfl, _, rfl, by decide⟩
  rw [if_neg hid] at herr
  refine .inr ?_
  dsimp only at herr
  generalize (m.reapExpiredLocked now).2 = r at herr ⊢
  by_cases hin : r.leasesByIdentity.lookup identity ≠ none
  · rw [if_pos hin] at herr
    cases herr
    exact ⟨rfl, _, rfl, by decide⟩
  rw [if_neg hin] at herr
  cases hf : r.findFree r.firstAddress with
  | none =>
    rw [hf] at herr
    cases herr
    exact ⟨rfl, _, rfl, by decide⟩
  | some candidate =>
    rw [hf] at herr
    simp only [allocate] at herr
    split_ifs at herr <;> cases herr <;> exact ⟨rfl, _, rfl, by decide⟩

theorem Inv.renew_some {m : LeaseManager} (h : m.Inv) {expected : Lease} {now : TimePoint}
    {l : Lease} {m' : LeaseManager} (hok : m.renew expected now = (some l, m')) :
    m'.Inv ∧ Renewed m expected now l m' := by
  obtain ⟨hr, hreap⟩ := h.reap now
  simp only [renew] at hok
  set r := (m.reapExpiredLocked now).2
  cases hm : r.matching expected with
  | none =>
    rw [hm] at hok
    cases hok
  | some l₀ =>
    rw [hm] at hok
    simp only [Prod.mk.injEq, Option.some.injEq] at hok
    obtain ⟨hl, hm'⟩ := hok
    obtain ⟨hentry, hlid, haddr⟩ := matching_eq_some.mp hm
    have hlo : l₀.leaseId = l.leaseId ∧ l₀.identity = l.identity ∧ l₀.address = l.address ∧
        l₀.ipv6Address = l.ipv6Address := by
      rw [← hl]
      exact ⟨rfl, rfl, rfl, rfl⟩
    obtain ⟨hlid', hident, haddr', hv6⟩ := hlo
    have hself : m'.entry expected.identity = some l := by
      rw [← hm', ← hl]
      simp [entry]
    have hother (id : Bytes) (hid : id ≠ expected.identity) : m'.entry id = r.entry id := by
      rw [← hm']
      simp [entry, AList.lookup_insert_ne hid]
    have howner (a : UInt32) : m'.ownerOf a =
        if a = toInteger l.address then some expected.identity else r.ownerOf a := by
      have hsame : m'.ownerOf a = r.ownerOf a := by rw [← hm']; rfl
      by_cases ha : a = toInteger l.address
      · rw [if_pos ha, hsame]
        exact hr.owner.mpr ⟨l₀, hentry, by rw [haddr', ha]⟩
      · rw [if_neg ha, hsame]
    have hfresh (id' : Bytes) (l' : Lease) (hne : id' ≠ expected.identity)
        (hl' : r.entry id' = some l') : l'.leaseId ≠ l.leaseId ∧ l'.address ≠ l.address :=
      ⟨fun heq => hne (hr.distinct hl' hentry (heq.trans hlid'.symm)),
        fun heq => hne (hr.address_inj hl' hentry (heq.trans haddr'.symm))⟩
    have hpm : m'.toLeasePolicy = r.toLeasePolicy := by rw [← hm']
    have hnm : m'.nextLeaseId = r.nextLeaseId := by rw [← hm']
    have hissued : ∀ i, r.Issued i → m'.Issued i := fun i hi => by rwa [Issued, hnm]
    have hinv : m'.Inv := hr.store hpm hissued hself hother howner (by rw [← hident, hr.key hentry])
      (by rw [← haddr']; exact hr.inPool hentry) (by rw [← hv6, ← haddr']; exact hr.ipv6 hentry)
      (hissued _ (by rw [← hlid']; exact hr.issued hentry)) hfresh
      (fun l₁ hl₁ => by rw [hentry] at hl₁; cases hl₁; exact haddr')
    obtain ⟨hentry₀, hlive⟩ := (hreap.entry _ _).mp hentry
    refine ⟨hinv, ⟨hpm.trans hreap.policy, hnm.trans hreap.nextLeaseId,
      ⟨l₀, hentry₀, hlive, hlid, haddr, ?_⟩, hself, fun id l' hid => ?_⟩⟩
    · rw [← hl, hreap.policy]
    · rw [hother id hid, hreap.entry]

/-- A `renew` that fails removes the expired leases only, and fails only if the lease is not among
the others. -/
theorem Inv.renew_none {m : LeaseManager} (h : m.Inv) {expected : Lease} {now : TimePoint}
    {m' : LeaseManager} (hno : m.renew expected now = (none, m')) :
    m' = (m.reapExpiredLocked now).2 ∧ ∀ l, m.entry expected.identity = some l →
      l.leaseId = expected.leaseId → l.address = expected.address → l.expiresAt ≤ now := by
  obtain ⟨-, hreap⟩ := h.reap now
  simp only [renew] at hno
  set r := (m.reapExpiredLocked now).2
  cases hm : r.matching expected with
  | some l₀ =>
    rw [hm] at hno
    cases hno
  | none =>
    rw [hm] at hno
    refine ⟨(congrArg Prod.snd hno).symm, fun l hl hlid haddr => ?_⟩
    by_contra hx
    have := matching_eq_some.mpr ⟨(hreap.entry _ _).mpr ⟨hl, not_le.mp hx⟩, hlid, haddr⟩
    rw [hm] at this
    cases this

theorem Inv.release_true {m : LeaseManager} (h : m.Inv) {expected : Lease} {m' : LeaseManager}
    (hok : m.release expected = (true, m')) : m'.Inv ∧ Released m expected m' := by
  simp only [release] at hok
  cases hm : m.matching expected with
  | none =>
    rw [hm] at hok
    cases hok
  | some l₀ =>
    rw [hm] at hok
    have hm' := (congrArg Prod.snd hok).symm
    simp only at hm'
    obtain ⟨hentry, hlid, haddr⟩ := matching_eq_some.mp hm
    have he (id : Bytes) :
        m'.entry id = if id = expected.identity then none else m.entry id := by
      by_cases hid : id = expected.identity
      · rw [if_pos hid, hid, hm', entry]
        exact AList.lookup_erase _ _
      · simp [hid, hm', entry, AList.lookup_erase_ne hid]
    have hsub {id : Bytes} {l : Lease} (hl : m'.entry id = some l) : m.entry id = some l := by
      rw [he] at hl
      split_ifs at hl
      exact hl
    refine ⟨h.restrict (by rw [hm']) (by rw [hm']) hsub ?_, ⟨by rw [hm'], by rw [hm'],
      ⟨l₀, hentry, hlid, haddr⟩, he⟩⟩
    intro a id
    have ho : m'.ownerOf a = some id ↔ a ≠ toInteger l₀.address ∧ m.ownerOf a = some id := by
      rw [hm', ownerOf]
      exact lookup_erase_some
    rw [ho, h.owner]
    constructor
    · rintro ⟨hne, l, hl, rfl⟩
      have hid : id ≠ expected.identity := by
        rintro rfl
        rw [hentry] at hl
        cases hl
        exact hne rfl
      exact ⟨l, by rw [he, if_neg hid]; exact hl, rfl⟩
    · rintro ⟨l, hl, rfl⟩
      refine ⟨fun heq => ?_, l, hsub hl, rfl⟩
      have hid := h.address_inj (hsub hl) hentry (toInteger_injective heq)
      rw [he, if_pos hid] at hl
      cases hl

/-- A `release` that fails changes nothing, and fails only if the lease is not stored. -/
theorem release_false {m : LeaseManager} {expected : Lease} {m' : LeaseManager}
    (hno : m.release expected = (false, m')) :
    m' = m ∧ ∀ l, m.entry expected.identity = some l → l.leaseId = expected.leaseId →
      l.address ≠ expected.address := by
  simp only [release] at hno
  cases hm : m.matching expected with
  | some l₀ =>
    rw [hm] at hno
    cases hno
  | none =>
    rw [hm] at hno
    refine ⟨(congrArg Prod.snd hno).symm, fun l hl hlid haddr => ?_⟩
    rw [matching_eq_some.mpr ⟨hl, hlid, haddr⟩] at hm
    cases hm

end LeaseManager

end PersonalVpn.Core
