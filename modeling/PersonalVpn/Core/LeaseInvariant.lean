import PersonalVpn.Core.LeaseManager

namespace PersonalVpn.Core

open Protocol

theorem toInteger_eq_readU32 (a : Ipv4Address) : toInteger a = readU32 a.toList := by
  simp [toInteger, readU32, byteAt]

theorem toList_fromInteger (x : UInt32) : (fromInteger x).toList = BigEndian.bytes 4 x.toNat :=
  appendU32_eq [] x

@[simp] theorem toInteger_fromInteger (x : UInt32) : toInteger (fromInteger x) = x := by
  have h := readU32_bytes x []
  rwa [List.append_nil, ← toList_fromInteger, ← toInteger_eq_readU32] at h

@[simp] theorem fromInteger_toInteger (a : Ipv4Address) : fromInteger (toInteger a) = a := by
  apply Vector.toList_inj.mp
  rw [toList_fromInteger, toInteger_eq_readU32, bytes_readU32 (by simp),
    List.take_of_length_le (by simp)]

theorem toInteger_injective : Function.Injective toInteger :=
  Function.LeftInverse.injective fromInteger_toInteger

/-- What the constructor asks of its arguments. -/
structure LeasePolicy.Valid (p : LeasePolicy) : Prop where
  range : p.firstAddress ≤ p.lastAddress
  gateway : isUnspecified p.gatewayAddress = false
  prefix_pos : p.prefixLength ≠ 0
  prefix_le : p.prefixLength ≤ 32
  mtu_ge : kMinimumIpv4Mtu ≤ p.mtu
  mtu_le : p.mtu ≤ kMaximumTunnelMtu
  duration_pos : 0 < p.leaseDuration
  duration_le : p.leaseDuration ≤ 2 ^ 32 - 1
  ipv6 : p.ipv6PrefixLength ≠ 0 → p.ipv6PrefixLength = 64 ∧ isUnspecified p.ipv6Gateway = false ∧
    p.ipv6Prefix.toList.take 8 = p.ipv6Gateway.toList.take 8 ∧
    (p.ipv6Prefix.toList.drop 8).all (· == 0) = true
  outside : p.firstAddress ≤ toInteger p.gatewayAddress →
    p.lastAddress < toInteger p.gatewayAddress
  subnet : p.firstAddress &&& prefixMask p.prefixLength =
      toInteger p.gatewayAddress &&& prefixMask p.prefixLength ∧
    p.lastAddress &&& prefixMask p.prefixLength =
      toInteger p.gatewayAddress &&& prefixMask p.prefixLength
  hosts : p.prefixLength ≤ 30 →
    toInteger p.gatewayAddress &&& prefixMask p.prefixLength < p.firstAddress ∧
    p.lastAddress <
      (toInteger p.gatewayAddress &&& prefixMask p.prefixLength) ||| ~~~prefixMask p.prefixLength

theorem LeasePolicy.validate_ok_iff (p : LeasePolicy) : p.validate = .ok () ↔ p.Valid := by
  simp only [LeasePolicy.validate, throwIf_bind_ok, throwIf_ok, not_or, not_and, gt_iff_lt,
    ge_iff_le, UInt16.not_lt, UInt8.not_lt, UInt32.not_lt, UInt32.not_le, Int.not_lt, Int.not_le,
    Bool.not_eq_true, ne_eq, not_not, Bool.not_eq_eq_eq_not, Bool.not_true, Bool.not_eq_false]
  constructor
  · rintro ⟨h1, h2, ⟨h3, h4⟩, ⟨h5, h6⟩, ⟨h7, h8⟩, h9, h10, h11, h12, h13, h14⟩
    exact ⟨h1, h2, h3, h4, h5, h6, h7, h8,
      fun h => ⟨(h9 h).1, (h9 h).2, h10 h, h11 h⟩, h12, h13, h14⟩
  · rintro ⟨h1, h2, h3, h4, h5, h6, h7, h8, h9, h10, h11, h12⟩
    exact ⟨h1, h2, ⟨h3, h4⟩, ⟨h5, h6⟩, ⟨h7, h8⟩, fun h => ⟨(h9 h).1, (h9 h).2.1⟩,
      fun h => (h9 h).2.2.1, fun h => (h9 h).2.2.2, h10, h11, h12⟩

namespace LeaseManager

/-- The lease stored under an identity. -/
def entry (m : LeaseManager) (identity : Bytes) : Option Lease := m.leasesByIdentity.lookup identity

/-- The identity an address is recorded for. -/
def ownerOf (m : LeaseManager) (address : UInt32) : Option Bytes :=
  m.identityByAddress.lookup address

/-- Lease identifiers already handed out. The counter starts at 1 and stops for good at 0. -/
def Issued (m : LeaseManager) (id : UInt64) : Prop :=
  id ≠ 0 ∧ (m.nextLeaseId = 0 ∨ id < m.nextLeaseId)

/-- The representation invariant: the two maps are inverse to each other, leases stand in the
pool with the IPv6 address of the policy, and their identifiers are distinct and issued. -/
structure Inv (m : LeaseManager) : Prop where
  policy : m.toLeasePolicy.Valid
  key : ∀ {id l}, m.entry id = some l → l.identity = id
  owner : ∀ {a id}, m.ownerOf a = some id ↔ ∃ l, m.entry id = some l ∧ toInteger l.address = a
  inPool : ∀ {id l}, m.entry id = some l →
    m.firstAddress ≤ toInteger l.address ∧ toInteger l.address ≤ m.lastAddress
  ipv6 : ∀ {id l}, m.entry id = some l → l.ipv6Address = m.deriveIpv6 l.address
  issued : ∀ {id l}, m.entry id = some l → m.Issued l.leaseId
  distinct : ∀ {id id' l l'}, m.entry id = some l → m.entry id' = some l' →
    l.leaseId = l'.leaseId → id = id'

/-- Distinct identities hold distinct addresses. -/
theorem Inv.address_inj {m : LeaseManager} (h : m.Inv) {id id' : Bytes} {l l' : Lease}
    (hl : m.entry id = some l) (hl' : m.entry id' = some l') (ha : l.address = l'.address) :
    id = id' := by
  have h₁ := h.owner.mpr ⟨l, hl, rfl⟩
  have h₂ := h.owner.mpr ⟨l', hl', rfl⟩
  rw [ha, h₂] at h₁
  exact (Option.some.inj h₁).symm

/-- A manager whose entries are some of another's, with the owners that go with them, inherits
the invariant. -/
theorem Inv.restrict {m m' : LeaseManager} (h : m.Inv)
    (hp : m'.toLeasePolicy = m.toLeasePolicy) (hn : m'.nextLeaseId = m.nextLeaseId)
    (he : ∀ {id l}, m'.entry id = some l → m.entry id = some l)
    (ho : ∀ {a id}, m'.ownerOf a = some id ↔ ∃ l, m'.entry id = some l ∧ toInteger l.address = a) :
    m'.Inv where
  policy := by rw [hp]; exact h.policy
  key hl := h.key (he hl)
  owner := ho
  inPool hl := by rw [hp]; exact h.inPool (he hl)
  ipv6 hl := by rw [hp]; exact h.ipv6 (he hl)
  issued hl := by
    have hi := h.issued (he hl)
    rwa [Issued, ← hn] at hi
  distinct hl hl' := h.distinct (he hl) (he hl')

theorem lookup_erase_some {α β : Type} [DecidableEq α] {s : AList (fun _ : α => β)}
    {k k' : α} {v : β} : (s.erase k).lookup k' = some v ↔ k' ≠ k ∧ s.lookup k' = some v := by
  by_cases hk : k' = k
  · subst hk
    simp
  · simp [AList.lookup_erase_ne hk, hk]

/-- What the reaping loop leaves, for any part of the entries it has visited. -/
private theorem reapFold (now : TimePoint) (es : List (Sigma fun _ : Bytes => Lease))
    (acc : Nat × LeaseManager) :
    let r := (es.foldl (reapEntry now) acc).2
    r.toLeasePolicy = acc.2.toLeasePolicy ∧ r.nextLeaseId = acc.2.nextLeaseId ∧
    (∀ id l, r.entry id = some l ↔ acc.2.entry id = some l ∧
      ∀ e ∈ es, e.2.expiresAt ≤ now → e.1 ≠ id) ∧
    (∀ a id, r.ownerOf a = some id ↔ acc.2.ownerOf a = some id ∧
      ∀ e ∈ es, e.2.expiresAt ≤ now → toInteger e.2.address ≠ a) := by
  induction es generalizing acc with
  | nil => simp
  | cons e es ih =>
    obtain ⟨hp, hn, he, ho⟩ := ih (reapEntry now acc e)
    simp only [List.foldl_cons]
    by_cases hx : e.2.expiresAt ≤ now
    · simp only [reapEntry, hx, if_true] at hp hn he ho ⊢
      refine ⟨hp, hn, fun id l => ?_, fun a id => ?_⟩
      · rw [he id l, entry, lookup_erase_some]
        simp only [List.forall_mem_cons, hx, true_implies, entry]
        tauto
      · rw [ho a id, ownerOf, lookup_erase_some]
        simp only [List.forall_mem_cons, hx, true_implies, ownerOf]
        tauto
    · simp only [reapEntry, hx, if_false] at hp hn he ho ⊢
      refine ⟨hp, hn, fun id l => ?_, fun a id => ?_⟩
      · rw [he id l]; simp [hx]
      · rw [ho a id]; simp [hx]

/-- `m'` is `m` without the leases expired at `now`. -/
structure Reaped (m : LeaseManager) (now : TimePoint) (m' : LeaseManager) : Prop where
  policy : m'.toLeasePolicy = m.toLeasePolicy
  nextLeaseId : m'.nextLeaseId = m.nextLeaseId
  entry : ∀ id l, m'.entry id = some l ↔ m.entry id = some l ∧ now < l.expiresAt
  owner : ∀ a id, m'.ownerOf a = some id ↔
    m.ownerOf a = some id ∧ ∃ l, m.entry id = some l ∧ now < l.expiresAt

theorem Inv.reap {m : LeaseManager} (h : m.Inv) (now : TimePoint) :
    (m.reapExpiredLocked now).2.Inv ∧ Reaped m now (m.reapExpiredLocked now).2 := by
  obtain ⟨hp, hn, he, ho⟩ := reapFold now m.leasesByIdentity.entries (0, m)
  set r := (m.reapExpiredLocked now).2 with hr
  change r.toLeasePolicy = _ at hp
  have mem (id : Bytes) (l : Lease) :
      (⟨id, l⟩ : Sigma fun _ : Bytes => Lease) ∈ m.leasesByIdentity.entries ↔
        m.entry id = some l := by
    rw [← AList.mem_lookup_iff]
    rfl
  have hentry (id : Bytes) (l : Lease) :
      r.entry id = some l ↔ m.entry id = some l ∧ now < l.expiresAt := by
    refine (he id l).trans (and_congr_right fun hl => ⟨fun hall => ?_, fun hlive e hmem hx => ?_⟩)
    · by_contra hx
      exact hall ⟨id, l⟩ ((mem id l).mpr hl) (not_lt.mp hx) rfl
    · rintro rfl
      have hsame := (mem e.1 e.2).mp hmem
      change m.entry e.1 = some l at hl
      rw [hl] at hsame
      cases hsame
      exact not_le.mpr hlive hx
  have howner (a : UInt32) (id : Bytes) : r.ownerOf a = some id ↔
      m.ownerOf a = some id ∧ ∃ l, m.entry id = some l ∧ now < l.expiresAt := by
    refine (ho a id).trans (and_congr_right fun hown => ?_)
    obtain ⟨l, hl, rfl⟩ := h.owner.mp hown
    constructor
    · intro hall
      refine ⟨l, hl, ?_⟩
      by_contra hx
      exact hall ⟨id, l⟩ ((mem id l).mpr hl) (not_lt.mp hx) rfl
    · rintro ⟨l', hl', hlive⟩ e hmem hx haddr
      rw [hl] at hl'
      cases hl'
      have hsame := (mem e.1 e.2).mp hmem
      have hid := h.address_inj hsame hl (toInteger_injective haddr)
      rw [hid, hl] at hsame
      cases hsame
      exact not_le.mpr hlive hx
  refine ⟨h.restrict hp hn (fun hl => ((hentry _ _).mp hl).1) ?_, ⟨hp, hn, hentry, howner⟩⟩
  intro a id
  rw [howner, h.owner]
  constructor
  · rintro ⟨⟨l, hl, rfl⟩, l', hl', hlive⟩
    rw [hl] at hl'
    cases hl'
    exact ⟨l, (hentry _ _).mpr ⟨hl, hlive⟩, rfl⟩
  · rintro ⟨l, hl, rfl⟩
    obtain ⟨hl, hlive⟩ := (hentry _ _).mp hl
    exact ⟨⟨l, hl, rfl⟩, l, hl, hlive⟩

/-- Storing one lease under an identity keeps the invariant if no other identity has its
identifier or its address, and the identity does not change address. -/
theorem Inv.store {m m' : LeaseManager} (h : m.Inv) {id : Bytes} {l : Lease}
    (hp : m'.toLeasePolicy = m.toLeasePolicy) (hiss : ∀ i, m.Issued i → m'.Issued i)
    (hself : m'.entry id = some l) (hother : ∀ id', id' ≠ id → m'.entry id' = m.entry id')
    (howner : ∀ a, m'.ownerOf a = if a = toInteger l.address then some id else m.ownerOf a)
    (hkey : l.identity = id)
    (hpool : m.firstAddress ≤ toInteger l.address ∧ toInteger l.address ≤ m.lastAddress)
    (hv6 : l.ipv6Address = m.deriveIpv6 l.address) (hissued : m'.Issued l.leaseId)
    (hfresh : ∀ id' l', id' ≠ id → m.entry id' = some l' →
      l'.leaseId ≠ l.leaseId ∧ l'.address ≠ l.address)
    (hold : ∀ l₀, m.entry id = some l₀ → l₀.address = l.address) : m'.Inv := by
  have hcases {id' : Bytes} {l' : Lease} (hl : m'.entry id' = some l') :
      (id' = id ∧ l' = l) ∨ (id' ≠ id ∧ m.entry id' = some l') := by
    by_cases hid : id' = id
    · subst hid
      rw [hself] at hl
      exact .inl ⟨rfl, (Option.some.inj hl).symm⟩
    · exact .inr ⟨hid, by rwa [← hother id' hid]⟩
  constructor
  case policy => rw [hp]; exact h.policy
  case key =>
    intro id' l' hl
    obtain ⟨rfl, rfl⟩ | ⟨-, hl⟩ := hcases hl
    · exact hkey
    · exact h.key hl
  case owner =>
    intro a id'
    rw [howner]
    by_cases ha : a = toInteger l.address
    · rw [if_pos ha, Option.some.injEq]
      constructor
      · rintro rfl
        exact ⟨l, hself, ha.symm⟩
      · rintro ⟨l', hl', hla⟩
        obtain ⟨rfl, -⟩ | ⟨hne, hl'⟩ := hcases hl'
        · rfl
        · exact absurd (toInteger_injective (hla.trans ha)) (hfresh id' l' hne hl').2
    · rw [if_neg ha, h.owner]
      constructor
      · rintro ⟨l', hl', rfl⟩
        have hne : id' ≠ id := by
          rintro rfl
          exact ha (congrArg toInteger (hold l' hl'))
        exact ⟨l', by rw [hother id' hne]; exact hl', rfl⟩
      · rintro ⟨l', hl', rfl⟩
        obtain ⟨-, rfl⟩ | ⟨-, hl'⟩ := hcases hl'
        · exact absurd rfl ha
        · exact ⟨l', hl', rfl⟩
  case inPool =>
    intro id' l' hl
    rw [hp]
    obtain ⟨-, rfl⟩ | ⟨-, hl⟩ := hcases hl
    · exact hpool
    · exact h.inPool hl
  case ipv6 =>
    intro id' l' hl
    rw [hp]
    obtain ⟨-, rfl⟩ | ⟨-, hl⟩ := hcases hl
    · exact hv6
    · exact h.ipv6 hl
  case issued =>
    intro id' l' hl
    obtain ⟨-, rfl⟩ | ⟨-, hl⟩ := hcases hl
    · exact hissued
    · exact hiss _ (h.issued hl)
  case distinct =>
    intro id₁ id₂ l₁ l₂ hl₁ hl₂ heq
    obtain ⟨rfl, rfl⟩ | ⟨hne₁, hl₁⟩ := hcases hl₁ <;> obtain ⟨rfl, rfl⟩ | ⟨hne₂, hl₂⟩ := hcases hl₂
    · rfl
    · exact absurd heq.symm (hfresh _ _ hne₂ hl₂).1
    · exact absurd heq (hfresh _ _ hne₁ hl₁).1
    · exact h.distinct hl₁ hl₂ heq

/-- The search returns the lowest address without an owner. -/
theorem findFree_some {m : LeaseManager} {c x : UInt32} (hc : c ≤ m.lastAddress)
    (h : m.findFree c = some x) : m.ownerOf x = none ∧ c ≤ x ∧ x ≤ m.lastAddress ∧
      ∀ y, c ≤ y → y < x → m.ownerOf y ≠ none := by
  fun_induction findFree m c with
  | case1 c hfree =>
    cases h
    exact ⟨hfree, UInt32.le_refl _, hc, fun y hy hlt => absurd hy (UInt32.not_le.mpr hlt)⟩
  | case2 => cases h
  | case3 c hused hne ih =>
    have hlt : c.toNat < m.lastAddress.toNat := by
      have := UInt32.le_iff_toNat_le.mp hc
      have hn : c.toNat ≠ m.lastAddress.toNat := fun e => hne (UInt32.toNat_inj.mp e)
      omega
    have hl := m.lastAddress.toNat_lt
    have hsucc : (c + 1).toNat = c.toNat + 1 := by
      rw [UInt32.toNat_add]
      exact Nat.mod_eq_of_lt (by simp; omega)
    obtain ⟨hfree, hle, hlast, hlow⟩ := ih (UInt32.le_iff_toNat_le.mpr (by omega)) h
    rw [UInt32.le_iff_toNat_le, hsucc] at hle
    refine ⟨hfree, UInt32.le_iff_toNat_le.mpr (by omega), hlast, fun y hy hyx => ?_⟩
    by_cases hyc : y = c
    · rw [hyc]
      exact hused
    · refine hlow y (UInt32.le_iff_toNat_le.mpr ?_) hyx
      have hy' := UInt32.le_iff_toNat_le.mp hy
      have hn : y.toNat ≠ c.toNat := fun e => hyc (UInt32.toNat_inj.mp e)
      omega

end LeaseManager

end PersonalVpn.Core
