import PersonalVpn.Core.LeaseRuns

namespace PersonalVpn.Core

namespace LeaseManager

/-- The lease a call of `acquire` returns. -/
def granted (m : LeaseManager) : LeaseCall → Option Lease
  | .acquire identity now => (m.acquire identity now).1.toOption
  | _ => none

/-- The leases the calls of a run return, in their order. -/
def grants (m : LeaseManager) : List LeaseCall → List Lease
  | [] => []
  | c :: cs => (m.granted c).toList ++ grants (m.call c) cs

/-- What a call does to the identifiers: a granted lease takes the next one, and every stored lease
keeps its own. -/
structure Numbered (m : LeaseManager) (grant : Option Lease) (m' : LeaseManager) : Prop where
  granted : ∀ l, grant = some l → m.nextLeaseId ≠ 0 ∧ l.leaseId = m.nextLeaseId ∧
    m'.nextLeaseId = m.nextLeaseId + 1
  refused : grant = none → m'.nextLeaseId = m.nextLeaseId
  entry : ∀ id l, m'.entry id = some l →
    (∃ l₀, m.entry id = some l₀ ∧ l₀.leaseId = l.leaseId) ∨ grant = some l

/-- A call that stores nothing numbers nothing. -/
theorem Reaped.numbered {m m' : LeaseManager} {now : TimePoint} (h : Reaped m now m') :
    Numbered m none m' := by
  refine ⟨fun l hl => ?_, fun _ => h.nextLeaseId, fun id l hl => ?_⟩
  · cases hl
  · exact .inl ⟨l, ((h.entry id l).mp hl).1, rfl⟩

theorem Numbered.refl (m : LeaseManager) : Numbered m none m := by
  refine ⟨fun l hl => ?_, fun _ => rfl, fun id l hl => .inl ⟨l, hl, rfl⟩⟩
  cases hl

theorem Inv.numbered {m : LeaseManager} (h : m.Inv) (c : LeaseCall) :
    Numbered m (m.granted c) (m.call c) := by
  have reaped (now : TimePoint) : Numbered m none (m.reapExpiredLocked now).2 :=
    (h.reap now).2.numbered
  cases c with
  | acquire identity now =>
    simp only [granted, LeaseManager.call]
    rcases hr : m.acquire identity now with ⟨r, m'⟩
    cases r with
    | ok l =>
      obtain ⟨-, hg⟩ := h.acquire_ok hr
      refine ⟨?_, by simp [Except.toOption], fun id l' hl' => ?_⟩
      · rintro _ ⟨rfl⟩
        exact ⟨hg.nonzero, hg.leaseId, hg.next⟩
      · by_cases hid : id = identity
        · rw [hid, hg.self] at hl'
          exact .inr (congrArg some (Option.some.inj hl'))
        · exact .inl ⟨l', ((hg.other id l' hid).mp hl').1, rfl⟩
    | error e =>
      obtain ⟨-, rfl, -⟩ | ⟨rfl, -⟩ := acquire_error hr
      · exact .refl m'
      · exact reaped now
  | renew expected now =>
    simp only [granted, LeaseManager.call]
    rcases hr : m.renew expected now with ⟨r, m'⟩
    cases r with
    | some l =>
      obtain ⟨-, hren⟩ := h.renew_some hr
      refine ⟨by simp, fun _ => hren.next, fun id l' hl' => .inl ?_⟩
      by_cases hid : id = expected.identity
      · obtain ⟨l₀, hl₀, -, -, -, hl⟩ := hren.old
        rw [hid, hren.self] at hl'
        refine ⟨l₀, by rw [hid]; exact hl₀, ?_⟩
        rw [← Option.some.inj hl', hl]
      · exact ⟨l', ((hren.other id l' hid).mp hl').1, rfl⟩
    | none =>
      rw [(h.renew_none hr).1]
      exact reaped now
  | release expected =>
    simp only [granted, LeaseManager.call]
    rcases hr : m.release expected with ⟨r, m'⟩
    cases r with
    | true =>
      obtain ⟨-, hrel⟩ := h.release_true hr
      refine ⟨by simp, fun _ => hrel.next, fun id l hl => .inl ⟨l, ?_, rfl⟩⟩
      rw [hrel.entry] at hl
      split_ifs at hl
      exact hl
    | false =>
      rw [(release_false hr).1]
      exact .refl m
  | owns identity address now =>
    have hs : (m.owns identity address now).2 = (m.reapExpiredLocked now).2 := by
      simp only [owns]
      split <;> rfl
    simp only [granted, LeaseManager.call, hs]
    exact reaped now
  | findByIdentity identity now => exact reaped now
  | reapExpired now => exact reaped now
  | activeCount now => exact reaped now
  | availableCount now => exact reaped now

/-- A lease that has been handed out and whose entry is gone: what its identity may have now is
another lease. -/
structure Gone (m : LeaseManager) (stale : Lease) : Prop where
  issued : m.Issued stale.leaseId
  absent : ∀ l, m.entry stale.identity = some l → l.leaseId ≠ stale.leaseId

theorem Numbered.issued {m m' : LeaseManager} {grant : Option Lease} (h : Numbered m grant m')
    {id : UInt64} (hid : m.Issued id) : m'.Issued id := by
  cases grant with
  | none => rwa [Issued, h.refused rfl]
  | some l =>
    obtain ⟨hne, -, hnext⟩ := h.granted l rfl
    exact (issued_succ hne hnext).mpr (.inl hid)

/-- No call brings the entry back. -/
theorem Gone.after_call {m : LeaseManager} (h : m.Inv) {stale : Lease} (hgone : m.Gone stale)
    (c : LeaseCall) : (m.call c).Gone stale := by
  have hnum := h.numbered c
  refine ⟨hnum.issued hgone.issued, fun l hl => ?_⟩
  obtain ⟨l₀, hl₀, hsame⟩ | hgrant := hnum.entry stale.identity l hl
  · rw [← hsame]
    exact hgone.absent l₀ hl₀
  · intro heq
    have hissued := hgone.issued
    rw [← heq, (hnum.granted l hgrant).2.1] at hissued
    exact not_issued_next m hissued

theorem Gone.after_run {m : LeaseManager} (h : m.Inv) {stale : Lease} (hgone : m.Gone stale)
    (calls : List LeaseCall) : (Run.run call m calls).Inv ∧ (Run.run call m calls).Gone stale := by
  let P (m' : LeaseManager) := m'.Inv ∧ m'.Gone stale
  have hstep : ∀ m' c, P m' → P (m'.call c) := by
    intro m' c hm'
    exact ⟨(Inv.call hm'.1 c).1, hm'.2.after_call hm'.1 c⟩
  exact Run.invariant hstep ⟨h, hgone⟩ calls

/-- A lease without its entry can neither be renewed nor released. -/
theorem Gone.powerless {m : LeaseManager} (h : m.Inv) {stale : Lease} (hgone : m.Gone stale)
    (now : TimePoint) :
    m.renew stale now = (none, (m.reapExpiredLocked now).2) ∧ m.release stale = (false, m) := by
  constructor
  · rcases hr : m.renew stale now with ⟨r, m'⟩
    cases r with
    | none => rw [(h.renew_none hr).1]
    | some l =>
      obtain ⟨l₀, hl₀, -, hid, -⟩ := (h.renew_some hr).2.old
      exact absurd hid (hgone.absent l₀ hl₀)
  · rcases hr : m.release stale with ⟨r, m'⟩
    cases r with
    | false => rw [(release_false hr).1]
    | true =>
      obtain ⟨l₀, hl₀, hid, -⟩ := (h.release_true hr).2.old
      exact absurd hid (hgone.absent l₀ hl₀)

/-- An identifier that has been handed out stays handed out. -/
theorem issued_run {m : LeaseManager} (h : m.Inv) {id : UInt64} (hid : m.Issued id)
    (calls : List LeaseCall) : (Run.run call m calls).Issued id := by
  let P (m' : LeaseManager) := m'.Inv ∧ m'.Issued id
  have hstep : ∀ m' c, P m' → P (m'.call c) := by
    intro m' c hm'
    exact ⟨(Inv.call hm'.1 c).1, (hm'.1.numbered c).issued hm'.2⟩
  have hend : P (Run.run call m calls) := Run.invariant hstep ⟨h, hid⟩ calls
  exact hend.2

/-- The identifiers still to come start here. The counter at 0 has wrapped. -/
def nextNumber (m : LeaseManager) : Nat :=
  if m.nextLeaseId = 0 then 2 ^ 64 else m.nextLeaseId.toNat

theorem Numbered.nextNumber {m m' : LeaseManager} {grant : Option Lease} (h : Numbered m grant m') :
    (∀ l, grant = some l → l.leaseId.toNat = m.nextNumber ∧ m'.nextNumber = m.nextNumber + 1) ∧
      (grant = none → m'.nextNumber = m.nextNumber) := by
  constructor
  · intro l hl
    obtain ⟨hne, hid, hnext⟩ := h.granted l hl
    have hpos : m.nextLeaseId.toNat ≠ 0 := fun hz => hne (UInt64.toNat_inj.mp hz)
    have hlt := m.nextLeaseId.toNat_lt
    have hsucc : (m.nextLeaseId + 1).toNat = (m.nextLeaseId.toNat + 1) % 2 ^ 64 := by
      rw [UInt64.toNat_add]
      rfl
    have hzero : m.nextLeaseId + 1 = 0 ↔ (m.nextLeaseId + 1).toNat = 0 := UInt64.toNat_inj.symm
    rw [LeaseManager.nextNumber, LeaseManager.nextNumber, if_neg hne, hnext, hid]
    refine ⟨rfl, ?_⟩
    split_ifs with hwrap
    · rw [hzero, hsucc] at hwrap
      omega
    · rw [hzero, hsucc] at hwrap
      rw [hsucc]
      omega
  · intro hno
    rw [LeaseManager.nextNumber, LeaseManager.nextNumber, h.refused hno]

/-- All leases of a run are numbered from the counter on, in increasing order. -/
theorem Inv.grants_increasing {m : LeaseManager} (h : m.Inv) (calls : List LeaseCall) :
    (∀ l ∈ m.grants calls, m.nextNumber ≤ l.leaseId.toNat) ∧
      ((m.grants calls).map (·.leaseId)).Pairwise (· < ·) := by
  induction calls generalizing m with
  | nil => simp [grants]
  | cons c cs ih =>
    obtain ⟨hge, hpair⟩ := ih (Inv.call h c).1
    obtain ⟨hgrant, hrefuse⟩ := (h.numbered c).nextNumber
    rw [grants]
    cases hg : m.granted c with
    | none =>
      rw [hrefuse hg] at hge
      exact ⟨hge, hpair⟩
    | some l =>
      obtain ⟨hid, hnext⟩ := hgrant l hg
      rw [hnext] at hge
      refine ⟨?_, ?_⟩
      · intro l' hl'
        obtain rfl | hlater := List.mem_cons.mp hl'
        · exact Nat.le_of_eq hid.symm
        · exact Nat.le_of_succ_le (hge l' hlater)
      · refine List.pairwise_cons.mpr ⟨?_, hpair⟩
        intro i hi
        obtain ⟨l', hl', rfl⟩ := List.mem_map.mp hi
        have hlater := hge l' hl'
        exact UInt64.lt_iff_toNat_lt.mpr (by rw [hid]; exact hlater)

/-- After the wrap the counter stays at 0 and nothing is granted. -/
theorem exhausted_run {m : LeaseManager} (h : m.Inv) (hz : m.nextLeaseId = 0)
    (calls : List LeaseCall) (identity : Bytes) (now : TimePoint) :
    ∃ e, ((Run.run call m calls).acquire identity now).1 = .error e := by
  let P (m' : LeaseManager) := m'.Inv ∧ m'.nextLeaseId = 0
  have hstep : ∀ m' c, P m' → P (m'.call c) := by
    intro m' c hm'
    have hnum := hm'.1.numbered c
    refine ⟨(Inv.call hm'.1 c).1, ?_⟩
    cases hg : m'.granted c with
    | none => rw [hnum.refused hg, hm'.2]
    | some l => exact absurd hm'.2 (hnum.granted l hg).1
  have hend : P (Run.run call m calls) := Run.invariant hstep ⟨h, hz⟩ calls
  rcases hr : (Run.run call m calls).acquire identity now with ⟨r, m'⟩
  cases r with
  | error e => exact ⟨e, rfl⟩
  | ok l => exact absurd hend.2 (hend.1.acquire_ok hr).2.nonzero

/-- Once the entry of a lease is gone, the lease is powerless for good: at every later state of the
run it cannot be renewed, and the attempt only removes expired leases; nor can it be released, and the
attempt changes nothing. The identifiers of a run's leases increase, so none is used again, and a
counter that has wrapped grants nothing any more. -/
theorem stale_leases_powerless {first last gateway : Ipv4Address} {prefixLength : UInt8}
    {mtu : UInt16} {duration : Int} {v6Prefix v6Gateway : Ipv6Address} {v6Length : UInt8}
    {m₀ : LeaseManager}
    (h₀ : create first last gateway prefixLength mtu duration v6Prefix v6Gateway v6Length = .ok m₀) :
    (∀ before identity now stale between later time,
      let issuer := Run.run call m₀ before
      (issuer.acquire identity now).1 = .ok stale →
      let removed := Run.run call (issuer.call (.acquire identity now)) between
      (∀ l, removed.entry stale.identity = some l → l.leaseId ≠ stale.leaseId) →
      let m := Run.run call removed later
      m.renew stale time = (none, (m.reapExpiredLocked time).2) ∧
        OnlyReaped m time (m.renew stale time).2 ∧ m.release stale = (false, m)) ∧
    (∀ calls, ((m₀.grants calls).map (·.leaseId)).Pairwise (· < ·) ∧
      ((m₀.grants calls).map (·.leaseId)).Nodup) ∧
    (∀ calls, (Run.run call m₀ calls).nextLeaseId = 0 → ∀ later identity now,
      ∃ e, ((Run.run call (Run.run call m₀ calls) later).acquire identity now).1 = .error e) := by
  have hinv₀ := inv_create h₀
  refine ⟨?_, ?_, ?_⟩
  · intro before identity now stale between later time issuer hok removed habsent m
    have hissuer : issuer.Inv := inv_run hinv₀ before
    have hnum := hissuer.numbered (.acquire identity now)
    have hgrant : issuer.granted (.acquire identity now) = some stale := by
      simp only [granted, hok]
      rfl
    obtain ⟨hne, hid, hnext⟩ := hnum.granted stale hgrant
    have hcall : (issuer.call (.acquire identity now)).Inv := (Inv.call hissuer _).1
    have hissued : (issuer.call (.acquire identity now)).Issued stale.leaseId :=
      (issued_succ hne hnext).mpr (.inr hid)
    have hgone : removed.Gone stale := ⟨issued_run hcall hissued between, habsent⟩
    obtain ⟨hm, hmgone⟩ := hgone.after_run (inv_run hcall between) later
    obtain ⟨hrenew, hrelease⟩ := hmgone.powerless hm time
    refine ⟨hrenew, ?_, hrelease⟩
    rw [hrenew]
    exact hm.onlyReaped time
  · intro calls
    have hpair := (hinv₀.grants_increasing calls).2
    refine ⟨hpair, hpair.imp ?_⟩
    intro i j hlt heq
    rw [heq] at hlt
    exact UInt64.lt_irrefl j hlt
  · intro calls hz later identity now
    exact exhausted_run (inv_run hinv₀ calls) hz later identity now

/-- The same identity has the same address again, under the next identifier. -/
theorem stale_leases_powerless_reissued :
    let m := Run.run call (singleManager 2) [.acquire (text "c") 0]
    m.entry (text "c") = some (singleLease 2) ∧
      m.renew (singleLease 1) 0 = (none, (m.reapExpiredLocked 0).2) ∧
      m.release (singleLease 1) = (false, m) := by
  have hok : ((singleManager 1).acquire (text "c") 0).1 = .ok (singleLease 1) := by
    rw [acquire_single (by decide)]
  have hremoved : Run.run call ((singleManager 1).call (.acquire (text "c") 0))
      [.release (singleLease 1)] = singleManager 2 := release_single (by decide)
  have habsent : ∀ l, (Run.run call ((singleManager 1).call (.acquire (text "c") 0))
      [.release (singleLease 1)]).entry (singleLease 1).identity = some l →
        l.leaseId ≠ (singleLease 1).leaseId := by
    intro l hl
    rw [hremoved] at hl
    cases hl
  have hpowerless := (stale_leases_powerless create_single).1 [] (text "c") 0 (singleLease 1)
    [.release (singleLease 1)] [.acquire (text "c") 0] 0 hok habsent
  simp only [Run.run_nil, hremoved] at hpowerless
  refine ⟨?_, hpowerless.1, hpowerless.2.2⟩
  simp only [Run.run_cons, Run.run_nil, call, acquire_single (show (2 : UInt64) ≠ 0 by decide)]
  exact AList.lookup_insert _

end LeaseManager

end PersonalVpn.Core
