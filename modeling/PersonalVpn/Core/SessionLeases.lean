import PersonalVpn.Core.SessionSteps

namespace PersonalVpn.Core

open Protocol

namespace SessionController

/-- The lease a controller caches is the one the manager stores, or one the manager no longer
has. -/
def Coherent (s : SessionController) (m : LeaseManager) : Prop :=
  ∀ l, s.lease = some l → l.identity = s.identity ∧ m.Issued l.leaseId ∧
    ∀ e, m.entry s.identity = some e → e.leaseId = l.leaseId → e = l

/-- `m'` is `m` without the lease `own` and without some leases expired at `time`. -/
structure Shrinks (m : LeaseManager) (own : Option Lease) (time : Option TimePoint)
    (m' : LeaseManager) : Prop where
  inv : m'.Inv
  policy : m'.toLeasePolicy = m.toLeasePolicy
  issued : ∀ i, m.Issued i → m'.Issued i
  sub : ∀ id e, m'.entry id = some e → m.entry id = some e
  gone : ∀ l, own = some l → m'.entry l.identity ≠ some l
  kept : ∀ id e, m.entry id = some e → own ≠ some e →
    (∀ now, time = some now → now < e.expiresAt) → m'.entry id = some e

theorem Shrinks.refl {m : LeaseManager} (h : m.Inv) (time : Option TimePoint) :
    Shrinks m none time m :=
  ⟨h, rfl, fun _ hi => hi, fun _ _ he => he, (by simp), fun _ _ he _ _ => he⟩

theorem Shrinks.reap {m : LeaseManager} (h : m.Inv) (now : TimePoint) :
    Shrinks m none (some now) (m.reapExpiredLocked now).2 := by
  obtain ⟨hinv, hr⟩ := h.reap now
  refine ⟨hinv, hr.policy, fun i hi => ?_, fun id e he => ((hr.entry id e).mp he).1,
    (by simp), fun id e he _ ht => (hr.entry id e).mpr ⟨he, ht now rfl⟩⟩
  rwa [LeaseManager.Issued, hr.nextLeaseId]

theorem Shrinks.weaken {m m' : LeaseManager} {own : Option Lease} (h : Shrinks m own none m')
    (time : Option TimePoint) : Shrinks m own time m' :=
  ⟨h.inv, h.policy, h.issued, h.sub, h.gone, fun id e he hne _ => h.kept id e he hne
    (by simp)⟩

/-- Releasing a lease takes it away from a manager that stores it, and changes nothing else. -/
theorem Shrinks.release {m : LeaseManager} (h : m.Inv) {l : Lease}
    (hl : ∀ e, m.entry l.identity = some e → e.leaseId = l.leaseId → e = l) :
    Shrinks m (some l) none (m.release l).2 := by
  rcases hr : m.release l with ⟨b, m'⟩
  cases b with
  | true =>
    obtain ⟨hinv, hrel⟩ := h.release_true hr
    have hsub (id : Bytes) (e : Lease) (he : m'.entry id = some e) :
        id ≠ l.identity ∧ m.entry id = some e := by
      rw [hrel.entry] at he
      split_ifs at he with hid
      exact ⟨hid, he⟩
    refine ⟨hinv, hrel.policy, fun i hi => ?_, fun id e he => (hsub id e he).2, ?_, ?_⟩
    · rwa [LeaseManager.Issued, hrel.next]
    · rintro l₀ ⟨rfl⟩ he
      exact (hsub _ _ he).1 rfl
    · intro id e he hne _
      obtain ⟨l₀, hl₀, hid₀, -⟩ := hrel.old
      have hid : id ≠ l.identity := by
        rintro rfl
        rw [hl₀] at he
        cases he
        exact hne (by rw [hl e hl₀ hid₀])
      rw [hrel.entry, if_neg hid]
      exact he
  | false =>
    obtain ⟨rfl, hno⟩ := LeaseManager.release_false hr
    refine ⟨h, rfl, fun _ hi => hi, fun _ _ he => he, ?_, fun _ _ he _ _ => he⟩
    rintro l₀ ⟨rfl⟩ he
    exact hno l he rfl rfl

/-- Two removals in a row. -/
theorem Shrinks.trans {m m₁ m₂ : LeaseManager} {own : Option Lease} {time : Option TimePoint}
    (h₁ : Shrinks m none time m₁) (h₂ : Shrinks m₁ own none m₂) : Shrinks m own time m₂ :=
  ⟨h₂.inv, h₂.policy.trans h₁.policy, fun i hi => h₂.issued i (h₁.issued i hi),
    fun id e he => h₁.sub id e (h₂.sub id e he), h₂.gone,
    fun id e he hne ht => h₂.kept id e (h₁.kept id e he (by simp) ht) hne
      (by simp)⟩

theorem Coherent.matches {s : SessionController} {m : LeaseManager} (h : s.Coherent m) {l : Lease}
    (hl : s.lease = some l) :
    ∀ e, m.entry l.identity = some e → e.leaseId = l.leaseId → e = l := by
  obtain ⟨hid, -, hm⟩ := h l hl
  rwa [hid]

/-- Closing a session takes its lease away and leaves every other one. -/
theorem shrinks_releaseLease {s : SessionController} {m : LeaseManager} (h : m.Inv)
    (hc : s.Coherent m) : Shrinks m s.lease none (s.releaseLease m).2 := by
  cases hl : s.lease with
  | none =>
    rw [releaseLease_of_none hl]
    exact .refl h _
  | some l =>
    rw [releaseLease_of_some hl]
    exact .release h (hc.matches hl)

/-- A lease acquired or renewed and released again in one call. -/
private theorem shrinks_returned {m m₁ : LeaseManager} {id : Bytes} {l : Lease} {now : TimePoint}
    {own : Option Lease} (h₁ : m₁.Inv) (hp : m₁.toLeasePolicy = m.toLeasePolicy)
    (hiss : ∀ i, m.Issued i → m₁.Issued i) (hid : l.identity = id) (hself : m₁.entry id = some l)
    (hother : ∀ id' l', id' ≠ id →
      (m₁.entry id' = some l' ↔ m.entry id' = some l' ∧ now < l'.expiresAt))
    (hown : ∀ l₀, own = some l₀ → l₀.identity = id)
    (hold : ∀ e, m.entry id = some e → own ≠ some e → e.expiresAt ≤ now) :
    Shrinks m own (some now) (m₁.release l).2 := by
  have hrel := Shrinks.release h₁ (l := l) (fun e he _ => by
    rw [hid, hself] at he
    exact (Option.some.inj he).symm)
  have hnone : (m₁.release l).2.entry id = none := by
    refine Option.eq_none_iff_forall_ne_some.mpr fun e he => ?_
    have hsub := hrel.sub id e he
    rw [hself] at hsub
    cases hsub
    exact hrel.gone l rfl (by rw [hid]; exact he)
  have hsub (id' : Bytes) (e : Lease) (he : (m₁.release l).2.entry id' = some e) :
      id' ≠ id ∧ m.entry id' = some e := by
    have hne : id' ≠ id := by
      rintro rfl
      rw [hnone] at he
      cases he
    exact ⟨hne, ((hother id' e hne).mp (hrel.sub id' e he)).1⟩
  refine ⟨hrel.inv, hrel.policy.trans hp, fun i hi => hrel.issued i (hiss i hi),
    fun id' e he => (hsub id' e he).2, fun l₀ hl₀ he => ?_, fun id' e he hne ht => ?_⟩
  · exact (hsub _ _ he).1 (hown l₀ hl₀)
  · have hid' : id' ≠ id := by
      rintro rfl
      exact not_le.mpr (ht now rfl) (hold e he hne)
    refine hrel.kept id' e ((hother id' e hid').mpr ⟨he, ht now rfl⟩) ?_ (by simp)
    rintro ⟨rfl⟩
    have := h₁.key ((hother id' l hid').mpr ⟨he, ht now rfl⟩)
    exact hid' (this.symm.trans hid)

/-- However a session gives its lease up, that lease and expired ones are all the manager loses. -/
theorem Dropped.shrinks {s : SessionController} {m m' : LeaseManager} {now : TimePoint}
    (h : m.Inv) (hs : s.Holds) (hc : s.Coherent m) (hd : Dropped s m now m') :
    Shrinks m s.lease (some now) m' := by
  cases hd with
  | released => exact (shrinks_releaseLease h hc).weaken _
  | refused state acquire =>
    rw [hs.none (by rw [state]; decide)]
    obtain ⟨-, rfl, -⟩ | ⟨rfl, -⟩ := LeaseManager.acquire_error acquire
    · exact .refl h _
    · exact .reap h now
  | returned state acquire =>
    rw [hs.none (by rw [state]; decide)]
    obtain ⟨h₁, hg⟩ := h.acquire_ok acquire
    exact shrinks_returned h₁ hg.policy
      (fun i hi => (LeaseManager.issued_succ hg.nonzero hg.next).mpr (.inl hi)) (h₁.key hg.self)
      hg.self hg.other (by simp) (fun e he _ => hg.vacant e he)
  | lost lease renew =>
    rw [lease]
    obtain ⟨rfl, -⟩ := h.renew_none renew
    obtain ⟨h₁, hr⟩ := h.reap now
    exact (Shrinks.reap h now).trans (.release h₁ fun e he =>
      hc.matches lease e ((hr.entry _ _).mp he).1)
  | renewed lease renew =>
    rw [lease]
    obtain ⟨h₁, hr⟩ := h.renew_some renew
    obtain ⟨l₀, hl₀, -, hid₀, -, -⟩ := hr.old
    exact shrinks_returned h₁ hr.policy (fun i hi => by rwa [LeaseManager.Issued, hr.next])
      (h₁.key hr.self) hr.self hr.other (fun _ hl => by cases hl; rfl) (fun e he hne => by
        rw [hl₀] at he
        cases he
        exact absurd (by rw [hc.matches lease l₀ hl₀ hid₀]) hne)

/-- What one call on a controller does to its lease and to the manager. -/
inductive Effect (s : SessionController) (m : LeaseManager) (time : Option TimePoint)
    (s' : SessionController) (m' : LeaseManager) : Prop where
  | keep (lease : s'.lease = s.lease) (state : s'.state = s.state) (manager : m' = m)
  | grant {now : TimePoint} {l : Lease} (at_ : time = some now) (none : s.lease = none)
      (acquire : m.acquire s.identity now = (.ok l, m')) (lease : s'.lease = some l)
      (state : s'.state = .established)
  | renew {now : TimePoint} {l l' : Lease} (at_ : time = some now) (old : s.lease = some l)
      (renew : m.renew l now = (some l', m')) (lease : s'.lease = some l')
      (state : s'.state = .established)
  | drop (lease : s'.lease = none) (state : s'.state ≠ .established)
      (manager : Shrinks m s.lease time m')

theorem Handled.identity {s s' : SessionController} {m m' : LeaseManager} {f : Frame}
    {now : TimePoint} {r : SessionResult} (hh : Handled s m f now r s' m') :
    s'.identity = s.identity := by
  cases hh <;> rfl

theorem Handled.effect {s s' : SessionController} {m m' : LeaseManager} {f : Frame}
    {now : TimePoint} {r : SessionResult} (h : m.Inv) (hs : s.Holds) (hc : s.Coherent m)
    (hh : Handled s m f now r s' m') : Effect s m (some now) s' m' := by
  cases hh with
  | inert state => exact .keep rfl rfl rfl
  | failed state encode manager =>
    exact .drop rfl (by simp) (manager.shrinks h hs hc)
  | granted state sequence type decode acquire encode =>
    exact .grant rfl (hs.none (by rw [state]; decide)) acquire rfl rfl
  | packet state sequence lease renew accepts => exact .renew rfl lease renew rfl state
  | pong state sequence lease renew type size => exact .renew rfl lease renew rfl state
  | closed state sequence type =>
    exact .drop rfl (by simp) ((shrinks_releaseLease h hc).weaken _)

theorem Sent.identity {s s' : SessionController} {m m' : LeaseManager} {packet : Bytes}
    {now : TimePoint} {r : Option Frame} (hh : Sent s m packet now r s' m') :
    s'.identity = s.identity := by
  cases hh <;> rfl

theorem Sent.effect {s s' : SessionController} {m m' : LeaseManager} {packet : Bytes}
    {now : TimePoint} {r : Option Frame} (h : m.Inv) (hs : s.Holds) (hc : s.Coherent m)
    (hh : Sent s m packet now r s' m') : Effect s m (some now) s' m' := by
  cases hh with
  | ignored => exact .keep rfl rfl rfl
  | lost state lease renew =>
    exact .drop rfl (by simp) ((Dropped.lost lease renew).shrinks h hs hc)
  | sent state lease renew delivers => exact .renew rfl lease renew rfl state

theorem onTransportClosed_effect {s : SessionController} {m : LeaseManager} (h : m.Inv)
    (hc : s.Coherent m) :
    Effect s m none (s.onTransportClosed m).1 (s.onTransportClosed m).2 := by
  rw [onTransportClosed, releaseLease_eq (s := s) (by rfl)]
  exact .drop rfl (by simp) (shrinks_releaseLease h hc)

theorem onTransportClosed_fst (s : SessionController) (m : LeaseManager) :
    (s.onTransportClosed m).1 = { s with state := .closed, lease := none } := by
  rw [onTransportClosed, releaseLease_eq rfl]

/-- The destructor does to the manager what closing the transport does. -/
theorem destroy_eq (s : SessionController) (m : LeaseManager) :
    s.destroy m = (s.onTransportClosed m).2 := by
  rw [onTransportClosed, releaseLease_eq (s := s) (by rfl), destroy]

theorem handle_effect {s : SessionController} {m : LeaseManager} (h : m.Inv) (hs : s.Holds)
    (hc : s.Coherent m) (f : Frame) (now : TimePoint) :
    Effect s m (some now) (s.handle m f now).2.1 (s.handle m f now).2.2 ∧
      (s.handle m f now).2.1.identity = s.identity := by
  obtain ⟨r, s', m', heq, hh⟩ := handle_handled hs m f now
  rw [heq]
  exact ⟨hh.effect h hs hc, hh.identity⟩

theorem makeDataToClient_effect {s : SessionController} {m : LeaseManager} (h : m.Inv)
    (hs : s.Holds) (hc : s.Coherent m) (packet : Bytes) (now : TimePoint) :
    Effect s m (some now) (s.makeDataToClient m packet now).2.1
        (s.makeDataToClient m packet now).2.2 ∧
      (s.makeDataToClient m packet now).2.1.identity = s.identity := by
  obtain ⟨r, s', m', heq, hh⟩ := makeDataToClient_sent s m packet now
  rw [heq]
  exact ⟨hh.effect h hs hc, hh.identity⟩

/-- After a call the controller holds a lease exactly while established. -/
theorem Effect.holds {s s' : SessionController} {m m' : LeaseManager} {time : Option TimePoint}
    (hs : s.Holds) (he : Effect s m time s' m') : s'.Holds := by
  cases he with
  | keep lease state manager => rwa [Holds, lease, state]
  | grant at_ none acquire lease state => simp [Holds, lease, state]
  | renew at_ old renew lease state => simp [Holds, lease, state]
  | drop lease state manager => simp [Holds, lease, state]

theorem Effect.inv {s s' : SessionController} {m m' : LeaseManager} {time : Option TimePoint}
    (h : m.Inv) (he : Effect s m time s' m') : m'.Inv := by
  cases he with
  | keep lease state manager => rwa [manager]
  | grant at_ none acquire lease state => exact (h.acquire_ok acquire).1
  | renew at_ old renew lease state => exact (h.renew_some renew).1
  | drop lease state manager => exact manager.inv

theorem Effect.issued {s s' : SessionController} {m m' : LeaseManager} {time : Option TimePoint}
    (h : m.Inv) (he : Effect s m time s' m') {i : UInt64} (hi : m.Issued i) : m'.Issued i := by
  cases he with
  | keep lease state manager => rwa [manager]
  | grant at_ none acquire lease state =>
    obtain ⟨-, hg⟩ := h.acquire_ok acquire
    exact (LeaseManager.issued_succ hg.nonzero hg.next).mpr (.inl hi)
  | renew at_ old renew lease state =>
    obtain ⟨-, hr⟩ := h.renew_some renew
    rwa [LeaseManager.Issued, hr.next]
  | drop lease state manager => exact manager.issued i hi

/-- The controller's own lease stays coherent with the manager. -/
theorem Effect.coherent {s s' : SessionController} {m m' : LeaseManager}
    {time : Option TimePoint} (h : m.Inv) (hc : s.Coherent m) (hid : s'.identity = s.identity)
    (he : Effect s m time s' m') : s'.Coherent m' := by
  intro l hl
  cases he with
  | keep lease state manager =>
    rw [lease] at hl
    rw [hid, manager]
    exact hc l hl
  | grant at_ none acquire lease state =>
    rw [lease] at hl
    cases hl
    obtain ⟨hinv, hg⟩ := h.acquire_ok acquire
    rw [hid]
    refine ⟨hinv.key hg.self, hinv.issued hg.self, fun e he _ => ?_⟩
    rw [hg.self] at he
    exact (Option.some.inj he).symm
  | renew at_ old renew lease state =>
    rw [lease] at hl
    cases hl
    obtain ⟨hinv, hr⟩ := h.renew_some renew
    rw [hid, ← (hc _ old).1]
    refine ⟨hinv.key hr.self, hinv.issued hr.self, fun e he _ => ?_⟩
    rw [hr.self] at he
    exact (Option.some.inj he).symm
  | drop lease state manager =>
    rw [lease] at hl
    cases hl

/-- The identifier of the lease after the call is that of the one before, or was never issued. -/
theorem Effect.leaseId {s s' : SessionController} {m m' : LeaseManager} {time : Option TimePoint}
    (h : m.Inv) (he : Effect s m time s' m') {e : Lease} (hl : s'.lease = some e) :
    (∃ l, s.lease = some l ∧ l.leaseId = e.leaseId) ∨ ¬m.Issued e.leaseId := by
  cases he with
  | keep lease state manager => exact .inl ⟨e, by rw [← lease, hl], rfl⟩
  | grant at_ none acquire lease state =>
    rw [lease] at hl
    cases hl
    obtain ⟨-, hg⟩ := h.acquire_ok acquire
    refine .inr ?_
    rw [hg.leaseId]
    exact LeaseManager.not_issued_next m
  | renew at_ old renew lease state =>
    rw [lease] at hl
    cases hl
    obtain ⟨-, hr⟩ := h.renew_some renew
    obtain ⟨l₀, -, -, hid₀, -, rfl⟩ := hr.old
    exact .inl ⟨_, old, hid₀.symm⟩
  | drop lease state manager =>
    rw [lease] at hl
    cases hl

/-- An entry after the call was there before, or is the lease the call stored. -/
theorem Effect.entry {s s' : SessionController} {m m' : LeaseManager} {time : Option TimePoint}
    (h : m.Inv) (he : Effect s m time s' m') {id : Bytes} {e : Lease}
    (hentry : m'.entry id = some e) :
    s'.lease = some e ∨ (m.entry id = some e ∧ (s.lease = some e → s'.lease = some e)) := by
  cases he with
  | keep lease state manager =>
    rw [manager] at hentry
    exact .inr ⟨hentry, fun hl => by rwa [lease]⟩
  | grant at_ none acquire lease state =>
    obtain ⟨-, hg⟩ := h.acquire_ok acquire
    by_cases hid : id = s.identity
    · rw [hid, hg.self] at hentry
      exact .inl (by rw [lease, hentry])
    · exact .inr ⟨((hg.other id e hid).mp hentry).1, fun hl => by rw [none] at hl; cases hl⟩
  | renew at_ old renew lease state =>
    obtain ⟨hinv, hr⟩ := h.renew_some renew
    rename_i l l'
    by_cases hid : id = l.identity
    · rw [hid, hr.self] at hentry
      exact .inl (by rw [lease, hentry])
    · refine .inr ⟨((hr.other id e hid).mp hentry).1, fun hl => ?_⟩
      rw [old] at hl
      cases hl
      exact absurd (hinv.key hentry).symm hid
  | drop lease state manager =>
    refine .inr ⟨manager.sub id e hentry, fun hl => ?_⟩
    have hkey := manager.inv.key hentry
    exact absurd (by rw [hkey]; exact hentry) (manager.gone e hl)

/-- An entry another controller holds outlives the call, unless the call ran when it was
expired. -/
theorem Effect.others {s s' : SessionController} {m m' : LeaseManager} {time : Option TimePoint}
    (h : m.Inv) (he : Effect s m time s' m') {id : Bytes} {e : Lease}
    (hentry : m.entry id = some e) (hne : ∀ l, s.lease = some l → l.leaseId ≠ e.leaseId) :
    m'.entry id = some e ∨ ∃ now, time = some now ∧ e.expiresAt ≤ now := by
  by_cases hx : ∃ now, time = some now ∧ e.expiresAt ≤ now
  · exact .inr hx
  have hlive (now : TimePoint) (ht : time = some now) : now < e.expiresAt :=
    not_le.mp fun hle => hx ⟨now, ht, hle⟩
  refine .inl ?_
  cases he with
  | keep lease state manager => rwa [manager]
  | grant at_ none acquire lease state =>
    obtain ⟨-, hg⟩ := h.acquire_ok acquire
    have hid : id ≠ s.identity := by
      rintro rfl
      exact not_le.mpr (hlive _ at_) (hg.vacant e hentry)
    exact (hg.other id e hid).mpr ⟨hentry, hlive _ at_⟩
  | renew at_ old renew lease state =>
    obtain ⟨-, hr⟩ := h.renew_some renew
    rename_i l l'
    obtain ⟨l₀, hl₀, -, hid₀, -, -⟩ := hr.old
    have hid : id ≠ l.identity := by
      rintro rfl
      rw [hl₀] at hentry
      cases hentry
      exact hne l old hid₀.symm
    exact (hr.other id e hid).mpr ⟨hentry, hlive _ at_⟩
  | drop lease state manager =>
    exact manager.kept id e hentry (fun hl => hne e hl rfl) hlive

end SessionController

end PersonalVpn.Core
