import Mathlib.Logic.Function.Basic
import PersonalVpn.Core.LeaseRuns
import PersonalVpn.Core.SessionLeases

namespace PersonalVpn.Core

open Protocol

/-- Any number of session controllers on one lease manager. -/
structure Fleet (ι : Type) where
  manager : LeaseManager
  session : ι → Option SessionController

/-- A call on one of the controllers, its construction or its destruction. -/
inductive FleetEvent (ι : Type) where
  | create (i : ι) (identity : Bytes)
  | handle (i : ι) (frame : Frame) (now : TimePoint)
  | makeDataToClient (i : ι) (packet : Bytes) (now : TimePoint)
  | onTransportClosed (i : ι)
  | destroy (i : ι)

/-- The time argument of a call. -/
def FleetEvent.time {ι : Type} : FleetEvent ι → Option TimePoint
  | .create _ _ => none
  | .handle _ _ now => some now
  | .makeDataToClient _ _ now => some now
  | .onTransportClosed _ => none
  | .destroy _ => none

namespace Fleet

variable {ι : Type} [DecidableEq ι]

/-- A manager without sessions. -/
def start (m : LeaseManager) : Fleet ι := ⟨m, fun _ => none⟩

/-- Put back a controller and the manager after a call. -/
def put (F : Fleet ι) (i : ι) (after : SessionController × LeaseManager) : Fleet ι :=
  ⟨after.2, Function.update F.session i (some after.1)⟩

/-- One call. A call on an object that does not exist does nothing, and so does a construction
that throws or reuses the name of a live object. -/
def step (F : Fleet ι) : FleetEvent ι → Fleet ι
  | .create i identity =>
    match F.session i, SessionController.create identity with
    | none, .ok s => F.put i (s, F.manager)
    | _, _ => F
  | .handle i frame now =>
    match F.session i with
    | some s => F.put i (s.handle F.manager frame now).2
    | none => F
  | .makeDataToClient i packet now =>
    match F.session i with
    | some s => F.put i (s.makeDataToClient F.manager packet now).2
    | none => F
  | .onTransportClosed i =>
    match F.session i with
    | some s => F.put i (s.onTransportClosed F.manager)
    | none => F
  | .destroy i =>
    match F.session i with
    | some s => ⟨s.destroy F.manager, Function.update F.session i none⟩
    | none => F

/-- The manager's invariant, and how the controllers' cached leases relate to its entries: each is
coherent with them, no two have the same identifier, and every entry is one of them. -/
structure Inv (F : Fleet ι) : Prop where
  manager : F.manager.Inv
  holds : ∀ {i s}, F.session i = some s → s.Holds
  coherent : ∀ {i s}, F.session i = some s → s.Coherent F.manager
  apart : ∀ {i j s t l k}, F.session i = some s → F.session j = some t → s.lease = some l →
    t.lease = some k → l.leaseId = k.leaseId → i = j
  held : ∀ {id e}, F.manager.entry id = some e → ∃ i s, F.session i = some s ∧ s.lease = some e

omit [DecidableEq ι] in
theorem inv_start {m : LeaseManager} (h : m.Inv) (hm : ∀ id, m.entry id = none) :
    (start m : Fleet ι).Inv where
  manager := h
  holds := by
    intro i s hi
    cases hi
  coherent := by
    intro i s hi
    cases hi
  apart := by
    intro i j s t l k hi
    cases hi
  held := by
    intro id e he
    rw [start, hm] at he
    cases he

/-- A call on one controller keeps the invariant of them all. -/
theorem Inv.put {F : Fleet ι} (h : F.Inv) {i : ι} {s s' : SessionController} {m' : LeaseManager}
    {time : Option TimePoint} (hi : F.session i = some s) (hid : s'.identity = s.identity)
    (he : s.Effect F.manager time s' m') : (F.put i (s', m')).Inv := by
  -- the other controllers' identifiers differ from the one the call leaves
  have hother {j : ι} {t : SessionController} {k e : Lease} (hj : F.session j = some t)
      (hji : j ≠ i) (hk : t.lease = some k) (hl : s'.lease = some e) : e.leaseId ≠ k.leaseId := by
    intro heq
    obtain ⟨l, hl', hleq⟩ | hno := he.leaseId h.manager hl
    · exact hji (h.apart hj hi hk hl' (heq.symm.trans hleq.symm))
    · rw [heq] at hno
      exact hno (h.coherent hj k hk).2.1
  have hcases {j : ι} {t : SessionController} (hj : (F.put i (s', m')).session j = some t) :
      (j = i ∧ t = s') ∨ (j ≠ i ∧ F.session j = some t) := by
    by_cases hji : j = i
    · subst hji
      simp only [Fleet.put, Function.update_self, Option.some.injEq] at hj
      exact .inl ⟨rfl, hj.symm⟩
    · simp only [Fleet.put, Function.update_of_ne hji] at hj
      exact .inr ⟨hji, hj⟩
  constructor
  case manager => exact he.inv h.manager
  case holds =>
    intro j t hj
    obtain ⟨rfl, rfl⟩ | ⟨-, hj⟩ := hcases hj
    · exact he.holds (h.holds hi)
    · exact h.holds hj
  case coherent =>
    intro j t hj
    obtain ⟨rfl, rfl⟩ | ⟨hji, hj⟩ := hcases hj
    · exact he.coherent h.manager (h.coherent hi) hid
    · intro k hk
      obtain ⟨hkid, hiss, hm⟩ := h.coherent hj k hk
      refine ⟨hkid, he.issued h.manager hiss, fun e hentry heq => ?_⟩
      obtain hl | ⟨hentry, -⟩ := he.entry h.manager hentry
      · exact absurd heq (hother hj hji hk hl)
      · exact hm e hentry heq
  case apart =>
    intro j j' t t' k k' hj hj' hk hk' heq
    obtain ⟨hji, ht⟩ | ⟨hji, hjF⟩ := hcases hj <;>
      obtain ⟨hji', ht'⟩ | ⟨hji', hjF'⟩ := hcases hj'
    · rw [hji, hji']
    · exact absurd heq (hother hjF' hji' hk' (by rw [← ht, hk]))
    · exact absurd heq.symm (hother hjF hji hk (by rw [← ht', hk']))
    · exact h.apart hjF hjF' hk hk' heq
  case held =>
    intro id e hentry
    obtain hl | ⟨hentry, hkeep⟩ := he.entry h.manager hentry
    · exact ⟨i, s', by simp [Fleet.put], hl⟩
    · obtain ⟨j, t, hj, hl⟩ := h.held hentry
      by_cases hji : j = i
      · subst hji
        rw [hi] at hj
        cases hj
        exact ⟨j, s', by simp [Fleet.put], hkeep hl⟩
      · exact ⟨j, t, by simp [Fleet.put, Function.update_of_ne hji, hj], hl⟩

/-- Controllers without a lease may come and go. -/
theorem Inv.replace {F : Fleet ι} (h : F.Inv) {i : ι} {o : Option SessionController}
    (hold : ∀ s, F.session i = some s → s.lease = none)
    (hnew : ∀ s, o = some s → s.lease = none ∧ s.state ≠ .established) :
    (⟨F.manager, Function.update F.session i o⟩ : Fleet ι).Inv := by
  have hcases {j : ι} {t : SessionController} (hj : Function.update F.session i o j = some t) :
      (t.lease = none ∧ t.state ≠ .established) ∨ F.session j = some t := by
    by_cases hji : j = i
    · subst hji
      rw [Function.update_self] at hj
      exact .inl (hnew t hj)
    · rw [Function.update_of_ne hji] at hj
      exact .inr hj
  have hleased {j : ι} {t : SessionController} {k : Lease}
      (hj : Function.update F.session i o j = some t) (hk : t.lease = some k) :
      F.session j = some t := by
    obtain ⟨hno, -⟩ | hj := hcases hj
    · rw [hno] at hk
      cases hk
    · exact hj
  constructor
  case manager => exact h.manager
  case holds =>
    intro j t hj
    obtain ⟨hno, hst⟩ | hj := hcases hj
    · simp [SessionController.Holds, hno, hst]
    · exact h.holds hj
  case coherent => exact fun hj k hk => h.coherent (hleased hj hk) k hk
  case apart => exact fun hj hj' hk hk' => h.apart (hleased hj hk) (hleased hj' hk') hk hk'
  case held =>
    intro id e hentry
    obtain ⟨j, t, hj, hl⟩ := h.held hentry
    have hji : j ≠ i := by
      rintro rfl
      rw [hold t hj] at hl
      cases hl
    exact ⟨j, t, by simp [Function.update_of_ne hji, hj], hl⟩

/-- Everything an event can do: nothing, a controller without a lease comes, or a call is made on
one, which the destructor then removes. -/
theorem step_cases {F : Fleet ι} (h : F.Inv) (e : FleetEvent ι) :
    F.step e = F ∨
    (∃ i identity, F.session i = none ∧
      F.step e = ⟨F.manager, Function.update F.session i (some { identity })⟩) ∨
    (∃ i s s' m', F.session i = some s ∧ s'.identity = s.identity ∧
      s.Effect F.manager e.time s' m' ∧ F.step e = F.put i (s', m')) ∨
    (∃ i s s' m', F.session i = some s ∧ s'.identity = s.identity ∧ s'.lease = none ∧
      s.Effect F.manager e.time s' m' ∧ F.step e = ⟨m', Function.update F.session i none⟩) := by
  cases e with
  | create i identity =>
    simp only [step]
    cases hi : F.session i with
    | some s => exact .inl rfl
    | none =>
      rw [SessionController.create]
      by_cases hid : identity = []
      · rw [if_pos hid]
        exact .inl rfl
      · rw [if_neg hid]
        exact .inr (.inl ⟨i, identity, hi, rfl⟩)
  | handle i f now =>
    simp only [step]
    cases hi : F.session i with
    | none => exact .inl rfl
    | some s =>
      obtain ⟨he, hid⟩ := SessionController.handle_effect h.manager (h.holds hi) (h.coherent hi) f now
      exact .inr (.inr (.inl ⟨i, s, _, _, hi, hid, he, rfl⟩))
  | makeDataToClient i packet now =>
    simp only [step]
    cases hi : F.session i with
    | none => exact .inl rfl
    | some s =>
      obtain ⟨he, hid⟩ := SessionController.makeDataToClient_effect h.manager (h.holds hi)
        (h.coherent hi) packet now
      exact .inr (.inr (.inl ⟨i, s, _, _, hi, hid, he, rfl⟩))
  | onTransportClosed i =>
    simp only [step]
    cases hi : F.session i with
    | none => exact .inl rfl
    | some s =>
      have he := SessionController.onTransportClosed_effect h.manager (h.coherent hi)
      refine .inr (.inr (.inl ⟨i, s, _, _, hi, ?_, he, rfl⟩))
      rw [SessionController.onTransportClosed_fst]
  | destroy i =>
    simp only [step]
    cases hi : F.session i with
    | none => exact .inl rfl
    | some s =>
      have he := SessionController.onTransportClosed_effect h.manager (h.coherent hi)
      refine .inr (.inr (.inr ⟨i, s, _, _, hi, ?_, ?_, he, ?_⟩))
      · rw [SessionController.onTransportClosed_fst]
      · rw [SessionController.onTransportClosed_fst]
      · simp only [SessionController.destroy_eq]

/-- Every event keeps the invariant. -/
theorem Inv.step {F : Fleet ι} (h : F.Inv) (e : FleetEvent ι) : (F.step e).Inv := by
  obtain heq | ⟨i, identity, hi, heq⟩ | ⟨i, s, s', m', hi, hid, he, heq⟩ |
    ⟨i, s, s', m', hi, hid, hl, he, heq⟩ := step_cases h e
  · rwa [heq]
  · rw [heq]
    refine h.replace (fun s hs => by rw [hi] at hs; cases hs) ?_
    rintro s ⟨rfl⟩
    exact ⟨rfl, (by simp)⟩
  · rw [heq]
    exact h.put hi hid he
  · rw [heq]
    have hput := h.put hi hid he
    have hrep := hput.replace (i := i) (o := none)
      (fun t ht => by simp only [Fleet.put, Function.update_self] at ht; cases ht; exact hl) (by simp)
    simpa [Fleet.put] using hrep

theorem inv_run {F : Fleet ι} (h : F.Inv) (es : List (FleetEvent ι)) : (Run.run step F es).Inv :=
  Run.invariant (P := Inv) (fun _ e hF => Inv.step hF e) h es

/-- The fleets reached from a freshly constructed manager. -/
theorem inv_reached {first last gateway : Ipv4Address} {prefixLength : UInt8} {mtu : UInt16}
    {duration : Int} {v6Prefix v6Gateway : Ipv6Address} {v6Length : UInt8} {m₀ : LeaseManager}
    (h₀ : LeaseManager.create first last gateway prefixLength mtu duration v6Prefix v6Gateway
      v6Length = .ok m₀) (es : List (FleetEvent ι)) : (Run.run step (start m₀) es).Inv := by
  refine inv_run (inv_start (LeaseManager.inv_create h₀) fun id => ?_) es
  obtain ⟨rfl, -⟩ := LeaseManager.create_ok_iff.mp h₀
  rfl

end Fleet

end PersonalVpn.Core
