import PersonalVpn.Lib.Progress
import PersonalVpn.Server.AdmissionAccounts

namespace PersonalVpn.Server

open PersonalVpn.Core Protocol

/-- The handlers that a session at this stage has before it until its object is gone. -/
def CloseStage.remaining : CloseStage → Nat
  | .open => 4
  | .releasing => 3
  | .notifying => 2
  | .done => 1

namespace TlsTunnelSession

variable {σ : Type}

/-- No event takes a session back to an earlier stage of `close_now`. -/
theorem step_remaining_le (h : Handlers σ) {s : TlsTunnelSession}
    (hs : s.stopped = false ↔ s.closing = .open) (w : Shared σ) (e : SessionEvent) :
    (s.step h w e).1.closing.remaining ≤ s.closing.remaining := by
  by_cases hclose : e = .close
  · rw [hclose]
    obtain ⟨-, -, hcase⟩ := closeStep_lives h s w
    change (s.closeStep h w).1.closing.remaining ≤ _
    obtain ⟨hc, hc', -⟩ | ⟨hc, hc', -⟩ | ⟨-, -, hc', -⟩ := hcase
    · simp [hc, hc', CloseStage.remaining]
    · simp [hc, hc', CloseStage.remaining]
    · rw [hc']
  · obtain ⟨-, hc⟩ | ⟨hopen, -, hc⟩ := (step_lived h s w hclose).closing
    · rw [hc]
    · simp [hs.mp hopen, hc, CloseStage.remaining]

/-- The function that `stop` posts, once the loop of `handle_read` has ended. -/
theorem step_stop (h : Handlers σ) {s : TlsTunnelSession} (w : Shared σ)
    (hopen : s.stopped = false) (hidle : s.inbound = []) :
    (s.step h w .stop).1.closing = .releasing := by
  simp [step, whenIdle, hidle, closeNow, hopen]

end TlsTunnelSession

namespace Admission

variable {ι : Type} [DecidableEq ι] {A : Admission ι} {maximumSessions : Nat} {handler : Bool}

/-- The handlers by which a session that was told to stop leaves the server: the one that `stop`
posts, which waits for the loop of `handle_read`, the two effects of `close_now`, and the
`remove_session` that the close handler posts. -/
def leaving (i : ι) : List (Admission ι → ServerEvent ι → Prop) :=
  [fun A e => e = .session i .stop ∧ ∀ s, A.server.session i = some s → s.inbound = [],
    fun _ e => e = .session i .close, fun _ e => e = .session i .close,
    fun _ e => e = .remove i]

/-- How many of these handlers the session `i` has before it. -/
def remaining (i : ι) (A : Admission ι) : Nat :=
  ((A.server.session i).map (·.closing.remaining)).getD 0

omit [DecidableEq ι] in
@[simp] theorem remaining_none {i : ι} (hi : A.server.session i = none) : A.remaining i = 0 := by
  simp [remaining, hi]

omit [DecidableEq ι] in
@[simp] theorem remaining_some {i : ι} {s : TlsTunnelSession} (hi : A.server.session i = some s) :
    A.remaining i = s.closing.remaining := by
  simp [remaining, hi]

omit [DecidableEq ι] in
theorem remaining_eq_zero {i : ι} : A.remaining i = 0 ↔ A.server.session i = none := by
  cases hi : A.server.session i with
  | none => simp [hi]
  | some s => cases hc : s.closing <;> simp [hi, hc, CloseStage.remaining]

omit [DecidableEq ι] in
theorem remaining_le (A : Admission ι) (i : ι) : A.remaining i ≤ (leaving i).length := by
  cases hi : A.server.session i with
  | none => simp [hi]
  | some s => cases hc : s.closing <;> simp [hi, hc, CloseStage.remaining, leaving]

/-- The session of a name after an event of the server's step function. -/
theorem Inv.step_session (h : A.Inv maximumSessions handler) {i : ι} {s : TlsTunnelSession}
    (hi : A.server.session i = some s) (event : SessionEvent) :
    (A.step (.session i event)).server.session i = some
      (s.step (TlsTunnelServer.handlers A.server.active i) A.server.shared event).1 := by
  rw [h.server_step]
  simp [TlsTunnelServer.step, hi, TlsTunnelServer.put]

theorem Inv.step_session_ne (h : A.Inv maximumSessions handler) {i j : ι} (hij : i ≠ j)
    (event : SessionEvent) :
    (A.step (.session j event)).server.session i = A.server.session i := by
  rw [h.server_step]
  cases hj : A.server.session j with
  | none => simp [TlsTunnelServer.step, hj]
  | some t => simp [TlsTunnelServer.step, hj, TlsTunnelServer.put, hij]

/-- In a server that is stopping no session has more handlers before it after a step. -/
theorem Inv.remaining_step (h : A.Inv maximumSessions handler) (hstop : A.server.stopping = true)
    (e : ServerEvent ι) (i : ι) : (A.step e).remaining i ≤ A.remaining i := by
  have hsame (heq : (A.step e).server.session i = A.server.session i) :
      (A.step e).remaining i ≤ A.remaining i := by
    rw [remaining, heq]
    exact Nat.le_refl _
  cases e with
  | accept j =>
    apply hsame
    rw [h.server_step]
    simp [TlsTunnelServer.step, hstop]
  | acceptFailed aborted =>
    apply hsame
    rw [h.server_step]
    simp [TlsTunnelServer.step, hstop]
  | session j event =>
    by_cases hij : i = j
    · cases hi : A.server.session i with
      | none =>
        apply hsame
        rw [h.server_step]
        simp [TlsTunnelServer.step, ← hij, hi]
      | some s =>
        rw [hij] at hi ⊢
        rw [remaining_some (h.step_session hi event), remaining_some hi]
        exact TlsTunnelSession.step_remaining_le _ (h.stage hi) _ event
    · exact hsame (h.step_session_ne hij event)
  | remove j =>
    rw [remaining, h.server_step, TlsTunnelServer.step]
    split
    · exact Nat.le_refl _
    · split
      · by_cases hij : i = j
        · simp [TlsTunnelServer.removeSession, hij]
        · simp [TlsTunnelServer.removeSession, hij, remaining]
      · exact Nat.le_refl _
  | stop =>
    apply hsame
    rw [h.server_step]
    rfl

/-- Each of the handlers takes the session one stage further. -/
theorem lowers_leaving (i : ι) : Run.Lowers step (fun A : Admission ι =>
    A.Inv maximumSessions handler ∧ A.server.stopping = true) (remaining i) (leaving i) := by
  have hclose {A : Admission ι} (h : A.Inv maximumSessions handler) {n : Nat}
      (hn : A.remaining i = n + 1) (hmid : n = 1 ∨ n = 2) :
      (A.step (.session i .close)).remaining i ≤ n := by
    cases hi : A.server.session i with
    | none => simp [hi] at hn
    | some s =>
      rw [remaining_some hi] at hn
      rw [remaining_some (h.step_session hi .close)]
      obtain ⟨-, -, hcase⟩ := TlsTunnelSession.closeStep_lives
        (TlsTunnelServer.handlers A.server.active i) s A.server.shared
      change (s.closeStep _ _).1.closing.remaining ≤ n
      obtain ⟨hc, hc', -⟩ | ⟨hc, hc', -⟩ | ⟨hno, hno', hc', -⟩ := hcase
      · rw [hc] at hn
        rw [hc']
        simp [CloseStage.remaining] at hn ⊢
        omega
      · rw [hc] at hn
        rw [hc']
        simp [CloseStage.remaining] at hn ⊢
        omega
      · cases hc : s.closing <;> simp [hc, CloseStage.remaining] at hn hno hno'
        all_goals omega
  refine ⟨?_, ?_, ?_, ?_, trivial⟩
  · rintro A e ⟨h, -⟩ ⟨rfl, hidle⟩ hn
    cases hi : A.server.session i with
    | none => simp [hi] at hn
    | some s =>
      rw [remaining_some hi] at hn
      have hopen : s.closing = .open := by
        cases hc : s.closing <;> simp [hc, CloseStage.remaining] at hn ⊢
      rw [remaining_some (h.step_session hi .stop),
        TlsTunnelSession.step_stop _ _ ((h.stage hi).mpr hopen) (hidle s hi)]
      exact Nat.le_refl _
  · rintro A e ⟨h, -⟩ rfl hn
    exact hclose h hn (.inr rfl)
  · rintro A e ⟨h, -⟩ rfl hn
    exact hclose h hn (.inl rfl)
  · rintro A e ⟨h, -⟩ rfl hn
    cases hi : A.server.session i with
    | none => simp [hi] at hn
    | some s =>
      rw [remaining_some hi] at hn
      have hdone : s.closing = .done := by
        cases hc : s.closing <;> simp [hc, CloseStage.remaining] at hn ⊢
      rw [remaining_none]
      · exact Nat.le_refl _
      · rw [h.server_step]
        simp [TlsTunnelServer.step, hi, hdone, TlsTunnelServer.removeSession]

/-- A server that has given everything back. -/
structure Drained (A : Admission ι) : Prop where
  sessions : A.server.sessions = []
  objects : ∀ i, A.server.session i = none
  activeSessionCount : A.server.activeSessionCount = 0
  posted : A.posted = []
  removals : (A.removals.map Prod.fst).Perm (List.range A.created)
  closed : A.server.shared.metrics.closedSessions = A.server.shared.metrics.acceptedConnections
  leases : ∀ identity, A.server.shared.manager.entry identity = none
  available : ∀ now, (A.server.shared.manager.availableCount now).1.toNat =
    A.server.shared.manager.poolSize
  routes : (A.server.shared.outside.router.activeRoutes A.server.active).1 = 0

/-- A map in which no key is found has no entries. -/
theorem entries_eq_nil {κ β : Type} [DecidableEq κ] {m : AList fun _ : κ => β}
    (h : ∀ k, m.lookup k = none) : m.entries = [] := by
  apply List.eq_nil_iff_forall_not_mem.mpr
  intro entry hentry
  have hfound := AList.mem_lookup_iff.mpr hentry
  rw [h] at hfound
  cases hfound

omit [DecidableEq ι] in
/-- An object that has no registration is gone. -/
theorem Inv.session_none (h : A.Inv maximumSessions handler) {i : ι}
    (hi : i ∉ A.server.sessions) : A.server.session i = none := by
  cases hsome : A.server.session i with
  | none => rfl
  | some s => exact absurd ((h.objects i).mpr ⟨s, hsome⟩) hi

omit [DecidableEq ι] in
/-- What no session holds, nobody holds. -/
theorem Inv.drained (h : A.Inv maximumSessions handler) (hs : A.server.Inv)
    (hgone : ∀ i, A.server.session i = none) : A.Drained := by
  have hsessions : A.server.sessions = [] := by
    apply List.eq_nil_iff_forall_not_mem.mpr
    intro i hi
    obtain ⟨s, hsome⟩ := (h.objects i).mp hi
    rw [hgone] at hsome
    cases hsome
  have hleases (identity : Bytes) : A.server.shared.manager.entry identity = none := by
    cases he : A.server.shared.manager.entry identity with
    | none => rfl
    | some l =>
      obtain ⟨i, c, hc, -⟩ := hs.fleet.held he
      simp [TlsTunnelServer.fleet, hgone] at hc
  have hnobody : A.server.shared.manager.leasesByIdentity.entries = [] := entries_eq_nil hleases
  have hpeers : A.server.shared.outside.router.peers.entries = [] := by
    apply entries_eq_nil
    intro k
    cases hk : A.server.shared.outside.router.peers.lookup k with
    | none => rfl
    | some j =>
      obtain ⟨s, l, hj, -⟩ := hs.routed.ipv4 hk
      rw [hgone] at hj
      cases hj
  have hipv6Peers : A.server.shared.outside.router.ipv6Peers.entries = [] := by
    apply entries_eq_nil
    intro k
    cases hk : A.server.shared.outside.router.ipv6Peers.lookup k with
    | none => rfl
    | some j =>
      obtain ⟨s, l, hj, -⟩ := hs.routed.ipv6 hk
      rw [hgone] at hj
      cases hj
  constructor
  case sessions => exact hsessions
  case objects => exact hgone
  case activeSessionCount => rw [h.count, hsessions, List.length_nil]
  case posted =>
    apply List.eq_nil_iff_forall_not_mem.mpr
    intro p hp
    obtain ⟨s, hsome, -⟩ := (h.posted p).mp hp
    rw [hgone] at hsome
    cases hsome
  case removals => simpa [hsessions] using h.registered
  case closed =>
    have hcreated := h.created_eq
    rw [hsessions, List.length_nil, Nat.add_zero] at hcreated
    rw [h.closed, h.accepted, hsessions, hcreated, List.countP_nil, Nat.add_zero]
  case leases => exact hleases
  case available =>
    intro now
    have hmanager : A.server.shared.manager.Inv := hs.fleet.manager
    have hcount := hmanager.availableCount now
    have hactive : (A.server.shared.manager.activeCount now).1 = 0 := by
      simp [LeaseManager.activeCount, LeaseManager.reapExpiredLocked, hnobody]
    omega
  case routes =>
    simp [TunnelRouter.activeRoutes, TunnelRouter.removeExpired, TunnelRouter.removeExpiredAt,
      AList.keys, hpeers, hipv6Peers]

/-- It leaves while another connection comes in. -/
def lastHandlers : List (ServerEvent Unit) :=
  [.session () .stop, .session () .close, .accept (), .session () .close, .remove ()]

end Admission

end PersonalVpn.Server
