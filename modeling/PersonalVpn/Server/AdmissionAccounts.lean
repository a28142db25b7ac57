import PersonalVpn.Server.Admission
import PersonalVpn.Server.RouteCoherence

namespace PersonalVpn.Server

open PersonalVpn.Core Protocol

namespace Admission

variable {ι : Type} [DecidableEq ι] {A : Admission ι} {maximumSessions : Nat} {handler : Bool}

/-- The session has been counted by its `close_now`. -/
def closed (session : ι → Option TlsTunnelSession) (i : ι) : Bool :=
  (session i).any (·.closeCounted)

/-- Changing a predicate at one entry of a list without duplicates changes the count by one. -/
theorem countP_flip {l : List ι} {p q : ι → Bool} {i : ι} (hl : l.Nodup) (hi : i ∈ l)
    (hp : p i = false) (hq : q i = true) (hsame : ∀ j, j ≠ i → q j = p j) :
    l.countP q = l.countP p + 1 := by
  have hperm := List.perm_cons_erase hi
  have hrest : (l.erase i).countP q = (l.erase i).countP p := by
    apply List.countP_congr
    intro j hj
    rw [hsame j (hl.mem_erase_iff.mp hj).1]
  rw [hperm.countP_eq, hperm.countP_eq, List.countP_cons_of_pos hq,
    List.countP_cons_of_neg (by simp [hp]), hrest]

/-- The invariant of the books. -/
structure Inv (A : Admission ι) (maximumSessions : Nat) (handler : Bool) : Prop where
  limit : A.server.maximumSessions = maximumSessions
  bound : A.server.sessions.length ≤ maximumSessions
  count : A.server.activeSessionCount = A.server.sessions.length
  nodup : A.server.sessions.Nodup
  objects : ∀ i, i ∈ A.server.sessions ↔ ∃ s, A.server.session i = some s
  stage : ∀ {i s}, A.server.session i = some s → (s.stopped = false ↔ s.closing = .open)
  registered : (A.removals.map Prod.fst ++ A.server.sessions.map A.number).Perm
    (List.range A.created)
  removals : ∀ r ∈ A.removals, r.2 = some r.1
  posted : ∀ p, p ∈ A.posted ↔ ∃ s, A.server.session p.1 = some s ∧ s.closing = .done ∧
    p.2 = A.number p.1
  postedOnce : A.posted.Nodup
  accepted : A.server.shared.metrics.acceptedConnections = UInt64.ofNat A.created
  closed : A.server.shared.metrics.closedSessions =
    UInt64.ofNat (A.removals.length + A.server.sessions.countP (Admission.closed A.server.session))
  establishedSessions :
    A.server.shared.metrics.establishedSessions = UInt64.ofNat A.established.length
  establishedOnce : A.established.Nodup
  created : ∀ n ∈ A.established, n < A.created
  flags : ∀ {i s}, A.server.session i = some s →
    (A.number i ∈ A.established ↔ s.establishedCounted = true)
  asked : A.server.stopping = true → ∀ i ∈ A.server.sessions, A.number i ∈ A.asked
  waiting : A.server.stopping = false → A.shutdownHandler = handler ∧ A.shutdowns = 0
  shutdowns : A.server.stopping = true → A.shutdowns = handler.toNat

omit [DecidableEq ι] in
theorem inv_start (m : LeaseManager) (maximumSessions : Nat) (handler : Bool) :
    (start m maximumSessions handler : Admission ι).Inv maximumSessions handler where
  limit := rfl
  bound := Nat.zero_le _
  count := rfl
  nodup := List.nodup_nil
  objects i := by simp [start, TlsTunnelServer.start]
  stage := by simp [start, TlsTunnelServer.start]
  registered := .nil
  removals := by simp [start]
  posted := by simp [start, TlsTunnelServer.start]
  postedOnce := List.nodup_nil
  accepted := rfl
  closed := rfl
  establishedSessions := rfl
  establishedOnce := List.nodup_nil
  created := by simp [start]
  flags := by simp [start, TlsTunnelServer.start]
  asked := by simp [start, TlsTunnelServer.start]
  waiting _ := ⟨rfl, rfl⟩
  shutdowns := by simp [start, TlsTunnelServer.start]

omit [DecidableEq ι] in
theorem Inv.number_inj (h : A.Inv maximumSessions handler) {i j : ι} (hi : i ∈ A.server.sessions)
    (hj : j ∈ A.server.sessions) (hij : A.number i = A.number j) : i = j := by
  have hnodup := (h.registered.nodup_iff.mpr List.nodup_range).of_append_right
  exact List.inj_on_of_nodup_map hnodup hi hj hij

omit [DecidableEq ι] in
theorem Inv.number_lt (h : A.Inv maximumSessions handler) {i : ι} (hi : i ∈ A.server.sessions) :
    A.number i < A.created := by
  have hmem : A.number i ∈ A.removals.map Prod.fst ++ A.server.sessions.map A.number :=
    List.mem_append_right _ (List.mem_map_of_mem hi)
  exact List.mem_range.mp (h.registered.mem_iff.mp hmem)

omit [DecidableEq ι] in
/-- The number of sessions created is that of the removals and of the sessions left. -/
theorem Inv.created_eq (h : A.Inv maximumSessions handler) :
    A.created = A.removals.length + A.server.sessions.length := by
  have hlen := h.registered.length_eq
  simpa using hlen.symm

omit [DecidableEq ι] in
/-- A connection that is turned away is counted, and changes nothing else. -/
theorem Inv.rejected (h : A.Inv maximumSessions handler) {shared : Shared (Exchange ι)}
    (hlives : shared.metrics.lives = A.server.shared.metrics.lives) :
    Inv { A with server := { A.server with shared } } maximumSessions handler := by
  simp only [ServerMetrics.lives, Prod.mk.injEq] at hlives
  exact { h with
    accepted := hlives.1.trans h.accepted
    closed := hlives.2.2.trans h.closed
    establishedSessions := hlives.2.1.trans h.establishedSessions }

/-- A new session gets the next number. -/
theorem Inv.admitted (h : A.Inv maximumSessions handler) {i : ι} (hstop : A.server.stopping = false)
    (hi : A.server.session i = none) (hroom : A.server.sessions.length < A.server.maximumSessions) :
    Inv { A with
      server := A.server.handleAccept i
      created := A.created + 1
      number := Function.update A.number i A.created } maximumSessions handler := by
  have hserver : A.server.handleAccept i = { A.server with
      shared := { A.server.shared with metrics := { A.server.shared.metrics with
        acceptedConnections := A.server.shared.metrics.acceptedConnections + 1 } }
      sessions := i :: A.server.sessions
      activeSessionCount := A.server.sessions.length + 1
      session := Function.update A.server.session i
        (some { outboundQueue := TlsTunnelServer.outboundQueue }) } := by
    rw [TlsTunnelServer.handleAccept, if_neg (Nat.not_le.mpr hroom)]
  have hnew : i ∉ A.server.sessions := by simp [h.objects, hi]
  have hnumbers : A.server.sessions.map (Function.update A.number i A.created) =
      A.server.sessions.map A.number := by
    apply List.map_congr_left
    intro j hj
    exact Function.update_of_ne (ne_of_mem_of_not_mem hj hnew) ..
  rw [hserver]
  constructor
  all_goals dsimp only
  case limit => exact h.limit
  case bound =>
    rw [List.length_cons, ← h.limit]
    exact hroom
  case count => rw [List.length_cons]
  case nodup => exact h.nodup.cons hnew
  case objects =>
    intro j
    by_cases hji : j = i
    · simp [hji]
    · simp [hji, h.objects]
  case stage =>
    intro j t hj
    by_cases hji : j = i
    · rw [hji, Function.update_self] at hj
      cases hj
      exact ⟨fun _ => rfl, fun _ => rfl⟩
    · rw [Function.update_of_ne hji] at hj
      exact h.stage hj
  case registered =>
    rw [List.map_cons, Function.update_self, hnumbers, List.range_succ]
    exact (List.perm_middle.trans (h.registered.cons _)).trans (List.perm_append_singleton _ _).symm
  case removals => exact h.removals
  case posted =>
    intro p
    by_cases hp : p.1 = i
    · have hno : p ∉ A.posted := by simp [h.posted, hp, hi]
      simp [hp, hno]
    · rw [h.posted, Function.update_of_ne hp, Function.update_of_ne hp]
  case postedOnce => exact h.postedOnce
  case accepted => rw [h.accepted, UInt64.ofNat_add, UInt64.ofNat_one]
  case closed =>
    rw [h.closed]
    have hfresh : Admission.closed (Function.update A.server.session i
        (some { outboundQueue := TlsTunnelServer.outboundQueue })) i = false := by
      simp [Admission.closed, TlsTunnelSession.closeCounted]
    rw [List.countP_cons_of_neg (by simp [hfresh])]
    congr 2
    apply List.countP_congr
    intro j hj
    simp [Admission.closed, ne_of_mem_of_not_mem hj hnew]
  case establishedSessions => exact h.establishedSessions
  case establishedOnce => exact h.establishedOnce
  case created => exact fun n hn => Nat.lt_succ_of_lt (h.created n hn)
  case flags =>
    intro j t hj
    by_cases hji : j = i
    · rw [hji, Function.update_self] at hj ⊢
      cases hj
      simpa using fun hn => absurd (h.created _ hn) (Nat.lt_irrefl _)
    · rw [Function.update_of_ne hji] at hj ⊢
      exact h.flags hj
  case asked => simp [hstop]
  case waiting => exact h.waiting
  case shutdowns => exact h.shutdowns

theorem Inv.accept (h : A.Inv maximumSessions handler) (i : ι) :
    (A.handleAccept i).Inv maximumSessions handler := by
  unfold handleAccept TlsTunnelServer.step
  dsimp only
  cases hbusy : A.server.stopping || A.server.active i with
  | true => simpa [admits, hbusy] using h
  | false =>
    obtain ⟨hstop, hactive⟩ := Bool.or_eq_false_iff.mp hbusy
    by_cases hroom : A.server.sessions.length < A.server.maximumSessions
    · have hi : A.server.session i = none := by simpa [TlsTunnelServer.active] using hactive
      simpa [admits, hbusy, hroom] using h.admitted hstop hi hroom
    · have hfull : A.server.handleAccept i = { A.server with shared := { A.server.shared with
          metrics := { A.server.shared.metrics with
            capacityRejections := A.server.shared.metrics.capacityRejections + 1 } } } := by
        rw [TlsTunnelServer.handleAccept, if_pos (Nat.le_of_not_lt hroom)]
      have hno : A.admits i = false := by simp [admits, hbusy, hroom]
      simp only [hno, hfull, Bool.false_eq_true, if_false]
      exact h.rejected rfl

theorem Inv.stopOnStrand (h : A.Inv maximumSessions handler) :
    A.stopOnStrand.Inv maximumSessions handler := by
  unfold Admission.stopOnStrand
  split
  · exact h
  · rename_i hstop
    obtain ⟨hgiven, hnone⟩ := h.waiting (Bool.eq_false_of_not_eq_true hstop)
    exact { h with
      asked := fun _ i hi => List.mem_map_of_mem hi
      waiting := fun hno => absurd hno (by simp [TlsTunnelServer.step])
      shutdowns := fun _ => by simp [hgiven, hnone] }

theorem put_session_iff {i j : ι} {s' t : TlsTunnelSession} {w' : Shared (Exchange ι)} :
    (A.server.put i (s', w')).session j = some t ↔
      (j = i ∧ t = s') ∨ (j ≠ i ∧ A.server.session j = some t) := by
  by_cases hji : j = i
  · simp [TlsTunnelServer.put, hji, eq_comm]
  · simp [TlsTunnelServer.put, hji]

section

variable {i : ι} {s s' : TlsTunnelSession} {w' : Shared (Exchange ι)}

/-- The removals that are posted after an event of a session. -/
theorem Inv.posted_session (h : A.Inv maximumSessions handler)
    (hi : A.server.session i = some s)
    (hmoved : s.Moved A.server.shared.metrics s' w'.metrics) (p : ι × Nat) :
    p ∈ (if s.closing = .notifying ∧ s'.closing = .done then A.posted ++ [(i, A.number i)]
      else A.posted) ↔
    ∃ t, (A.server.put i (s', w')).session p.1 = some t ∧ t.closing = .done ∧
      p.2 = A.number p.1 := by
  have hp : p ∈ A.posted ↔ ∃ t, A.server.session p.1 = some t ∧ t.closing = .done ∧
    p.2 = A.number p.1 := h.posted p
  by_cases hpi : p.1 = i
  · rw [hpi, hi] at hp
    have hpair : p = (i, A.number i) ↔ p.2 = A.number i := by
      rw [Prod.ext_iff, hpi]
      simp
    have hafter : (∃ t, (A.server.put i (s', w')).session p.1 = some t ∧ t.closing = .done ∧
        p.2 = A.number p.1) ↔ s'.closing = .done ∧ p.2 = A.number i := by
      simp [put_session_iff, hpi]
    rw [hafter]
    simp only [Option.some.injEq, exists_eq_left'] at hp
    split
    · rename_i hnotified
      simp [hp, hpair, hnotified.1, hnotified.2]
    · rename_i hno
      have hdone : s.closing = .done ↔ s'.closing = .done := by
        refine ⟨hmoved.done, fun hd => ?_⟩
        exact (hmoved.notified hd).resolve_right fun hn => hno ⟨hn, hd⟩
      rw [hp, hdone]
  · have hafter : (∃ t, (A.server.put i (s', w')).session p.1 = some t ∧ t.closing = .done ∧
        p.2 = A.number p.1) ↔ p ∈ A.posted := by
      simp [put_session_iff, hpi, hp]
    have hne : p ≠ (i, A.number i) := fun heq => hpi (congrArg Prod.fst heq)
    rw [hafter]
    split
    · simp [hne]
    · rfl

/-- The sessions that are counted as closed after an event of one of them. -/
theorem Inv.closed_session (h : A.Inv maximumSessions handler) (hi : A.server.session i = some s)
    (hmoved : s.Moved A.server.shared.metrics s' w'.metrics) :
    w'.metrics.closedSessions = UInt64.ofNat (A.removals.length +
      A.server.sessions.countP (Admission.closed (A.server.put i (s', w')).session)) := by
  have hmem : i ∈ A.server.sessions := (h.objects i).mpr ⟨s, hi⟩
  have hsame (j : ι) (hji : j ≠ i) : Admission.closed (A.server.put i (s', w')).session j =
      Admission.closed A.server.session j := by
    simp [Admission.closed, TlsTunnelServer.put, hji]
  have hbefore : Admission.closed A.server.session i = s.closeCounted := by
    simp [Admission.closed, hi]
  have hafter : Admission.closed (A.server.put i (s', w')).session i = s'.closeCounted := by
    simp [Admission.closed, TlsTunnelServer.put]
  obtain ⟨hc, hm⟩ | ⟨hc, hc', hm⟩ := hmoved.closed
  · rw [hm, h.closed]
    congr 2
    apply List.countP_congr
    intro j _
    by_cases hji : j = i
    · rw [hji, hbefore, hafter, hc]
    · rw [hsame j hji]
  · rw [countP_flip h.nodup hmem (hbefore.trans hc) (hafter.trans hc') hsame, ← Nat.add_assoc,
      UInt64.ofNat_add, ← h.closed, hm]
    rfl

/-- An event of a session changes the books of that session only. -/
theorem Inv.moved (h : A.Inv maximumSessions handler) (hi : A.server.session i = some s)
    (hmoved : s.Moved A.server.shared.metrics s' w'.metrics) :
    Inv { A with
      server := A.server.put i (s', w')
      posted := if s.closing = .notifying ∧ s'.closing = .done then A.posted ++ [(i, A.number i)]
        else A.posted
      established := if s.establishedCounted = false ∧ s'.establishedCounted = true then
        A.established ++ [A.number i] else A.established } maximumSessions handler := by
  have hmem : i ∈ A.server.sessions := (h.objects i).mpr ⟨s, hi⟩
  constructor
  all_goals dsimp only
  case limit => exact h.limit
  case bound => exact h.bound
  case count => exact h.count
  case nodup => exact h.nodup
  case objects =>
    intro j
    by_cases hji : j = i
    · rw [hji]
      exact ⟨fun _ => ⟨s', put_session_iff.mpr (.inl ⟨rfl, rfl⟩)⟩, fun _ => hmem⟩
    · simp only [put_session_iff, hji, false_and, ne_eq, not_false_eq_true, true_and, false_or]
      exact h.objects j
  case stage =>
    intro j t hj
    obtain ⟨-, ht⟩ | ⟨-, hj⟩ := put_session_iff.mp hj
    · rw [ht]
      exact hmoved.stage
    · exact h.stage hj
  case registered => exact h.registered
  case removals => exact h.removals
  case posted => exact h.posted_session hi hmoved
  case postedOnce =>
    split
    · rename_i hnotified
      have hno : (i, A.number i) ∉ A.posted := by simp [h.posted, hi, hnotified.1]
      exact List.nodup_append_comm.mp (h.postedOnce.cons hno)
    · exact h.postedOnce
  case accepted => exact hmoved.accepted.trans h.accepted
  case closed => exact h.closed_session hi hmoved
  case establishedSessions =>
    change w'.metrics.establishedSessions = _
    obtain ⟨he, hm⟩ | ⟨he, he', hm⟩ := hmoved.established
    · rw [hm, h.establishedSessions, if_neg (by simp +contextual [he])]
    · rw [hm, h.establishedSessions, if_pos ⟨he, he'⟩, List.length_append, UInt64.ofNat_add]
      rfl
  case establishedOnce =>
    split
    · rename_i hnew
      have hno : A.number i ∉ A.established := by simp [h.flags hi, hnew.1]
      exact List.nodup_append_comm.mp (h.establishedOnce.cons hno)
    · exact h.establishedOnce
  case created =>
    intro n hn
    split at hn
    · obtain hold | hnew := List.mem_append.mp hn
      · exact h.created n hold
      · rw [List.mem_singleton.mp hnew]
        exact h.number_lt hmem
    · exact h.created n hn
  case flags =>
    intro j t hj
    obtain ⟨hji, ht⟩ | ⟨hji, hj⟩ := put_session_iff.mp hj
    · rw [hji, ht]
      obtain ⟨he, -⟩ | ⟨he, he', -⟩ := hmoved.established
      · rw [if_neg (by simp +contextual [he]), he]
        exact h.flags hi
      · simp [he, he']
    · have hne : A.number j ≠ A.number i :=
        fun heq => hji (h.number_inj ((h.objects j).mpr ⟨t, hj⟩) hmem heq)
      rw [← h.flags hj]
      split
      · simp [hne]
      · rfl
  case asked => exact h.asked
  case waiting => exact h.waiting
  case shutdowns => exact h.shutdowns

end

theorem Inv.session (h : A.Inv maximumSessions handler) (i : ι) (event : SessionEvent) :
    (A.handleSession i event).Inv maximumSessions handler := by
  unfold handleSession
  split
  · exact h
  · rename_i s hi
    have hserver : A.server.step (.session i event) = A.server.put i
        (s.step (TlsTunnelServer.handlers A.server.active i) A.server.shared event) := by
      simp only [TlsTunnelServer.step, hi]
    rw [hserver]
    exact h.moved hi (TlsTunnelSession.step_moved _ _ event (h.stage hi))

/-- A posted removal erases the session that posted it. -/
theorem Inv.removed (h : A.Inv maximumSessions handler) {p : ι × Nat} (hp : p ∈ A.posted) :
    (removeSession { A with posted := A.posted.erase p } p.1 p.2).Inv maximumSessions handler := by
  obtain ⟨i, n⟩ := p
  obtain ⟨s, hi, hdone, hn⟩ := (h.posted (i, n)).mp hp
  dsimp only at hi hn ⊢
  have hmem : i ∈ A.server.sessions := (h.objects i).mpr ⟨s, hi⟩
  have hperm := List.perm_cons_erase hmem
  have hlen : A.server.sessions.length = (A.server.sessions.erase i).length + 1 := hperm.length_eq
  have hsession : (A.server.removeSession i s).session =
      Function.update A.server.session i none := rfl
  have hlives : (A.server.removeSession i s).shared.metrics = A.server.shared.metrics := rfl
  have hstays {j : ι} (hj : j ∈ A.server.sessions.erase i) : j ≠ i ∧ j ∈ A.server.sessions :=
    h.nodup.mem_erase_iff.mp hj
  simp only [removeSession, hi, if_pos hmem]
  constructor
  all_goals dsimp only
  case limit => exact h.limit
  case bound =>
    change (A.server.sessions.erase i).length ≤ maximumSessions
    have hbound := h.bound
    omega
  case count => rfl
  case nodup => exact h.nodup.erase i
  case objects =>
    intro j
    rw [hsession]
    change j ∈ A.server.sessions.erase i ↔ _
    rw [h.nodup.mem_erase_iff, h.objects]
    by_cases hji : j = i
    · simp [hji]
    · simp [hji]
  case stage =>
    intro j t hj
    rw [hsession] at hj
    by_cases hji : j = i
    · simp [hji] at hj
    · rw [Function.update_of_ne hji] at hj
      exact h.stage hj
  case registered =>
    change (List.map Prod.fst (A.removals ++ [(n, some (A.number i))]) ++
      (A.server.sessions.erase i).map A.number).Perm _
    rw [List.map_append, hn, List.append_assoc]
    exact ((hperm.map A.number).append_left _).symm.trans h.registered
  case removals =>
    intro r hr
    obtain hold | hnew := List.mem_append.mp hr
    · exact h.removals r hold
    · rw [List.mem_singleton.mp hnew, hn]
  case posted =>
    intro q
    rw [h.postedOnce.mem_erase_iff, h.posted, hsession]
    by_cases hqi : q.1 = i
    · constructor
      · rintro ⟨hne, t, -, -, hq⟩
        rw [hqi, ← hn] at hq
        exact absurd (Prod.ext hqi hq) hne
      · rintro ⟨t, ht, -⟩
        simp [hqi] at ht
    · have hne : q ≠ (i, n) := fun heq => hqi (congrArg Prod.fst heq)
      simp [hne, hqi]
  case postedOnce => exact h.postedOnce.erase _
  case accepted => exact h.accepted
  case closed =>
    have hgone : Admission.closed A.server.session i = true := by
      simp [Admission.closed, hi, TlsTunnelSession.closeCounted, hdone]
    have hrest : (A.server.sessions.erase i).countP
        (Admission.closed (Function.update A.server.session i none)) =
          (A.server.sessions.erase i).countP (Admission.closed A.server.session) := by
      apply List.countP_congr
      intro j hj
      simp [Admission.closed, (hstays hj).1]
    rw [hlives, h.closed, hperm.countP_eq, List.countP_cons_of_pos hgone, hsession]
    change _ = UInt64.ofNat (_ + (A.server.sessions.erase i).countP _)
    rw [hrest, List.length_append, List.length_singleton]
    congr 1
    omega
  case establishedSessions => exact h.establishedSessions
  case establishedOnce => exact h.establishedOnce
  case created => exact h.created
  case flags =>
    intro j t hj
    rw [hsession] at hj
    by_cases hji : j = i
    · simp [hji] at hj
    · rw [Function.update_of_ne hji] at hj
      exact h.flags hj
  case asked =>
    intro hstop j hj
    exact h.asked hstop j (hstays hj).2
  case waiting => exact h.waiting
  case shutdowns => exact h.shutdowns

theorem Inv.step (h : A.Inv maximumSessions handler) (e : ServerEvent ι) :
    (A.step e).Inv maximumSessions handler := by
  cases e with
  | accept i => exact h.accept i
  | acceptFailed aborted =>
    rw [Admission.step]
    split
    · exact h
    · exact h.stopOnStrand
  | session i event => exact h.session i event
  | remove i =>
    rw [Admission.step]
    split
    · exact h
    · rename_i message hfind
      exact h.removed (List.mem_of_find?_eq_some hfind)
  | stop => exact h.stopOnStrand

/-- The books follow the server: a removal that the server may take was posted, and has not run. -/
theorem Inv.server_step (h : A.Inv maximumSessions handler) (e : ServerEvent ι) :
    (A.step e).server = A.server.step e := by
  cases e with
  | accept i =>
    rw [Admission.step, handleAccept]
    split
    · rfl
    · rfl
  | acceptFailed aborted =>
    rw [Admission.step, TlsTunnelServer.step]
    split
    · rfl
    · rename_i hno
      rw [Admission.stopOnStrand, if_neg fun hs => hno (by simp [hs])]
      rfl
  | session i event =>
    rw [Admission.step, handleSession]
    split
    · rename_i hi
      simp only [TlsTunnelServer.step, hi]
    · rfl
  | remove i =>
    rw [Admission.step, TlsTunnelServer.step]
    split
    · rename_i hfind
      split
      · rfl
      · rename_i s hi
        rw [if_neg]
        intro hdone
        have hmem : (i, A.number i) ∈ A.posted := (h.posted _).mpr ⟨s, hi, hdone, rfl⟩
        exact List.find?_eq_none.mp hfind _ hmem (decide_eq_true rfl)
    · rename_i message hfind
      have hname : message.1 = i := by simpa using List.find?_some hfind
      obtain ⟨s, hi, hdone, -⟩ := (h.posted message).mp (List.mem_of_find?_eq_some hfind)
      have hmem : message.1 ∈ A.server.sessions := (h.objects _).mpr ⟨s, hi⟩
      rw [hname] at hi hmem
      simp only [Admission.removeSession, hname, hi, if_pos hmem, if_pos hdone]
  | stop =>
    rw [Admission.step, Admission.stopOnStrand]
    split
    · rename_i hs
      rw [TlsTunnelServer.step, ← hs]
    · rfl

/-- A session is open, or in the course of `close_now`, or counted by it. -/
theorem stage_once {s : TlsTunnelSession} (hs : s.stopped = false ↔ s.closing = .open) :
    (if (!s.stopped) = true then 1 else 0) +
      (if (s.closing = .releasing : Bool) = true then 1 else 0) +
      (if s.closeCounted = true then 1 else 0) = 1 := by
  unfold TlsTunnelSession.closeCounted
  cases hc : s.closing with
  | «open» => simp [hs.mpr hc]
  | releasing => simp [show s.stopped = true by simpa [hc] using hs]
  | notifying => simp [show s.stopped = true by simpa [hc] using hs]
  | done => simp [show s.stopped = true by simpa [hc] using hs]

omit [DecidableEq ι] in
theorem Inv.stages (h : A.Inv maximumSessions handler) : A.server.sessions.length =
    A.server.sessions.countP (Admission.closed A.server.session) +
      A.server.sessions.countP (unstopped A.server) +
      A.server.sessions.countP (closing A.server) := by
  have hall : ∀ i ∈ A.server.sessions, ∃ s, A.server.session i = some s :=
    fun i hi => (h.objects i).mp hi
  generalize A.server.sessions = l at hall ⊢
  induction l with
  | nil => rfl
  | cons i l ih =>
    have hrest := ih fun j hj => hall j (List.mem_cons_of_mem i hj)
    obtain ⟨s, hi⟩ := hall i List.mem_cons_self
    have honce := stage_once (h.stage hi)
    simp only [List.length_cons, List.countP_cons, hrest, unstopped, closing, Admission.closed, hi,
      Option.any_some]
    omega

omit [DecidableEq ι] in
/-- What the invariant says about the accounts. -/
theorem Inv.accounted (h : A.Inv maximumSessions handler) :
    A.Accounted maximumSessions handler := by
  have hcreated := h.created_eq
  have hstages := h.stages
  have hestablished : A.established.length ≤ A.created := by
    have hsub : A.established ⊆ List.range A.created :=
      fun n hn => List.mem_range.mpr (h.created n hn)
    have hlen := (h.establishedOnce.subperm hsub).length_le
    rwa [List.length_range] at hlen
  constructor
  case bound => exact h.bound
  case count => exact h.count
  case lives =>
    rw [h.accepted, h.closed, ← UInt64.ofNat_add, ← UInt64.ofNat_add]
    congr 1
    omega
  case registered => exact h.registered
  case removals => exact h.removals
  case posted =>
    refine ⟨h.postedOnce, fun p hp => ?_⟩
    obtain ⟨s, hs, -, hn⟩ := (h.posted p).mp hp
    exact ⟨(h.objects p.1).mpr ⟨s, hs⟩, hn⟩
  case established => exact ⟨h.establishedOnce, h.created⟩
  case accepted => exact h.accepted
  case establishedSessions => exact h.establishedSessions
  case unwrapped =>
    intro hlt
    rw [h.accepted, h.establishedSessions, UInt64.le_iff_toNat_le, UInt64.toNat_ofNat',
      UInt64.toNat_ofNat', Nat.mod_eq_of_lt hlt, Nat.mod_eq_of_lt (hestablished.trans_lt hlt)]
    exact hestablished
  case asked => exact h.asked
  case shutdowns => exact h.shutdowns

/-- A server that is stopping creates no session, and goes on stopping. -/
theorem step_stopping (hstop : A.server.stopping = true) (e : ServerEvent ι) :
    (A.step e).server.stopping = true ∧ (A.step e).created = A.created := by
  cases e with
  | accept i => simp [step, handleAccept, admits, TlsTunnelServer.step, hstop]
  | acceptFailed aborted => simp [step, hstop]
  | session i event =>
    rw [step, handleSession]
    split
    · exact ⟨hstop, rfl⟩
    · rename_i hi
      simp [TlsTunnelServer.step, TlsTunnelServer.put, hi, hstop]
  | remove i =>
    rw [step]
    split
    · exact ⟨hstop, rfl⟩
    · unfold removeSession
      split
      · split
        · exact ⟨hstop, rfl⟩
        · exact ⟨hstop, rfl⟩
      · exact ⟨hstop, rfl⟩
  | stop => simp [step, stopOnStrand, hstop]

/-- In every state of every run the server keeps its accounts, and once it is stopping it admits no
further session. -/
theorem admission_accounted (manager : LeaseManager) (maximumSessions : Nat) (handler : Bool)
    (es : List (ServerEvent ι)) :
    let A := Run.run step (start manager maximumSessions handler) es
    A.Accounted maximumSessions handler ∧ (A.server.stopping = true →
      ∀ later, (Run.run step A later).created = A.created) := by
  intro A
  have hinv : A.Inv maximumSessions handler :=
    Run.invariant (P := fun A : Admission ι => A.Inv maximumSessions handler) (fun _ e h => h.step e)
      (inv_start manager maximumSessions handler) es
  refine ⟨hinv.accounted, fun hstop later => ?_⟩
  have hstep : ∀ (B : Admission ι) e, B.server.stopping = true ∧ B.created = A.created →
      (step B e).server.stopping = true ∧ (step B e).created = A.created := by
    intro B e hB
    obtain ⟨hs, hc⟩ := step_stopping hB.1 e
    exact ⟨hs, hc.trans hB.2⟩
  have hend := Run.invariant (P := fun B : Admission ι =>
    B.server.stopping = true ∧ B.created = A.created) hstep ⟨hstop, rfl⟩ later
  exact hend.2

/-- A session that is admitted, stopped and removed. -/
def turnover (i : ι) : List (ServerEvent ι) :=
  [.accept i, .session i .stop, .session i .close, .session i .close, .remove i]

/-- A server with room for a session of the name `i`. -/
structure Vacant (A : Admission ι) (i : ι) : Prop where
  running : A.server.stopping = false
  session : A.server.session i = none
  unlisted : i ∉ A.server.sessions
  room : A.server.sessions.length < A.server.maximumSessions
  posted : A.posted = []

theorem turnover_vacant {i : ι} (h : A.Vacant i) :
    (Run.run step A (turnover i)).Vacant i ∧
      (Run.run step A (turnover i)).server.shared.metrics.acceptedConnections =
        A.server.shared.metrics.acceptedConnections + 1 ∧
      (Run.run step A (turnover i)).server.shared.metrics.establishedSessions =
        A.server.shared.metrics.establishedSessions := by
  obtain ⟨hrun, hi, hl, hroom, hp⟩ := h
  have hfull : ¬A.server.sessions.length ≥ A.server.maximumSessions := Nat.not_le.mpr hroom
  simp [turnover, step, handleAccept, admits, TlsTunnelServer.step, TlsTunnelServer.active, hrun, hi,
    hroom, hfull, TlsTunnelServer.handleAccept, handleSession, TlsTunnelSession.step,
    TlsTunnelSession.whenIdle, TlsTunnelSession.closeNow, TlsTunnelSession.closeStep,
    TlsTunnelServer.put, hp, removeSession, TlsTunnelServer.removeSession]
  exact ⟨rfl, Function.update_self .., hl, hroom, rfl⟩

theorem turnovers_vacant {i : ι} (n : Nat) (h : A.Vacant i) :
    let B := Run.run step A (List.replicate n (turnover i)).flatten
    B.server.shared.metrics.acceptedConnections =
        A.server.shared.metrics.acceptedConnections + UInt64.ofNat n ∧
      B.server.shared.metrics.establishedSessions =
        A.server.shared.metrics.establishedSessions := by
  induction n generalizing A with
  | zero => simp
  | succ n ih =>
    obtain ⟨hvacant, haccepted, hestablished⟩ := turnover_vacant h
    obtain ⟨ihaccepted, ihestablished⟩ := ih hvacant
    intro B
    have hB : B = Run.run step (Run.run step A (turnover i))
        (List.replicate n (turnover i)).flatten := by
      simp only [B, List.replicate_succ, List.flatten_cons, Run.run_append]
    rw [hB]
    refine ⟨?_, ihestablished.trans hestablished⟩
    rw [ihaccepted, haccepted, Nat.add_comm n 1, UInt64.ofNat_add, UInt64.ofNat_one,
      UInt64.add_assoc]

/-- One established session beside `2 ^ 64 - 1` others that come and go. -/
def wrapping : List (ServerEvent Bool) :=
  TlsTunnelServer.greet false (text "c") ++ [.session false (.frame 0)] ++
    (List.replicate (2 ^ 64 - 1) (turnover true)).flatten

theorem established_exceeds_accepted :
    let m := (Run.run step (start (LeaseManager.singleManager 1) 2 true)
      wrapping).server.shared.metrics
    m.acceptedConnections = 0 ∧ m.establishedSessions = 1 ∧
      ¬m.establishedSessions ≤ m.acceptedConnections := by
  intro m
  let A : Admission Bool := Run.run step (start (LeaseManager.singleManager 1) 2 true)
    (TlsTunnelServer.greet false (text "c") ++ [.session false (.frame 0)])
  have hvacant : A.Vacant true := by
    constructor <;> decide +kernel
  have haccepted : A.server.shared.metrics.acceptedConnections = 1 := by decide +kernel
  have hestablished : A.server.shared.metrics.establishedSessions = 1 := by decide +kernel
  have hm : m = (Run.run step A
      (List.replicate (2 ^ 64 - 1) (turnover true)).flatten).server.shared.metrics := by
    simp only [m, wrapping, Run.run_append, A]
  obtain ⟨hend, hend'⟩ := turnovers_vacant (2 ^ 64 - 1) hvacant
  rw [haccepted] at hend
  rw [hestablished] at hend'
  rw [hm, hend, hend']
  decide

end Admission

end PersonalVpn.Server
