import PersonalVpn.Core.FleetSafety

namespace PersonalVpn.Core

open Protocol

namespace LeaseManager

/-- A manager that stores one lease. -/
def alone (p : LeasePolicy) (l : Lease) : LeaseManager :=
  ⟨p, AList.insert l.identity l ∅, AList.insert (toInteger l.address) l.identity ∅, 0⟩

/-- What renewing a lease comes to that is stored until it expires. -/
def renewal (p : LeasePolicy) (l : Lease) (now : TimePoint) : Option Lease :=
  if now < l.expiresAt then some { l with expiresAt := p.expiry now } else none

theorem renew_alone (p : LeasePolicy) (l : Lease) (now : TimePoint) :
    ((alone p l).renew l now).1 = renewal p l now := by
  have hentries : (alone p l).leasesByIdentity.entries = [⟨l.identity, l⟩] := rfl
  by_cases hlive : now < l.expiresAt
  · have hreap : ((alone p l).reapExpiredLocked now).2 = alone p l := by
      simp [reapExpiredLocked, hentries, reapEntry, not_le.mpr hlive]
    have hlookup : (alone p l).leasesByIdentity.lookup l.identity = some l := AList.lookup_insert _
    have hmatching : (alone p l).matching l = some l := by simp [matching, hlookup]
    simp only [renew, hreap, hmatching, renewal, if_pos hlive]
    rfl
  · have hmatching : (((alone p l).reapExpiredLocked now).2).matching l = none := by
      simp [reapExpiredLocked, hentries, reapEntry, not_lt.mp hlive, matching]
    simp only [renew, hmatching, renewal, if_neg hlive]

/-- Whatever else a manager stores, it renews a lease exactly as long as it has not expired. -/
theorem Inv.renew_fst {m : LeaseManager} (h : m.Inv) {l : Lease} {now : TimePoint}
    (hmatch : ∀ e, m.entry l.identity = some e → e.leaseId = l.leaseId → e = l)
    (hstored : m.entry l.identity = some l ∨ l.expiresAt ≤ now) :
    (m.renew l now).1 = renewal m.toLeasePolicy l now := by
  rcases hr : m.renew l now with ⟨r, m'⟩
  cases r with
  | none =>
    obtain ⟨-, hexpired⟩ := h.renew_none hr
    have hle : l.expiresAt ≤ now := by
      obtain hentry | hle := hstored
      · exact hexpired l hentry rfl rfl
      · exact hle
    rw [renewal, if_neg (not_lt.mpr hle)]
  | some l' =>
    obtain ⟨l₀, hentry, hlive, hid, -, hl'⟩ := (h.renew_some hr).2.old
    have hsame := hmatch l₀ hentry hid
    rw [hsame] at hlive hl'
    rw [renewal, if_pos hlive, hl']

end LeaseManager

namespace SessionController

variable {s : SessionController} {m m' : LeaseManager} {now : TimePoint}

/-- What the caller and the controller see of a call. -/
def seen {α : Type} (outcome : Outcome α) : α × SessionController := (outcome.1, outcome.2.1)

theorem releaseLease_fst (s : SessionController) (m : LeaseManager) :
    (s.releaseLease m).1 = { s with lease := none } := by
  rw [releaseLease_eq rfl]

theorem seen_fail (s : SessionController) (m m' : LeaseManager) (code : SessionErrorCode)
    (message : Bytes) : seen (s.fail m code message) = seen (s.fail m' code message) := by
  unfold fail
  cases encodeErrorMessage ⟨code.raw, message⟩ with
  | error e => rfl
  | ok payload => simp [seen, releaseLease_fst]

/-- What a session answers to a frame is its own affair once the lease is renewed. -/
theorem seen_dispatch (s : SessionController) (m m' : LeaseManager) (f : Frame) :
    seen (s.dispatch m f) = seen (s.dispatch m' f) := by
  unfold dispatch
  cases f.type with
  | dataIpv4 =>
    cases s.validateIpv4Packet f.payload .invalidIpv4Packet with
    | error e => exact seen_fail ..
    | ok => rfl
  | dataIpv6 =>
    cases s.validateIpv6Packet f.payload .invalidIpv6Packet with
    | error e => exact seen_fail ..
    | ok => rfl
  | ping =>
    cases decodeLivenessProbe f.payload with
    | error e =>
      cases e with
      | invalidArgument what => exact seen_fail ..
      | _ => rfl
    | ok probe => rfl
  | close =>
    cases decodeCloseMessage f.payload with
    | error e =>
      cases e with
      | invalidArgument what => exact seen_fail ..
      | _ => rfl
    | ok message => simp [seen, releaseLease_fst]
  | error =>
    cases decodeErrorMessage f.payload with
    | error e =>
      cases e with
      | invalidArgument what => exact seen_fail ..
      | _ => rfl
    | ok message => simp [seen, releaseLease_fst]
  | clientHello => exact seen_fail ..
  | ipAssign => exact seen_fail ..
  | pong => exact seen_fail ..

theorem seen_handleEstablished (hrenew : (s.renewLease m now).1 = (s.renewLease m' now).1)
    (f : Frame) : seen (s.handleEstablished m f now) = seen (s.handleEstablished m' f now) := by
  unfold handleEstablished
  split_ifs
  · generalize s.renewLease m now = x at hrenew ⊢
    generalize s.renewLease m' now = x' at hrenew ⊢
    obtain ⟨r, m₁⟩ := x
    obtain ⟨r', m₁'⟩ := x'
    cases hrenew
    cases r with
    | none => exact seen_fail ..
    | some renewed => exact seen_dispatch ..
  · exact seen_dispatch ..

/-- After the hello, a call sees no more of the manager than whether the lease is renewed. -/
theorem seen_handle (hs : s.state ≠ .awaitingHello)
    (hrenew : (s.renewLease m now).1 = (s.renewLease m' now).1) (f : Frame) :
    seen (s.handle m f now) = seen (s.handle m' f now) := by
  simp only [handle, if_neg hs]
  split_ifs
  · rfl
  · exact seen_fail ..
  · apply seen_handleEstablished
    exact hrenew

theorem seen_renewAndSend (hrenew : (s.renewLease m now).1 = (s.renewLease m' now).1)
    (type : MessageType) (packet : Bytes) :
    seen (s.renewAndSend m type packet now) = seen (s.renewAndSend m' type packet now) := by
  unfold renewAndSend
  generalize s.renewLease m now = x at hrenew ⊢
  generalize s.renewLease m' now = x' at hrenew ⊢
  obtain ⟨r, m₁⟩ := x
  obtain ⟨r', m₁'⟩ := x'
  cases hrenew
  cases r with
  | none => simp [seen, releaseLease_fst]
  | some renewed => rfl

theorem seen_makeDataToClient (hrenew : (s.renewLease m now).1 = (s.renewLease m' now).1)
    (packet : Bytes) :
    seen (s.makeDataToClient m packet now) = seen (s.makeDataToClient m' packet now) := by
  unfold makeDataToClient
  cases s.lease with
  | none => rfl
  | some lease =>
    dsimp only
    split_ifs
    · rfl
    · rfl
    · rfl
    · exact seen_renewAndSend hrenew ..
    · rfl
    · rfl
    · exact seen_renewAndSend hrenew ..

/-- The manager as a session that is alone with it knows it. -/
def soloManager (s : SessionController) (p : LeasePolicy) : LeaseManager :=
  match s.lease with
  | some lease => .alone p lease
  | none => ⟨p, ∅, ∅, 0⟩

/-- A session whose lease is stored until it expires renews it as if it were alone. -/
theorem renewLease_solo (h : m.Inv) (hc : s.Coherent m)
    (hstored : ∀ l, s.lease = some l → m.entry s.identity = some l ∨ l.expiresAt ≤ now) :
    (s.renewLease m now).1 = (s.renewLease (s.soloManager m.toLeasePolicy) now).1 := by
  unfold renewLease soloManager
  cases hl : s.lease with
  | none => rfl
  | some l =>
    have hid := (hc l hl).1
    dsimp only
    rw [LeaseManager.renew_alone, h.renew_fst (hc.matches hl)]
    rw [hid]
    exact hstored l hl

theorem Effect.policy {s' : SessionController} {time : Option TimePoint} (h : m.Inv)
    (he : Effect s m time s' m') : m'.toLeasePolicy = m.toLeasePolicy := by
  cases he with
  | keep lease state manager => rw [manager]
  | grant at_ none acquire lease state => exact (h.acquire_ok acquire).2.policy
  | renew at_ old renew lease state => exact (h.renew_some renew).2.policy
  | drop lease state manager => exact manager.policy

end SessionController

/-- The controller that an event is about. -/
def FleetEvent.on {ι : Type} : FleetEvent ι → ι
  | .create i _ => i
  | .handle i _ _ => i
  | .makeDataToClient i _ _ => i
  | .onTransportClosed i => i
  | .destroy i => i

/-- What a call on a controller returns. -/
inductive FleetAnswer where
  | handled (result : Except Exception SessionResult)
  | sent (frame : Option Frame)
  | nothing

/-- A call on a live controller: what it returns, and the controller after it. -/
def SessionController.call {ι : Type} (s : SessionController) (m : LeaseManager) :
    FleetEvent ι → FleetAnswer × Option SessionController
  | .create _ _ => (.nothing, some s)
  | .handle _ frame now =>
    let (result, s, _) := s.handle m frame now
    (.handled result, some s)
  | .makeDataToClient _ packet now =>
    let (frame, s, _) := s.makeDataToClient m packet now
    (.sent frame, some s)
  | .onTransportClosed _ => (.nothing, some (s.onTransportClosed m).1)
  | .destroy _ => (.nothing, none)

namespace Fleet

variable {ι : Type} [DecidableEq ι] {F : Fleet ι} {b : ι} {s : SessionController}
  {e : FleetEvent ι}

theorem step_session_of_ne (h : e.on ≠ b) : (F.step e).session b = F.session b := by
  have hne : b ≠ e.on := Ne.symm h
  cases e with
  | create i identity =>
    simp only [step]
    split
    · exact Function.update_of_ne hne ..
    · rfl
  | handle i frame now =>
    simp only [step]
    split
    · exact Function.update_of_ne hne ..
    · rfl
  | makeDataToClient i packet now =>
    simp only [step]
    split
    · exact Function.update_of_ne hne ..
    · rfl
  | onTransportClosed i =>
    simp only [step]
    split
    · exact Function.update_of_ne hne ..
    · rfl
  | destroy i =>
    simp only [step]
    split
    · exact Function.update_of_ne hne ..
    · rfl

theorem step_session_self (hs : F.session b = some s) (h : e.on = b) :
    (F.step e).session b = (s.call F.manager e).2 := by
  subst h
  cases e with
  | create i identity =>
    have hs : F.session i = some s := hs
    simp only [step, hs, FleetEvent.on, SessionController.call]
  | handle i frame now =>
    have hs : F.session i = some s := hs
    simp [step, hs, FleetEvent.on, SessionController.call, put]
  | makeDataToClient i packet now =>
    have hs : F.session i = some s := hs
    simp [step, hs, FleetEvent.on, SessionController.call, put]
  | onTransportClosed i =>
    have hs : F.session i = some s := hs
    simp [step, hs, FleetEvent.on, SessionController.call, put]
  | destroy i =>
    have hs : F.session i = some s := hs
    simp [step, hs, FleetEvent.on, SessionController.call]

theorem step_policy (h : F.Inv) (e : FleetEvent ι) :
    (F.step e).manager.toLeasePolicy = F.manager.toLeasePolicy := by
  obtain heq | ⟨i, identity, hi, heq⟩ | ⟨i, s, s', m', hi, hid, he, heq⟩ |
    ⟨i, s, s', m', hi, hid, hl, he, heq⟩ := step_cases h e
  · rw [heq]
  · rw [heq]
  · rw [heq]
    exact he.policy h.manager
  · rw [heq]
    exact he.policy h.manager

/-- A controller's lease is stored, or has expired by `t`. -/
def StoredUntil (F : Fleet ι) (b : ι) (t : TimePoint) : Prop :=
  ∀ s l, F.session b = some s → s.lease = some l →
    F.manager.entry s.identity = some l ∨ l.expiresAt ≤ t

theorem StoredUntil.step {t t' : TimePoint} (h : F.Inv) (hstored : F.StoredUntil b t)
    (ht : t ≤ t') (hnow : ∀ now, e.time = some now → now ≤ t') : (F.step e).StoredUntil b t' := by
  intro s' l hs' hl
  obtain hentry | ⟨s, hs, hid, hlease, hexpired⟩ := step_lease h e hs' hl
  · exact .inl hentry
  · obtain hentry | hle := hstored s l hs hlease
    · rw [hid] at hentry
      obtain ⟨now, htime, hle⟩ := hexpired hentry
      exact .inr (hle.trans (hnow now htime))
    · exact .inr (hle.trans ht)

/-- The calls on a controller as long as it exists: what each returns, and the controller after
it. -/
def observed (b : ι) : Fleet ι → List (FleetEvent ι) → List (FleetAnswer × Option SessionController)
  | _, [] => []
  | F, e :: es =>
    match F.session b with
    | none => []
    | some s =>
      if e.on = b then ((s.call F.manager e).1, (F.step e).session b) :: observed b (F.step e) es
      else observed b (F.step e) es

/-- The same calls on a controller that is alone with its manager. -/
def replay (p : LeasePolicy) : SessionController → List (FleetEvent ι) →
    List (FleetAnswer × Option SessionController)
  | _, [] => []
  | s, e :: es =>
    s.call (s.soloManager p) e :: match (s.call (s.soloManager p) e).2 with
      | none => []
      | some s => replay p s es

/-- The times of the calls do not go back. -/
def Nondecreasing (es : List (FleetEvent ι)) : Prop :=
  (es.filterMap FleetEvent.time).Pairwise (· ≤ ·)

omit [DecidableEq ι] in
/-- A session with a stored lease sees a call as if it were alone. -/
theorem call_solo (h : F.Inv) (hs : F.session b = some s) (hstate : s.state ≠ .awaitingHello)
    {t : TimePoint} (hstored : F.StoredUntil b t) (hnow : ∀ now, e.time = some now → t ≤ now) :
    s.call F.manager e = s.call (s.soloManager F.manager.toLeasePolicy) e := by
  have hrenew (now : TimePoint) (hle : t ≤ now) : (s.renewLease F.manager now).1 =
      (s.renewLease (s.soloManager F.manager.toLeasePolicy) now).1 := by
    apply SessionController.renewLease_solo h.manager (h.coherent hs)
    intro l hl
    obtain hentry | hexpired := hstored s l hs hl
    · exact .inl hentry
    · exact .inr (hexpired.trans hle)
  cases e with
  | create i identity => rfl
  | handle i frame now =>
    have hseen := SessionController.seen_handle hstate (hrenew now (hnow now rfl)) frame
    simp only [SessionController.seen, Prod.mk.injEq] at hseen
    simp only [SessionController.call, hseen]
  | makeDataToClient i packet now =>
    have hseen := SessionController.seen_makeDataToClient (hrenew now (hnow now rfl)) packet
    simp only [SessionController.seen, Prod.mk.injEq] at hseen
    simp only [SessionController.call, hseen]
  | onTransportClosed i => simp [SessionController.call, SessionController.onTransportClosed_fst]
  | destroy i => rfl

omit [DecidableEq ι] in
/-- No call takes a session back to its beginning. -/
theorem call_started (hs : s.Holds) (hstate : s.state ≠ .awaitingHello) {m : LeaseManager}
    {s' : SessionController} (h : (s.call m e).2 = some s') : s'.state ≠ .awaitingHello := by
  cases e with
  | create i identity =>
    cases h
    exact hstate
  | handle i frame now =>
    obtain ⟨r, s₁, m₁, heq, hh⟩ := SessionController.handle_handled hs m frame now
    simp only [SessionController.call, heq, Option.some.injEq] at h
    rw [← h]
    cases hh <;> simp_all
  | makeDataToClient i packet now =>
    obtain ⟨r, s₁, m₁, heq, hh⟩ := SessionController.makeDataToClient_sent s m packet now
    simp only [SessionController.call, heq, Option.some.injEq] at h
    rw [← h]
    cases hh <;> simp_all
  | onTransportClosed i =>
    simp only [SessionController.call, SessionController.onTransportClosed_fst,
      Option.some.injEq] at h
    rw [← h]
    simp
  | destroy i => cases h

/-- After the hello a session behaves as if it were alone, in every run. -/
theorem observed_eq_replay (h : F.Inv) (hs : F.session b = some s)
    (hstate : s.state ≠ .awaitingHello) {t : TimePoint} (hstored : F.StoredUntil b t)
    {es : List (FleetEvent ι)} (htimes : Nondecreasing es)
    (hlate : ∀ now ∈ es.filterMap FleetEvent.time, t ≤ now) :
    observed b F es = replay F.manager.toLeasePolicy s (es.filter (·.on = b)) := by
  induction es generalizing F s t with
  | nil => simp [observed, replay]
  | cons e es ih =>
    have hnow (now : TimePoint) (htime : e.time = some now) : t ≤ now :=
      hlate now (by simp [htime])
    -- the time that has come after the event
    obtain ⟨t', ht', hreached, hlate', htimes'⟩ : ∃ t', t ≤ t' ∧
        (∀ now, e.time = some now → now ≤ t') ∧
        (∀ now ∈ es.filterMap FleetEvent.time, t' ≤ now) ∧ Nondecreasing es := by
      cases htime : e.time with
      | none =>
        rw [Nondecreasing, List.filterMap_cons_none htime] at htimes
        rw [List.filterMap_cons_none htime] at hlate
        exact ⟨t, le_rfl, by simp, hlate, htimes⟩
      | some now =>
        rw [Nondecreasing, List.filterMap_cons_some htime, List.pairwise_cons] at htimes
        exact ⟨now, hnow now htime, by simp, htimes.1, htimes.2⟩
    have hstored' := hstored.step h ht' hreached
    have hpolicy := step_policy h e
    by_cases hon : e.on = b
    · have hcall := call_solo h hs hstate hstored hnow
      have hafter := step_session_self hs hon
      have hfilter : (e :: es).filter (·.on = b) = e :: es.filter (·.on = b) := by simp [hon]
      rw [hfilter, replay, observed, hs]
      simp only [if_pos hon]
      rw [hafter, hcall]
      congr 1
      cases hs' : (s.call (s.soloManager F.manager.toLeasePolicy) e).2 with
      | none =>
        rw [hcall, hs'] at hafter
        cases es with
        | nil => rfl
        | cons => simp [observed, hafter]
      | some s' =>
        rw [hcall, hs'] at hafter
        have hstate' := call_started (h.holds hs) hstate hs'
        rw [ih (h.step e) hafter hstate' hstored' htimes' hlate', hpolicy]
    · have hsame : (F.step e).session b = some s := (step_session_of_ne hon).trans hs
      have hfilter : (e :: es).filter (·.on = b) = es.filter (·.on = b) := by simp [hon]
      rw [hfilter, observed, hs]
      simp only [if_neg hon]
      rw [ih (h.step e) hsame hstate hstored' htimes' hlate', hpolicy]

/-- The identity of the session that stands under a name, as its construction and destruction
decide it. -/
def named (current : Option Bytes) : FleetEvent ι → Option Bytes
  | .create _ identity => if current = none ∧ identity ≠ [] then some identity else current
  | .destroy _ => none
  | _ => current

theorem step_session_none (hs : F.session b = none) (hon : e.on = b) :
    (F.step e).session b = (named none e).map fun identity => { identity } := by
  subst hon
  cases e with
  | create i identity =>
    have hs : F.session i = none := hs
    by_cases hid : identity = []
    · simp [step, hs, SessionController.create, hid, named, FleetEvent.on]
    · simp [step, hs, SessionController.create, hid, named, FleetEvent.on, put]
  | handle i frame now =>
    have hs : F.session i = none := hs
    simp [step, hs, named, FleetEvent.on]
  | makeDataToClient i packet now =>
    have hs : F.session i = none := hs
    simp [step, hs, named, FleetEvent.on]
  | onTransportClosed i =>
    have hs : F.session i = none := hs
    simp [step, hs, named, FleetEvent.on]
  | destroy i =>
    have hs : F.session i = none := hs
    simp [step, hs, named, FleetEvent.on]

omit [DecidableEq ι] in
theorem call_identity (hs : s.Holds) (m : LeaseManager) (e : FleetEvent ι) :
    (s.call m e).2.map (·.identity) = named (some s.identity) e := by
  cases e with
  | create i identity => simp [SessionController.call, named]
  | handle i frame now =>
    obtain ⟨r, s₁, m₁, heq, hh⟩ := SessionController.handle_handled hs m frame now
    simp [SessionController.call, heq, hh.identity, named]
  | makeDataToClient i packet now =>
    obtain ⟨r, s₁, m₁, heq, hh⟩ := SessionController.makeDataToClient_sent s m packet now
    simp [SessionController.call, heq, hh.identity, named]
  | onTransportClosed i =>
    simp [SessionController.call, SessionController.onTransportClosed_fst, named]
  | destroy i => rfl

/-- The calls on a name alone decide whose session stands under it. -/
theorem run_named (h : F.Inv) (b : ι) (es : List (FleetEvent ι)) :
    ((Run.run step F es).session b).map (·.identity) =
      (es.filter (·.on = b)).foldl named ((F.session b).map (·.identity)) := by
  induction es generalizing F with
  | nil => rfl
  | cons e es ih =>
    rw [Run.run_cons, ih (h.step e)]
    by_cases hon : e.on = b
    · have hfilter : (e :: es).filter (·.on = b) = e :: es.filter (·.on = b) := by simp [hon]
      rw [hfilter, List.foldl_cons]
      congr 1
      cases hs : F.session b with
      | none =>
        rw [step_session_none hs hon, Option.map_map]
        exact Option.map_id' ..
      | some s =>
        rw [step_session_self hs hon]
        exact call_identity (h.holds hs) F.manager e
    · have hfilter : (e :: es).filter (·.on = b) = es.filter (·.on = b) := by simp [hon]
      rw [hfilter, step_session_of_ne hon]

/-- A session that waits for its hello is as it was created. -/
def Untouched (F : Fleet ι) (b : ι) : Prop :=
  ∀ s, F.session b = some s → s.state = .awaitingHello → s = { identity := s.identity }

omit [DecidableEq ι] in
/-- While a session waits for its hello, no call changes it. -/
theorem call_waiting (hs : s.Holds) {m : LeaseManager} {s' : SessionController}
    (h : (s.call m e).2 = some s') (hstate : s'.state = .awaitingHello) : s' = s := by
  have hwaits : s.state = .awaitingHello := by
    by_contra hstarted
    exact call_started hs hstarted h hstate
  cases e with
  | create i identity => exact (Option.some.inj h).symm
  | handle i frame now =>
    obtain ⟨r, s₁, m₁, heq, hh⟩ := SessionController.handle_handled hs m frame now
    simp only [SessionController.call, heq, Option.some.injEq] at h
    rw [← h] at hstate
    cases hh <;> simp_all
  | makeDataToClient i packet now =>
    obtain ⟨r, s₁, m₁, heq, hh⟩ := SessionController.makeDataToClient_sent s m packet now
    simp only [SessionController.call, heq, Option.some.injEq] at h
    rw [← h]
    cases hh with
    | ignored => rfl
    | lost state => simp [hwaits] at state
    | sent state => simp [hwaits] at state
  | onTransportClosed i =>
    simp only [SessionController.call, SessionController.onTransportClosed_fst,
      Option.some.injEq] at h
    rw [← h] at hstate
    cases hstate
  | destroy i => cases h

theorem Untouched.step (h : F.Inv) (huntouched : F.Untouched b) (e : FleetEvent ι) :
    (F.step e).Untouched b := by
  intro s' hs' hstate
  by_cases hon : e.on = b
  · cases hs : F.session b with
    | some s =>
      rw [step_session_self hs hon] at hs'
      have hsame := call_waiting (h.holds hs) hs' hstate
      rw [hsame] at hstate ⊢
      exact huntouched s hs hstate
    | none =>
      rw [step_session_none hs hon] at hs'
      obtain ⟨identity, -, hs'⟩ := Option.map_eq_some_iff.mp hs'
      rw [← hs']
  · rw [step_session_of_ne hon] at hs'
    exact huntouched s' hs' hstate

theorem untouched_run (h : F.Inv) (huntouched : F.Untouched b) (es : List (FleetEvent ι)) :
    (Run.run Fleet.step F es).Untouched b := by
  induction es generalizing F with
  | nil => exact huntouched
  | cons e es ih => exact ih (h.step e) (huntouched.step h e)

theorem run_policy (h : F.Inv) (es : List (FleetEvent ι)) :
    (Run.run step F es).manager.toLeasePolicy = F.manager.toLeasePolicy := by
  induction es generalizing F with
  | nil => rfl
  | cons e es ih => rw [Run.run_cons, ih (h.step e), step_policy h e]

/-- The session gets a lease by this frame. -/
def Obtains (F : Fleet ι) (b : ι) (frame : Frame) (now : TimePoint) (l : Lease) : Prop :=
  ∃ s s', F.session b = some s ∧ s.lease = none ∧
    (F.step (.handle b frame now)).session b = some s' ∧ s'.lease = some l

/-- The controller of a session that has just got its lease. -/
def admitted (p : LeasePolicy) (identity : Bytes) (hello : ClientHello) (l : Lease) :
    SessionController where
  identity
  state := .established
  lease := some l
  negotiatedMtu := min hello.requestedMtu p.mtu
  nextExpectedSequence := 2
  nextOutboundSequence := 2

/-- A session that has just got its lease is known by its identity, its hello and the lease. -/
theorem Obtains.established {frame : Frame} {now : TimePoint} {l : Lease} (h : F.Inv)
    (huntouched : F.Untouched b) (hobtains : F.Obtains b frame now l) :
    ∃ identity hello, (F.session b).map (·.identity) = some identity ∧
      decodeClientHello frame.payload = .ok hello ∧
      (F.step (.handle b frame now)).session b =
        some (admitted F.manager.toLeasePolicy identity hello l) ∧
      (F.step (.handle b frame now)).manager.entry identity = some l := by
  obtain ⟨s, s', hs, hnone, hs', hl⟩ := hobtains
  obtain ⟨r, s₁, m₁, heq, hh⟩ := SessionController.handle_handled (h.holds hs) F.manager frame now
  have hsession : (F.step (.handle b frame now)).session b = some s₁ := by
    simp [step, hs, heq, put]
  have hmanager : (F.step (.handle b frame now)).manager = m₁ := by simp [step, hs, heq, put]
  rw [hsession, Option.some.injEq] at hs'
  rw [← hs'] at hl
  cases hh with
  | inert => simp [hnone] at hl
  | failed => simp at hl
  | granted state sequence type decode acquire encode =>
    rename_i hello l' payload
    obtain ⟨-, hg⟩ := h.manager.acquire_ok acquire
    have hl' : l' = l := by simpa using hl
    have hmtu : m₁.mtu = F.manager.mtu := by rw [hg.policy]
    refine ⟨s.identity, hello, by simp [hs], decode, ?_, ?_⟩
    · rw [hsession, huntouched s hs state, hl', hmtu]
      rfl
    · rw [hmanager, ← hl']
      exact hg.self
  | packet state sequence lease => simp [hnone] at lease
  | pong state sequence lease => simp [hnone] at lease
  | closed => simp at hl

/-- From its lease on, a session of a run behaves as if it were alone. -/
theorem observed_of_obtains (h : F.Inv) {frame : Frame} {now : TimePoint} {l : Lease}
    {before after : List (FleetEvent ι)} (huntouched : F.Untouched b)
    (htimes : Nondecreasing (before ++ .handle b frame now :: after))
    (hobtains : (Run.run step F before).Obtains b frame now l) :
    ∃ identity hello, (before.filter (·.on = b)).foldl named ((F.session b).map (·.identity)) =
        some identity ∧ decodeClientHello frame.payload = .ok hello ∧ l.identity = identity ∧
      l.ipv6Address = F.manager.deriveIpv6 l.address ∧
      (Run.run step F (before ++ [.handle b frame now])).session b =
        some (admitted F.manager.toLeasePolicy identity hello l) ∧
      observed b (Run.run step F (before ++ [.handle b frame now])) after =
        replay F.manager.toLeasePolicy (admitted F.manager.toLeasePolicy identity hello l)
          (after.filter (·.on = b)) := by
  have hinv := inv_run h before
  have hpolicy := run_policy h before
  have hnamed := run_named h b before
  have hrun := untouched_run h huntouched before
  have hlast : Run.run step F (before ++ [.handle b frame now]) =
      (Run.run step F before).step (.handle b frame now) := by
    rw [Run.run_append]
    rfl
  obtain ⟨identity, hello, hidentity, hdecode, hsession, hentry⟩ := hobtains.established hinv hrun
  rw [hlast]
  generalize Run.run step F before = G at *
  have hinv' := hinv.step (.handle b frame now)
  have hpolicy' := (step_policy hinv (.handle b frame now)).trans hpolicy
  have hadmitted : (G.step (.handle b frame now)).session b =
      some (admitted F.manager.toLeasePolicy identity hello l) := by
    rw [hsession, hpolicy]
  refine ⟨identity, hello, hnamed.symm.trans hidentity, hdecode, hinv'.manager.key hentry, ?_,
    hadmitted, ?_⟩
  · rw [hinv'.manager.ipv6 hentry, hpolicy']
  · have hstored : (G.step (.handle b frame now)).StoredUntil b now := by
      intro s l' hs hl'
      rw [hadmitted] at hs
      cases hs
      cases hl'
      exact .inl hentry
    have htime : FleetEvent.time (.handle b frame now) = some now := rfl
    rw [Nondecreasing, List.filterMap_append, List.filterMap_cons_some htime] at htimes
    have hafter := (List.pairwise_append.mp htimes).2.1
    rw [List.pairwise_cons] at hafter
    rw [observed_eq_replay hinv' hadmitted (by simp [admitted]) hstored hafter.2 hafter.1, hpolicy']

/-- Two runs that make the same calls on a session and give it the same lease cannot be told apart
by it from then on, whatever the other sessions do. -/
theorem established_sessions_do_not_interfere {first last gateway : Ipv4Address}
    {prefixLength : UInt8} {mtu : UInt16} {duration : Int} {v6Prefix v6Gateway : Ipv6Address}
    {v6Length : UInt8} {m₀ : LeaseManager} (h₀ : LeaseManager.create first last gateway prefixLength
      mtu duration v6Prefix v6Gateway v6Length = .ok m₀) {b : ι} {frame : Frame} {now : TimePoint}
    {before before' after after' : List (FleetEvent ι)} {l l' : Lease}
    (htimes : Nondecreasing (before ++ .handle b frame now :: after))
    (htimes' : Nondecreasing (before' ++ .handle b frame now :: after'))
    (hbefore : before.filter (·.on = b) = before'.filter (·.on = b))
    (hafter : after.filter (·.on = b) = after'.filter (·.on = b))
    (hobtains : (Run.run step (start m₀) before).Obtains b frame now l)
    (hobtains' : (Run.run step (start m₀) before').Obtains b frame now l')
    (hleaseId : l.leaseId = l'.leaseId) (haddress : l.address = l'.address)
    (hexpires : l.expiresAt = l'.expiresAt) :
    let F := Run.run step (start m₀) (before ++ [.handle b frame now])
    let F' := Run.run step (start m₀) (before' ++ [.handle b frame now])
    F.session b = F'.session b ∧ observed b F after = observed b F' after' := by
  have hstart : (start m₀ : Fleet ι).Inv := inv_reached h₀ []
  have huntouched : (start m₀ : Fleet ι).Untouched b := by
    intro s hs
    cases hs
  obtain ⟨identity, hello, hnamed, hdecode, hid, hipv6, hsession, hobserved⟩ :=
    observed_of_obtains hstart huntouched htimes hobtains
  obtain ⟨identity', hello', hnamed', hdecode', hid', hipv6', hsession', hobserved'⟩ :=
    observed_of_obtains hstart huntouched htimes' hobtains'
  have hidentity : identity = identity' := by
    rw [hbefore, hnamed'] at hnamed
    exact (Option.some.inj hnamed).symm
  have hhello : hello = hello' := by
    rw [hdecode] at hdecode'
    exact Except.ok.inj hdecode'
  have hlease : l = l' := by
    have hsame : l.ipv6Address = l'.ipv6Address := by rw [hipv6, hipv6', haddress]
    cases l
    cases l'
    simp_all
  rw [← hidentity, ← hhello, ← hlease] at hsession' hobserved'
  exact ⟨hsession.trans hsession'.symm, by rw [hobserved, hobserved', hafter]⟩

/-- A session that is alone, and one beside a second session that finds the pool exhausted. -/
theorem established_sessions_do_not_interfere_beside :
    let hello : FleetEvent Bool := .handle true helloFrame 0
    let F := Run.run step (start (LeaseManager.singleManager 1)) [.create true (text "c"), hello]
    let F' := Run.run step (start (LeaseManager.singleManager 1))
      [.create true (text "c"), .create false (text "d"), hello]
    F'.session false ≠ none ∧ observed true F [.handle true dataFrame 1] =
      observed true F' [.handle false helloFrame 0, .handle true dataFrame 1] := by
  intro hello F F'
  let G : Fleet Bool := Run.run step (start (LeaseManager.singleManager 1)) [.create true (text "c")]
  let G' : Fleet Bool := Run.run step (start (LeaseManager.singleManager 1))
    [.create true (text "c"), .create false (text "d")]
  have hlease : ((G.step hello).session true).bind (·.lease) =
      some (LeaseManager.singleLease 1) := by decide +kernel
  have hlease' : ((G'.step hello).session true).bind (·.lease) =
      some (LeaseManager.singleLease 1) := by decide +kernel
  have hother : (F'.session false).isSome = true := by decide +kernel
  obtain ⟨s, hs, hl⟩ := Option.bind_eq_some_iff.mp hlease
  obtain ⟨s', hs', hl'⟩ := Option.bind_eq_some_iff.mp hlease'
  have hobtains : G.Obtains true helloFrame 0 (LeaseManager.singleLease 1) :=
    ⟨{ identity := text "c" }, s, rfl, rfl, hs, hl⟩
  have hobtains' : G'.Obtains true helloFrame 0 (LeaseManager.singleLease 1) :=
    ⟨{ identity := text "c" }, s', rfl, rfl, hs', hl'⟩
  refine ⟨Option.isSome_iff_ne_none.mp hother, ?_⟩
  exact (established_sessions_do_not_interfere LeaseManager.create_single
    (by unfold Nondecreasing; decide) (by unfold Nondecreasing; decide)
    (by simp [FleetEvent.on]) (by simp [FleetEvent.on]) hobtains hobtains' rfl rfl rfl).2

end Fleet

end PersonalVpn.Core
