import PersonalVpn.Server.RouteCoherence
import PersonalVpn.Server.TrafficCounters

namespace PersonalVpn.Server

open PersonalVpn.Core Protocol Traffic

/-- A server with the frames that the outbound queues of its sessions have taken, and those that they
have refused because of their limits. -/
structure TrafficRun (ι : Type) where
  server : TlsTunnelServer ι
  queued : List Frame := []
  refused : List Frame := []

/-- What a session has added to one of its histories. -/
def added (history : TlsTunnelSession → List Frame) (before after : Option TlsTunnelSession) :
    List Frame :=
  (after.elim [] history).drop (before.elim [] history).length

theorem added_append {history : TlsTunnelSession → List Frame} {s s' : TlsTunnelSession}
    {more : List Frame} (h : history s' = history s ++ more) :
    added history (some s) (some s') = more := by
  simp [added, h]

namespace TrafficRun

variable {ι : Type} [DecidableEq ι] {T : TrafficRun ι}

def step (T : TrafficRun ι) (e : ServerEvent ι) : TrafficRun ι :=
  let server := T.server.step e
  match e with
  | .session i _ => {
      server
      queued := T.queued ++ added (·.queued) (T.server.session i) (server.session i)
      refused := T.refused ++ added (·.refused) (T.server.session i) (server.session i) }
  | _ => { T with server }

/-- A server that has not accepted anything yet. -/
def start (manager : LeaseManager) (maximumSessions : Nat) : TrafficRun ι where
  server := TlsTunnelServer.start manager maximumSessions

/-- The counters read what has gone to the packet sink and what the outbound queues have taken and
refused. -/
structure Matches (T : TrafficRun ι) : Prop where
  uplinkPackets : T.server.shared.metrics.uplinkPackets =
    UInt64.ofNat T.server.shared.outside.tun.length
  uplinkBytes : T.server.shared.metrics.uplinkBytes =
    UInt64.ofNat (T.server.shared.outside.tun.map List.length).sum
  downlinkPackets : T.server.shared.metrics.downlinkPackets =
    UInt64.ofNat (T.queued.countP isData)
  downlinkBytes : T.server.shared.metrics.downlinkBytes =
    UInt64.ofNat ((T.queued.filter isData).map (·.payload.length)).sum
  queueOverflows : T.server.shared.metrics.queueOverflows = UInt64.ofNat T.refused.length

omit [DecidableEq ι] in
theorem matches_iff : T.Matches ↔ T.server.shared.metrics.traffic =
    tally T.server.shared.outside.tun T.queued T.refused := by
  rw [Traffic.ext_iff]
  exact ⟨fun h => ⟨h.1, h.2, h.3, h.4, h.5⟩, fun ⟨h₁, h₂, h₃, h₄, h₅⟩ => ⟨h₁, h₂, h₃, h₄, h₅⟩⟩

/-- `send_ipv6_from_tun` is given nothing that its session would send. -/
def Countable (T : TrafficRun ι) : ServerEvent ι → Prop
  | .session i (.sendIpv6 packet now) => ∀ s, T.server.session i = some s →
    ¬s.Transmits T.server.shared.manager packet now
  | _ => True

/-- The sessions and their controllers are sound. -/
def Sound (T : TrafficRun ι) : Prop :=
  ∀ i s, T.server.session i = some s → s.Sound ∧ ∀ c, s.controller = some c → c.Holds

/-- The packet sink of the server's sessions writes to the TUN device, and nothing else does. -/
theorem sinks_handlers (active : ι → Bool) (i : ι) :
    (TlsTunnelServer.handlers active i).Sinks Exchange.tun where
  packetSink packet x := rfl
  established lease x := by
    simp only [TlsTunnelServer.handlers, TlsTunnelServer.registerRoutes]
    split
    · rfl
    · split
      · split
        · rfl
        · rfl
      · rfl
  closed lease x := by
    simp only [TlsTunnelServer.handlers, TlsTunnelServer.handleSessionClosed]
    split
    · rfl
    · split
      · rfl
      · rfl

/-- An event of a session, with what it adds to the histories of the queues. -/
theorem step_session {i : ι} {s : TlsTunnelSession} (hi : T.server.session i = some s)
    (event : SessionEvent) :
    let after := s.step (TlsTunnelServer.handlers T.server.active i) T.server.shared event
    T.step (.session i event) = {
      server := T.server.put i after
      queued := T.queued ++ added (·.queued) (some s) (some after.1)
      refused := T.refused ++ added (·.refused) (some s) (some after.1) } := by
  simp [step, TlsTunnelServer.step, hi, TlsTunnelServer.put]

omit [DecidableEq ι] in
/-- Whatever replaces one session by a sound one, or by none. -/
theorem Sound.of_session (h : T.Sound) {T' : TrafficRun ι} {i : ι}
    (hothers : ∀ j, j ≠ i → T'.server.session j = T.server.session j)
    (hnew : ∀ s, T'.server.session i = some s →
      s.Sound ∧ ∀ c, s.controller = some c → c.Holds) : T'.Sound := by
  intro j s hj
  by_cases hji : j = i
  · rw [hji] at hj
    exact hnew s hj
  · rw [hothers j hji] at hj
    exact h j s hj

/-- What an event of the server's own strand does to the sessions and the traffic. -/
theorem step_strand (h : T.Sound) {e : ServerEvent ι} (he : ∀ i event, e ≠ .session i event) :
    (T.step e).Sound ∧
      (T.step e).server.shared.metrics.traffic = T.server.shared.metrics.traffic ∧
      (T.step e).server.shared.outside = T.server.shared.outside ∧
      (T.step e).queued = T.queued ∧ (T.step e).refused = T.refused := by
  cases e with
  | accept i =>
    unfold step TlsTunnelServer.step
    dsimp only
    split
    · exact ⟨h, rfl, rfl, rfl, rfl⟩
    · unfold TlsTunnelServer.handleAccept
      dsimp only
      split
      · exact ⟨h, rfl, rfl, rfl, rfl⟩
      · refine ⟨h.of_session (i := i) ?_ ?_, rfl, rfl, rfl, rfl⟩
        · exact fun j hji => Function.update_of_ne hji ..
        · intro s hs
          dsimp only at hs
          rw [Function.update_self] at hs
          cases hs
          exact ⟨TlsTunnelServer.sound_fresh, by simp⟩
  | acceptFailed aborted =>
    unfold step TlsTunnelServer.step
    dsimp only
    split
    · exact ⟨h, rfl, rfl, rfl, rfl⟩
    · exact ⟨h, rfl, rfl, rfl, rfl⟩
  | session i event => exact absurd rfl (he i event)
  | remove i =>
    unfold step TlsTunnelServer.step
    dsimp only
    split
    · exact ⟨h, rfl, rfl, rfl, rfl⟩
    · split
      · refine ⟨h.of_session (i := i) ?_ ?_, rfl, rfl, rfl, rfl⟩
        · exact fun j hji => Function.update_of_ne hji ..
        · intro s hs
          simp [TlsTunnelServer.removeSession] at hs
      · exact ⟨h, rfl, rfl, rfl, rfl⟩
  | stop => exact ⟨h, rfl, rfl, rfl, rfl⟩

theorem Sound.session (h : T.Sound) {i : ι} {s : TlsTunnelSession}
    (hi : T.server.session i = some s) (event : SessionEvent) :
    (T.step (.session i event)).Sound := by
  obtain ⟨hs, hc⟩ := h i s hi
  rw [step_session hi]
  refine h.of_session (i := i) ?_ ?_
  · intro j hji
    exact Function.update_of_ne hji ..
  · intro s' hs'
    dsimp only [TlsTunnelServer.put] at hs'
    rw [Function.update_self] at hs'
    cases hs'
    exact ⟨hs.acted hc (TlsTunnelSession.step_acted _ hc _ event),
      TlsTunnelSession.step_holds _ _ event hc⟩

theorem Matches.metered {i : ι} {s s' : TlsTunnelSession} {w' : Shared (Exchange ι)}
    (h : T.Matches) (hmetered : TlsTunnelSession.Metered Exchange.tun s T.server.shared s' w') :
    Matches {
      server := T.server.put i (s', w')
      queued := T.queued ++ added (·.queued) (some s) (some s')
      refused := T.refused ++ added (·.refused) (some s) (some s') } := by
  obtain ⟨packets, taken, turned, hx, hq, hr, hm⟩ := hmetered
  rw [matches_iff] at h ⊢
  rw [added_append hq, added_append hr]
  change w'.metrics.traffic = tally w'.outside.tun _ _
  rw [hm, h, hx, tally_append]

/-- An IPv6 packet that a session sends is a frame the counters leave out. -/
theorem Matches.offered {i : ι} {s s' : TlsTunnelSession} {w' : Shared (Exchange ι)}
    {packet : Bytes} {taken : Bool} (h : T.Matches) (hx : w'.outside = T.server.shared.outside)
    (hm : w'.metrics = T.server.shared.metrics) (hoffered : s.Offered packet taken s') :
    ¬Matches {
      server := T.server.put i (s', w')
      queued := T.queued ++ added (·.queued) (some s) (some s')
      refused := T.refused ++ added (·.refused) (some s) (some s') } := by
  obtain ⟨f, hf, -, hq, hr⟩ := hoffered
  rw [matches_iff] at h ⊢
  rw [added_append hq, added_append hr]
  change ¬w'.metrics.traffic = tally w'.outside.tun _ _
  have happend := tally_append T.server.shared.outside.tun [] T.queued (if taken then [f] else [])
    T.refused (if taken then [] else [f])
  rw [List.append_nil] at happend
  rw [hm, hx, happend, ← h]
  obtain ⟨htaken, hturned⟩ := add_tally_frame T.server.shared.metrics.traffic hf
  cases taken with
  | true => exact htaken.symm
  | false => exact hturned.symm

/-- A step keeps the counters right exactly if it is countable. -/
theorem Sound.step_matches (h : T.Sound) (e : ServerEvent ι) :
    (T.step e).Sound ∧ (T.Matches → ((T.step e).Matches ↔ T.Countable e)) := by
  by_cases hsession : ∃ i event, e = .session i event
  · obtain ⟨i, event, he⟩ := hsession
    rw [he]
    cases hi : T.server.session i with
    | none =>
      have hsame : T.step (.session i event) = T := by
        simp [step, TlsTunnelServer.step, hi, added]
      rw [hsame]
      refine ⟨h, fun hm => ⟨fun _ => ?_, fun _ => hm⟩⟩
      unfold Countable
      split
      · rename_i heq
        cases heq
        simp [hi]
      · trivial
    | some s =>
      refine ⟨h.session hi event, fun hm => ?_⟩
      obtain ⟨hs, hc⟩ := h i s hi
      have hsinks := sinks_handlers T.server.active i
      rw [step_session hi]
      by_cases hsend : ∃ packet now, event = .sendIpv6 packet now
      · obtain ⟨packet, now, hevent⟩ := hsend
        rw [hevent]
        have hcountable : T.Countable (.session i (.sendIpv6 packet now)) ↔
            ¬s.Transmits T.server.shared.manager packet now := by simp [Countable, hi]
        rw [hcountable, TlsTunnelSession.step, TlsTunnelSession.whenIdle]
        split
        · rename_i hbusy
          refine ⟨fun _ htransmits => hbusy htransmits.1, fun _ => ?_⟩
          exact hm.metered (.refl s _)
        · rename_i hidle
          obtain ⟨hx, hmetrics, hcases⟩ := TlsTunnelSession.sendIpv6FromTun_uncounted
            (not_not.mp hidle) T.server.shared packet now
          obtain ⟨hno, hq, hr⟩ | ⟨htransmits, taken, hoffered⟩ := hcases
          · refine ⟨fun _ => hno, fun _ => ?_⟩
            exact hm.metered (.same (congrArg Exchange.tun hx) hq hr
              (congrArg ServerMetrics.traffic hmetrics))
          · refine ⟨fun hmatches => ?_, fun hno => absurd htransmits hno⟩
            exact absurd hmatches (hm.offered hx hmetrics hoffered)
      · have hcountable : T.Countable (.session i event) := by
          unfold Countable
          split
          · rename_i heq
            cases heq
            exact absurd ⟨_, _, rfl⟩ hsend
          · trivial
        refine ⟨fun _ => hcountable, fun _ => ?_⟩
        exact hm.metered (TlsTunnelSession.step_metered hsinks hs hc _
          fun packet now heq => hsend ⟨packet, now, heq⟩)
  · have he : ∀ i event, e ≠ .session i event := fun i event heq => hsession ⟨i, event, heq⟩
    obtain ⟨hsound, hm, hx, hq, hr⟩ := step_strand h he
    refine ⟨hsound, fun hmatches => ?_⟩
    have hcountable : T.Countable e := by
      unfold Countable
      split
      · exact absurd rfl (he _ _)
      · trivial
    rw [matches_iff] at hmatches ⊢
    rw [hm, hx, hq, hr]
    exact ⟨fun _ => hcountable, fun _ => hmatches⟩

/-- The counters are right throughout a run if and only if no session is given an IPv6 packet by the
TUN device that it would send. -/
theorem counters_match_iff (manager : LeaseManager) (maximumSessions : Nat)
    (es : List (ServerEvent ι)) :
    (∀ n, (Run.run step (start manager maximumSessions) (es.take n)).Matches) ↔
      Run.Along step Countable (start manager maximumSessions) es := by
  have hsound : (start manager maximumSessions : TrafficRun ι).Sound := by
    intro i s hi
    cases hi
  have hmatches : (start manager maximumSessions : TrafficRun ι).Matches :=
    ⟨rfl, rfl, rfl, rfl, rfl⟩
  exact Run.forall_take_iff_along (E := fun _ => True) (P := Sound)
    (fun _ e _ h => h.step_matches e) hsound hmatches fun _ _ => trivial

/-- One client address, 10.8.0.2, with IPv6 under fd00:9::/64. -/
def dualPolicy : LeasePolicy := { LeaseManager.singlePolicy with
  ipv6Prefix := #v[0xfd, 0, 0, 9, 0, 0, 0, 0, 0, 0, 0, 0, 0, 0, 0, 0]
  ipv6Gateway := #v[0xfd, 0, 0, 9, 0, 0, 0, 0, 0, 0, 0, 0, 0, 0, 0, 1]
  ipv6PrefixLength := 64 }

/-- An IPv6 header from fd00:9::1 to fd00:9::a08:2 without payload. -/
def ipv6Packet : Bytes :=
  [96, 0, 0, 0, 0, 0, 59, 64] ++ [253, 0, 0, 9, 0, 0, 0, 0, 0, 0, 0, 0, 0, 0, 0, 1] ++
    [253, 0, 0, 9, 0, 0, 0, 0, 0, 0, 0, 0, 10, 8, 0, 2]

/-- One session is established, and then the TUN device has an IPv6 packet for its client. -/
def ipv6Downlink : List (ServerEvent Unit) :=
  TlsTunnelServer.greet () (text "c") ++
    [.session () (.frame 0), .session () (.sendIpv6 ipv6Packet 1)]

theorem ipv6_downlink_uncounted :
    let T := Run.run step (start ⟨dualPolicy, ∅, ∅, 1⟩ 8) ipv6Downlink
    dualPolicy.validate = .ok () ∧ T.queued.countP isData = 1 ∧
      T.server.shared.metrics.downlinkPackets = 0 ∧ T.server.shared.metrics.downlinkBytes = 0 ∧
      ¬T.Matches := by
  intro T
  have hqueued : T.queued.countP isData = 1 := by decide +kernel
  have hpackets : T.server.shared.metrics.downlinkPackets = 0 := by decide +kernel
  refine ⟨by decide +kernel, hqueued, hpackets, by decide +kernel, fun hmatches => ?_⟩
  have hdown := hmatches.downlinkPackets
  rw [hqueued, hpackets] at hdown
  exact absurd hdown (by decide)

end TrafficRun

end PersonalVpn.Server
