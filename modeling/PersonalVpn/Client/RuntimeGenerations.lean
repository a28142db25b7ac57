import PersonalVpn.Client.NetworkReversal
import PersonalVpn.Client.RuntimeSteps
import PersonalVpn.Lib.Sequenced
import Mathlib.Data.UInt

/-! The network state of a runtime and the generations of its connections. -/

namespace PersonalVpn.Client

open PersonalVpn.Core Protocol ClientNetworkTransaction

/-- The states in which the network is as before. -/
def ClientRuntimeState.IsDown (state : ClientRuntimeState) : Prop :=
  state = .resolving ∨ state = .connecting ∨ state = .reconnecting ∨ state = .stopped ∨
    state = .failed

/-- Nothing is set up where a transaction is asked to activate and where a state is published in
which nothing may be; a reader is started where there is none. -/
def RuntimeAction.Safe : RuntimeAction → Prop
  | activate transaction => Idle transaction
  | startReader unjoined => unjoined = false
  | publish state transaction => state.IsDown → Idle transaction
  | _ => True

/-- The generation that a `begin_connect` starts. -/
def RuntimeAction.begun : RuntimeAction → Option UInt64
  | beginConnect generation => some generation
  | _ => none

/-- The generation that the callback of an event carries. -/
def RuntimeEvent.generation {σ : Type} (w : RuntimeIo σ) : RuntimeEvent → Option UInt64
  | resolve generation _ _ _ _ => some generation
  | connect generation _ _ => some generation
  | connectionTimer generation _ _ => some generation
  | assignment tunnel _ => w.tunnels[tunnel]?.map RuntimeTunnel.generation
  | packet tunnel _ _ => w.tunnels[tunnel]?.map RuntimeTunnel.generation
  | tunnelClosed tunnel _ _ _ => w.tunnels[tunnel]?.map RuntimeTunnel.generation
  | _ => none

namespace RuntimeIo

variable {σ : Type} {backend : ClientNetworkBackend σ} {parsers : AddressParsers}
  {platform : Platform} {w : RuntimeIo σ}

def currentGeneration (w : RuntimeIo σ) : UInt64 := w.runtime.connectionGeneration

/-- A tunnel of the current generation that has not published its assignment. -/
def Awaits (generation : UInt64) (t : RuntimeTunnel) : Bool :=
  t.generation = generation && !t.assigned

/-- The operations that can still lead to an `activate` in this or in a later generation. Each hands
on to the next: `begin_connect`, the resolver, the socket, the tunnel. -/
def ahead (w : RuntimeIo σ) : Nat :=
  w.beginPosted.toNat + w.reconnectWaits + w.resolves.count w.currentGeneration +
    w.connects.count w.currentGeneration + w.tunnels.countP (Awaits w.currentGeneration)

/-- The generations of the callbacks that may still come. -/
def generations (w : RuntimeIo σ) : List UInt64 :=
  w.resolves ++ w.connects ++ w.connectionWaits ++ w.tunnels.map RuntimeTunnel.generation

structure Consistent (w : RuntimeIo σ) : Prop where
  past : ∀ g ∈ w.generations, g ≤ w.currentGeneration
  single : w.ahead ≤ 1
  up : w.network.1.active = true ∨ w.packetThread = true → w.ahead = 0
  network : Kept w.network.1
  started : w.currentGeneration ∈ w.connectionWaits ++ w.tunnels.map RuntimeTunnel.generation →
    w.beginPosted = false ∧ w.reconnectWaits = 0
  safe : ∀ a ∈ w.actions, a.Safe
  begins : (w.actions.filterMap RuntimeAction.begun).Nodup
  begunPast : ∀ g ∈ w.actions.filterMap RuntimeAction.begun, g ≤ w.currentGeneration

/-- The one operation ahead has come back: the connection is neither up nor on its way. -/
structure Between (w : RuntimeIo σ) : Prop extends Consistent w where
  none_ahead : w.ahead = 0
  inactive : w.network.1.active = false
  joined : w.packetThread = false

namespace Consistent

theorem idle (h : w.Consistent) (hinactive : w.network.1.active = false) : Idle w.network.1 := by
  obtain hidle | ⟨hactive, -⟩ := h.network
  · exact hidle
  · rw [hactive] at hinactive
    cases hinactive

theorem safe_append (h : w.Consistent) {later : List RuntimeAction} (hlater : ∀ a ∈ later, a.Safe) :
    ∀ a ∈ w.actions ++ later, a.Safe := by
  intro a ha
  obtain ha | ha := List.mem_append.mp ha
  · exact h.safe a ha
  · exact hlater a ha

/-- While an operation is ahead, nothing is up. -/
theorem down (h : w.Consistent) (hahead : w.ahead ≠ 0) :
    w.network.1.active = false ∧ w.packetThread = false := by
  constructor
  · by_contra hactive
    exact hahead (h.up (.inl (by simpa using hactive)))
  · by_contra hthread
    exact hahead (h.up (.inr (by simpa using hthread)))

end Consistent

/-- No operation has begun or come back. -/
structure SameOperations (w w' : RuntimeIo σ) : Prop where
  resolves : w'.resolves = w.resolves
  connects : w'.connects = w.connects
  connectionWaits : w'.connectionWaits = w.connectionWaits
  tunnels : w'.tunnels = w.tunnels
  beginPosted : w'.beginPosted = w.beginPosted
  reconnectWaits : w'.reconnectWaits = w.reconnectWaits
  generation : w'.currentGeneration = w.currentGeneration

namespace SameOperations

variable {w' : RuntimeIo σ} (h : w.SameOperations w')
include h

theorem ahead : w'.ahead = w.ahead := by
  simp only [RuntimeIo.ahead, h.resolves, h.connects, h.tunnels, h.beginPosted, h.reconnectWaits,
    h.generation]

theorem generations : w'.generations = w.generations := by
  simp only [RuntimeIo.generations, h.resolves, h.connects, h.connectionWaits, h.tunnels]

/-- The record has grown by safe actions that start no generation. -/
theorem consistent (hw : w.Consistent) (later : List RuntimeAction)
    (hactions : w'.actions = w.actions ++ later) (hsafe : ∀ a ∈ later, a.Safe)
    (hbegun : later.filterMap RuntimeAction.begun = []) (hnetwork : Kept w'.network.1)
    (hup : w'.network.1.active = true ∨ w'.packetThread = true → w.ahead = 0) :
    w'.Consistent where
  past := by
    rw [h.generations, h.generation]
    exact hw.past
  single := by
    rw [h.ahead]
    exact hw.single
  up := by
    rw [h.ahead]
    exact hup
  network := hnetwork
  started := by
    rw [h.connectionWaits, h.tunnels, h.generation, h.beginPosted, h.reconnectWaits]
    exact hw.started
  safe := by
    rw [hactions]
    exact hw.safe_append hsafe
  begins := by
    rw [hactions, List.filterMap_append, hbegun, List.append_nil]
    exact hw.begins
  begunPast := by
    rw [hactions, List.filterMap_append, hbegun, List.append_nil, h.generation]
    exact hw.begunPast

end SameOperations

theorem recordFailure_generation (w : RuntimeIo σ) (message : Bytes) :
    (w.recordFailure message).currentGeneration = w.currentGeneration := by
  simp only [RuntimeIo.recordFailure, currentGeneration, ClientRuntime.recordFailure]
  split_ifs <;> rfl

namespace Consistent

/-- The flags and the texts do not matter. -/
theorem with_runtime (h : w.Consistent) {runtime : ClientRuntime} {stopPosted : Nat}
    (hg : runtime.connectionGeneration = w.currentGeneration) :
    Consistent { w with runtime, stopPosted } :=
  SameOperations.consistent (w := w) ⟨rfl, rfl, rfl, rfl, rfl, rfl, hg⟩ h []
    (List.append_nil _).symm (by simp) rfl h.network h.up

theorem recordFailure (h : w.Consistent) (message : Bytes) :
    (w.recordFailure message).Consistent :=
  h.with_runtime (recordFailure_generation w message)

theorem finishOnIo (h : w.Consistent) : (w.finishOnIo backend).Consistent := by
  by_cases hf : w.runtime.finished = true
  · rwa [RuntimeIo.finishOnIo, if_pos hf]
  have hidle : Idle (ClientNetworkTransaction.rollback backend w.network).1 :=
    h.network.rollback backend
  have hg := w.runtime.finishOnIo_finished.2
  have hsame : w.SameOperations (w.finishOnIo backend) := by
    simp only [RuntimeIo.finishOnIo, if_neg hf]
    exact ⟨rfl, rfl, rfl, rfl, rfl, rfl, hg⟩
  apply hsame.consistent h [.finish, .publish w.runtime.finishOnIo.state
    (ClientNetworkTransaction.rollback backend w.network).1]
  · simp [RuntimeIo.finishOnIo, hf, act, tearDown]
  · simp [RuntimeAction.Safe, hidle]
  · rfl
  · simp only [RuntimeIo.finishOnIo, if_neg hf]
    exact .inl hidle
  · simp only [RuntimeIo.finishOnIo, if_neg hf]
    intro hup
    have hinactive : (ClientNetworkTransaction.rollback backend w.network).1.active = false := by
      rw [hidle]
    simp [tearDown, act, hinactive] at hup

/-- What is outstanding belongs to an earlier generation once the counter has grown. -/
theorem not_mem_next (h : w.Consistent) (hroom : w.currentGeneration < w.currentGeneration + 1) :
    w.currentGeneration + 1 ∉ w.generations := by
  intro hmem
  exact UInt64.not_le.mpr hroom (h.past _ hmem)

theorem past_next (h : w.Consistent) (hroom : w.currentGeneration < w.currentGeneration + 1) :
    ∀ g ∈ w.generations, g ≤ w.currentGeneration + 1 := by
  intro g hg
  exact UInt64.le_trans (h.past g hg) (UInt64.le_of_lt hroom)

theorem begunPast_next (h : w.Consistent) (hroom : w.currentGeneration < w.currentGeneration + 1) :
    ∀ g ∈ w.actions.filterMap RuntimeAction.begun, g ≤ w.currentGeneration + 1 := by
  intro g hg
  exact UInt64.le_trans (h.begunPast g hg) (UInt64.le_of_lt hroom)

theorem counts_next (h : w.Consistent) (hroom : w.currentGeneration < w.currentGeneration + 1) :
    w.resolves.count (w.currentGeneration + 1) = 0 ∧
    w.connects.count (w.currentGeneration + 1) = 0 ∧
    w.tunnels.countP (Awaits (w.currentGeneration + 1)) = 0 := by
  have hnot := h.not_mem_next hroom
  simp only [generations, List.mem_append, not_or] at hnot
  obtain ⟨⟨⟨hresolves, hconnects⟩, -⟩, htunnels⟩ := hnot
  refine ⟨List.count_eq_zero.mpr hresolves, List.count_eq_zero.mpr hconnects, ?_⟩
  apply List.countP_eq_zero.mpr
  intro t ht hawaits
  have hgeneration : t.generation = w.currentGeneration + 1 := by
    simp only [Awaits, Bool.and_eq_true, decide_eq_true_eq] at hawaits
    exact hawaits.1
  exact htunnels (List.mem_map.mpr ⟨t, ht, hgeneration⟩)

theorem retryOnIo (h : w.Consistent) (hroom : w.currentGeneration < w.currentGeneration + 1)
    (hbegin : w.beginPosted = false) (hwaits : w.reconnectWaits = 0) (reason : Bytes)
    (draw : Nat) : (w.retryOnIo backend reason draw).Consistent := by
  by_cases hf : w.runtime.finished = true
  · rwa [RuntimeIo.retryOnIo, if_pos hf]
  by_cases hs : w.runtime.stopRequested = true ∨ w.runtime.intentionalStop = true
  · rw [RuntimeIo.retryOnIo, if_neg hf, if_pos hs]
    exact h.finishOnIo
  have hidle : Idle (ClientNetworkTransaction.rollback backend w.network).1 :=
    h.network.rollback backend
  have hinactive : (ClientNetworkTransaction.rollback backend w.network).1.active = false := by
    rw [hidle]
  obtain ⟨hresolves, hconnects, htunnels⟩ := h.counts_next hroom
  generalize hw' : w.retryOnIo backend reason draw = w'
  rw [RuntimeIo.retryOnIo, if_neg hf, if_neg hs] at hw'
  have hg : w'.currentGeneration = w.currentGeneration + 1 := by
    rw [← hw']
    simp [currentGeneration, ClientRuntime.retryOnIo, tearDown, act, hf, hs, ClientRuntime.transition]
  have hgenerations : w'.generations = w.generations := by
    rw [← hw']
    rfl
  have hactions : w'.actions = w.actions ++ [.publish .reconnecting
      (ClientNetworkTransaction.rollback backend w.network).1, .scheduleReconnect] := by
    rw [← hw']
    simp [tearDown, act]
  have hahead : w'.ahead = 1 := by
    rw [ahead, hg, ← hw']
    simp [tearDown, act, hbegin, hwaits, hresolves, hconnects, htunnels]
  constructor
  · rw [hg, hgenerations]
    exact h.past_next hroom
  · rw [hahead]
  · rw [← hw']
    simp [tearDown, act, hinactive]
  · rw [← hw']
    exact .inl hidle
  · rw [hg]
    intro hmem
    exfalso
    apply h.not_mem_next hroom
    rw [← hgenerations, generations, List.append_assoc]
    exact List.mem_append_right _ hmem
  · rw [hactions]
    apply h.safe_append
    simp [RuntimeAction.Safe, hidle]
  · rw [hactions, List.filterMap_append]
    exact (List.append_nil _).symm ▸ h.begins
  · rw [hg, hactions, List.filterMap_append]
    exact (List.append_nil _).symm ▸ h.begunPast_next hroom

end Consistent

namespace Between

theorem zero (h : w.Between) : w.beginPosted = false ∧ w.reconnectWaits = 0 ∧
    w.resolves.count w.currentGeneration = 0 ∧ w.connects.count w.currentGeneration = 0 ∧
    w.tunnels.countP (Awaits w.currentGeneration) = 0 := by
  have hzero := h.none_ahead
  simp only [ahead] at hzero
  have hbegin : w.beginPosted.toNat = 0 := by omega
  refine ⟨by simpa using hbegin, ?_⟩
  omega

theorem beginConnect (h : w.Between) (hroom : w.currentGeneration < w.currentGeneration + 1) :
    (w.beginConnect backend).Consistent := by
  by_cases hs : w.runtime.stopRequested = true
  · rw [RuntimeIo.beginConnect, if_pos hs]
    exact h.finishOnIo
  have hidle : Idle w.network.1 := h.idle h.inactive
  obtain ⟨hbegin, hwaits, -⟩ := h.zero
  obtain ⟨hresolves, hconnects, htunnels⟩ := h.counts_next hroom
  generalize hw' : w.beginConnect backend = w'
  rw [RuntimeIo.beginConnect, if_neg hs] at hw'
  have hg : w'.currentGeneration = w.currentGeneration + 1 := by
    rw [← hw']
    rfl
  have hactions : w'.actions = w.actions ++ [.beginConnect (w.currentGeneration + 1),
      .publish .resolving w.network.1] := by
    rw [← hw']
    simp [transition, act, currentGeneration]
  have hahead : w'.ahead = 1 := by
    rw [ahead, hg, ← hw']
    simp only [currentGeneration] at hresolves hconnects htunnels
    simp [transition, act, hbegin, hwaits, hresolves, hconnects, htunnels, currentGeneration]
  have hbegun : w'.actions.filterMap RuntimeAction.begun =
      w.actions.filterMap RuntimeAction.begun ++ [w.currentGeneration + 1] := by
    rw [hactions, List.filterMap_append]
    rfl
  constructor
  · rw [hg]
    intro g hgen
    have hgen : g ∈ w.generations ∨ g = w.currentGeneration + 1 := by
      rw [← hw'] at hgen
      simp only [generations, transition, act, List.mem_append, List.mem_singleton] at hgen ⊢
      tauto
    obtain hgen | hgen := hgen
    · exact h.past_next hroom g hgen
    · rw [hgen]
      exact UInt64.le_refl _
  · rw [hahead]
  · rw [← hw']
    simp [transition, act, h.inactive, h.joined]
  · rw [← hw']
    exact .inl hidle
  · intro _
    rw [← hw']
    exact ⟨hbegin, hwaits⟩
  · rw [hactions]
    apply h.safe_append
    simp [RuntimeAction.Safe, hidle]
  · rw [hbegun, List.nodup_append]
    refine ⟨h.begins, by simp, ?_⟩
    intro a ha b hb hab
    rw [List.mem_singleton.mp hb] at hab
    rw [hab] at ha
    exact UInt64.not_le.mpr hroom (h.begunPast _ ha)
  · rw [hbegun, hg]
    intro g hmem
    obtain hmem | hmem := List.mem_append.mp hmem
    · exact h.begunPast_next hroom g hmem
    · rw [List.mem_singleton.mp hmem]
      exact UInt64.le_refl _

/-- An operation of the current generation begins. -/
theorem hand_on {w' : RuntimeIo σ} (h : w.Between) (later : List RuntimeAction)
    (hg : w'.currentGeneration = w.currentGeneration)
    (hgenerations : ∀ g ∈ w'.generations, g ∈ w.generations ∨ g = w.currentGeneration)
    (hahead : w'.ahead = 1) (hbegin : w'.beginPosted = w.beginPosted)
    (hwaits : w'.reconnectWaits = w.reconnectWaits) (hnetwork : w'.network = w.network)
    (hthread : w'.packetThread = w.packetThread)
    (hactions : w'.actions = w.actions ++ later) (hsafe : ∀ a ∈ later, a.Safe)
    (hbegun : later.filterMap RuntimeAction.begun = []) : w'.Consistent where
  past := by
    rw [hg]
    intro g hgen
    obtain hgen | hgen := hgenerations g hgen
    · exact h.past g hgen
    · rw [hgen]
      exact UInt64.le_refl _
  single := by rw [hahead]
  up := by simp [hnetwork, hthread, h.inactive, h.joined]
  network := by
    rw [hnetwork]
    exact h.network
  started := by
    intro _
    rw [hbegin, hwaits]
    exact ⟨h.zero.1, h.zero.2.1⟩
  safe := by
    rw [hactions]
    exact h.safe_append hsafe
  begins := by
    rw [hactions, List.filterMap_append, hbegun, List.append_nil]
    exact h.begins
  begunPast := by
    rw [hactions, List.filterMap_append, hbegun, List.append_nil, hg]
    exact h.begunPast

theorem act (h : w.Between) {a : RuntimeAction} (hsafe : a.Safe) (hbegun : a.begun = none) :
    (w.act a).Between := by
  have hsame : w.SameOperations (w.act a) := ⟨rfl, rfl, rfl, rfl, rfl, rfl, rfl⟩
  have hc : (w.act a).Consistent := by
    apply hsame.consistent h.toConsistent [a] rfl
    · simpa using hsafe
    · simp [hbegun]
    · exact h.network
    · exact h.up
  exact ⟨hc, hsame.ahead.trans h.none_ahead, h.inactive, h.joined⟩

theorem asyncConnect (h : w.Between) : (w.asyncConnect w.currentGeneration).Consistent := by
  have hidle : Idle w.network.1 := h.idle h.inactive
  obtain ⟨hbegin, hwaits, hresolves, hconnects, htunnels⟩ := h.zero
  refine h.hand_on [.publish .connecting w.network.1, .asyncConnect] rfl ?_ ?_ rfl rfl rfl rfl ?_ ?_ rfl
  · intro g hg
    simp only [generations, RuntimeIo.asyncConnect, transition, RuntimeIo.act, List.mem_append,
      List.mem_singleton] at hg ⊢
    tauto
  · have hcount : (w.asyncConnect w.currentGeneration).ahead = w.ahead + 1 := by
      simp only [ahead, RuntimeIo.asyncConnect, transition, RuntimeIo.act, currentGeneration,
        ClientRuntime.transition, List.count_append, List.count_singleton_self]
      omega
    rw [hcount, h.none_ahead]
  · simp [RuntimeIo.asyncConnect, transition, RuntimeIo.act]
  · simp [RuntimeAction.Safe, hidle]

/-- The tunnel of the current generation. -/
theorem tunnel (h : w.Between) {w' : RuntimeIo σ}
    (hw' : w' = { w with
      tunnel := w'.tunnel
      tunnels := w.tunnels ++ [{ generation := w.currentGeneration }]
      pendingStream := w'.pendingStream }) : w'.Consistent := by
  have htunnels : w'.tunnels = w.tunnels ++ [{ generation := w.currentGeneration }] := by rw [hw']
  have hg : w'.currentGeneration = w.currentGeneration := by
    rw [hw']
    rfl
  have hcount : w'.ahead = w.ahead + 1 := by
    have hawaits : Awaits w.currentGeneration { generation := w.currentGeneration } = true := by
      simp [Awaits]
    rw [ahead, hg, htunnels, List.countP_append, List.countP_singleton, if_pos hawaits, hw', ahead]
    dsimp only
    omega
  apply h.hand_on [] hg
  · intro g hgen
    rw [generations, htunnels, hw'] at hgen
    simp only [generations, List.map_append, List.mem_append, List.map_cons, List.map_nil,
      List.mem_singleton] at hgen ⊢
    tauto
  · rw [hcount, h.none_ahead]
  · rw [hw']
  · rw [hw']
  · rw [hw']
  · rw [hw']
  · rw [hw', List.append_nil]
  · simp
  · rfl

theorem configureNetwork (h : w.Between) (assignment : IpAssignment) :
    (w.configureNetwork backend parsers assignment).2.Consistent := by
  by_cases hs : w.runtime.stopRequested = true
  · rw [RuntimeIo.configureNetwork, if_pos hs]
    exact h.toConsistent
  have hidle : Idle w.network.1 := h.idle h.inactive
  rcases hr : activate backend parsers assignment w.config.routes w.network with ⟨r, network⟩
  have hkept : Kept network.1 := activate_kept backend parsers assignment _ hidle hr
  have hnone : w.ahead = 0 := h.none_ahead
  cases r with
  | error e =>
    have hresult : (w.configureNetwork backend parsers assignment).2 =
        RuntimeIo.recordFailure { w with
          network
          runtime := w.runtime.transition .configuringNetwork
            (text "applying tunnel network transaction")
          actions := w.actions ++ [.publish .configuringNetwork w.network.1,
            .activate w.network.1] }
          (text "network configuration failed: " ++ e.what) := by
      simp [RuntimeIo.configureNetwork, hs, transition, RuntimeIo.act, hr]
    rw [hresult]
    apply Consistent.recordFailure
    refine SameOperations.consistent (w := w) ⟨rfl, rfl, rfl, rfl, rfl, rfl, rfl⟩ h.toConsistent _ rfl
      ?_ rfl hkept fun _ => hnone
    simp [RuntimeAction.Safe, ClientRuntimeState.IsDown, hidle]
  | ok u =>
    have hresult : (w.configureNetwork backend parsers assignment).2 = { w with
        network
        reconnectAttempt := 0
        packetThread := true
        runtime := (w.runtime.transition .configuringNetwork
          (text "applying tunnel network transaction")).transition .connected
          (text "VPN tunnel connected")
        actions := w.actions ++ [.publish .configuringNetwork w.network.1,
          .activate w.network.1, .publish .connected network.1, .startReader w.packetThread] } := by
      simp [RuntimeIo.configureNetwork, hs, transition, RuntimeIo.act, hr]
    rw [hresult]
    refine SameOperations.consistent (w := w) ⟨rfl, rfl, rfl, rfl, rfl, rfl, rfl⟩ h.toConsistent _ rfl
      ?_ rfl hkept fun _ => hnone
    simp [RuntimeAction.Safe, ClientRuntimeState.IsDown, hidle, h.joined]

end Between

/-- An operation has come back, and nothing else has changed. -/
structure ComesBack (w w' : RuntimeIo σ) : Prop where
  generation : w'.currentGeneration = w.currentGeneration
  outstanding : ∀ g ∈ w'.generations, g ∈ w.generations
  started : ∀ g ∈ w'.connectionWaits ++ w'.tunnels.map RuntimeTunnel.generation,
    g ∈ w.connectionWaits ++ w.tunnels.map RuntimeTunnel.generation
  beginPosted : w.beginPosted = false → w'.beginPosted = false
  reconnectWaits : w'.reconnectWaits ≤ w.reconnectWaits
  network : w'.network = w.network
  packetThread : w'.packetThread = w.packetThread
  actions : w'.actions = w.actions

namespace ComesBack

variable {w' : RuntimeIo σ} (hback : w.ComesBack w') (h : w.Consistent)
include hback h

theorem consistent (hahead : w'.ahead ≤ w.ahead) : w'.Consistent where
  past := by
    rw [hback.generation]
    intro g hgen
    exact h.past g (hback.outstanding g hgen)
  single := hahead.trans h.single
  up := by
    rw [hback.network, hback.packetThread]
    intro hup
    have hzero := h.up hup
    omega
  network := by
    rw [hback.network]
    exact h.network
  started := by
    rw [hback.generation]
    intro hmem
    obtain ⟨hbegin, hwaits⟩ := h.started (hback.started _ hmem)
    have hle := hback.reconnectWaits
    exact ⟨hback.beginPosted hbegin, by omega⟩
  safe := by
    rw [hback.actions]
    exact h.safe
  begins := by
    rw [hback.actions]
    exact h.begins
  begunPast := by
    rw [hback.actions, hback.generation]
    exact h.begunPast

theorem between (hahead : w'.ahead + 1 = w.ahead) : w'.Between := by
  have hsingle := h.single
  obtain ⟨hinactive, hjoined⟩ := h.down (by omega)
  refine ⟨hback.consistent h (by omega), by omega, ?_, ?_⟩
  · rw [hback.network, hinactive]
  · rw [hback.packetThread, hjoined]

end ComesBack

/-- The operation that came back was ahead only if it was of the current generation. -/
theorem ahead_erase {w' : RuntimeIo σ} {g : UInt64} {gs : List UInt64} (hg : g ∈ gs)
    (hahead : w'.ahead + gs.count w.currentGeneration =
      w.ahead + (gs.erase g).count w.currentGeneration) :
    w'.ahead ≤ w.ahead ∧ (g = w.currentGeneration → w'.ahead + 1 = w.ahead) := by
  have hle : (gs.erase g).count w.currentGeneration ≤ gs.count w.currentGeneration :=
    List.erase_sublist.count_le _
  constructor
  · omega
  · intro hcurrent
    rw [hcurrent] at hg hahead
    have hpos : 0 < gs.count w.currentGeneration := List.count_pos_iff.mpr hg
    have hcount := @List.count_erase_self _ _ _ w.currentGeneration gs
    omega

namespace Consistent

variable (hroom : w.currentGeneration < w.currentGeneration + 1)
include hroom

theorem handle_begin (h : w.Consistent) :
    (w.handle backend parsers platform .begin).Consistent := by
  by_cases hposted : w.beginPosted = true
  · have hback : w.ComesBack { w with beginPosted := false } :=
      ⟨rfl, fun _ hg => hg, fun _ hg => hg, fun _ => rfl, le_rfl, rfl, rfl, rfl⟩
    have hbetween : Between { w with beginPosted := false } := by
      apply hback.between h
      simp only [ahead, hposted, currentGeneration, Bool.toNat_true, Bool.toNat_false]
      omega
    simp only [handle, if_pos hposted]
    exact hbetween.beginConnect hroom
  · simpa only [handle, if_neg hposted] using h

theorem handle_resolve (h : w.Consistent) (g : UInt64) (error : Option Bytes)
    (endpoints : List Endpoint) (killSwitch : Except Exception Unit) (draw : Nat) :
    (w.handle backend parsers platform (.resolve g error endpoints killSwitch draw)).Consistent := by
  by_cases hg : g ∈ w.resolves
  · generalize hw' : ({ w with resolves := w.resolves.erase g } : RuntimeIo σ) = w'
    have hback : w.ComesBack w' := by
      rw [← hw']
      refine ⟨rfl, ?_, fun _ hx => hx, fun hb => hb, le_rfl, rfl, rfl, rfl⟩
      intro x hx
      simp only [generations, List.mem_append] at hx ⊢
      have := @List.mem_of_mem_erase _ _ x g w.resolves
      tauto
    have hroom' : w'.currentGeneration < w'.currentGeneration + 1 := by
      rwa [hback.generation]
    obtain ⟨hless, hone⟩ : w'.ahead ≤ w.ahead ∧ (g = w.currentGeneration →
        w'.ahead + 1 = w.ahead) := by
      apply ahead_erase hg
      rw [ahead, ahead, hback.generation, ← hw']
      dsimp only
      omega
    have hbetween (hcurrent : g = w'.currentGeneration) : w'.Between :=
      hback.between h (hone (hcurrent.trans hback.generation))
    have hcases := handleResolve_cases backend platform w' g error
      endpoints killSwitch draw
    simp only [handle, if_pos hg, hw']
    generalize w'.handleResolve backend platform g error endpoints killSwitch draw = v at hcases ⊢
    cases hcases with
    | stale other => exact hback.consistent h hless
    | stopped current => exact (hbetween current).finishOnIo
    | failed current reason =>
      obtain ⟨hbegin, hwaits, -⟩ := (hbetween current).zero
      exact (hbetween current).retryOnIo hroom' hbegin hwaits reason draw
    | refused current full message => exact ((hbetween current).recordFailure message).finishOnIo
    | guarded current full =>
      rw [current]
      exact ((hbetween current).act (a := .enableKillSwitch _) trivial rfl).asyncConnect
    | split current notFull =>
      rw [current]
      exact (hbetween current).asyncConnect
  · simpa only [handle, if_neg hg] using h

theorem handle_connect (h : w.Consistent) (g : UInt64) (error : Option Bytes) (draw : Nat) :
    (w.handle backend parsers platform (.connect g error draw)).Consistent := by
  by_cases hg : g ∈ w.connects
  · generalize hw' : ({ w with connects := w.connects.erase g } : RuntimeIo σ) = w'
    have hback : w.ComesBack w' := by
      rw [← hw']
      refine ⟨rfl, ?_, fun _ hx => hx, fun hb => hb, le_rfl, rfl, rfl, rfl⟩
      intro x hx
      simp only [generations, List.mem_append] at hx ⊢
      have := @List.mem_of_mem_erase _ _ x g w.connects
      tauto
    have hroom' : w'.currentGeneration < w'.currentGeneration + 1 := by
      rwa [hback.generation]
    obtain ⟨hless, hone⟩ : w'.ahead ≤ w.ahead ∧ (g = w.currentGeneration →
        w'.ahead + 1 = w.ahead) := by
      apply ahead_erase hg
      rw [ahead, ahead, hback.generation, ← hw']
      dsimp only
      omega
    have hbetween (hcurrent : g = w'.currentGeneration) : w'.Between :=
      hback.between h (hone (hcurrent.trans hback.generation))
    have hcases := handleConnect_cases backend w' g error draw
    simp only [handle, if_pos hg, hw']
    generalize w'.handleConnect backend g error draw = v at hcases ⊢
    cases hcases with
    | stale other => exact hback.consistent h hless
    | stopped current => exact (hbetween current).finishOnIo
    | failed current reason =>
      obtain ⟨hbegin, hwaits, -⟩ := (hbetween current).zero
      exact (hbetween current).retryOnIo hroom' hbegin hwaits reason draw
    | tunnel current =>
      rw [current]
      exact (hbetween current).tunnel rfl
  · simpa only [handle, if_neg hg] using h

theorem handle_connectionTimer (h : w.Consistent) (g : UInt64) (error : Bool) (draw : Nat) :
    (w.handle backend parsers platform (.connectionTimer g error draw)).Consistent := by
  by_cases hg : g ∈ w.connectionWaits
  · generalize hw' : ({ w with connectionWaits := w.connectionWaits.erase g } : RuntimeIo σ) = w'
    have hback : w.ComesBack w' := by
      rw [← hw']
      refine ⟨rfl, ?_, ?_, fun hb => hb, le_rfl, rfl, rfl, rfl⟩
      all_goals
        intro x hx
        simp only [generations, List.mem_append] at hx ⊢
        have := @List.mem_of_mem_erase _ _ x g w.connectionWaits
        tauto
    have hahead : w'.ahead = w.ahead := by
      rw [← hw']
      rfl
    have hc : w'.Consistent := hback.consistent h hahead.le
    simp only [handle, if_pos hg, hw', onConnectionTimer]
    split_ifs with hfires
    · have hcurrent : g = w.currentGeneration := hfires.2.1
      rw [hcurrent] at hg
      obtain ⟨hbegin, hwaits⟩ := h.started (List.mem_append_left _ hg)
      apply hc.retryOnIo
      · rwa [hback.generation]
      · exact hback.beginPosted hbegin
      · rw [← hw']
        exact hwaits
    · exact hc
  · simpa only [handle, if_neg hg] using h

theorem handle_reconnectTimer (h : w.Consistent) (error : Bool) :
    (w.handle backend parsers platform (.reconnectTimer error)).Consistent := by
  by_cases hwaits : 0 < w.reconnectWaits
  · have hback : w.ComesBack { w with reconnectWaits := w.reconnectWaits - 1 } :=
      ⟨rfl, fun _ hx => hx, fun _ hx => hx, fun hb => hb, Nat.sub_le _ _, rfl, rfl, rfl⟩
    have hbetween : Between { w with reconnectWaits := w.reconnectWaits - 1 } := by
      apply hback.between h
      simp only [ahead, currentGeneration]
      omega
    simp only [handle, if_pos hwaits, onReconnectTimer]
    split_ifs
    · exact hbetween.beginConnect hroom
    · exact hbetween.finishOnIo
    · exact hbetween.toConsistent
  · simpa only [handle, if_neg hwaits] using h

end Consistent

section Tunnels

variable {i : Nat} {t t' : RuntimeTunnel} (hi : w.tunnels[i]? = some t)
  (hgeneration : t'.generation = t.generation)
include hi

theorem mem_generations : t.generation ∈ w.tunnels.map RuntimeTunnel.generation :=
  List.mem_map.mpr ⟨t, List.mem_of_getElem? hi, rfl⟩

include hgeneration

theorem map_generation_set : (w.tunnels.set i t').map RuntimeTunnel.generation =
    w.tunnels.map RuntimeTunnel.generation := by
  obtain ⟨hlt, hget⟩ := List.getElem?_eq_some_iff.mp hi
  have hlt' : i < (w.tunnels.map RuntimeTunnel.generation).length := by simpa using hlt
  have hsame : (w.tunnels.map RuntimeTunnel.generation)[i] = t'.generation := by
    simp [hget, hgeneration]
  rw [List.map_set, ← hsame, List.set_getElem_self hlt']

/-- What a callback of a tunnel notes about it. -/
theorem comesBack_set : w.ComesBack { w with tunnels := w.tunnels.set i t' } := by
  have hmap := map_generation_set hi hgeneration
  refine ⟨rfl, ?_, ?_, fun hb => hb, le_rfl, rfl, rfl, rfl⟩
  · simp only [generations, hmap]
    exact fun _ hg => hg
  · simp only [hmap]
    exact fun _ hg => hg

variable (t') in
omit hgeneration in
theorem ahead_set : ({ w with tunnels := w.tunnels.set i t' } : RuntimeIo σ).ahead +
    (Awaits w.currentGeneration t).toNat = w.ahead + (Awaits w.currentGeneration t').toNat := by
  obtain ⟨hlt, hget⟩ := List.getElem?_eq_some_iff.mp hi
  have hcount := List.countP_set (p := Awaits w.currentGeneration) (a := t') hlt
  have hpos : (Awaits w.currentGeneration t).toNat ≤
      w.tunnels.countP (Awaits w.currentGeneration) := by
    cases hawaits : Awaits w.currentGeneration t with
    | false => exact Nat.zero_le _
    | true => exact List.countP_pos_iff.mpr ⟨t, List.mem_of_getElem? hi, hawaits⟩
  have hite (b : Bool) : (if b = true then 1 else 0) = b.toNat := by cases b <;> rfl
  rw [hget, hite, hite] at hcount
  simp only [ahead, currentGeneration] at hcount hpos ⊢
  omega

end Tunnels

namespace Consistent

theorem handle_assignment (h : w.Consistent) (i : Nat) (assignment : IpAssignment) :
    (w.handle backend parsers platform (.assignment i assignment)).Consistent := by
  rw [handle]
  cases hi : w.tunnels[i]? with
  | none => exact h
  | some t =>
    dsimp only
    split_ifs with hdone
    · exact h
    have hassigned : t.assigned = false := by
      simp only [Bool.or_eq_true, not_or, Bool.not_eq_true] at hdone
      exact hdone.1
    generalize hw' : ({ w with tunnels := w.tunnels.set i { t with assigned := true } } :
      RuntimeIo σ) = w'
    have hback : w.ComesBack w' := by
      rw [← hw']
      exact comesBack_set hi rfl
    have hahead := ahead_set { t with assigned := true } hi
    have hnot : Awaits w.currentGeneration { t with assigned := true } = false := by
      simp [Awaits]
    rw [hnot, hw', Bool.toNat_false, Nat.add_zero] at hahead
    unfold onAssignment
    split_ifs with hcurrent
    · have hcurrent : t.generation = w.currentGeneration := hcurrent.trans hback.generation
      have hawaits : Awaits w.currentGeneration t = true := by
        simp [Awaits, hcurrent, hassigned]
      rw [hawaits] at hahead
      exact (hback.between h hahead).configureNetwork assignment
    · exact hback.consistent h (by omega)

theorem handle_packet (h : w.Consistent) (i : Nat) (packet : Bytes) (failure : Option Bytes) :
    (w.handle backend parsers platform (.packet i packet failure)).Consistent := by
  have hdeliver : (w.deliverToPacketDevice packet failure).Consistent := by
    have hact : (w.act (.sendPacket packet)).Consistent :=
      SameOperations.consistent (w := w) ⟨rfl, rfl, rfl, rfl, rfl, rfl, rfl⟩ h _ rfl
        (by simp [RuntimeAction.Safe]) rfl h.network h.up
    cases failure with
    | none => exact hact
    | some what => exact (hact.recordFailure _).with_runtime rfl
  rw [handle]
  cases hi : w.tunnels[i]? with
  | none => exact h
  | some t =>
    dsimp only
    rw [onPacket]
    split_ifs
    · exact h
    · exact hdeliver
    · exact h

theorem handle_tunnelClosed (h : w.Consistent)
    (hroom : w.currentGeneration < w.currentGeneration + 1) (i : Nat)
    (remoteError : Option ErrorMessage) (retryable : Bool) (draw : Nat) :
    (w.handle backend parsers platform
      (.tunnelClosed i remoteError retryable draw)).Consistent := by
  rw [handle]
  cases hi : w.tunnels[i]? with
  | none => exact h
  | some t =>
    dsimp only
    split_ifs with hdone
    · exact h
    generalize hw' : ({ w with tunnels := w.tunnels.set i { t with closed := true } } :
      RuntimeIo σ) = w'
    have hback : w.ComesBack w' := by
      rw [← hw']
      exact comesBack_set hi rfl
    have hahead := ahead_set { t with closed := true } hi
    have hsame : Awaits w.currentGeneration { t with closed := true } =
      Awaits w.currentGeneration t := rfl
    rw [hsame, hw'] at hahead
    have hc : w'.Consistent := hback.consistent h (by omega)
    have hcases := onTunnelClosed_cases backend w' t.generation remoteError
      retryable draw
    generalize w'.onTunnelClosed backend t.generation remoteError retryable draw = v at hcases ⊢
    cases hcases with
    | stale other => exact hc
    | stopped current => exact hc.finishOnIo
    | failed current message => exact (hc.recordFailure message).finishOnIo
    | retried current reason =>
      have hmem : w.currentGeneration ∈ w.tunnels.map RuntimeTunnel.generation := by
        rw [← hback.generation, currentGeneration, ← current]
        exact mem_generations hi
      obtain ⟨hbegin, hwaits⟩ := h.started (List.mem_append_right _ hmem)
      apply hc.retryOnIo
      · rwa [hback.generation]
      · exact hback.beginPosted hbegin
      · rw [← hw']
        exact hwaits

theorem step (h : w.Consistent) (hroom : w.currentGeneration < w.currentGeneration + 1)
    (event : RuntimeEvent) : (w.step backend parsers platform event).Consistent := by
  have hhandle : (w.handle backend parsers platform event).Consistent := by
    cases event with
    | begin => exact handle_begin hroom h
    | resolve g error endpoints killSwitch draw =>
      exact handle_resolve hroom h g error endpoints killSwitch draw
    | connect g error draw => exact handle_connect hroom h g error draw
    | connectionTimer g error draw => exact handle_connectionTimer hroom h g error draw
    | reconnectTimer error => exact handle_reconnectTimer hroom h error
    | assignment i assignment => exact h.handle_assignment i assignment
    | packet i packet failure => exact h.handle_packet i packet failure
    | tunnelClosed i remoteError retryable draw =>
      exact h.handle_tunnelClosed hroom i remoteError retryable draw
    | stopHandler =>
      simp only [handle, onStop]
      split_ifs
      · exact h.with_runtime rfl
      · exact (h.with_runtime rfl).finishOnIo
      · exact h
    | stop => exact h
    | readerFailed what => exact h
  have hio : (if w.ioStopped then w else w.handle backend parsers platform event).Consistent := by
    split_ifs
    · exact h
    · exact hhandle
  cases event with
  | stop =>
    simp only [RuntimeIo.step, RuntimeIo.stop]
    split_ifs
    · exact h
    · exact h.with_runtime rfl
  | readerFailed what =>
    simp only [RuntimeIo.step]
    split_ifs
    · exact (h.recordFailure _).with_runtime rfl
    · exact h
  | _ => exact hio

end Consistent

/-- The counter grows by one at most, and the I/O thread ends where the runtime finishes. -/
structure Advances (w w' : RuntimeIo σ) : Prop where
  generation : w'.currentGeneration = w.currentGeneration ∨
    w'.currentGeneration = w.currentGeneration + 1
  stopped : w.ioStopped = w.runtime.finished → w'.ioStopped = w'.runtime.finished

namespace Advances

theorem refl (w : RuntimeIo σ) : Advances w w := ⟨.inl rfl, fun h => h⟩

/-- What is outstanding does not matter. -/
theorem after {w₁ w' : RuntimeIo σ} (h : Advances w₁ w')
    (hg : w₁.currentGeneration = w.currentGeneration)
    (hf : w₁.runtime.finished = w.runtime.finished) (hio : w₁.ioStopped = w.ioStopped) :
    Advances w w' := by
  constructor
  · rw [← hg]
    exact h.generation
  · rw [← hf, ← hio]
    exact h.stopped

theorem recordFailure (w : RuntimeIo σ) (message : Bytes) :
    Advances w (w.recordFailure message) := by
  refine ⟨.inl (recordFailure_generation w message), ?_⟩
  intro h
  simp only [RuntimeIo.recordFailure, ClientRuntime.recordFailure]
  split_ifs <;> exact h

variable (backend) in
theorem finishOnIo (w : RuntimeIo σ) : Advances w (w.finishOnIo backend) := by
  unfold RuntimeIo.finishOnIo
  obtain ⟨hfinished, hg⟩ := w.runtime.finishOnIo_finished
  split_ifs
  · exact refl w
  · exact ⟨.inl hg, fun _ => hfinished.symm⟩

theorem recordFailure_finishOnIo (w : RuntimeIo σ) (message : Bytes) :
    Advances w ((w.recordFailure message).finishOnIo backend) := by
  have hrecord := recordFailure w message
  have hfinish := finishOnIo backend (w.recordFailure message)
  refine ⟨?_, fun h => hfinish.stopped (hrecord.stopped h)⟩
  rw [← recordFailure_generation w message]
  exact hfinish.generation

theorem retryOnIo (w : RuntimeIo σ) (reason : Bytes) (draw : Nat) :
    Advances w (w.retryOnIo backend reason draw) := by
  unfold RuntimeIo.retryOnIo
  by_cases hf : w.runtime.finished = true
  · rw [if_pos hf]
    exact refl w
  rw [if_neg hf]
  by_cases hs : w.runtime.stopRequested = true ∨ w.runtime.intentionalStop = true
  · rw [if_pos hs]
    exact finishOnIo backend w
  rw [if_neg hs]
  constructor
  · right
    simp [tearDown, act, currentGeneration, ClientRuntime.retryOnIo, hf, hs,
      ClientRuntime.transition]
  · intro h
    simp [tearDown, act, ClientRuntime.retryOnIo, hf, hs, ClientRuntime.transition, h]

theorem beginConnect (w : RuntimeIo σ) : Advances w (w.beginConnect backend) := by
  unfold RuntimeIo.beginConnect
  split_ifs
  · exact finishOnIo backend w
  · exact ⟨.inr rfl, fun h => h⟩

theorem configureNetwork (w : RuntimeIo σ) (assignment : IpAssignment) :
    Advances w (w.configureNetwork backend parsers assignment).2 := by
  unfold RuntimeIo.configureNetwork
  split_ifs
  · exact refl w
  · dsimp only
    split
    · exact (recordFailure _ _).after rfl rfl rfl
    · exact ⟨.inl rfl, fun h => h⟩

theorem settled {w₁ w' : RuntimeIo σ} (h : Advances w₁ w') {event : RuntimeEvent}
    (hsettled : Settled w event w₁) : Advances w w' :=
  h.after (congrArg ClientRuntime.connectionGeneration hsettled.runtime)
    (congrArg ClientRuntime.finished hsettled.runtime) hsettled.ioStopped

theorem deliverToPacketDevice (w : RuntimeIo σ) (packet : Bytes) (failure : Option Bytes) :
    Advances w (w.deliverToPacketDevice packet failure) := by
  cases failure with
  | none => exact ⟨.inl rfl, fun h => h⟩
  | some what =>
    have hrecord := recordFailure w (text "virtual adapter write failed: " ++ what)
    exact ⟨hrecord.generation, hrecord.stopped⟩

variable (backend parsers platform) in
theorem step (w : RuntimeIo σ) (event : RuntimeEvent) :
    Advances w (w.step backend parsers platform event) := by
  have hcases := step_cases backend parsers platform w event
  generalize w.step backend parsers platform event = w' at hcases ⊢
  cases hcases with
  | settled hsettled => exact (refl _).settled hsettled
  | begun hsettled => exact (beginConnect _).settled hsettled
  | finished hsettled => exact (finishOnIo backend _).settled hsettled
  | failed hsettled message => exact (recordFailure_finishOnIo _ message).settled hsettled
  | retried hsettled reason draw => exact (retryOnIo _ reason draw).settled hsettled
  | guarded hsettled =>
    have hsame := (refl _).settled hsettled
    exact ⟨hsame.generation, hsame.stopped⟩
  | connecting hsettled =>
    have hsame := (refl _).settled hsettled
    exact ⟨hsame.generation, hsame.stopped⟩
  | tunnel hsettled =>
    have hsame := (refl _).settled hsettled
    exact ⟨hsame.generation, hsame.stopped⟩
  | configured hsettled => exact (configureNetwork _ _).settled hsettled
  | delivered i packet failure => exact deliverToPacketDevice w packet failure
  | stopping =>
    unfold RuntimeIo.stop
    split
    · exact refl w
    · exact ⟨.inl rfl, fun h => h⟩
  | readerFailed what =>
    have hrecord := recordFailure w (text "virtual adapter read failed: " ++ what)
    exact ⟨hrecord.generation, hrecord.stopped⟩

theorem toNat_le {w' : RuntimeIo σ} (h : Advances w w') :
    w'.currentGeneration.toNat ≤ w.currentGeneration.toNat + 1 := by
  obtain h | h := h.generation
  · rw [h]
    omega
  · rw [h, UInt64.toNat_add, UInt64.toNat_one]
    exact Nat.mod_le _ _

end Advances

/-- The counter does not come round within 2^64 events. -/
theorem Consistent.run (h : w.Consistent) {events : List RuntimeEvent}
    (hroom : w.currentGeneration.toNat + events.length < 2 ^ 64) :
    (Run.run (RuntimeIo.step backend parsers platform) w events).Consistent := by
  induction events generalizing w with
  | nil => exact h
  | cons event events ih =>
    have hlength : w.currentGeneration.toNat + (events.length + 1) < 2 ^ 64 := hroom
    have hnext : w.currentGeneration < w.currentGeneration + 1 := by
      rw [UInt64.lt_iff_toNat_lt, UInt64.toNat_add, UInt64.toNat_one, Nat.mod_eq_of_lt (by omega)]
      omega
    have hadvance := (Advances.step backend parsers platform w event).toNat_le
    exact ih (h.step hnext event) (by omega)

theorem consistent_started (config : ClientConfig) (device : σ) :
    (started config device).Consistent where
  past := by simp [generations, started]
  single := by simp [ahead, started]
  up := by simp [started]
  network := .inl rfl
  started := by simp [RuntimeIo.started]
  safe := by simp [RuntimeIo.started]
  begins := by simp [RuntimeIo.started]
  begunPast := by simp [RuntimeIo.started]

variable (backend parsers platform) in
/-- Once the runtime has finished, its I/O thread does nothing. -/
theorem actions_of_finished (hstopped : w.ioStopped = w.runtime.finished)
    (hf : w.runtime.finished = true) (event : RuntimeEvent) :
    let w' := w.step backend parsers platform event
    w'.ioStopped = w'.runtime.finished ∧ w'.runtime.finished = true ∧
      w'.actions = w.actions := by
  intro w'
  have hstopped' := (Advances.step backend parsers platform w event).stopped hstopped
  have hio : w.ioStopped = true := hstopped.trans hf
  have hsame : w'.ioStopped = true ∧ w'.actions = w.actions := by
    cases event with
    | stop => simp [w', step, stop, hf, hio]
    | readerFailed what =>
      simp only [w', step]
      split_ifs <;> simp [readerFailed, recordFailure, hio]
    | _ => simp [w', step, hio]
  exact ⟨hstopped', hstopped'.symm.trans hsame.1, hsame.2⟩

/-- A callback of another generation changes nothing that is seen outside. -/
theorem step_stale {event : RuntimeEvent} {g : UInt64} (hg : event.generation w = some g)
    (hother : g ≠ w.currentGeneration) :
    let w' := w.step backend parsers platform event
    w'.actions = w.actions ∧ w'.runtime = w.runtime ∧ w'.network = w.network ∧
      w'.packetThread = w.packetThread ∧ w'.reconnectWaits = w.reconnectWaits := by
  have hhandle : let w' := w.handle backend parsers platform event
      w'.actions = w.actions ∧ w'.runtime = w.runtime ∧ w'.network = w.network ∧
        w'.packetThread = w.packetThread ∧ w'.reconnectWaits = w.reconnectWaits := by
    have hother' : g ≠ w.runtime.connectionGeneration := hother
    cases event with
    | resolve generation error endpoints killSwitch draw =>
      cases hg
      simp only [handle, handleResolve, if_pos hother']
      split_ifs <;> simp
    | connect generation error draw =>
      cases hg
      simp only [handle, handleConnect, if_pos hother']
      split_ifs <;> simp
    | connectionTimer generation error draw =>
      cases hg
      simp only [handle, onConnectionTimer, hother', false_and, and_false, if_false]
      split_ifs <;> simp
    | assignment i assignment =>
      obtain ⟨t, hi, ht⟩ := Option.map_eq_some_iff.mp hg
      rw [← ht] at hother'
      simp only [handle, hi, onAssignment, if_neg hother']
      split_ifs <;> simp
    | packet i packet failure =>
      obtain ⟨t, hi, ht⟩ := Option.map_eq_some_iff.mp hg
      rw [← ht] at hother'
      simp only [handle, hi, onPacket, if_neg hother']
      split_ifs <;> simp
    | tunnelClosed i remoteError retryable draw =>
      obtain ⟨t, hi, ht⟩ := Option.map_eq_some_iff.mp hg
      rw [← ht] at hother'
      simp only [handle, hi, onTunnelClosed, if_pos hother']
      split_ifs <;> simp
    | _ => cases hg
  have hio : let w' := if w.ioStopped then w else w.handle backend parsers platform event
      w'.actions = w.actions ∧ w'.runtime = w.runtime ∧ w'.network = w.network ∧
        w'.packetThread = w.packetThread ∧ w'.reconnectWaits = w.reconnectWaits := by
    intro w'
    simp only [w']
    split_ifs
    · simp
    · exact hhandle
  cases event with
  | stop => cases hg
  | readerFailed what => cases hg
  | _ => exact hio

/-- For every order of events: the network is set up once at a time and taken down before the next
connection, one reconnect wait at a time begins a connection, callbacks of earlier generations do
nothing, and nothing happens after the end. -/
theorem runtime_generations_consistent (backend : ClientNetworkBackend σ)
    (parsers : AddressParsers) (platform : Platform) (config : ClientConfig) (device : σ)
    (events : List RuntimeEvent) :
    let w := Run.run (step backend parsers platform) (started config device) events
    (events.length < 2 ^ 64 →
      (∀ a ∈ w.actions, a.Safe) ∧
      w.reconnectWaits ≤ 1 ∧ (w.actions.filterMap RuntimeAction.begun).Nodup) ∧
    (∀ event g, event.generation w = some g → g ≠ w.runtime.connectionGeneration →
      let w' := w.step backend parsers platform event
      w'.actions = w.actions ∧ w'.runtime = w.runtime ∧ w'.network = w.network ∧
        w'.packetThread = w.packetThread ∧ w'.reconnectWaits = w.reconnectWaits) ∧
    (w.runtime.finished = true → ∀ more,
      (Run.run (step backend parsers platform) w more).actions = w.actions) := by
  intro w
  have hstopped : w.ioStopped = w.runtime.finished :=
    Run.invariant (P := fun w : RuntimeIo σ => w.ioStopped = w.runtime.finished)
      (fun w event h => (Advances.step backend parsers platform w event).stopped h) rfl events
  refine ⟨?_, ?_, ?_⟩
  · intro hlength
    have hc : w.Consistent := (consistent_started config device).run (by
      have hzero : (started config device).currentGeneration.toNat = 0 := rfl
      omega)
    refine ⟨hc.safe, ?_, hc.begins⟩
    have hsingle := hc.single
    rw [ahead] at hsingle
    omega
  · intro event g hg hother
    exact step_stale hg hother
  · intro hf more
    have hrun := @Run.invariant _ _ (step backend parsers platform)
      (fun w' : RuntimeIo σ => w'.ioStopped = w'.runtime.finished ∧
        w'.runtime.finished = true ∧ w'.actions = w.actions) ?_ _ ⟨hstopped, hf, rfl⟩ more
    · exact hrun.2.2
    · intro w' event h
      obtain ⟨hstopped', hf', hactions⟩ := h
      obtain ⟨hs, hf'', hsame⟩ := actions_of_finished backend parsers platform hstopped' hf' event
      exact ⟨hs, hf'', hsame.trans hactions⟩

/-- The server's name cannot be resolved, and the reconnect timer expires. -/
def failedAttempt (generation : UInt64) : List RuntimeEvent :=
  [.resolve generation (some (text "host not found")) [] (.ok ()) 0, .reconnectTimer false]

/-- The start, and `n` attempts that fail. -/
def failedAttempts (n : Nat) : List RuntimeEvent :=
  .begin :: (List.range n).flatMap fun k => failedAttempt (UInt64.ofNat (2 * k + 1))

/-- The generations that `n` attempts start. -/
def attempted (n : Nat) : List UInt64 := (List.range n).map fun k => UInt64.ofNat (2 * k + 1)

/-- A runtime that waits for its resolver. -/
structure Resolving (w : RuntimeIo σ) : Prop where
  finished : w.runtime.finished = false
  stopRequested : w.runtime.stopRequested = false
  intentionalStop : w.runtime.intentionalStop = false
  ioStopped : w.ioStopped = false
  resolves : w.resolves = [w.runtime.connectionGeneration]
  reconnectWaits : w.reconnectWaits = 0

variable (backend parsers platform) in
theorem Resolving.failedAttempt (h : w.Resolving) :
    let w' := Run.run (step backend parsers platform) w
      (failedAttempt w.runtime.connectionGeneration)
    w'.Resolving ∧ w'.runtime.connectionGeneration = w.runtime.connectionGeneration + 1 + 1 ∧
      w'.actions.filterMap RuntimeAction.begun =
        w.actions.filterMap RuntimeAction.begun ++ [w.runtime.connectionGeneration + 1 + 1] := by
  intro w'
  have hretry : w.step backend parsers platform (.resolve w.runtime.connectionGeneration
      (some (text "host not found")) [] (.ok ()) 0) =
      ({ w with resolves := [] } : RuntimeIo σ).retryOnIo backend
        (text "server name resolution failed: " ++ text "host not found") 0 := by
    simp [step, handle, handleResolve, h.ioStopped, h.resolves, h.stopRequested]
  have hw' : w' = (({ w with resolves := [] } : RuntimeIo σ).retryOnIo backend
      (text "server name resolution failed: " ++ text "host not found") 0).step backend parsers
        platform (.reconnectTimer false) := by
    rw [← hretry]
    rfl
  generalize text "server name resolution failed: " ++ text "host not found" = reason at hw'
  have hdown : w'.runtime.finished = false ∧ w'.runtime.stopRequested = false ∧
      w'.runtime.intentionalStop = false ∧ w'.ioStopped = false := by
    rw [hw']
    simp [retryOnIo, h.finished, h.stopRequested, h.intentionalStop, step, handle, tearDown, act,
      h.ioStopped, ClientRuntime.retryOnIo, ClientRuntime.transition, onReconnectTimer,
      beginConnect, transition]
  have hnext : w'.runtime.connectionGeneration = w.runtime.connectionGeneration + 1 + 1 ∧
      w'.resolves = [w.runtime.connectionGeneration + 1 + 1] ∧ w'.reconnectWaits = 0 := by
    rw [hw']
    simp [retryOnIo, h.finished, h.stopRequested, h.intentionalStop, step, handle, tearDown, act,
      h.ioStopped, ClientRuntime.retryOnIo, ClientRuntime.transition, onReconnectTimer,
      beginConnect, transition, h.reconnectWaits]
  have hbegun : w'.actions.filterMap RuntimeAction.begun =
      w.actions.filterMap RuntimeAction.begun ++ [w.runtime.connectionGeneration + 1 + 1] := by
    rw [hw']
    simp [retryOnIo, h.finished, h.stopRequested, h.intentionalStop, step, handle, tearDown, act,
      h.ioStopped, ClientRuntime.retryOnIo, ClientRuntime.transition, onReconnectTimer,
      beginConnect, transition]
    rfl
  obtain ⟨hfinished, hstop, hintentional, hio⟩ := hdown
  obtain ⟨hg, hresolves, hwaits⟩ := hnext
  exact ⟨⟨hfinished, hstop, hintentional, hio, by rw [hresolves, hg], hwaits⟩, hg, hbegun⟩

variable (backend parsers platform) in
theorem run_failedAttempts (config : ClientConfig) (device : σ) (n : Nat) :
    let w := Run.run (step backend parsers platform) (started config device) (failedAttempts n)
    w.Resolving ∧ w.runtime.connectionGeneration = UInt64.ofNat (2 * n + 1) ∧
      w.actions.filterMap RuntimeAction.begun = attempted (n + 1) := by
  induction n with
  | zero => exact ⟨⟨rfl, rfl, rfl, rfl, rfl, rfl⟩, rfl, rfl⟩
  | succ n ih =>
    obtain ⟨hresolving, hg, hbegun⟩ := ih
    have hsplit : failedAttempts (n + 1) =
        failedAttempts n ++ failedAttempt (UInt64.ofNat (2 * n + 1)) := by
      simp [failedAttempts, List.range_succ]
    have hnext : UInt64.ofNat (2 * (n + 1) + 1) = UInt64.ofNat (2 * n + 1) + 1 + 1 := by
      have htwo : 2 * (n + 1) + 1 = 2 * n + 1 + 1 + 1 := by omega
      rw [htwo, Sequenced.ofNat_succ, Sequenced.ofNat_succ]
    rw [hsplit, Run.run_append]
    have hattempt := hresolving.failedAttempt backend parsers platform
    rw [hg] at hattempt
    obtain ⟨hresolving', hg', hbegun'⟩ := hattempt
    refine ⟨hresolving', hg'.trans hnext.symm, ?_⟩
    rw [hbegun', hbegun, ← hnext, attempted, attempted, List.range_succ (n := n + 1), List.map_append]
    rfl

theorem attempted_start_over {n : Nat} (hn : n = 2 ^ 63) : ¬(attempted (n + 2)).tail.Nodup := by
  intro hnodup
  have htail : (attempted (n + 2)).tail =
      (List.range (n + 1)).map fun k => UInt64.ofNat (2 * (k + 1) + 1) := by
    rw [attempted, List.range_succ_eq_map, List.map_cons, List.tail_cons, List.map_map]
    rfl
  have hsame : UInt64.ofNat (2 * (0 + 1) + 1) = UInt64.ofNat (2 * (n + 1) + 1) := by
    rw [hn]
    decide
  rw [htail] at hnodup
  have heq : 0 = n := List.inj_on_of_nodup_map hnodup (List.mem_range.mpr (by omega))
    (List.mem_range.mpr (by omega)) hsame
  omega

variable (backend parsers platform) in
theorem failedAttempts_start_over (config : ClientConfig) (device : σ) {n : Nat}
    (hn : n = 2 ^ 63) :
    let w := Run.run (step backend parsers platform) (started config device)
      (failedAttempts (n + 1))
    ¬(w.actions.filterMap RuntimeAction.begun).tail.Nodup := by
  intro w
  have hbegun := (run_failedAttempts backend parsers platform config device (n + 1)).2.2
  rw [hbegun]
  exact attempted_start_over hn

/-- A runtime on an idle host, whose configuration is never read. -/
def offline : RuntimeIo Host := started {} {}

/-- After 2^63 attempts the generations start over. All but the first attempt were begun by a
reconnect wait, and two of those in the same generation. -/
theorem reconnect_generations_start_over :
    let parsers : AddressParsers := ⟨fun _ => none, fun _ => none⟩
    let w := Run.run (step Host.backend parsers .other) offline (failedAttempts (2 ^ 63 + 1))
    ¬(w.actions.filterMap RuntimeAction.begun).tail.Nodup := by
  intro parsers
  exact failedAttempts_start_over Host.backend parsers .other ({} : ClientConfig) ({} : Host)
    (n := 2 ^ 63) rfl

end RuntimeIo

end PersonalVpn.Client
