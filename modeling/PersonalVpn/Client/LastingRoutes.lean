import PersonalVpn.Client.DefaultRoutes
import PersonalVpn.Client.KillSwitchRuns
import PersonalVpn.Client.WindowsClient
import PersonalVpn.Client.WindowsReversal

/-! What a client on Windows leaves on its host. -/

namespace PersonalVpn.Client

open PersonalVpn.Core Protocol Fallible ClientNetworkTransaction WindowsNetworkBackend

namespace RuntimeIo

variable {σ : Type} {w : RuntimeIo σ}

/-- The kill switch is enabled between connections. -/
theorem Consistent.idle_of_call (hw : w.Consistent) {event : RuntimeEvent}
    {endpoints : List WindowsVpnEndpoint} (hcall : w.killSwitchCall event = some endpoints) :
    Idle w.network.1 := by
  cases event with
  | resolve generation error es killSwitch draw =>
    cases error with
    | some message => cases hcall
    | none =>
      rw [killSwitchCall] at hcall
      split_ifs at hcall with hcalled
      cases hcall
      obtain ⟨-, hg, hcurrent, -⟩ := hcalled
      have hcount : 0 < w.resolves.count w.currentGeneration := by
        rw [List.count_pos_iff, currentGeneration, ← hcurrent]
        exact hg
      have hahead : w.ahead ≠ 0 := by
        unfold ahead
        omega
      exact hw.idle (hw.down hahead).1
  | _ => cases hcall

/-- What the state of the backend is does not matter to the operations. -/
theorem Consistent.with_device (hw : w.Consistent) (device : σ) :
    Consistent { w with network := (w.network.1, device) } :=
  ⟨hw.past, hw.single, hw.up, hw.network, hw.started, hw.safe, hw.begins, hw.begunPast⟩

end RuntimeIo

namespace WindowsClient

variable {σ : Type} {windows : Windows σ} {tables : σ → IpTables} {created : AdapterHandle → Bool}
  {allowed : NetLuid → AddressFamily → UInt32 → Prop} {parsers : AddressParsers}
  {w : WindowsClient σ}

variable (windows parsers) in
/-- A step of the client is a step of its runtime, from where enabling the kill switch may have taken
the device. -/
theorem step_cases (w : WindowsClient σ) (e : RuntimeEvent × FilterAnswers) :
    ∃ device event, step windows parsers w e = RuntimeIo.step (backend windows) parsers
      (.windows true) { w with network := (w.network.1, device) } event := by
  cases hcall : w.killSwitchCall e.1 with
  | none => exact ⟨w.network.2, e.1, step_of_none hcall⟩
  | some endpoints =>
    rcases hrun : enableKillSwitch windows e.2.wfp e.2.permitWfp endpoints w.network.2 with ⟨r, b⟩
    exact ⟨b, e.1.returning r, step_of_some hcall hrun⟩

theorem step_consistent (hw : w.Consistent)
    (hroom : w.currentGeneration < w.currentGeneration + 1) (e : RuntimeEvent × FilterAnswers) :
    (step windows parsers w e).Consistent := by
  obtain ⟨device, event, hstep⟩ := step_cases windows parsers w e
  rw [hstep]
  exact (hw.with_device device).step hroom event

variable (windows parsers) in
theorem step_generation (w : WindowsClient σ) (e : RuntimeEvent × FilterAnswers) :
    (step windows parsers w e).currentGeneration.toNat ≤ w.currentGeneration.toNat + 1 := by
  obtain ⟨device, event, hstep⟩ := step_cases windows parsers w e
  rw [hstep]
  exact (RuntimeIo.Advances.step _ _ _ { w with network := (w.network.1, device) } event).toNat_le

theorem step_config (w : WindowsClient σ) (e : RuntimeEvent × FilterAnswers) :
    (step windows parsers w e).config = w.config := by
  obtain ⟨device, event, hstep⟩ := step_cases windows parsers w e
  rw [hstep]
  exact (RuntimeIo.NetworkStep.step _ _ _ { w with network := (w.network.1, device) } event).config

/-- Where the transaction stands, it leads back to tables on which only what enabling full tunnels
changes for good has changed. -/
def Traced (windows : Windows σ) (tables : σ → IpTables) (created : AdapterHandle → Bool)
    (allowed : NetLuid → AddressFamily → UInt32 → Prop) (endpoints : List WindowsVpnEndpoint)
    (t : IpTables) (network : ClientNetworkTransaction × WindowsNetworkBackend σ) : Prop :=
  ∃ f : Footprint, f.Coherent windows ∧
    WindowsNetworkBackend.Settled windows tables created allowed f network ∧
    Lasting windows endpoints t (f.closed windows created).tables

variable {endpoints : List WindowsVpnEndpoint} {t : IpTables}

section Documented

variable (hd : windows.Documented tables created)
include hd

/-- A full tunnel is enabled on an idle transaction. -/
theorem Traced.enable {w : ClientNetworkTransaction × WindowsNetworkBackend σ}
    (h : Traced windows tables created allowed endpoints t w) (hidle : Idle w.1)
    {resolved : List WindowsVpnEndpoint} (hsub : resolved ⊆ endpoints) (wfp permitWfp : Wfp)
    {r : Except Exception Unit} {b : WindowsNetworkBackend σ}
    (hrun : enableKillSwitch windows wfp permitWfp resolved w.2 = (r, b)) :
    Traced windows tables created allowed endpoints t (w.1, b) ∧
      (r = .ok () → RoutesReady resolved (footprint tables b)) := by
  obtain ⟨f, hf, hsettled, hlasting⟩ := h
  obtain ⟨g, hg, hat, hclosed⟩ : ∃ g : Footprint, g.Coherent windows ∧ At tables g w.2 ∧
      g.closed windows created = f.closed windows created := by
    obtain ⟨-, hat | hat⟩ | ⟨hactive, -⟩ := hsettled
    · exact ⟨f, hf, hat, rfl⟩
    · exact ⟨_, Footprint.coherent_closed windows created f, hat,
        Footprint.closed_closed windows created f⟩
    · rw [hidle] at hactive
      cases hactive
  have henable := holds_enableKillSwitch hd hg wfp permitWfp resolved
  have htraced (hend : Enabling windows created resolved g (footprint tables b)) :
      Traced windows tables created allowed endpoints t (w.1, b) := by
    refine ⟨footprint tables b, hend.coherent, .inl ⟨hidle, .inl rfl⟩, hlasting.trans ?_⟩
    rw [← hclosed]
    exact hend.closed.mono hsub
  cases r with
  | ok u =>
    obtain ⟨hend, hready⟩ := henable.ok hat hrun
    exact ⟨htraced hend, fun _ => hready⟩
  | error e => exact ⟨htraced (henable.error hat hrun), fun hno => by cases hno⟩

variable (hs : windows.Steady tables allowed)
include hs

theorem Traced.network {w w' : RuntimeIo (WindowsNetworkBackend σ)}
    (h : Traced windows tables created allowed endpoints t w.network)
    (hstep : RuntimeIo.NetworkStep (backend windows) parsers w w') :
    Traced windows tables created allowed endpoints t w'.network := by
  obtain hsame | ⟨call, hcall⟩ := hstep.network
  · rwa [hsame]
  · obtain ⟨f, hf, hsettled, hlasting⟩ := h
    rw [hcall]
    exact ⟨f, hf, hsettled.answer hd hs parsers hf call, hlasting⟩

theorem Traced.step (h : Traced windows tables created allowed endpoints t w.network)
    (hw : w.Consistent) (e : RuntimeEvent × FilterAnswers) (hsub : e.1.resolved ⊆ endpoints) :
    Traced windows tables created allowed endpoints t (step windows parsers w e).network := by
  cases hcall : w.killSwitchCall e.1 with
  | none =>
    rw [step_of_none hcall]
    exact h.network hd hs (RuntimeIo.NetworkStep.step _ parsers _ w e.1)
  | some resolved =>
    rw [w.resolved_of_call hcall] at hsub
    rcases hrun : enableKillSwitch windows e.2.wfp e.2.permitWfp resolved w.network.2 with ⟨r, b⟩
    obtain ⟨henabled, -⟩ := h.enable hd (hw.idle_of_call hcall) hsub _ _ hrun
    rw [step_of_some hcall hrun]
    exact Traced.network hd hs (w := { w with network := (w.network.1, b) }) henabled
      (RuntimeIo.NetworkStep.step _ parsers _ _ _)

/-- When the client is destroyed, its adapter is closed over the tables that are left. -/
theorem Traced.destroy (h : Traced windows tables created allowed endpoints t w.network) :
    Lasting windows endpoints t (tables (WindowsClient.destroy windows w).host) := by
  obtain ⟨f, -, hsettled, hlasting⟩ := h
  have hback : (footprint tables (rollback (backend windows) w.network).2).closed windows created =
      f.closed windows created := by
    obtain ⟨hidle, hat⟩ | ⟨-, hpending⟩ := hsettled
    · rw [rollback_of_idle _ hidle]
      obtain hat | hat := hat
      · rw [show footprint tables w.network.2 = f from hat]
      · rw [show footprint tables w.network.2 = _ from hat]
        exact Footprint.closed_closed windows created f
    · rw [(hpending.rollback hd hs).2]
      exact Footprint.closed_closed windows created f
  have hclosed : footprint tables (WindowsClient.destroy windows w) = f.closed windows created := by
    simp only [WindowsClient.destroy]
    rw [footprint_closeAdapter hd, footprint_stopPacketSession hd, ← hback]
    rfl
  rw [show tables (WindowsClient.destroy windows w).host = _ from congrArg Footprint.tables hclosed]
  exact hlasting

theorem Traced.run (h : Traced windows tables created allowed endpoints t w.network)
    (hw : w.Consistent) {events : List (RuntimeEvent × FilterAnswers)}
    (hsub : ∀ e ∈ events, e.1.resolved ⊆ endpoints)
    (hroom : w.currentGeneration.toNat + events.length < 2 ^ 64) :
    let w' : WindowsClient σ := Run.run (WindowsClient.step windows parsers) w events
    Traced windows tables created allowed endpoints t w'.network ∧ w'.Consistent ∧
      w'.config = w.config := by
  induction events generalizing w with
  | nil => exact ⟨h, hw, rfl⟩
  | cons e events ih =>
    have hlength : w.currentGeneration.toNat + (events.length + 1) < 2 ^ 64 := hroom
    have hnext : w.currentGeneration < w.currentGeneration + 1 := by
      rw [UInt64.lt_iff_toNat_lt, UInt64.toNat_add, UInt64.toNat_one, Nat.mod_eq_of_lt (by omega)]
      omega
    have hgeneration := step_generation windows parsers w e
    have hfirst : Traced windows tables created allowed endpoints t
        (WindowsClient.step windows parsers w e).network :=
      h.step hd hs hw e (hsub e List.mem_cons_self)
    obtain ⟨htraced, hconsistent, hconfig⟩ := ih hfirst (step_consistent hw hnext e)
      (fun e' he' => hsub e' (List.mem_cons_of_mem _ he')) (by omega)
    exact ⟨htraced, hconsistent, hconfig.trans (step_config w e)⟩

omit hs in
/-- A full tunnel connects over the routes that are meant for it. -/
theorem Traced.ready (h : Traced windows tables created allowed endpoints t w.network)
    (hw : w.Consistent) (hfull : requestsFullTunnel w.config = true)
    {e : RuntimeEvent × FilterAnswers} (hsub : e.1.resolved ⊆ endpoints)
    (hdials : RuntimeIo.Dials w (WindowsClient.step windows parsers w e)) :
    RoutesReady e.1.resolved (footprint tables (WindowsClient.step windows parsers w e).network.2) := by
  obtain ⟨b, hcall, hrun, hnetwork⟩ := dials_enabled hfull hdials
  rw [hnetwork]
  exact (h.enable hd (hw.idle_of_call hcall) hsub _ _ hrun).2 rfl

end Documented

/-- However a client on Windows runs, with full tunnels enabled again and again, and with any call
failing: when it is destroyed, no tables of its host have changed but for default routes of its own
adapter that are gone, and routes to the endpoints that were found, which bypass the adapter. Where a
full tunnel connects, each of its endpoints has such a route and no default route leads into the
tunnel. -/
theorem host_routes_lasting (hd : windows.Documented tables created)
    (hs : windows.Steady tables allowed) (parsers : AddressParsers) (config : ClientConfig)
    {adapterName : List UInt16} {host : σ} {device : WindowsNetworkBackend σ}
    (hcreate : create adapterName host = .ok device)
    (events : List (RuntimeEvent × FilterAnswers)) (hlength : events.length < 2 ^ 64) :
    let w : WindowsClient σ :=
      Run.run (step windows parsers) (RuntimeIo.started config device) events
    Lasting windows (events.flatMap fun e => e.1.resolved) (tables host)
      (tables (destroy windows w).host) ∧
    (requestsFullTunnel config = true → ∀ e, RuntimeIo.Dials w (step windows parsers w e) →
      RoutesReady e.1.resolved (footprint tables (step windows parsers w e).network.2)) := by
  intro w
  obtain ⟨-, hdevice⟩ := throwIf_bind_ok.mp hcreate
  obtain rfl : ({ adapterName, host } : WindowsNetworkBackend σ) = device := by
    cases hdevice
    rfl
  have hstart (endpoints : List WindowsVpnEndpoint) :
      Traced windows tables created allowed endpoints (tables host)
        (RuntimeIo.started config ({ adapterName, host } : WindowsNetworkBackend σ)).network :=
    ⟨⟨tables host, none, none, 0⟩, ⟨rfl, rfl⟩, .inl ⟨rfl, .inl rfl⟩, Lasting.refl _ _ _⟩
  have hzero : (RuntimeIo.started config
      ({ adapterName, host } : WindowsNetworkBackend σ)).currentGeneration.toNat = 0 := rfl
  have hrun (endpoints : List WindowsVpnEndpoint) (hsub : ∀ e ∈ events, e.1.resolved ⊆ endpoints) :
      Traced windows tables created allowed endpoints (tables host) w.network ∧ w.Consistent ∧
        w.config = config :=
    (hstart endpoints).run hd hs (RuntimeIo.consistent_started config _) hsub (by omega)
  constructor
  · have hall : ∀ e ∈ events, e.1.resolved ⊆ events.flatMap fun e => e.1.resolved := by
      intro e he endpoint hendpoint
      exact List.mem_flatMap.mpr ⟨e, he, hendpoint⟩
    exact (hrun _ hall).1.destroy hd hs
  · intro hfull e hdials
    obtain ⟨htraced, hconsistent, hconfig⟩ :=
      hrun ((events.flatMap fun e => e.1.resolved) ++ e.1.resolved) (by
        intro e' he' endpoint hendpoint
        exact List.mem_append_left _ (List.mem_flatMap.mpr ⟨e', he', hendpoint⟩))
    rw [← hconfig] at hfull
    exact htraced.ready hd hconsistent hfull (List.subset_append_right _ _) hdials

/-- The route of a host to its network, and one that an earlier run has left. -/
def physicalRoute : ForwardRow :=
  ⟨3, .ipv4 #v[0, 0, 0, 0], 0, .ipv4 #v[192, 168, 1, 1], 0, 25, MIB_IPPROTO_NETMGMT⟩

def staleRoute : ForwardRow :=
  ⟨7, .ipv4 #v[0, 0, 0, 0], 0, .ipv4 #v[172, 16, 0, 1], 0, 5, MIB_IPPROTO_NETMGMT⟩

def staleDevice : WindowsNetworkBackend TableHost where
  adapterName := wideText "PersonalVPN"
  host := { forward := [physicalRoute, staleRoute] }

def granted : FilterAnswers where
  wfp := FilteringMachine.granting []
  keys := FilteringMachine.numbered
  permitWfp := FilteringMachine.granting []
  permitKeys n := FilteringMachine.numbered (n + 100)

def noParsers : AddressParsers := ⟨fun _ => none, fun _ => none⟩

/-- The resolver finds one endpoint for the first attempt. -/
def found : RuntimeEvent × FilterAnswers :=
  (.resolve 1 none [.v4 #v[192, 0, 2, 1] 8443] (.ok ()) 0, granted)

def resolving : WindowsClient TableHost := Run.run (step TableHost.windows noParsers)
  (RuntimeIo.started (loaded "192.0.2.1" "0.0.0.0/0") staleDevice) [(.begin, granted)]

theorem host_routes_lasting_staleRoute :
    (TableHost.tables (destroy TableHost.windows resolving).host).HasRoute physicalRoute ∧
      RoutesReady found.1.resolved (footprint TableHost.tables
        (step TableHost.windows noParsers resolving found).network.2) := by
  have hcreate : create (wideText "PersonalVPN") staleDevice.host = .ok staleDevice :=
    throwIf_bind_ok.mpr ⟨by decide +kernel, rfl⟩
  have hfull : requestsFullTunnel (loaded "192.0.2.1" "0.0.0.0/0") = true := by decide +kernel
  have hdials : resolving.connects.length <
    (step TableHost.windows noParsers resolving found).connects.length := by decide +kernel
  have hboth := host_routes_lasting TableHost.documented TableHost.steady noParsers
    (loaded "192.0.2.1" "0.0.0.0/0") hcreate [(.begin, granted)] (by decide)
  have hthere : (TableHost.tables staleDevice.host).HasRoute physicalRoute := by
    show TableHost.route _ _ = _
    decide +kernel
  have hforeign (adapter : AdapterHandle) :
      ¬IsOwnedDefaultRoute (TableHost.windows.wintunGetAdapterLuid adapter) physicalRoute :=
    fun howned => absurd howned.2.2.1 (by decide : (3 : NetLuid) ≠ 7)
  rw [resolving] at hdials ⊢
  exact ⟨hboth.1.kept physicalRoute hthere hforeign, hboth.2 hfull found hdials⟩

end WindowsClient

end PersonalVpn.Client
