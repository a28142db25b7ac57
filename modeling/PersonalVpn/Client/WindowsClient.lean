import PersonalVpn.Client.FullTunnelRoutes
import PersonalVpn.Client.RuntimeGenerations

/-! The client on Windows: a runtime whose packet device is a `WindowsNetworkBackend`. -/

namespace PersonalVpn.Client

open PersonalVpn.Core Protocol Fallible ClientNetworkTransaction

/-! ### What all functions of a backend keep -/

/-- Every function of a backend keeps a property of its state. -/
structure ClientNetworkBackend.Keeps {σ : Type} (b : ClientNetworkBackend σ) (P : σ → Prop) :
    Prop where
  openAdapter : Holds P b.openAdapter (fun _ => P) (fun _ => P)
  startPacketSession : Holds P b.startPacketSession (fun _ => P) (fun _ => P)
  addInterfaceAddress : ∀ address,
    Holds P (b.addInterfaceAddress address) (fun _ => P) (fun _ => P)
  setInterfaceMtu : ∀ mtu, Holds P (b.setInterfaceMtu mtu) (fun _ => P) (fun _ => P)
  addRoute : ∀ route, Holds P (b.addRoute route) (fun _ => P) (fun _ => P)
  undo : ∀ s u, P s → P (b.undo s u)

namespace ClientNetworkBackend.Keeps

variable {σ : Type} {b : ClientNetworkBackend σ} {P : σ → Prop} (h : b.Keeps P)
include h

theorem rollback {w : ClientNetworkTransaction × σ} (hw : P w.2) :
    P (ClientNetworkTransaction.rollback b w).2 := by
  rw [rollback_system]
  generalize w.1.undoCalls = calls
  generalize w.2 = s at hw
  induction calls generalizing s with
  | nil => exact hw
  | cons u calls ih => exact ih _ (h.undo s u hw)

omit h in
theorem call {α : Type} {x : Fallible Exception σ α}
    (hx : Holds P x (fun _ => P) (fun _ => P))
    (set : α → ClientNetworkTransaction → ClientNetworkTransaction) :
    Holds (fun w => P w.2) (ClientNetworkTransaction.call x set) (fun _ w => P w.2)
      (fun _ w => P w.2) := by
  apply holds_call (M := fun w => P w.2)
  · intro w hw a s hrun
    exact hx.ok hw hrun
  · intro w hw e s hrun
    exact hx.error hw hrun

theorem install (parsers : AddressParsers) (assignment : IpAssignment) (routeCidrs : List Bytes) :
    Holds (fun w => P w.2) (ClientNetworkTransaction.install b parsers assignment routeCidrs)
      (fun _ w => P w.2) (fun _ w => P w.2) := by
  apply (call h.openAdapter _).bind
  intro _
  apply (call h.startPacketSession _).bind
  intro _
  apply (holds_transaction (M := fun _ w => P w.2) fun _ hw => hw).bind
  intro t
  apply (call (h.addInterfaceAddress _) _).bind
  intro _
  apply Holds.bind (M := fun _ w => P w.2)
  · cases hipv6 : t.ipv6Address with
    | none => exact holds_pure fun _ hw => hw
    | some address => exact call (h.addInterfaceAddress _) _
  intro _
  apply (call (h.setInterfaceMtu _) _).bind
  intro _
  apply Holds.bind (M := fun _ w => P w.2)
  · apply holds_forM
    intro cidr
    apply holds_ofExcept.bind
    intro route
    exact call (h.addRoute route) _
  intro _
  exact holds_modify fun _ hw => hw

/-- Where a setup call throws, what is there is taken down. -/
theorem installOrRollback (parsers : AddressParsers) (assignment : IpAssignment)
    (routeCidrs : List Bytes) :
    Holds (fun w => P w.2)
      (tryCatch (ClientNetworkTransaction.install b parsers assignment routeCidrs)
        fun e w => (.error e, ClientNetworkTransaction.rollback b w))
      (fun _ w => P w.2) (fun _ w => P w.2) := by
  have hinstall := h.install parsers assignment routeCidrs
  constructor
  · intro w w' a hw hrun
    rcases hx : ClientNetworkTransaction.install b parsers assignment routeCidrs w with ⟨r, v⟩
    cases r with
    | ok u =>
      rw [tryCatch_ok hx] at hrun
      cases hrun
      exact hinstall.ok hw hx
    | error e =>
      rw [tryCatch_error hx] at hrun
      cases hrun
  · intro w w' e hw hrun
    rcases hx : ClientNetworkTransaction.install b parsers assignment routeCidrs w with ⟨r, v⟩
    cases r with
    | ok u =>
      rw [tryCatch_ok hx] at hrun
      cases hrun
    | error e' =>
      rw [tryCatch_error hx] at hrun
      cases hrun
      exact h.rollback (hinstall.error hw hx)

theorem activate (parsers : AddressParsers) (assignment : IpAssignment) (routeCidrs : List Bytes) :
    Holds (fun w => P w.2) (ClientNetworkTransaction.activate b parsers assignment routeCidrs)
      (fun _ w => P w.2) (fun _ w => P w.2) := by
  apply (holds_transaction (M := fun _ w => P w.2) fun _ hw => hw).bind
  intro t
  by_cases hactive : t.active ∨ t.adapterOpen ∨ t.sessionStarted ∨ t.addressCreated ∨
      t.ipv6AddressCreated ∨ t.createdRoutes ≠ []
  · rw [if_pos hactive]
    exact holds_throw fun _ hw => hw
  rw [if_neg hactive]
  by_cases hroutes : routeCidrs = []
  · rw [if_pos hroutes]
    exact holds_throw fun _ hw => hw
  rw [if_neg hroutes]
  apply Holds.bind (M := fun _ w => P w.2)
  · exact holds_modify fun _ hw => hw
  · exact fun _ => h.installOrRollback parsers assignment routeCidrs

theorem answer (parsers : AddressParsers) {w : ClientNetworkTransaction × σ} (hw : P w.2)
    (c : TransactionCall) : P (ClientNetworkTransaction.answer b parsers w c).2 := by
  cases c with
  | rollback => exact h.rollback hw
  | activate assignment routeCidrs =>
    have hactivate := h.activate parsers assignment routeCidrs
    rcases hrun : ClientNetworkTransaction.activate b parsers assignment routeCidrs w with ⟨r, w'⟩
    rw [ClientNetworkTransaction.answer, hrun]
    cases r with
    | ok u => exact hactivate.ok hw hrun
    | error e => exact hactivate.error hw hrun

end ClientNetworkBackend.Keeps

namespace WindowsNetworkBackend

variable {σ : Type} (windows : Windows σ)

/-- The session of the tunnel permit is in the hands of the kill switch. -/
def Holding (d : Option Engine) (b : WindowsNetworkBackend σ) : Prop := b.tunnelPolicySession = d

variable {windows} {d : Option Engine}

theorem holding_onHost {α : Type} (x : HostProgram σ α) :
    Holds (Holding d) (onHost x) (fun _ => Holding d) (fun _ => Holding d) := by
  constructor
  · intro b b' a hb hrun
    obtain rfl := congrArg Prod.snd hrun
    exact hb
  · intro b b' e hb hrun
    obtain rfl := congrArg Prod.snd hrun
    exact hb

theorem holding_read :
    Holds (Holding d) (get : Program σ (WindowsNetworkBackend σ)) (fun _ => Holding d)
      (fun _ => Holding d) :=
  holds_read.weaken fun _ _ hb => hb.1

theorem holding_throw {α : Type} (e : Exception) :
    Holds (Holding d) (throw e : Program σ α) (fun _ => Holding d) (fun _ => Holding d) :=
  holds_throw fun _ hb => hb

theorem holding_pure {α : Type} (a : α) :
    Holds (Holding d) (pure a : Program σ α) (fun _ => Holding d) (fun _ => Holding d) :=
  holds_pure fun _ hb => hb

variable (windows) in
theorem holding_stopPacketSession {b : WindowsNetworkBackend σ} (hb : Holding d b) :
    Holding d (stopPacketSession windows b) := by
  unfold stopPacketSession
  cases hsession : b.session with
  | none => simpa [Holding, hsession] using hb
  | some session => simpa [Holding, hsession] using hb

theorem holding_closeAdapter {b : WindowsNetworkBackend σ} (hb : Holding d b) :
    Holding d (closeAdapter windows b) := by
  have hstopped := holding_stopPacketSession windows hb
  unfold closeAdapter
  generalize stopPacketSession windows b = b' at hstopped
  cases hadapter : b'.adapter with
  | none => simpa [Holding, hadapter] using hstopped
  | some adapter => simpa [Holding, hadapter] using hstopped

theorem holding_loadLibrary :
    Holds (Holding d) (loadLibrary windows) (fun _ => Holding d) (fun _ => Holding d) := by
  apply holding_read.bind
  intro b
  split_ifs
  · exact holding_pure ()
  · apply (holding_onHost _).bind
    intro _
    exact holds_modify fun _ hb => hb

theorem holding_takeAdapter (adapter : Option AdapterHandle) :
    Holds (Holding d) (takeAdapter windows adapter) (fun _ => Holding d) (fun _ => Holding d) := by
  cases adapter with
  | none => exact holding_onHost _
  | some adapter =>
    apply Holds.bind (M := fun _ => Holding d)
    · exact holds_modify fun _ hb => hb
    intro _
    split_ifs
    · apply Holds.bind (M := fun _ => Holding d)
      · exact holds_modify fun _ hb => holding_closeAdapter hb
      · exact fun _ => holding_throw _
    · exact holding_pure ()

theorem holding_openAdapter :
    Holds (Holding d) (openAdapter windows) (fun _ => Holding d) (fun _ => Holding d) := by
  apply holding_read.bind
  intro b
  split_ifs
  · exact holding_pure ()
  apply holding_loadLibrary.bind
  intro _
  apply holding_read.bind
  intro b
  apply Holds.bind (M := fun _ => Holding d)
  · apply (holding_onHost _).bind
    intro adapter
    cases adapter with
    | some adapter => exact holding_pure _
    | none => exact holding_onHost _
  · exact holding_takeAdapter

theorem holding_startPacketSession :
    Holds (Holding d) (startPacketSession windows) (fun _ => Holding d) (fun _ => Holding d) := by
  apply holding_read.bind
  intro b
  cases b.adapter with
  | none => exact holding_throw _
  | some adapter =>
    cases b.session with
    | some session => exact holding_throw _
    | none =>
      apply Holds.bind (M := fun _ => Holding d)
      · exact holds_modify fun _ hb => hb
      intro _
      apply (holding_onHost _).bind
      intro session
      cases session with
      | none => exact holding_onHost _
      | some session => exact holds_modify fun _ hb => hb

theorem holding_requireLuid :
    Holds (Holding d) (requireLuid : Program σ NetLuid) (fun _ => Holding d)
      (fun _ => Holding d) := by
  apply holding_read.bind
  intro b
  split_ifs
  · exact holding_throw _
  · exact holding_pure _

theorem holding_interfaceRow (family : AddressFamily) :
    Holds (Holding d) (interfaceRow windows family) (fun _ => Holding d) (fun _ => Holding d) := by
  apply holding_requireLuid.bind
  intro luid
  apply (holding_onHost _).bind
  intro answer
  apply (holding_onHost _).bind
  exact fun _ => holding_pure _

theorem holding_addInterfaceAddress (address : Address) :
    Holds (Holding d) (addInterfaceAddress windows address) (fun _ => Holding d)
      (fun _ => Holding d) := by
  apply holding_requireLuid.bind
  intro luid
  apply (holding_onHost _).bind
  intro result
  split_ifs
  · exact holding_pure _
  · apply (holding_onHost _).bind
    exact fun _ => holding_pure _

theorem holding_addRoute (route : Route) :
    Holds (Holding d) (addRoute windows route) (fun _ => Holding d) (fun _ => Holding d) := by
  apply holding_requireLuid.bind
  intro luid
  apply (holding_onHost _).bind
  intro result
  split_ifs
  · exact holding_pure _
  · apply (holding_onHost _).bind
    intro _
    apply (holding_onHost _).bind
    exact fun _ => holding_pure _

theorem holding_setInterfaceMtu (mtu : UInt32) :
    Holds (Holding d) (setInterfaceMtu windows mtu) (fun _ => Holding d) (fun _ => Holding d) := by
  apply (holding_interfaceRow .inet).bind
  intro ipv4
  apply (holding_interfaceRow .inet6).bind
  intro ipv6
  split_ifs
  · exact holding_pure _
  apply holding_read.bind
  intro b
  apply (holding_onHost _).bind
  intro result
  apply (holding_onHost _).bind
  intro _
  apply (holding_onHost _).bind
  intro result'
  split_ifs
  · apply (holding_onHost _).bind
    intro _
    apply (holding_onHost _).bind
    exact fun _ => holding_pure _
  · exact holding_pure _

variable (windows d) in
theorem holding_restoreMtus (mtu : InterfaceMtuSnapshot) :
    Holds (Holding d) (restoreMtus windows mtu) (fun _ => Holding d) (fun _ => Holding d) := by
  apply (holding_interfaceRow .inet).bind
  intro _
  apply holding_read.bind
  intro b
  apply (holding_onHost _).bind
  intro _
  apply (holding_interfaceRow .inet6).bind
  intro _
  apply (holding_onHost _).bind
  exact fun _ => holding_pure _

variable (windows d) in
/-- No function of the backend touches the session of the tunnel permit. -/
theorem keeps_holding : (backend windows).Keeps (Holding d) where
  openAdapter := holding_openAdapter
  startPacketSession := holding_startPacketSession
  addInterfaceAddress := holding_addInterfaceAddress
  setInterfaceMtu := holding_setInterfaceMtu
  addRoute := holding_addRoute
  undo := by
    intro b u hb
    cases u with
    | removeRoute route =>
      simp only [ClientNetworkBackend.undo, backend, removeRoute]
      split_ifs <;> exact hb
    | restoreInterfaceMtu mtu =>
      have hrestore := holding_restoreMtus windows d mtu
      change Holding d (restoreMtus windows mtu b).2
      rcases hrun : restoreMtus windows mtu b with ⟨r, b'⟩
      cases r with
      | ok u => exact hrestore.ok hb hrun
      | error e => exact hrestore.error hb hrun
    | removeInterfaceAddress address =>
      simp only [ClientNetworkBackend.undo, backend, removeInterfaceAddress]
      split_ifs <;> exact hb
    | stopPacketSession => exact holding_stopPacketSession windows hb
    | closeAdapter => exact holding_closeAdapter hb

end WindowsNetworkBackend

namespace RuntimeIo

variable {σ : Type} {backend : ClientNetworkBackend σ} {parsers : AddressParsers}
  {platform : Platform}

/-- What one step does to the configuration and to the network. -/
structure NetworkStep (backend : ClientNetworkBackend σ) (parsers : AddressParsers)
    (w w' : RuntimeIo σ) : Prop where
  config : w'.config = w.config
  network : w'.network = w.network ∨ ∃ call, w'.network = answer backend parsers w.network call

namespace NetworkStep

theorem same {w w' : RuntimeIo σ} (hconfig : w'.config = w.config)
    (hnetwork : w'.network = w.network) : NetworkStep backend parsers w w' :=
  ⟨hconfig, .inl hnetwork⟩

theorem settled {w w₁ w' : RuntimeIo σ} {event : RuntimeEvent} (hsettled : Settled w event w₁)
    (h : NetworkStep backend parsers w₁ w') : NetworkStep backend parsers w w' := by
  constructor
  · exact h.config.trans hsettled.config
  · rw [← hsettled.network]
    exact h.network

variable (backend parsers) in
theorem finishOnIo (w : RuntimeIo σ) : NetworkStep backend parsers w (w.finishOnIo backend) := by
  unfold RuntimeIo.finishOnIo
  split_ifs
  · exact same rfl rfl
  · exact ⟨rfl, .inr ⟨.rollback, rfl⟩⟩

theorem recordFailure_finishOnIo (w : RuntimeIo σ) (message : Bytes) :
    NetworkStep backend parsers w ((w.recordFailure message).finishOnIo backend) := by
  have hfinish := finishOnIo backend parsers (w.recordFailure message)
  exact ⟨hfinish.config, hfinish.network⟩

theorem retryOnIo (w : RuntimeIo σ) (reason : Bytes) (draw : Nat) :
    NetworkStep backend parsers w (w.retryOnIo backend reason draw) := by
  unfold RuntimeIo.retryOnIo
  split_ifs
  · exact same rfl rfl
  · exact finishOnIo backend parsers w
  · exact ⟨rfl, .inr ⟨.rollback, rfl⟩⟩

theorem beginConnect (w : RuntimeIo σ) :
    NetworkStep backend parsers w (w.beginConnect backend) := by
  unfold RuntimeIo.beginConnect
  split_ifs
  · exact finishOnIo backend parsers w
  · exact same rfl rfl

theorem configureNetwork (w : RuntimeIo σ) (assignment : IpAssignment) :
    NetworkStep backend parsers w (w.configureNetwork backend parsers assignment).2 := by
  unfold RuntimeIo.configureNetwork
  by_cases hstop : w.runtime.stopRequested = true
  · rw [if_pos hstop]
    exact same rfl rfl
  rw [if_neg hstop]
  have hactivate : (activate backend parsers assignment w.config.routes w.network).2 =
    answer backend parsers w.network (.activate assignment w.config.routes) := rfl
  rcases hrun : activate backend parsers assignment w.config.routes w.network with ⟨r, network⟩
  rw [hrun] at hactivate
  have hrun' : activate backend parsers assignment
      ((w.transition .configuringNetwork (text "applying tunnel network transaction")).act
        (.activate (w.transition .configuringNetwork
          (text "applying tunnel network transaction")).network.1)).config.routes
      ((w.transition .configuringNetwork (text "applying tunnel network transaction")).act
        (.activate (w.transition .configuringNetwork
          (text "applying tunnel network transaction")).network.1)).network = (r, network) := hrun
  dsimp only
  rw [hrun']
  cases r with
  | ok u => exact ⟨rfl, .inr ⟨_, hactivate⟩⟩
  | error e => exact ⟨rfl, .inr ⟨_, hactivate⟩⟩

variable (backend parsers platform) in
theorem step (w : RuntimeIo σ) (event : RuntimeEvent) :
    NetworkStep backend parsers w (w.step backend parsers platform event) := by
  have hcases := step_cases backend parsers platform w event
  generalize w.step backend parsers platform event = w' at hcases ⊢
  cases hcases with
  | settled hsettled => exact settled hsettled (same rfl rfl)
  | begun hsettled => exact settled hsettled (beginConnect _)
  | finished hsettled => exact settled hsettled (finishOnIo backend parsers _)
  | failed hsettled message =>
    apply settled hsettled
    exact recordFailure_finishOnIo _ message
  | retried hsettled reason draw => exact settled hsettled (retryOnIo _ reason draw)
  | guarded hsettled => exact settled hsettled (same rfl rfl)
  | connecting hsettled => exact settled hsettled (same rfl rfl)
  | tunnel hsettled => exact settled hsettled (same rfl rfl)
  | configured hsettled => exact settled hsettled (configureNetwork _ _)
  | delivered i packet failure => cases failure <;> exact same rfl rfl
  | stopping =>
    unfold RuntimeIo.stop
    split_ifs <;> exact same rfl rfl
  | readerFailed what => exact same rfl rfl

end NetworkStep

/-! ### When a runtime connects -/

/-- An `async_connect` begins: one more is outstanding. -/
def Dials (w w' : RuntimeIo σ) : Prop := w.connects.length < w'.connects.length

@[simp] theorem finishOnIo_connects (backend : ClientNetworkBackend σ) (w : RuntimeIo σ) :
    (w.finishOnIo backend).connects = w.connects := by
  unfold finishOnIo
  split_ifs <;> rfl

@[simp] theorem retryOnIo_connects (backend : ClientNetworkBackend σ) (w : RuntimeIo σ)
    (reason : Bytes) (draw : Nat) : (w.retryOnIo backend reason draw).connects = w.connects := by
  unfold retryOnIo
  split_ifs
  · rfl
  · exact finishOnIo_connects backend w
  · rfl

@[simp] theorem beginConnect_connects (backend : ClientNetworkBackend σ) (w : RuntimeIo σ) :
    (w.beginConnect backend).connects = w.connects := by
  unfold beginConnect
  split_ifs
  · exact finishOnIo_connects backend w
  · rfl

@[simp] theorem configureNetwork_connects (backend : ClientNetworkBackend σ)
    (parsers : AddressParsers) (w : RuntimeIo σ) (assignment : IpAssignment) :
    (w.configureNetwork backend parsers assignment).2.connects = w.connects := by
  unfold configureNetwork
  split_ifs
  · rfl
  · dsimp only
    split <;> rfl

@[simp] theorem deliverToPacketDevice_connects (w : RuntimeIo σ) (packet : Bytes)
    (failure : Option Bytes) : (w.deliverToPacketDevice packet failure).connects = w.connects := by
  cases failure <;> rfl

theorem onTunnelClosed_connects (backend : ClientNetworkBackend σ) (w : RuntimeIo σ)
    (generation : UInt64) (remoteError : Option ErrorMessage) (retryable : Bool) (draw : Nat) :
    (w.onTunnelClosed backend generation remoteError retryable draw).connects = w.connects := by
  have hcases := onTunnelClosed_cases backend w generation remoteError retryable draw
  generalize w.onTunnelClosed backend generation remoteError retryable draw = w' at hcases
  cases hcases with
  | stale => rfl
  | stopped => exact finishOnIo_connects backend w
  | failed current message => exact finishOnIo_connects backend (w.recordFailure message)
  | retried current reason => exact retryOnIo_connects backend w reason draw

theorem handleConnect_connects (backend : ClientNetworkBackend σ) (w : RuntimeIo σ)
    (generation : UInt64) (error : Option Bytes) (draw : Nat) :
    (w.handleConnect backend generation error draw).connects = w.connects := by
  have hcases := handleConnect_cases backend w generation error draw
  generalize w.handleConnect backend generation error draw = w' at hcases
  cases hcases with
  | stale => rfl
  | stopped => exact finishOnIo_connects backend w
  | failed current reason => exact retryOnIo_connects backend w reason draw
  | tunnel => rfl

/-- The endpoints for which the handler of an event calls `enable_kill_switch`, if it does. -/
def killSwitchCall (w : RuntimeIo σ) : RuntimeEvent → Option (List WindowsVpnEndpoint)
  | .resolve generation none endpoints _ _ =>
    if w.ioStopped = false ∧ generation ∈ w.resolves ∧
        generation = w.runtime.connectionGeneration ∧ w.runtime.stopRequested = false ∧
        requestsFullTunnel w.config = true then some (endpoints.map Endpoint.toWindows)
    else none
  | _ => none

theorem handleResolve_dials {w : RuntimeIo σ} (hfull : requestsFullTunnel w.config = true)
    {generation : UInt64} {error : Option Bytes} {endpoints : List Endpoint}
    {killSwitch : Except Exception Unit} {draw : Nat}
    (h : Dials w (w.handleResolve backend platform generation error endpoints killSwitch draw)) :
    (w.handleResolve backend platform generation error endpoints killSwitch draw).network =
      w.network ∧ generation = w.runtime.connectionGeneration ∧
      w.runtime.stopRequested = false ∧ error = none ∧ killSwitch = .ok () := by
  unfold Dials at h
  unfold handleResolve at h ⊢
  by_cases hg : generation = w.runtime.connectionGeneration
  · rw [if_neg (not_not_intro hg)] at h ⊢
    by_cases hs : w.runtime.stopRequested = true
    · simp [if_pos hs] at h
    rw [if_neg hs] at h ⊢
    cases error with
    | some message => simp at h
    | none =>
      simp only [if_pos hfull] at h ⊢
      cases platform with
      | other => simp [recordFailure] at h
      | windows failClosedBackend =>
        cases failClosedBackend with
        | false => simp [recordFailure] at h
        | true =>
          cases killSwitch with
          | error failure => simp [recordFailure] at h
          | ok u => exact ⟨rfl, hg, by simpa using hs, trivial, rfl⟩
  · simp [if_pos hg] at h

/-- A full tunnel connects in the handler of the resolver only, and only where the kill switch has
been enabled for the endpoints that were found. -/
theorem dials_full {w : RuntimeIo σ} (hfull : requestsFullTunnel w.config = true)
    {event : RuntimeEvent} (h : Dials w (w.step backend parsers platform event)) :
    (w.step backend parsers platform event).network = w.network ∧
      ∃ generation endpoints draw, event = .resolve generation none endpoints (.ok ()) draw ∧
        w.killSwitchCall event = some (endpoints.map Endpoint.toWindows) := by
  by_cases hio : w.ioStopped = true
  · exfalso
    cases event with
    | stop =>
      simp only [Dials, step, stop] at h
      split_ifs at h <;> simp at h
    | readerFailed what =>
      simp only [Dials, step] at h
      split_ifs at h <;> simp [readerFailed, recordFailure] at h
    | _ => simp [Dials, step, hio] at h
  cases event with
  | resolve generation error endpoints killSwitch draw =>
    simp only [Dials, step, if_neg hio, handle] at h ⊢
    by_cases hg : generation ∈ w.resolves
    · rw [if_pos hg] at h ⊢
      obtain ⟨hnetwork, hcurrent, hstop, rfl, rfl⟩ := handleResolve_dials
        (w := { w with resolves := w.resolves.erase generation }) hfull h
      refine ⟨hnetwork, generation, endpoints, draw, rfl, ?_⟩
      rw [killSwitchCall, if_pos ⟨by simpa using hio, hg, hcurrent, hstop, hfull⟩]
    · simp [if_neg hg] at h
  | begin =>
    simp only [Dials, step, if_neg hio, handle] at h
    split_ifs at h <;> simp at h
  | connect generation error draw =>
    simp only [Dials, step, if_neg hio, handle] at h
    split_ifs at h
    · rw [handleConnect_connects] at h
      exact absurd h (not_lt.mpr (List.length_erase_le))
    · simp at h
  | connectionTimer generation error draw =>
    simp only [Dials, step, if_neg hio, handle, onConnectionTimer] at h
    split_ifs at h <;> simp at h
  | reconnectTimer error =>
    simp only [Dials, step, if_neg hio, handle, onReconnectTimer] at h
    split_ifs at h <;> simp at h
  | assignment i assignment =>
    simp only [Dials, step, if_neg hio, handle, onAssignment] at h
    split at h
    · split_ifs at h <;> simp at h
    · simp at h
  | packet i packet failure =>
    simp only [Dials, step, if_neg hio, handle, onPacket] at h
    split at h
    · split_ifs at h <;> simp at h
    · simp at h
  | tunnelClosed i remoteError retryable draw =>
    simp only [Dials, step, if_neg hio, handle] at h
    split at h
    · split_ifs at h
      · simp at h
      · rw [onTunnelClosed_connects] at h
        simp at h
    · simp at h
  | stop =>
    simp only [Dials, step, stop] at h
    split_ifs at h <;> simp at h
  | stopHandler =>
    simp only [Dials, step, if_neg hio, handle, onStop] at h
    split_ifs at h <;> simp at h
  | readerFailed what =>
    simp only [Dials, step] at h
    split_ifs at h <;> simp [readerFailed, recordFailure] at h

end RuntimeIo

/-- What the filtering platform answers where `enable_kill_switch` is called, and the keys of the
filters that it adds. -/
structure FilterAnswers where
  wfp : Wfp
  keys : Nat → Guid
  permitWfp : Wfp
  permitKeys : Nat → Guid

/-- The endpoints that an event brings from the resolver. -/
def RuntimeEvent.resolved : RuntimeEvent → List WindowsVpnEndpoint
  | resolve _ none endpoints _ _ => endpoints.map Endpoint.toWindows
  | _ => []

theorem RuntimeIo.resolved_of_call {σ : Type} (w : RuntimeIo σ) {event : RuntimeEvent}
    {endpoints : List WindowsVpnEndpoint} (hcall : w.killSwitchCall event = some endpoints) :
    event.resolved = endpoints := by
  cases event with
  | resolve generation error found killSwitch draw =>
    cases error with
    | some message => cases hcall
    | none =>
      rw [killSwitchCall] at hcall
      split_ifs at hcall
      exact Option.some.inj hcall
  | _ => cases hcall

/-- The event with what its call of `enable_kill_switch` comes to. -/
def RuntimeEvent.returning (killSwitch : Except Exception Unit) : RuntimeEvent → RuntimeEvent
  | resolve generation error endpoints _ draw =>
    resolve generation error endpoints killSwitch draw
  | event => event

abbrev WindowsClient (σ : Type) := RuntimeIo (WindowsNetworkBackend σ)

namespace WindowsClient

variable {σ : Type} (windows : Windows σ) (parsers : AddressParsers)

/-- One event of the client, whose kill switch is the one of its backend. -/
def step (w : WindowsClient σ) (e : RuntimeEvent × FilterAnswers) : WindowsClient σ :=
  let backend := WindowsNetworkBackend.backend windows
  match w.killSwitchCall e.1 with
  | none => RuntimeIo.step backend parsers (.windows true) w e.1
  | some endpoints =>
    let (result, b) := WindowsNetworkBackend.enableKillSwitch windows e.2.wfp e.2.permitWfp
      endpoints w.network.2
    RuntimeIo.step backend parsers (.windows true) { w with network := (w.network.1, b) }
      (e.1.returning result)

/-- What is left of the device when the runtime is destroyed: it is stopped, and the destructor of the
device closes what is open. -/
def destroy (w : WindowsClient σ) : WindowsNetworkBackend σ :=
  let (_, b) := ClientNetworkTransaction.rollback (WindowsNetworkBackend.backend windows) w.network
  WindowsNetworkBackend.closeAdapter windows (WindowsNetworkBackend.stopPacketSession windows b)

variable {windows parsers}

theorem step_of_none {w : WindowsClient σ} {e : RuntimeEvent × FilterAnswers}
    (hcall : w.killSwitchCall e.1 = none) : step windows parsers w e =
      RuntimeIo.step (WindowsNetworkBackend.backend windows) parsers (.windows true) w e.1 := by
  rw [step, hcall]

theorem step_of_some {w : WindowsClient σ} {e : RuntimeEvent × FilterAnswers}
    {endpoints : List WindowsVpnEndpoint} (hcall : w.killSwitchCall e.1 = some endpoints)
    {r : Except Exception Unit} {b : WindowsNetworkBackend σ}
    (hrun : WindowsNetworkBackend.enableKillSwitch windows e.2.wfp e.2.permitWfp endpoints
      w.network.2 = (r, b)) : step windows parsers w e =
      RuntimeIo.step (WindowsNetworkBackend.backend windows) parsers (.windows true)
        { w with network := (w.network.1, b) } (e.1.returning r) := by
  rw [step, hcall]
  dsimp only
  rw [hrun]

/-- A full tunnel connects where its kill switch has been enabled, for the endpoints that were found,
and connects as the device then is. -/
theorem dials_enabled {w : WindowsClient σ} (hfull : requestsFullTunnel w.config = true)
    {e : RuntimeEvent × FilterAnswers} (hdials : RuntimeIo.Dials w (step windows parsers w e)) :
    ∃ b, w.killSwitchCall e.1 = some e.1.resolved ∧
      WindowsNetworkBackend.enableKillSwitch windows e.2.wfp e.2.permitWfp e.1.resolved
        w.network.2 = (.ok (), b) ∧ (step windows parsers w e).network = (w.network.1, b) := by
  cases hcall : w.killSwitchCall e.1 with
  | none =>
    rw [step_of_none hcall] at hdials
    obtain ⟨-, generation, found, draw, -, hsome⟩ := RuntimeIo.dials_full hfull hdials
    rw [hcall] at hsome
    cases hsome
  | some endpoints =>
    rcases hrun : WindowsNetworkBackend.enableKillSwitch windows e.2.wfp e.2.permitWfp endpoints
      w.network.2 with ⟨r, b⟩
    rw [step_of_some hcall hrun] at hdials ⊢
    obtain ⟨hnetwork, generation, found, draw, heq, -⟩ :=
      RuntimeIo.dials_full (w := { w with network := (w.network.1, b) }) hfull hdials
    obtain ⟨event, answers⟩ := e
    cases event with
    | resolve generation' error found' killSwitch draw' =>
      cases heq
      obtain rfl : found.map Endpoint.toWindows = endpoints := w.resolved_of_call hcall
      exact ⟨b, rfl, hrun, hnetwork⟩
    | _ => cases heq

/-- What `enable_kill_switch` would do is of no account where it is not called. -/
theorem step_returning {w : WindowsClient σ} {event : RuntimeEvent} (answers : FilterAnswers)
    (hnone : w.killSwitchCall event = none) (killSwitch : Except Exception Unit) :
    step windows parsers w (event.returning killSwitch, answers) =
      step windows parsers w (event, answers) := by
  cases event with
  | resolve generation error endpoints killSwitch' draw =>
    have hnone' : w.killSwitchCall (.resolve generation error endpoints killSwitch draw) = none := by
      rw [← hnone]
      cases error <;> rfl
    simp only [step, RuntimeEvent.returning, hnone, hnone', RuntimeIo.step, RuntimeIo.handle]
    by_cases hio : w.ioStopped = true
    · simp only [if_pos hio]
    simp only [if_neg hio]
    by_cases hg : generation ∈ w.resolves
    · simp only [if_pos hg, RuntimeIo.handleResolve]
      by_cases hcurrent : generation = w.runtime.connectionGeneration
      · by_cases hstop : w.runtime.stopRequested = true
        · simp only [if_pos hstop]
        · cases error with
          | some message => rfl
          | none =>
            by_cases hfull : requestsFullTunnel w.config = true
            · have hcall : w.ioStopped = false ∧ generation ∈ w.resolves ∧
                  generation = w.runtime.connectionGeneration ∧ w.runtime.stopRequested = false ∧
                  requestsFullTunnel w.config = true :=
                ⟨by simpa using hio, hg, hcurrent, by simpa using hstop, hfull⟩
              rw [RuntimeIo.killSwitchCall, if_pos hcall] at hnone
              cases hnone
            · simp only [if_neg hfull]
      · simp only [if_pos hcurrent]
    · simp only [if_neg hg]
  | _ => rfl

end WindowsClient

end PersonalVpn.Client
