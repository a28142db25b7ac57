import PersonalVpn.Client.LastingRoutes

/-! A Windows machine with the client on it. Once a full tunnel has connected, the machine is locked to
its server until the kill switch is disabled, whatever becomes of the client. -/

namespace PersonalVpn.Client

open PersonalVpn.Core Protocol Fallible WindowsNetworkBackend

/-- The filters of a machine, and the client while it exists. -/
structure ClientMachine (σ : Type) where
  filtering : FilteringMachine := {}
  client : Option (WindowsClient σ) := none

/-- What happens on the machine. The client is its process 0. The user disables the kill switch from
another process. -/
inductive ClientMachineEvent (σ : Type) where
  | launch (config : ClientConfig) (adapterName : List UInt16) (host : σ)
  | runtime (event : RuntimeEvent) (answers : FilterAnswers)
  /-- something else configures the host -/
  | hostChanges (host : σ)
  /-- the runtime is destroyed, and its device with it -/
  | destroy (wfp : Wfp)
  /-- the process of the client ends -/
  | exit
  | disable (wfp : Wfp)
  | shutdown
  | start

/-- The calls on the filtering platform that `enable_kill_switch` makes. -/
def WindowsNetworkBackend.filterCalls {σ : Type} (windows : Windows σ) (answers : FilterAnswers)
    (endpoints : List WindowsVpnEndpoint) (b : WindowsNetworkBackend σ) : List KillSwitchEvent :=
  match (openAdapter windows b).1, (prepareFullTunnel windows answers.wfp endpoints b).1 with
  | .error _, _ => []
  | .ok (), .error _ => [.enable 0 answers.wfp answers.keys endpoints]
  | .ok (), .ok index => [.enable 0 answers.wfp answers.keys endpoints,
      .replace 0 answers.permitWfp answers.permitKeys index]

namespace ClientMachine

variable {σ : Type} (windows : Windows σ) (parsers : AddressParsers)

/-- The calls on the filtering platform that an event comes to. -/
def calls (m : ClientMachine σ) : ClientMachineEvent σ → List KillSwitchEvent
  | .launch _ _ _ => []
  | .runtime event answers =>
    match m.client with
    | none => []
    | some w =>
      match w.killSwitchCall event with
      | none => []
      | some endpoints => filterCalls windows answers endpoints w.network.2
  | .hostChanges _ => []
  | .destroy wfp => if m.client.isSome then [.close 0 wfp] else []
  | .exit => [.exit 0]
  | .disable wfp => [.disable 1 wfp]
  | .shutdown => [.shutdown]
  | .start => [.start]

/-- The client after an event. None is launched before the filtering platform has started. -/
def clientAfter (m : ClientMachine σ) : ClientMachineEvent σ → Option (WindowsClient σ)
  | .launch config adapterName host =>
    match m.client with
    | some w => some w
    | none =>
      if m.filtering.running then
        (create adapterName host).toOption.map (RuntimeIo.started config)
      else none
  | .runtime event answers => m.client.map fun w => w.step windows parsers (event, answers)
  | .hostChanges host => m.client.map fun w =>
    { w with network := (w.network.1, { w.network.2 with host }) }
  | .destroy _ => none
  | .exit => none
  | .disable _ => m.client
  | .shutdown => none
  | .start => m.client

def step (m : ClientMachine σ) (e : ClientMachineEvent σ) : ClientMachine σ where
  filtering := Run.run FilteringMachine.step m.filtering (m.calls windows e)
  client := m.clientAfter windows parsers e

/-- The filtering platform answers the calls of an event truthfully. -/
def Truthful (m : ClientMachine σ) (e : ClientMachineEvent σ) : Prop :=
  Run.Along FilteringMachine.step FilteringMachine.Truthful m.filtering (m.calls windows e)

/-- A full tunnel begins a connection. -/
def Connects (m : ClientMachine σ) (e : ClientMachineEvent σ) : Prop :=
  ∃ w w', m.client = some w ∧ (m.step windows parsers e).client = some w' ∧
    requestsFullTunnel w.config = true ∧ RuntimeIo.Dials w w'

/-- The interface is one whose index Windows has told. -/
def Reported (index : UInt32) : Prop :=
  ∃ luid s, (windows.convertInterfaceLuidToIndex luid s).1 = (NO_ERROR, index)

/-- Nothing leaves before the filtering platform has started, and then only what goes by TCP to one of
the endpoints, or out through the interface that the client, while it exists, holds a permit for. -/
def LockedTo (m : ClientMachine σ) (endpoints : List WindowsVpnEndpoint) : Prop :=
  ∃ permit : Option UInt32,
    (∀ index, permit = some index → Reported windows index ∧
      ∃ w, m.client = some w ∧ w.network.2.tunnelPolicySession ≠ none) ∧
    ∀ p, m.filtering.Permits p ↔ m.filtering.running = true ∧
      (permit = some p.interfaceIndex ∨ ∃ e ∈ endpoints, p.IsTcpTo e)

end ClientMachine

namespace WindowsNetworkBackend

variable {σ : Type} {windows : Windows σ} {d : Option Engine}

theorem holding_prepareFullTunnel (wfp : Wfp) (endpoints : List WindowsVpnEndpoint) :
    Holds (Holding d) (prepareFullTunnel windows wfp endpoints) (fun _ => Holding d)
      (fun _ => Holding d) := by
  apply holding_openAdapter.bind
  intro _
  apply holds_ofExcept.bind
  intro _
  apply holding_read.bind
  intro b
  apply (holding_onHost _).bind
  intro _
  apply (holding_onHost _).bind
  intro _
  apply (holding_onHost _).bind
  intro answer
  apply (holding_onHost _).bind
  exact fun _ => holding_pure _

/-- A fact that is not about the state stays. -/
theorem holds_fact {α : Type} (fact : Prop) (x : Program σ α) :
    Holds (fun _ => fact) x (fun _ _ => fact) (fun _ _ => True) :=
  ⟨fun hb _ => hb, fun _ _ => trivial⟩

/-- The permit is for an interface that Windows has told, and comes after the filters. -/
theorem holds_prepareFullTunnel_returns (wfp : Wfp) (endpoints : List WindowsVpnEndpoint) :
    Holds (fun _ => True) (prepareFullTunnel windows wfp endpoints)
      (fun index _ => (enableWindowsKillSwitch wfp endpoints {}).1 = .ok () ∧
        ClientMachine.Reported windows index)
      (fun _ _ => True) := by
  let enabled : Prop := (enableWindowsKillSwitch wfp endpoints {}).1 = .ok ()
  apply (holds_fact True _).bind
  intro _
  apply Holds.bind (M := fun _ _ => enabled)
  · constructor
    · intro b b' u _ hrun
      cases hresult : (enableWindowsKillSwitch wfp endpoints {}).1 with
      | ok u => exact hresult
      | error e =>
        rw [enableFilters, hresult] at hrun
        cases hrun
    · exact fun _ _ => trivial
  intro _
  apply (holds_fact enabled _).bind
  intro b
  apply (holds_fact enabled _).bind
  intro _
  apply (holds_fact enabled _).bind
  intro _
  apply Holds.bind (M := fun answer _ =>
    enabled ∧ ∃ luid s, (windows.convertInterfaceLuidToIndex luid s).1 = answer)
  · constructor
    · intro b' b'' answer hb hrun
      cases hrun
      exact ⟨hb, _, _, rfl⟩
    · exact fun _ _ => trivial
  intro answer
  apply ((holds_checked windows _ answer.1).mono (fun _ hb => hb) (fun _ _ hb => hb)
    fun _ _ _ => trivial).bind
  intro _
  apply holds_pure
  intro _ hb
  obtain ⟨⟨henabled, luid, s, hanswer⟩, hresult⟩ := hb
  refine ⟨henabled, luid, s, hanswer.trans ?_⟩
  rw [← hresult]

variable {answers : FilterAnswers} {endpoints : List WindowsVpnEndpoint}
  {b b' : WindowsNetworkBackend σ} {r : Except Exception Unit}

/-- The machine beside the lock, once the calls of a client on it have been made. -/
def called (windows : Windows σ) (x : FilteringMachine × Lock) (answers : FilterAnswers)
    (endpoints : List WindowsVpnEndpoint) (b : WindowsNetworkBackend σ) :
    FilteringMachine × Lock :=
  Run.run FilteringMachine.stepBoth x (filterCalls windows answers endpoints b)

/-- What the calls of `enable_kill_switch` come to. -/
structure Called (windows : Windows σ) (endpoints : List WindowsVpnEndpoint)
    (x x' : FilteringMachine × Lock) (r : Except Exception Unit) (b' : WindowsNetworkBackend σ) :
    Prop where
  running : x'.1.running = x.1.running
  session : x'.1.session 0 = b'.tunnelPolicySession
  others : ∀ process, process ≠ 0 → x'.2.tunnel process = x.2.tunnel process
  tunnel : ∀ index, x'.2.tunnel 0 = some index →
    x.2.tunnel 0 = some index ∨ ClientMachine.Reported windows index
  relocked : x'.2.endpoints = x.2.endpoints ∨ x'.2.endpoints = some endpoints
  locked : r = .ok () → x'.2.endpoints = some endpoints

theorem called_enable {x : FilteringMachine × Lock} (wfp : Wfp) (keys : Nat → Guid)
    (endpoints : List WindowsVpnEndpoint) :
    let x' := FilteringMachine.stepBoth x (.enable 0 wfp keys endpoints)
    x'.1.running = x.1.running ∧ x'.1.session = x.1.session ∧ x'.2.tunnel = x.2.tunnel ∧
      (x'.2.endpoints = x.2.endpoints ∨ x'.2.endpoints = some endpoints) ∧
      (x.1.running = true → (enableWindowsKillSwitch wfp endpoints {}).1 = .ok () →
        x'.2.endpoints = some endpoints) := by
  simp only [FilteringMachine.stepBoth, FilteringMachine.step, Lock.step]
  refine ⟨?_, ?_, ?_, ?_, ?_⟩
  · split_ifs <;> rfl
  · split_ifs <;> rfl
  · split_ifs <;> rfl
  · split_ifs
    · exact .inr rfl
    · exact .inl rfl
  · intro hup henabled
    have hsucceeds : x.1.succeeds (.enable 0 wfp keys endpoints) = true := by
      rw [FilteringMachine.succeeds, hup, henabled]
      rfl
    rw [if_pos hsucceeds]

theorem called_replace {x : FilteringMachine × Lock} (hup : x.1.running = true) (wfp : Wfp)
    (keys : Nat → Guid) (index : UInt32) :
    let x' := FilteringMachine.stepBoth x (.replace 0 wfp keys index)
    x'.1.running = x.1.running ∧
      x'.1.session 0 =
        (replaceWindowsTunnelPermit wfp index { dynamicSession := x.1.session 0 }).2.dynamicSession ∧
      (∀ process, process ≠ 0 → x'.2.tunnel process = x.2.tunnel process) ∧
      (∀ i, x'.2.tunnel 0 = some i → x.2.tunnel 0 = some i ∨ i = index) ∧
      x'.2.endpoints = x.2.endpoints := by
  rcases hrun : replaceWindowsTunnelPermit wfp index { dynamicSession := x.1.session 0 } with ⟨r, s⟩
  have hstep : (FilteringMachine.stepBoth x (.replace 0 wfp keys index)).1.running = x.1.running ∧
      (FilteringMachine.stepBoth x (.replace 0 wfp keys index)).1.session 0 = s.dynamicSession := by
    simp only [FilteringMachine.stepBoth, FilteringMachine.step, if_pos hup, hrun, true_and]
    exact Function.update_self _ _ _
  refine ⟨hstep.1, hstep.2, ?_, ?_, rfl⟩
  · intro process hother
    exact Function.update_of_ne hother _ _
  · intro i hi
    simp only [FilteringMachine.stepBoth, Lock.step, Function.update_self] at hi
    split_ifs at hi
    · exact .inr (Option.some.inj hi).symm
    · exact .inl hi

theorem enableKillSwitch_calls {x : FilteringMachine × Lock} (hup : x.1.running = true)
    (hsession : x.1.session 0 = b.tunnelPolicySession)
    (hrun : enableKillSwitch windows answers.wfp answers.permitWfp endpoints b = (r, b')) :
    Called windows endpoints x (called windows x answers endpoints b) r b' := by
  have hheld : Holding (x.1.session 0) b := hsession.symm
  rcases hopen : openAdapter windows b with ⟨ro, b₁⟩
  cases ro with
  | error e =>
    have hprepare : prepareFullTunnel windows answers.wfp endpoints b = (.error e, b₁) :=
      bind_error hopen
    rw [enableKillSwitch, bind_error hprepare] at hrun
    cases hrun
    have hcalls : called windows x answers endpoints b = x := by
      rw [called, filterCalls, hopen]
      rfl
    rw [hcalls]
    exact ⟨rfl, (holding_openAdapter.error hheld hopen).symm, fun _ _ => rfl, fun _ => .inl, .inl rfl,
      fun hno => by cases hno⟩
  | ok u =>
    obtain ⟨hrunning, hkept, htunnel, hrelocked, hlocked⟩ :=
      called_enable (x := x) answers.wfp answers.keys endpoints
    rcases hprepare : prepareFullTunnel windows answers.wfp endpoints b with ⟨rp, b₂⟩
    cases rp with
    | error e =>
      rw [enableKillSwitch, bind_error hprepare] at hrun
      cases hrun
      have hcalls : called windows x answers endpoints b =
          FilteringMachine.stepBoth x (.enable 0 answers.wfp answers.keys endpoints) := by
        rw [called, filterCalls, hopen, hprepare]
        rfl
      rw [hcalls]
      have hend : x.1.session 0 = b'.tunnelPolicySession :=
        ((holding_prepareFullTunnel _ _).error hheld hprepare).symm
      exact ⟨hrunning, (congrFun hkept 0).trans hend, fun _ _ => congrFun htunnel _,
        fun _ hi => .inl ((congrFun htunnel 0).symm.trans hi), hrelocked, fun hno => by cases hno⟩
    | ok index =>
      obtain ⟨henabled, hreported⟩ :=
        (holds_prepareFullTunnel_returns answers.wfp endpoints).ok trivial hprepare
      have hsession₂ : x.1.session 0 = b₂.tunnelPolicySession :=
        ((holding_prepareFullTunnel _ _).ok hheld hprepare).symm
      have hcalls : called windows x answers endpoints b = FilteringMachine.stepBoth
          (FilteringMachine.stepBoth x (.enable 0 answers.wfp answers.keys endpoints))
          (.replace 0 answers.permitWfp answers.permitKeys index) := by
        rw [called, filterCalls, hopen, hprepare]
        rfl
      rw [hcalls]
      generalize FilteringMachine.stepBoth x (.enable 0 answers.wfp answers.keys endpoints) = x₁
        at hrunning hkept htunnel hrelocked hlocked
      obtain ⟨hrunning', hsession', hothers, htunnel', hendpoints⟩ := called_replace
        (x := x₁) (hrunning.trans hup) answers.permitWfp answers.permitKeys index
      rw [enableKillSwitch, bind_ok hprepare] at hrun
      have hdevice : b'.tunnelPolicySession = (replaceWindowsTunnelPermit answers.permitWfp index
          { dynamicSession := b₂.tunnelPolicySession }).2.dynamicSession := by
        obtain rfl := congrArg Prod.snd hrun
        rfl
      refine ⟨hrunning'.trans hrunning, ?_, ?_, ?_, ?_, ?_⟩
      · rw [hsession', hkept, hsession₂, hdevice]
      · intro process hother
        rw [hothers process hother, htunnel]
      · intro i hi
        obtain hold | hnew := htunnel' i hi
        · exact .inl ((congrFun htunnel 0).symm.trans hold)
        · rw [hnew]
          exact .inr hreported
      · rwa [hendpoints]
      · intro _
        rw [hendpoints]
        exact hlocked hup henabled

end WindowsNetworkBackend

namespace FilteringMachine

/-- A machine enforces its lock through truthful calls. -/
theorem Enforces.run {m : FilteringMachine} {l : Lock} (h : m.Enforces l)
    {calls : List KillSwitchEvent}
    (hcalls : Run.Along FilteringMachine.step FilteringMachine.Truthful m calls) :
    let x := Run.run stepBoth (m, l) calls
    x.1 = Run.run FilteringMachine.step m calls ∧ x.1.Enforces x.2 := by
  induction calls generalizing m l with
  | nil => exact ⟨rfl, h⟩
  | cons e calls ih => exact ih (h.step hcalls.1) hcalls.2

end FilteringMachine

namespace ClientMachine

variable {σ : Type} {windows : Windows σ} {parsers : AddressParsers} {m : ClientMachine σ}
  {l : Lock}

/-- The machine enforces a lock. The one permit is for an interface that Windows has told, and its
session in the hands of the client. -/
structure Follows (windows : Windows σ) (m : ClientMachine σ) (l : Lock) : Prop where
  enforces : m.filtering.Enforces l
  up : ∀ w, m.client = some w →
    m.filtering.running = true ∧ m.filtering.session 0 = w.network.2.tunnelPolicySession
  vacant : m.client = none → l.tunnel 0 = none
  others : ∀ process, process ≠ 0 → l.tunnel process = none
  reported : ∀ index, l.tunnel 0 = some index → Reported windows index

variable (windows) in
theorem follows_fresh : Follows windows {} {} where
  enforces := FilteringMachine.enforces_fresh
  up _ hw := by cases hw
  vacant _ := rfl
  others _ _ := rfl
  reported _ hi := by cases hi

/-- The endpoints of the lock stay, but for those that an event brings and for a disabled kill
switch. -/
def Relocks (l l' : Lock) (e : ClientMachineEvent σ) : Prop :=
  l'.endpoints = l.endpoints ∨
    (∃ event answers, e = .runtime event answers ∧ l'.endpoints = some event.resolved) ∨
    ∃ wfp, e = .disable wfp ∧ (disableWindowsKillSwitch wfp {}).1 = .ok ()

theorem Follows.lockedTo (h : Follows windows m l) {endpoints : List WindowsVpnEndpoint}
    (hlocked : l.endpoints = some endpoints) : m.LockedTo windows endpoints := by
  refine ⟨l.tunnel 0, ?_, ?_⟩
  · intro index hindex
    refine ⟨h.reported index hindex, ?_⟩
    cases hclient : m.client with
    | none =>
      rw [h.vacant hclient] at hindex
      cases hindex
    | some w =>
      refine ⟨w, rfl, ?_⟩
      rw [← (h.up w hclient).2]
      intro hnone
      rw [(h.enforces.session 0).mp hnone] at hindex
      cases hindex
  · intro p
    rw [h.enforces.permits_iff p, h.enforces.running]
    have htunnel : (∃ process, l.tunnel process = some p.interfaceIndex) ↔
        l.tunnel 0 = some p.interfaceIndex := by
      constructor
      · rintro ⟨process, hprocess⟩
        by_cases hzero : process = 0
        · rwa [hzero] at hprocess
        · rw [h.others process hzero] at hprocess
          cases hprocess
      · exact fun hzero => ⟨0, hzero⟩
    simp only [Lock.Allows, hlocked, Option.some.injEq, forall_eq', htunnel]

/-- The kill switch keeps the session of the permit through a step of the runtime. -/
theorem session_step (w : WindowsClient σ) (event : RuntimeEvent) :
    (RuntimeIo.step (backend windows) parsers (.windows true) w event).network.2.tunnelPolicySession =
      w.network.2.tunnelPolicySession := by
  obtain hsame | ⟨call, hcall⟩ :=
    (RuntimeIo.NetworkStep.step (backend windows) parsers (.windows true) w event).network
  · rw [hsame]
  · rw [hcall]
    exact (keeps_holding windows w.network.2.tunnelPolicySession).answer parsers rfl call

variable (parsers) in
theorem Follows.runtime (h : Follows windows m l) {event : RuntimeEvent} {answers : FilterAnswers}
    (ht : m.Truthful windows (.runtime event answers)) :
    ∃ l', Follows windows (m.step windows parsers (.runtime event answers)) l' ∧
      Relocks l l' (.runtime event answers : ClientMachineEvent σ) ∧
      (m.Connects windows parsers (.runtime event answers) →
        l'.endpoints = some event.resolved) := by
  cases hclient : m.client with
  | none =>
    have hcalls : m.calls windows (.runtime event answers) = [] := by rw [calls, hclient]
    have hstep : m.step windows parsers (.runtime event answers) = m := by
      rw [step, hcalls, clientAfter, hclient]
      obtain ⟨filtering, client⟩ := m
      cases hclient
      rfl
    rw [hstep]
    refine ⟨l, h, .inl rfl, ?_⟩
    rintro ⟨w, w', hw, -⟩
    rw [hclient] at hw
    cases hw
  | some w =>
    obtain ⟨hup, hsession⟩ := h.up w hclient
    have hafter : (m.step windows parsers (.runtime event answers)).client =
        some (w.step windows parsers (event, answers)) := by
      rw [step, clientAfter, hclient]
      rfl
    cases hcall : w.killSwitchCall event with
    | none =>
      have hfiltering : (m.step windows parsers (.runtime event answers)).filtering =
          m.filtering := by
        rw [step, calls, hclient]
        simp only [hcall]
        rfl
      refine ⟨l, ⟨hfiltering ▸ h.enforces, ?_, ?_, h.others, h.reported⟩, .inl rfl, ?_⟩
      · intro w' hw'
        rw [hafter, WindowsClient.step_of_none hcall] at hw'
        obtain rfl := Option.some.inj hw'
        rw [hfiltering, session_step]
        exact ⟨hup, hsession⟩
      · rw [hafter]
        exact fun hno => by cases hno
      · rintro ⟨w₁, w', hw₁, hw', hfull, hdials⟩
        obtain rfl := Option.some.inj (hclient.symm.trans hw₁)
        obtain rfl := Option.some.inj (hafter.symm.trans hw')
        obtain ⟨b, hsome, -⟩ := WindowsClient.dials_enabled hfull hdials
        rw [hcall] at hsome
        cases hsome
    | some endpoints =>
      rcases hrun : enableKillSwitch windows answers.wfp answers.permitWfp endpoints w.network.2
        with ⟨r, b⟩
      have hcalls : m.calls windows (.runtime event answers) =
          filterCalls windows answers endpoints w.network.2 := by
        rw [calls, hclient]
        simp only [hcall]
      obtain ⟨hfiltering, henforces⟩ := h.enforces.run ht
      have hcalled := enableKillSwitch_calls (x := (m.filtering, l)) hup hsession hrun
      rw [hcalls] at hfiltering henforces
      have hstep : (m.step windows parsers (.runtime event answers)).filtering =
          (called windows (m.filtering, l) answers endpoints w.network.2).1 := by
        rw [step, hcalls]
        exact hfiltering.symm
      change (called windows (m.filtering, l) answers endpoints w.network.2).1.Enforces
        (called windows (m.filtering, l) answers endpoints w.network.2).2 at henforces
      generalize called windows (m.filtering, l) answers endpoints w.network.2 = x
        at hstep henforces hcalled
      have hresolved : event.resolved = endpoints := w.resolved_of_call hcall
      refine ⟨x.2, ⟨hstep ▸ henforces, ?_, ?_, ?_, ?_⟩, ?_, ?_⟩
      · intro w' hw'
        rw [hafter, WindowsClient.step_of_some (e := (event, answers)) hcall hrun] at hw'
        obtain rfl := Option.some.inj hw'
        rw [hstep, session_step]
        exact ⟨hcalled.running.trans hup, hcalled.session⟩
      · rw [hafter]
        exact fun hno => by cases hno
      · intro process hother
        rw [hcalled.others process hother]
        exact h.others process hother
      · intro index hindex
        obtain hold | hnew := hcalled.tunnel index hindex
        · exact h.reported index hold
        · exact hnew
      · obtain hold | hnew := hcalled.relocked
        · exact .inl hold
        · exact .inr (.inl ⟨event, answers, rfl, by rw [hnew, hresolved]⟩)
      · rintro ⟨w₁, w', hw₁, hw', hfull, hdials⟩
        obtain rfl := Option.some.inj (hclient.symm.trans hw₁)
        obtain rfl := Option.some.inj (hafter.symm.trans hw')
        obtain ⟨b', hcall', hrun', -⟩ := WindowsClient.dials_enabled hfull hdials
        rw [hresolved] at hrun' ⊢
        rw [hrun] at hrun'
        cases hrun'
        exact hcalled.locked rfl

variable (parsers) in
/-- An event that comes to one call on the filtering platform. -/
theorem Follows.call (h : Follows windows m l) {e : ClientMachineEvent σ}
    (ht : m.Truthful windows e) {c : KillSwitchEvent} (hcalls : m.calls windows e = [c]) :
    (m.step windows parsers e).filtering = m.filtering.step c ∧
      (m.filtering.step c).Enforces (l.step (m.filtering.succeeds c) c) := by
  rw [Truthful, hcalls] at ht
  rw [step, hcalls]
  exact ⟨rfl, h.enforces.step ht.1⟩

/-- The client is gone, and so is its permit. -/
theorem Follows.gone (h : Follows windows m l) {e : ClientMachineEvent σ}
    (ht : m.Truthful windows e) {c : KillSwitchEvent} (hcalls : m.calls windows e = [c])
    (hclient : (m.step windows parsers e).client = none)
    (htunnel : ∀ process, (l.step (m.filtering.succeeds c) c).tunnel process =
      if process = 0 then none else l.tunnel process) :
    Follows windows (m.step windows parsers e) (l.step (m.filtering.succeeds c) c) := by
  obtain ⟨hfiltering, henforces⟩ := h.call parsers ht hcalls
  refine ⟨hfiltering ▸ henforces, ?_, ?_, ?_, ?_⟩
  · intro w hw
    rw [hclient] at hw
    cases hw
  · intro _
    rw [htunnel, if_pos rfl]
  · intro process hother
    rw [htunnel, if_neg hother]
    exact h.others process hother
  · intro index hindex
    rw [htunnel, if_pos rfl] at hindex
    cases hindex

theorem Follows.launch (h : Follows windows m l) (config : ClientConfig)
    (adapterName : List UInt16) (host : σ) :
    Follows windows (m.step windows parsers (.launch config adapterName host)) l := by
  refine ⟨h.enforces, ?_, ?_, h.others, h.reported⟩
  · intro w hw
    rw [step, clientAfter] at hw
    cases hclient : m.client with
    | some w' =>
      rw [hclient] at hw
      obtain rfl := Option.some.inj hw
      exact h.up w' hclient
    | none =>
      simp only [hclient] at hw
      split_ifs at hw with hup
      cases hcreate : create adapterName host with
      | error e =>
        rw [hcreate] at hw
        cases hw
      | ok device =>
        rw [hcreate] at hw
        obtain rfl := Option.some.inj hw
        obtain ⟨-, hdevice⟩ := throwIf_bind_ok.mp hcreate
        refine ⟨hup, ((h.enforces.session 0).mpr (h.vacant hclient)).trans ?_⟩
        cases hdevice
        rfl
  · intro hnone
    apply h.vacant
    rw [step, clientAfter] at hnone
    cases hclient : m.client with
    | none => rfl
    | some w =>
      rw [hclient] at hnone
      cases hnone

theorem Follows.hostChanges (h : Follows windows m l) (host : σ) :
    Follows windows (m.step windows parsers (.hostChanges host)) l := by
  refine ⟨h.enforces, ?_, ?_, h.others, h.reported⟩
  · intro w hw
    obtain ⟨w', hw', rfl⟩ := Option.map_eq_some_iff.mp hw
    exact h.up w' hw'
  · intro hnone
    exact h.vacant (Option.map_eq_none_iff.mp hnone)

theorem Follows.disable (h : Follows windows m l) {wfp : Wfp}
    (ht : m.Truthful windows (.disable wfp)) :
    ∃ l', Follows windows (m.step windows parsers (.disable wfp)) l' ∧
      Relocks l l' (.disable wfp : ClientMachineEvent σ) := by
  obtain ⟨hfiltering, henforces⟩ := h.call parsers ht rfl
  have hsame : (m.filtering.step (.disable 1 wfp)).running = m.filtering.running ∧
      (m.filtering.step (.disable 1 wfp)).session = m.filtering.session := by
    simp only [FilteringMachine.step]
    split_ifs
    · exact ⟨rfl, rfl⟩
    · exact ⟨rfl, rfl⟩
  have htunnel : (l.step (m.filtering.succeeds (.disable 1 wfp)) (.disable 1 wfp)).tunnel =
      l.tunnel := by
    simp only [Lock.step]
    split_ifs <;> rfl
  refine ⟨_, ⟨hfiltering ▸ henforces, ?_, ?_, ?_, ?_⟩, ?_⟩
  · intro w hw
    rw [hfiltering, hsame.1, hsame.2]
    exact h.up w hw
  · intro hnone
    rw [htunnel]
    exact h.vacant hnone
  · intro process hother
    rw [htunnel]
    exact h.others process hother
  · intro index hindex
    rw [htunnel] at hindex
    exact h.reported index hindex
  · cases hresult : (disableWindowsKillSwitch wfp {}).1 with
    | ok u => exact .inr (.inr ⟨wfp, rfl, hresult⟩)
    | error e =>
      have hfails : m.filtering.succeeds (.disable 1 wfp) = false := by
        rw [FilteringMachine.succeeds, hresult]
        exact Bool.and_false _
      rw [Lock.step, hfails]
      exact .inl rfl

theorem Follows.start (h : Follows windows m l) (ht : m.Truthful windows .start) :
    Follows windows (m.step windows parsers .start) (l.step true .start) := by
  obtain ⟨hfiltering, henforces⟩ := h.call parsers ht rfl
  refine ⟨hfiltering ▸ henforces, ?_, h.vacant, h.others, h.reported⟩
  intro w hw
  exact ⟨rfl, (h.up w hw).2⟩

theorem Follows.destroy (h : Follows windows m l) {wfp : Wfp}
    (ht : m.Truthful windows (.destroy wfp)) :
    ∃ l', Follows windows (m.step windows parsers (.destroy wfp)) l' ∧
      l'.endpoints = l.endpoints := by
  cases hclient : m.client with
  | none =>
    have hcalls : m.calls windows (.destroy wfp) = [] := by
      rw [calls, hclient]
      rfl
    have hfiltering : (m.step windows parsers (.destroy wfp)).filtering = m.filtering := by
      rw [step, hcalls]
      rfl
    refine ⟨l, ⟨hfiltering ▸ h.enforces, ?_, fun _ => h.vacant hclient, h.others, h.reported⟩, rfl⟩
    intro w hw
    cases hw
  | some w =>
    have hcalls : m.calls windows (.destroy wfp) = [.close 0 wfp] := by
      rw [calls, hclient]
      rfl
    refine ⟨_, h.gone ht hcalls rfl ?_, rfl⟩
    exact fun process => Function.update_apply _ _ _ _

theorem Follows.step (h : Follows windows m l) {e : ClientMachineEvent σ}
    (ht : m.Truthful windows e) :
    ∃ l', Follows windows (m.step windows parsers e) l' ∧ Relocks l l' e := by
  cases e with
  | runtime event answers =>
    obtain ⟨l', hl', hrelocks, -⟩ := h.runtime parsers ht
    exact ⟨l', hl', hrelocks⟩
  | launch config adapterName host => exact ⟨l, h.launch config adapterName host, .inl rfl⟩
  | hostChanges host => exact ⟨l, h.hostChanges host, .inl rfl⟩
  | destroy wfp =>
    obtain ⟨l', hl', hsame⟩ := h.destroy ht
    exact ⟨l', hl', .inl hsame⟩
  | exit =>
    refine ⟨_, h.gone ht rfl rfl ?_, .inl rfl⟩
    exact fun process => Function.update_apply _ _ _ _
  | disable wfp => exact h.disable ht
  | shutdown =>
    refine ⟨_, h.gone ht rfl rfl ?_, .inl rfl⟩
    intro process
    by_cases hzero : process = 0
    · rw [if_pos hzero]
      rfl
    · rw [if_neg hzero, h.others process hzero]
      rfl
  | start => exact ⟨_, h.start ht, .inl rfl⟩

/-- Only an event of the runtime begins a connection. -/
theorem connects_runtime {e : ClientMachineEvent σ} (h : m.Connects windows parsers e) :
    ∃ event answers, e = .runtime event answers := by
  obtain ⟨w, w', hw, hw', -, hdials⟩ := h
  have hdiffer : w'.connects ≠ w.connects := by
    intro hsame
    rw [RuntimeIo.Dials, hsame] at hdials
    exact lt_irrefl _ hdials
  cases e with
  | runtime event answers => exact ⟨event, answers, rfl⟩
  | launch config adapterName host =>
    rw [ClientMachine.step, clientAfter, hw] at hw'
    obtain rfl := Option.some.inj hw'
    exact absurd rfl hdiffer
  | hostChanges host =>
    rw [ClientMachine.step, clientAfter, hw] at hw'
    obtain rfl := Option.some.inj hw'
    exact absurd rfl hdiffer
  | disable wfp =>
    obtain rfl := Option.some.inj (hw.symm.trans hw')
    exact absurd rfl hdiffer
  | start =>
    obtain rfl := Option.some.inj (hw.symm.trans hw')
    exact absurd rfl hdiffer
  | _ => cases hw'

theorem Follows.run (h : Follows windows m l) {es : List (ClientMachineEvent σ)}
    (hes : Run.Along (ClientMachine.step windows parsers) (Truthful windows) m es) :
    ∃ l', Follows windows (Run.run (ClientMachine.step windows parsers) m es) l' := by
  induction es generalizing m l with
  | nil => exact ⟨l, h⟩
  | cons e es ih =>
    obtain ⟨l', hl', -⟩ := h.step hes.1
    exact ih hl' hes.2

/-- The machine stays locked while the kill switch is not disabled. -/
theorem Follows.locked (h : Follows windows m l) {endpoints : List WindowsVpnEndpoint}
    (hlocked : l.endpoints = some endpoints) {es : List (ClientMachineEvent σ)}
    (hes : Run.Along (ClientMachine.step windows parsers) (Truthful windows) m es)
    (hkept : ∀ wfp, .disable wfp ∈ es → (disableWindowsKillSwitch wfp {}).1 ≠ .ok ()) :
    ∃ endpoints', (endpoints' = endpoints ∨
        ∃ event answers, .runtime event answers ∈ es ∧ endpoints' = event.resolved) ∧
      (Run.run (ClientMachine.step windows parsers) m es).LockedTo windows endpoints' := by
  induction es generalizing m l endpoints with
  | nil => exact ⟨endpoints, .inl rfl, h.lockedTo hlocked⟩
  | cons e es ih =>
    obtain ⟨l', hl', hsame | ⟨event, answers, rfl, hnew⟩ | ⟨wfp, rfl, hdisabled⟩⟩ := h.step hes.1
    · obtain ⟨endpoints', hfrom, hend⟩ := ih hl' (hsame.trans hlocked) hes.2
        fun wfp hwfp => hkept wfp (List.mem_cons_of_mem _ hwfp)
      refine ⟨endpoints', ?_, hend⟩
      obtain hold | ⟨event, answers, hmem, hfrom⟩ := hfrom
      · exact .inl hold
      · exact .inr ⟨event, answers, List.mem_cons_of_mem _ hmem, hfrom⟩
    · obtain ⟨endpoints', hfrom, hend⟩ := ih hl' hnew hes.2
        fun wfp hwfp => hkept wfp (List.mem_cons_of_mem _ hwfp)
      refine ⟨endpoints', .inr ?_, hend⟩
      obtain hold | ⟨event', answers', hmem, hfrom⟩ := hfrom
      · exact ⟨event, answers, List.mem_cons_self, hold⟩
      · exact ⟨event', answers', List.mem_cons_of_mem _ hmem, hfrom⟩
    · exact absurd hdisabled (hkept wfp List.mem_cons_self)

/-- From the moment on at which a full tunnel begins to connect, whatever happens to the connection, to
the client, to its device and to the machine: as long as the kill switch is not disabled, nothing
leaves the machine but what goes by TCP to endpoints that were found for the server, or through the
tunnel of a client that exists. -/
theorem full_tunnel_fails_closed (windows : Windows σ) (parsers : AddressParsers)
    (before after : List (ClientMachineEvent σ)) (e : ClientMachineEvent σ)
    (htruthful : Run.Along (ClientMachine.step windows parsers) (Truthful windows) {}
      (before ++ e :: after))
    (hconnects : Connects windows parsers (Run.run (ClientMachine.step windows parsers) {} before) e)
    (hkept : ∀ wfp, .disable wfp ∈ after → (disableWindowsKillSwitch wfp {}).1 ≠ .ok ()) :
    ∃ event answers, .runtime event answers ∈ e :: after ∧
      LockedTo windows (Run.run (ClientMachine.step windows parsers) {} (before ++ e :: after))
        event.resolved := by
  obtain ⟨hbefore, hevent, hafter⟩ := (Run.along_append _ _ _).mp htruthful
  rw [Run.run_append, Run.run_cons]
  obtain ⟨l, hl⟩ := (follows_fresh windows).run hbefore
  generalize Run.run (ClientMachine.step windows parsers) {} before = m at *
  obtain ⟨event, answers, rfl⟩ := connects_runtime hconnects
  obtain ⟨l', hl', -, hlocks⟩ := hl.runtime parsers hevent
  obtain ⟨endpoints, hfrom, hend⟩ := hl'.locked (hlocks hconnects) hafter hkept
  obtain rfl | ⟨event', answers', hmem, rfl⟩ := hfrom
  · exact ⟨event, answers, List.mem_cons_self, hend⟩
  · exact ⟨event', answers', List.mem_cons_of_mem _ hmem, hend⟩

/-- A client is launched and begins. -/
def launched : List (ClientMachineEvent TableHost) :=
  [.launch (loaded "192.0.2.1" "0.0.0.0/0") (wideText "PersonalVPN") WindowsClient.staleDevice.host,
    .runtime .begin WindowsClient.granted]

def connecting : ClientMachineEvent TableHost :=
  .runtime WindowsClient.found.1 WindowsClient.found.2

/-- Its process ends, and the machine restarts. -/
def crashed : List (ClientMachineEvent TableHost) := [.exit, .shutdown, .start]

theorem launched_run : Run.run (ClientMachine.step TableHost.windows WindowsClient.noParsers) {}
    launched = ⟨{}, some WindowsClient.resolving⟩ := rfl

theorem connecting_calls :
    calls TableHost.windows ⟨{}, some WindowsClient.resolving⟩ connecting =
      [.enable 0 WindowsClient.granted.wfp WindowsClient.granted.keys WindowsClient.found.1.resolved,
        .replace 0 WindowsClient.granted.permitWfp WindowsClient.granted.permitKeys 12] := by
  have hcall : WindowsClient.resolving.killSwitchCall WindowsClient.found.1 =
      some WindowsClient.found.1.resolved := by decide +kernel
  have hopen : (openAdapter TableHost.windows WindowsClient.resolving.network.2).1 = .ok () := by
    decide +kernel
  have hprepare : (prepareFullTunnel TableHost.windows WindowsClient.granted.wfp
      WindowsClient.found.1.resolved WindowsClient.resolving.network.2).1 = .ok 12 := by
    decide +kernel
  change (match WindowsClient.resolving.killSwitchCall WindowsClient.found.1 with
    | none => []
    | some endpoints => filterCalls TableHost.windows WindowsClient.granted endpoints
        WindowsClient.resolving.network.2) = _
  rw [hcall]
  simp only [filterCalls, hopen, hprepare]

/-- The filters once the client is connecting. -/
def lockedFilters : FilteringMachine := Run.run FilteringMachine.step {}
  [.enable 0 WindowsClient.granted.wfp WindowsClient.granted.keys WindowsClient.found.1.resolved,
    .replace 0 WindowsClient.granted.permitWfp WindowsClient.granted.permitKeys 12]

theorem truthful_crashed {m : ClientMachine TableHost} (h : m.filtering = lockedFilters) :
    Run.Along (ClientMachine.step TableHost.windows WindowsClient.noParsers)
      (Truthful TableHost.windows) m crashed := by
  obtain ⟨filtering, client⟩ := m
  obtain rfl : filtering = lockedFilters := h
  have hexit : (lockedFilters.step (.exit 0)).Distinct := by decide +kernel
  have hshutdown : ((lockedFilters.step (.exit 0)).step .shutdown).Distinct := by decide +kernel
  have hstart : (((lockedFilters.step (.exit 0)).step .shutdown).step .start).Distinct := by
    decide +kernel
  exact ⟨⟨⟨hexit, trivial⟩, trivial⟩, ⟨⟨hshutdown, trivial⟩, trivial⟩,
    ⟨⟨hstart, trivial⟩, trivial⟩, trivial⟩

theorem truthful_connecting {m : ClientMachine TableHost}
    (hm : m = ⟨{}, some WindowsClient.resolving⟩) :
    Run.Along (ClientMachine.step TableHost.windows WindowsClient.noParsers)
      (Truthful TableHost.windows) m (connecting :: crashed) := by
  have hcalls := connecting_calls
  rw [← hm] at hcalls
  have hfiltering : m.filtering = {} := by rw [hm]
  have hfirst : Truthful TableHost.windows m connecting := by
    rw [Truthful, hcalls, hfiltering]
    refine ⟨⟨by decide +kernel, ?_⟩, ⟨by decide +kernel, trivial⟩, trivial⟩
    exact FilteringMachine.truthful_granting (by decide +kernel)
  have hlocked : (ClientMachine.step TableHost.windows WindowsClient.noParsers m
      connecting).filtering = lockedFilters := by
    rw [ClientMachine.step, hcalls, hfiltering, lockedFilters]
  exact ⟨hfirst, truthful_crashed hlocked⟩

/-- Of the machine that has restarted, nothing goes to another address. -/
theorem full_tunnel_fails_closed_crashed :
    ¬(Run.run (ClientMachine.step TableHost.windows WindowsClient.noParsers) {}
      (launched ++ connecting :: crashed)).filtering.Permits
        ⟨.ipv4 #v[198, 51, 100, 1], IPPROTO_TCP, 443, 12⟩ := by
  have hfull : requestsFullTunnel WindowsClient.resolving.config = true := by decide +kernel
  have hdials : WindowsClient.resolving.connects.length < (WindowsClient.step TableHost.windows
    WindowsClient.noParsers WindowsClient.resolving WindowsClient.found).connects.length := by
    decide +kernel
  have hconnects : Connects TableHost.windows WindowsClient.noParsers
      (Run.run (ClientMachine.step TableHost.windows WindowsClient.noParsers) {} launched)
      connecting := by
    rw [launched_run]
    exact ⟨_, _, rfl, rfl, hfull, hdials⟩
  have htruthful : Run.Along (ClientMachine.step TableHost.windows WindowsClient.noParsers)
      (Truthful TableHost.windows) {} (launched ++ connecting :: crashed) := by
    apply (Run.along_append _ _ _).mpr
    exact ⟨⟨trivial, trivial, trivial⟩, truthful_connecting launched_run⟩
  obtain ⟨event, answers, hmem, permit, hpermit, hiff⟩ := full_tunnel_fails_closed
    TableHost.windows WindowsClient.noParsers launched crashed connecting htruthful hconnects
    (by intro wfp hwfp; simp [crashed] at hwfp)
  have hgone : (Run.run (ClientMachine.step TableHost.windows WindowsClient.noParsers) {}
      (launched ++ connecting :: crashed)).client = none := rfl
  have hevent : event = WindowsClient.found.1 ∧ answers = WindowsClient.found.2 := by
    simpa [connecting, crashed] using hmem
  intro hpermits
  obtain ⟨-, hopen | ⟨e, he, hto, -⟩⟩ := (hiff _).mp hpermits
  · obtain ⟨-, w, hw, -⟩ := hpermit _ hopen
    rw [hgone] at hw
    cases hw
  · have hremote : e = Endpoint.toWindows (.v4 #v[192, 0, 2, 1] 8443) := by
      rw [hevent.1] at he
      exact List.mem_singleton.mp he
    rw [hremote, Endpoint.remote_toWindows] at hto
    exact absurd hto (by decide)

end ClientMachine

end PersonalVpn.Client
