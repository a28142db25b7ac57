import PersonalVpn.Client.WindowsCalls
import PersonalVpn.Lib.Reversal

/-! What a transaction sets up on Windows, it takes back: the tables of the host and the adapter. -/

namespace PersonalVpn.Client

open PersonalVpn.Core Reversal Fallible ClientNetworkTransaction

namespace WindowsNetworkBackend

variable {σ : Type} {windows : Windows σ} {tables : σ → IpTables} {created : AdapterHandle → Bool}
  {allowed : NetLuid → AddressFamily → UInt32 → Prop} {f : Footprint}

/-- What the transaction remembers leads back to `start`. -/
structure Pending (windows : Windows σ) (tables : σ → IpTables) (created : AdapterHandle → Bool)
    (allowed : NetLuid → AddressFamily → UInt32 → Prop) (start : Footprint)
    (w : ClientNetworkTransaction × WindowsNetworkBackend σ) : Prop where
  leads : LeadsBack (Footprint.undo windows created) (Footprint.Enabled allowed) start
    (footprint tables w.2) w.1.undoCalls
  ipv6 : w.1.ipv6AddressCreated = true → w.1.ipv6Address.isSome

/-- The transaction is idle on a backend that is where it was, or as it is with its adapter closed, or
it is active and leads back there. -/
def Settled (windows : Windows σ) (tables : σ → IpTables) (created : AdapterHandle → Bool)
    (allowed : NetLuid → AddressFamily → UInt32 → Prop) (f : Footprint)
    (w : ClientNetworkTransaction × WindowsNetworkBackend σ) : Prop :=
  Idle w.1 ∧ (At tables f w.2 ∨ At tables (f.closed windows created) w.2) ∨
    w.1.active = true ∧ Pending windows tables created allowed (f.closed windows created) w

variable {start : Footprint}

/-- One more setup call. -/
theorem Pending.push {w : ClientNetworkTransaction × WindowsNetworkBackend σ}
    (h : Pending windows tables created allowed start w) {t : ClientNetworkTransaction}
    {b : WindowsNetworkBackend σ} {u : Option UndoCall}
    (hback : TakenBack windows tables created allowed (footprint tables w.2) u b)
    (hundo : t.undoCalls = u.toList ++ w.1.undoCalls)
    (hipv6 : t.ipv6AddressCreated = true → t.ipv6Address.isSome) :
    Pending windows tables created allowed start (t, b) := by
  refine ⟨?_, hipv6⟩
  rw [hundo]
  cases u with
  | none =>
    have hsame : footprint tables b = footprint tables w.2 := hback
    rw [hsame]
    exact h.leads
  | some u => exact h.leads.push hback.1 hback.2

theorem holds_setup {α : Type} {x : Program σ α}
    {set : α → ClientNetworkTransaction → ClientNetworkTransaction}
    {P M : ClientNetworkTransaction × WindowsNetworkBackend σ → Prop} {u : α → Option UndoCall}
    (hP : ∀ w, P w → Pending windows tables created allowed start w)
    (hx : ∀ f, Holds (At tables f) x (fun a => TakenBack windows tables created allowed f (u a))
      (fun _ => At tables f))
    (hundo : ∀ w, P w → ∀ a, (set a w.1).undoCalls = (u a).toList ++ w.1.undoCalls)
    (hipv6 : ∀ w, P w → ∀ a, (set a w.1).ipv6AddressCreated = true → (set a w.1).ipv6Address.isSome)
    (hM : ∀ w, P w → ∀ a b, Pending windows tables created allowed start (set a w.1, b) →
      M (set a w.1, b)) :
    Holds P (call x set) (fun _ => M)
      (fun _ => Pending windows tables created allowed start) := by
  apply holds_call
  · intro w hw a b hrun
    have hback := (hx (footprint tables w.2)).ok rfl hrun
    exact hM w hw a b ((hP w hw).push hback (hundo w hw a) (hipv6 w hw a))
  · intro w hw e b hrun
    have hsame : At tables (footprint tables w.2) b := (hx (footprint tables w.2)).error rfl hrun
    exact (hP w hw).push (u := none) hsame rfl (hP w hw).ipv6

variable (hd : windows.Documented tables created) (hs : windows.Steady tables allowed)
  (parsers : AddressParsers)
include hd hs

omit hs in
theorem addRoute_pending (assignment : Protocol.IpAssignment) (cidr : Bytes) :
    Holds (Pending windows tables created allowed start)
      (ClientNetworkTransaction.addRoute (backend windows) parsers assignment cidr)
      (fun _ => Pending windows tables created allowed start)
      (fun _ => Pending windows tables created allowed start) := by
  apply holds_ofExcept.bind
  intro route
  apply holds_setup (u := fun added => if added then some (.removeRoute route) else none)
  · intro w hw
    exact hw
  · intro f
    exact holds_addRoute hd route
  · intro w hw added
    cases added <;> simp [undoCalls]
  · intro w hw added
    cases added <;> simpa using hw.ipv6
  · intro w hw added b h
    exact h

omit hs in
theorem addIpv6Address_pending (address : Option Ipv6InterfaceAddress) :
    Holds
      (fun w => Pending windows tables created allowed start w ∧ w.1.ipv6Address = address ∧
        w.1.ipv6AddressCreated = false ∧ w.1.priorMtu = none ∧ w.1.createdRoutes = [])
      (addIpv6Address (backend windows) address)
      (fun _ w => Pending windows tables created allowed start w ∧ w.1.priorMtu = none ∧
        w.1.createdRoutes = [])
      (fun _ => Pending windows tables created allowed start) := by
  cases address with
  | none =>
    apply holds_modify
    intro w hw
    exact ⟨hw.1, hw.2.2.2⟩
  | some address =>
    apply holds_setup (u := fun added =>
      if added then some (.removeInterfaceAddress (.ipv6 address)) else none)
    · intro w hw
      exact hw.1
    · intro f
      exact holds_addInterfaceAddress hd (.ipv6 address)
    · intro w hw added
      obtain ⟨-, haddress, hcreated, hmtu, hroutes⟩ := hw
      cases added <;> simp [undoCalls, haddress, hcreated, hmtu, hroutes]
    · intro w hw added hadded
      simp [hw.2.1]
    · intro w hw added b h
      exact ⟨h, hw.2.2.2⟩

/-- Whatever `install` has done when it ends, the transaction leads back to the closed adapter. -/
theorem install_pending (assignment : Protocol.IpAssignment) (routeCidrs : List Bytes)
    (address : InterfaceAddress) (ipv6Address : Option Ipv6InterfaceAddress) (hf : f.Coherent windows) :
    let start := f.closed windows created
    Holds (fun w => At tables f w.2 ∧ w.1 = entered address ipv6Address)
      (install (backend windows) parsers assignment routeCidrs)
      (fun _ w => Pending windows tables created allowed start w ∧ w.1.active = true)
      (fun _ => Pending windows tables created allowed start) := by
  intro start
  apply Holds.bind (M := fun _ w => Pending windows tables created allowed start w ∧
    w.1 = { entered address ipv6Address with adapterOpen := true })
  · apply holds_call
    · intro w hw u b hrun
      obtain ⟨f', hat, -, -, hclosed⟩ := (holds_openAdapter hd hf).ok hw.1 hrun
      have hback : (footprint tables b).closed windows created = start := by
        rw [show footprint tables b = f' from hat, hclosed]
      have hcalls : ({ w.1 with adapterOpen := true } : ClientNetworkTransaction).undoCalls =
          [.closeAdapter] := by
        simp [undoCalls, hw.2, entered]
      refine ⟨⟨?_, ?_⟩, by simp [hw.2]⟩
      · dsimp only
        rw [hcalls]
        exact (leadsBack_nil start).push trivial hback
      · simp [hw.2, entered]
    · intro w hw e b hrun
      obtain ⟨hat, hnone⟩ := (holds_openAdapter hd hf).error hw.1 hrun
      have hsame : footprint tables b = start := by
        rw [show footprint tables b = f from hat]
        exact (Footprint.closed_of_coherent windows created hf hnone).symm
      have hcalls : w.1.undoCalls = [] := by simp [undoCalls, hw.2, entered]
      refine ⟨?_, ?_⟩
      · dsimp only
        rw [hcalls, hsame]
        exact leadsBack_nil start
      · simp [hw.2, entered]
  intro _
  apply Holds.bind (M := fun _ w => Pending windows tables created allowed start w ∧
    w.1 = { entered address ipv6Address with adapterOpen := true, sessionStarted := true })
  · apply holds_setup (u := fun _ => some .stopPacketSession)
    · intro w hw
      exact hw.1
    · intro f
      exact holds_startPacketSession hd
    · intro w hw u
      simp [undoCalls, hw.2, entered]
    · intro w hw u
      simp [hw.2, entered]
    · intro w hw u b h
      exact ⟨h, by simp [hw.2]⟩
  intro _
  apply Holds.bind (M := fun t w => Pending windows tables created allowed start w ∧ w.1 = t ∧
    t = { entered address ipv6Address with adapterOpen := true, sessionStarted := true })
  · apply holds_transaction
    intro w hw
    exact ⟨hw.1, rfl, hw.2⟩
  intro t
  apply Holds.bind (M := fun _ w => Pending windows tables created allowed start w ∧
    w.1.ipv6Address = t.ipv6Address ∧ w.1.ipv6AddressCreated = false ∧ w.1.priorMtu = none ∧
    w.1.createdRoutes = [])
  · apply holds_setup (u := fun added =>
      if added then some (.removeInterfaceAddress (.ipv4 t.address)) else none)
    · intro w hw
      exact hw.1
    · intro f
      exact holds_addInterfaceAddress hd (.ipv4 t.address)
    · intro w hw added
      obtain ⟨-, hw, ht⟩ := hw
      cases added <;> simp [undoCalls, hw, ht, entered]
    · intro w hw added
      simp [hw.2.1, hw.2.2, entered]
    · intro w hw added b h
      exact ⟨h, by simp [hw.2.1], by simp [hw.2.1, hw.2.2, entered]⟩
  intro _
  apply (addIpv6Address_pending hd t.ipv6Address).bind
  intro _
  apply Holds.bind (M := fun _ => Pending windows tables created allowed start)
  · apply holds_setup (u := fun prior => prior.map UndoCall.restoreInterfaceMtu)
    · intro w hw
      exact hw.1
    · intro f
      exact holds_setInterfaceMtu hd hs assignment.mtu.toUInt32
    · intro w hw prior
      cases prior <;> simp [undoCalls, hw.2.1, hw.2.2]
    · intro w hw prior
      exact hw.1.ipv6
    · intro w hw prior b h
      exact h
  intro _
  apply (holds_forM (addRoute_pending hd parsers assignment) routeCidrs).bind
  intro _
  apply holds_modify
  intro w hw
  exact ⟨⟨hw.leads, hw.ipv6⟩, rfl⟩

theorem Pending.rollback {w : ClientNetworkTransaction × WindowsNetworkBackend σ}
    (h : Pending windows tables created allowed start w) :
    Idle (rollback (backend windows) w).1 ∧
      footprint tables (rollback (backend windows) w).2 = start := by
  refine ⟨rollback_idle _ h.ipv6, ?_⟩
  rw [rollback_system]
  exact h.leads.simulated fun b u hu => footprint_undo hd hs b u hu

theorem activate_ok {w w' : ClientNetworkTransaction × WindowsNetworkBackend σ} (hw : Idle w.1)
    (hf : f.Coherent windows) (hat : At tables f w.2) {assignment : Protocol.IpAssignment}
    {routeCidrs : List Bytes}
    (h : activate (backend windows) parsers assignment routeCidrs w = (.ok (), w')) :
    Pending windows tables created allowed (f.closed windows created) w' ∧ w'.1.active = true := by
  by_cases hroutes : routeCidrs = []
  · rw [hroutes, activate_no_routes _ _ _ hw] at h
    cases h
  rw [activate_idle _ _ _ hroutes hw] at h
  rcases hx : install (backend windows) parsers assignment routeCidrs (entered _ _, w.2) with ⟨r, v⟩
  cases r with
  | error e =>
    rw [tryCatch_error hx] at h
    cases h
  | ok u =>
    rw [tryCatch_ok hx] at h
    cases h
    exact (install_pending hd hs parsers assignment routeCidrs _ _ hf).ok (s := (entered _ _, w.2))
      ⟨hat, rfl⟩ hx

theorem activate_error {w w' : ClientNetworkTransaction × WindowsNetworkBackend σ} (hw : Idle w.1)
    (hf : f.Coherent windows) (hat : At tables f w.2) {assignment : Protocol.IpAssignment}
    {routeCidrs : List Bytes} {e : Exception}
    (h : activate (backend windows) parsers assignment routeCidrs w = (.error e, w')) :
    Idle w'.1 ∧ (At tables f w'.2 ∨ At tables (f.closed windows created) w'.2) := by
  by_cases hroutes : routeCidrs = []
  · rw [hroutes, activate_no_routes _ _ _ hw] at h
    cases h
    exact ⟨hw, .inl hat⟩
  rw [activate_idle _ _ _ hroutes hw] at h
  rcases hx : install (backend windows) parsers assignment routeCidrs (entered _ _, w.2) with ⟨r, v⟩
  cases r with
  | ok u =>
    rw [tryCatch_ok hx] at h
    cases h
  | error e' =>
    rw [tryCatch_error hx] at h
    cases h
    have hpending := (install_pending hd hs parsers assignment routeCidrs _ _ hf).error
      (s := (entered _ _, w.2)) ⟨hat, rfl⟩ hx
    obtain ⟨hidle, hback⟩ := hpending.rollback hd hs
    exact ⟨hidle, .inr hback⟩

theorem Settled.answer (hf : f.Coherent windows) {w : ClientNetworkTransaction × WindowsNetworkBackend σ}
    (h : Settled windows tables created allowed f w) (call : TransactionCall) :
    Settled windows tables created allowed f (answer (backend windows) parsers w call) := by
  cases call with
  | rollback =>
    obtain ⟨hidle, hat⟩ | ⟨hactive, hpending⟩ := h
    · rw [ClientNetworkTransaction.answer, rollback_of_idle _ hidle]
      exact .inl ⟨hidle, hat⟩
    · obtain ⟨hidle, hback⟩ := hpending.rollback hd hs
      exact .inl ⟨hidle, .inr hback⟩
  | activate assignment routeCidrs =>
    obtain ⟨hidle, hat⟩ | ⟨hactive, hpending⟩ := h
    · obtain ⟨g, hg, hatg, hclosed⟩ : ∃ g : Footprint, g.Coherent windows ∧ At tables g w.2 ∧
          (g = f ∨ g = f.closed windows created) := by
        obtain hat | hat := hat
        · exact ⟨f, hf, hat, .inl rfl⟩
        · exact ⟨_, Footprint.coherent_closed windows created f, hat, .inr rfl⟩
      have hsame : g.closed windows created = f.closed windows created := by
        obtain rfl | rfl := hclosed
        · rfl
        · exact Footprint.closed_closed windows created f
      rcases hr : activate (backend windows) parsers assignment routeCidrs w with ⟨r, w'⟩
      rw [ClientNetworkTransaction.answer, hr]
      cases r with
      | ok u =>
        obtain ⟨hpending, hactive⟩ := activate_ok hd hs parsers hidle hg hatg hr
        rw [hsame] at hpending
        exact .inr ⟨hactive, hpending⟩
      | error e =>
        obtain ⟨hidle', hat'⟩ := activate_error hd hs parsers hidle hg hatg hr
        refine .inl ⟨hidle', ?_⟩
        rw [hsame] at hat'
        obtain rfl | rfl := hclosed
        · exact hat'
        · exact hat'.elim .inr .inr
    · rw [ClientNetworkTransaction.answer, activate_active _ _ _ _ hactive]
      exact .inr ⟨hactive, hpending⟩

/-- However a transaction is activated and rolled back on Windows, in any order and with any of the
setup calls failing: while it is not active, the tables of the host are those that there were, or, if
the adapter was open, those that closing it leaves; and so they are after a rollback. -/
theorem tables_restored (b : WindowsNetworkBackend σ) (hb : (footprint tables b).Coherent windows)
    (calls : List TransactionCall) :
    let f := footprint tables b
    let w := Run.run (answer (backend windows) parsers) ({}, b) calls
    (w.1.active = false →
      footprint tables w.2 = f ∨ footprint tables w.2 = f.closed windows created) ∧
    (w.1.active = true →
      footprint tables (rollback (backend windows) w).2 = f.closed windows created) ∧
    (b.adapter = none → f.closed windows created = f) := by
  intro f w
  have hsettled : Settled windows tables created allowed f w :=
    Run.invariant (P := Settled windows tables created allowed f) (s := ({}, b))
      (fun _ call h => Settled.answer hd hs parsers hb h call) (.inl ⟨rfl, .inl rfl⟩) calls
  refine ⟨?_, ?_, fun hnone => Footprint.closed_of_coherent windows created hb hnone⟩
  · intro hinactive
    obtain ⟨-, hat⟩ | ⟨hactive, -⟩ := hsettled
    · exact hat
    · rw [hinactive] at hactive
      cases hactive
  · intro hactive
    obtain ⟨hidle, -⟩ | ⟨-, hpending⟩ := hsettled
    · rw [hidle] at hactive
      cases hactive
    · exact (hpending.rollback hd hs).2

/-- A host with an adapter of the usual MTU. -/
def unconfigured : WindowsNetworkBackend TableHost where
  adapterName := wideText "PersonalVPN"
  host := { mtu := fun key => if key.1 = 7 then some 1500 else none }

/-- An activation that fails at its second route, one that succeeds, and a rollback. -/
def failedThenTaken : List TransactionCall :=
  [.activate hostAssignment [text "10.20.0.0/16", text "10.20.0.0"],
    .activate hostAssignment [text "10.20.0.0/16"], .rollback]

omit hd hs in
theorem tables_restored_unconfigured :
    footprint TableHost.tables (Run.run (answer (backend TableHost.windows)
      ⟨fun _ => none, fun _ => none⟩) ({}, unconfigured) failedThenTaken).2 =
        footprint TableHost.tables unconfigured := by
  have hactive : (Run.run (answer (backend TableHost.windows) ⟨fun _ => none, fun _ => none⟩)
      ({}, unconfigured) failedThenTaken).1.active = false := by decide +kernel
  have hrestored := tables_restored TableHost.documented TableHost.steady
    ⟨fun _ => none, fun _ => none⟩ unconfigured ⟨rfl, rfl⟩ failedThenTaken
  generalize Run.run (answer (backend TableHost.windows) ⟨fun _ => none, fun _ => none⟩)
    ({}, unconfigured) failedThenTaken = w at hactive hrestored ⊢
  obtain ⟨hinactive, -, hclosed⟩ := hrestored
  obtain hsame | hback := hinactive hactive
  · exact hsame
  · exact hback.trans (hclosed rfl)

end WindowsNetworkBackend

end PersonalVpn.Client
