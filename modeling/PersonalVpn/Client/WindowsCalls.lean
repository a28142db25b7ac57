import PersonalVpn.Client.NetworkReversal
import PersonalVpn.Client.WindowsNetworkBackend

/-! What each function of the Windows backend does to the tables of its host, and which call takes it
back. -/

namespace PersonalVpn.Client

open PersonalVpn.Core Fallible

namespace WindowsNetworkBackend

/-- What a backend holds and what is configured on its host. -/
structure Footprint where
  tables : IpTables
  adapter : Option AdapterHandle
  session : Option SessionHandle
  luid : NetLuid

variable {σ : Type}

def footprint (tables : σ → IpTables) (b : WindowsNetworkBackend σ) : Footprint :=
  ⟨tables b.host, b.adapter, b.session, b.luid⟩

namespace Footprint

variable (windows : Windows σ) (created : AdapterHandle → Bool)

/-- The interface is the one of the adapter. Without an adapter there is neither a session nor an
interface. -/
def Coherent (f : Footprint) : Prop :=
  match f.adapter with
  | none => f.session = none ∧ f.luid = 0
  | some adapter => f.luid = windows.wintunGetAdapterLuid adapter

/-- What is left when the adapter is closed. -/
def closed (f : Footprint) : Footprint where
  tables := match f.adapter with
    | none => f.tables
    | some adapter =>
      if created adapter then f.tables.without (windows.wintunGetAdapterLuid adapter) else f.tables
  adapter := none
  session := none
  luid := 0

def undo (f : Footprint) : UndoCall → Footprint
  | .removeRoute route =>
    if f.luid = 0 then f
    else { f with tables := f.tables.setForward (routeRow f.luid route).key none }
  | .restoreInterfaceMtu mtu =>
    let t := f.tables.setMtu f.luid .inet (some mtu.ipv4)
    { f with tables := t.setMtu f.luid .inet6 (some mtu.ipv6) }
  | .removeInterfaceAddress address =>
    if f.luid = 0 then f
    else { f with tables := f.tables.setUnicast (addressRow f.luid address).key none }
  | .stopPacketSession => { f with session := none }
  | .closeAdapter => f.closed windows created

/-- The interface is there with both families, and its MTUs were such as these. -/
def Enabled (allowed : NetLuid → AddressFamily → UInt32 → Prop) (f : Footprint) : UndoCall → Prop
  | .restoreInterfaceMtu mtu => f.adapter ≠ none ∧ f.luid ≠ 0 ∧
    f.tables.mtu (f.luid, .inet) ≠ none ∧ f.tables.mtu (f.luid, .inet6) ≠ none ∧
    allowed f.luid .inet mtu.ipv4 ∧ allowed f.luid .inet6 mtu.ipv6
  | _ => True

/-- With this adapter and these tables, closing leaves what it would leave without. -/
def Opens (f : Footprint) (adapter : Option AdapterHandle) (t : IpTables) : Prop :=
  ({ f with tables := t, adapter } : Footprint).closed windows created =
    { f with adapter := none }.closed windows created

/-- What `interface_row` has read: the adapter is open, and this is its MTU. -/
def HasMtu (f : Footprint) (family : AddressFamily) (mtu : UInt32) : Prop :=
  f.adapter ≠ none ∧ f.luid ≠ 0 ∧ f.tables.mtu (f.luid, family) = some mtu

/-- With another MTU for a family of the interface. -/
def withMtu (f : Footprint) (family : AddressFamily) (mtu : UInt32) : Footprint :=
  { f with tables := f.tables.setMtu f.luid family (some mtu) }

theorem withMtu_undo {f : Footprint} {family : AddressFamily} {mtu : UInt32}
    (h : f.HasMtu family mtu) (changed : UInt32) : (f.withMtu family changed).withMtu family mtu = f := by
  simp only [withMtu, IpTables.setMtu_setMtu, IpTables.setMtu_self h.2.2]

/-- Setting both MTUs back. -/
theorem withMtu_back {f : Footprint} {ipv4 ipv6 : UInt32} (h4 : f.HasMtu .inet ipv4)
    (h6 : f.HasMtu .inet6 ipv6) (mtu : UInt32) :
    (((f.withMtu .inet mtu).withMtu .inet6 mtu).withMtu .inet ipv4).withMtu .inet6 ipv6 = f := by
  simp only [withMtu]
  rw [IpTables.setMtu_comm _ _ (by decide : AddressFamily.inet6 ≠ .inet), IpTables.setMtu_setMtu,
    IpTables.setMtu_setMtu, IpTables.setMtu_self h4.2.2, IpTables.setMtu_self h6.2.2]

variable {windows} in
theorem Coherent.absent {f : Footprint} (hf : f.Coherent windows) (hnone : f.adapter = none) :
    f.session = none ∧ f.luid = 0 := by
  rw [Coherent, hnone] at hf
  exact hf

theorem closed_of_coherent {f : Footprint} (hf : f.Coherent windows) (hnone : f.adapter = none) :
    f.closed windows created = f := by
  obtain ⟨hsession, hluid⟩ := hf.absent hnone
  obtain ⟨t, adapter, session, luid⟩ := f
  obtain rfl : adapter = none := hnone
  obtain rfl : session = none := hsession
  obtain rfl : luid = 0 := hluid
  rfl

@[simp] theorem closed_closed (f : Footprint) :
    (f.closed windows created).closed windows created = f.closed windows created := rfl

theorem coherent_closed (f : Footprint) : (f.closed windows created).Coherent windows :=
  ⟨rfl, rfl⟩

end Footprint

variable {windows : Windows σ} {tables : σ → IpTables} {created : AdapterHandle → Bool}
  {allowed : NetLuid → AddressFamily → UInt32 → Prop} {f : Footprint}

/-- The backend is where `f` says. -/
def At (tables : σ → IpTables) (f : Footprint) (b : WindowsNetworkBackend σ) : Prop :=
  footprint tables b = f

/-- A call takes back what has led from `f` to where the backend is. -/
def TakenBack (windows : Windows σ) (tables : σ → IpTables) (created : AdapterHandle → Bool)
    (allowed : NetLuid → AddressFamily → UInt32 → Prop) (f : Footprint) :
    Option UndoCall → WindowsNetworkBackend σ → Prop
  | none, b => At tables f b
  | some u, b => (footprint tables b).Enabled allowed u ∧
    (footprint tables b).undo windows created u = f

section Host

variable {α : Type} {t : IpTables} {E : Exception → σ → Prop}

theorem holds_hostAsk {x : StateM σ α} (hx : Leaves tables x) :
    Holds (fun s => tables s = t) (HostProgram.ask x) (fun _ s => tables s = t) E := by
  constructor
  · intro s s' a hs hrun
    cases hrun
    exact (hx s).trans hs
  · intro s s' e hs hrun
    cases hrun

/-- A call with what is known of its answer. -/
theorem holds_hostAsked {x : StateM σ α} {Q : α → IpTables → Prop}
    (hx : ∀ s a s', tables s = t → x s = (a, s') → Q a (tables s')) :
    Holds (fun s => tables s = t) (HostProgram.ask x) (fun a s => Q a (tables s)) E := by
  constructor
  · intro s s' a hs hrun
    cases hrun
    exact hx s _ _ hs rfl
  · intro s s' e hs hrun
    cases hrun

theorem holds_throwWindowsError (windows : Windows σ) {P : σ → Prop} {Q : α → σ → Prop} (operation : Bytes)
    (error : UInt32) :
    Holds P (HostProgram.throwWindowsError windows operation error : HostProgram σ α) Q
      (fun _ => P) := by
  constructor
  · intro s s' a hs hrun
    cases hrun
  · intro s s' e hs hrun
    cases hrun
    exact hs

theorem holds_throwLastError {P : σ → Prop} {Q : α → σ → Prop} (operation : Bytes) :
    Holds P (HostProgram.throwLastError windows operation : HostProgram σ α) Q (fun _ => P) := by
  constructor
  · intro s s' a hs hrun
    cases hrun
  · intro s s' e hs hrun
    cases hrun
    exact hs

theorem holds_check (windows : Windows σ) {P : σ → Prop} (operation : Bytes) (result : UInt32) :
    Holds P (HostProgram.check windows operation result) (fun _ s => P s ∧ result = NO_ERROR)
      (fun _ s => P s ∧ result ≠ NO_ERROR) := by
  unfold HostProgram.check
  split_ifs with hresult
  · exact holds_pure fun s hs => ⟨hs, hresult⟩
  · have hthrow := holds_throwWindowsError windows (P := fun s => P s ∧ result ≠ NO_ERROR)
      (Q := fun (_ : Unit) s => P s ∧ result = NO_ERROR) operation result
    exact ⟨fun hs => hthrow.ok ⟨hs, hresult⟩, fun hs => hthrow.error ⟨hs, hresult⟩⟩

theorem holds_loadLibrary (hd : windows.Documented tables created) :
    Holds (fun s => tables s = t) (HostProgram.loadLibrary windows) (fun _ s => tables s = t)
      (fun _ s => tables s = t) := by
  apply (holds_hostAsk hd.loadLibrary).bind
  intro loaded
  split_ifs
  · apply holds_forM
    intro name
    apply (holds_hostAsk (hd.getProcAddress name)).bind
    intro found
    split_ifs
    · exact holds_pure fun s hs => hs
    · exact holds_throwLastError _
  · exact holds_throwLastError _

end Host

section Calls

variable {α : Type} {E : Exception → WindowsNetworkBackend σ → Prop}

/-- A computation on the host changes its tables only. -/
theorem holds_onHost {x : HostProgram σ α} {Q : α → IpTables → Prop}
    {R : Exception → IpTables → Prop}
    (hx : Holds (fun s => tables s = f.tables) x (fun a s => Q a (tables s))
      (fun e s => R e (tables s))) :
    Holds (At tables f) (onHost x)
      (fun a b => ∃ t, Q a t ∧ At tables { f with tables := t } b)
      (fun e b => ∃ t, R e t ∧ At tables { f with tables := t } b) := by
  constructor
  · intro b b' a hb hrun
    obtain rfl : footprint tables b = f := hb
    rcases hr : x b.host with ⟨r, s⟩
    simp only [onHost, hr] at hrun
    cases hrun
    exact ⟨tables s, hx.ok rfl hr, rfl⟩
  · intro b b' e hb hrun
    obtain rfl : footprint tables b = f := hb
    rcases hr : x b.host with ⟨r, s⟩
    simp only [onHost, hr] at hrun
    cases hrun
    exact ⟨tables s, hx.error rfl hr, rfl⟩

/-- A computation that leaves the tables, as far as they go. -/
theorem holds_onHost_same {x : HostProgram σ α} {Q : α → Prop}
    (hx : Holds (fun s => tables s = f.tables) x (fun a s => tables s = f.tables ∧ Q a)
      (fun _ s => tables s = f.tables)) :
    Holds (At tables f) (onHost x) (fun a b => At tables f b ∧ Q a) (fun _ => At tables f) := by
  have hhost := holds_onHost (f := f) (Q := fun a t => t = f.tables ∧ Q a)
    (R := fun _ t => t = f.tables) hx
  constructor
  · intro b b' a hb hrun
    obtain ⟨t, ⟨ht, ha⟩, hat⟩ := hhost.ok hb hrun
    subst ht
    exact ⟨hat, ha⟩
  · intro b b' e hb hrun
    obtain ⟨t, ht, hat⟩ := hhost.error hb hrun
    subst ht
    exact hat

theorem holds_leaves {P : Footprint → Prop} {x : StateM σ α} (hx : Leaves tables x) :
    Holds (fun b => P (footprint tables b)) (ask x) (fun _ b => P (footprint tables b)) E := by
  constructor
  · intro b b' a hb hrun
    cases hrun
    have hsame : (⟨tables (x b.host).2, b.adapter, b.session, b.luid⟩ : Footprint) =
        footprint tables b :=
      congrArg (fun t => (⟨t, b.adapter, b.session, b.luid⟩ : Footprint)) (hx b.host)
    change P ⟨tables (x b.host).2, b.adapter, b.session, b.luid⟩
    rwa [hsame]
  · intro b b' e hb hrun
    cases hrun

theorem holds_ask {x : StateM σ α} (hx : Leaves tables x) :
    Holds (At tables f) (ask x) (fun _ => At tables f) E :=
  holds_leaves (P := fun g => g = f) hx

theorem holds_checked (windows : Windows σ) {P : WindowsNetworkBackend σ → Prop} (operation : Bytes) (result : UInt32) :
    Holds P (onHost (HostProgram.check windows operation result))
      (fun _ b => P b ∧ result = NO_ERROR) (fun _ b => P b ∧ result ≠ NO_ERROR) := by
  constructor
  · intro b b' a hb hrun
    have hcheck := holds_check windows (P := fun s => s = b.host) operation result
    rcases hr : HostProgram.check windows operation result b.host with ⟨r, s⟩
    simp only [onHost, hr] at hrun
    cases hrun
    obtain ⟨hs, hresult⟩ := hcheck.ok rfl hr
    subst hs
    exact ⟨hb, hresult⟩
  · intro b b' e hb hrun
    have hcheck := holds_check windows (P := fun s => s = b.host) operation result
    rcases hr : HostProgram.check windows operation result b.host with ⟨r, s⟩
    simp only [onHost, hr] at hrun
    cases hrun
    obtain ⟨hs, hresult⟩ := hcheck.error rfl hr
    subst hs
    exact ⟨hb, hresult⟩

/-- What is read is where the backend is. -/
theorem holds_read {P : WindowsNetworkBackend σ → Prop} :
    Holds P (get : Program σ (WindowsNetworkBackend σ)) (fun a b => P b ∧ P a) E := by
  constructor
  · intro b b' a hb hrun
    cases hrun
    exact ⟨hb, hb⟩
  · intro b b' e hb hrun
    cases hrun

theorem holds_onHost_throw {P : WindowsNetworkBackend σ → Prop}
    {Q : α → WindowsNetworkBackend σ → Prop} {x : HostProgram σ α}
    (hx : ∀ s, ∃ e, x s = (.error e, s)) : Holds P (onHost x) Q (fun _ => P) := by
  constructor
  · intro b b' a hb hrun
    obtain ⟨e, hthrow⟩ := hx b.host
    simp only [onHost, hthrow] at hrun
    cases hrun
  · intro b b' e hb hrun
    obtain ⟨e', hthrow⟩ := hx b.host
    simp only [onHost, hthrow] at hrun
    cases hrun
    exact hb

end Calls

/-! ### What the setup functions leave to be taken back -/

section Setup

variable (hd : windows.Documented tables created)
include hd

theorem footprint_stopPacketSession (b : WindowsNetworkBackend σ) :
    footprint tables (stopPacketSession windows b) = { footprint tables b with session := none } := by
  unfold stopPacketSession
  cases hsession : b.session with
  | none => simp [footprint, hsession]
  | some session => simp [footprint, hd.endSession session b.host]

theorem footprint_closeAdapter (b : WindowsNetworkBackend σ) :
    footprint tables (closeAdapter windows b) = (footprint tables b).closed windows created := by
  have hstopped := footprint_stopPacketSession hd b
  unfold closeAdapter
  generalize stopPacketSession windows b = b' at hstopped
  have htables : tables b'.host = tables b.host := congrArg Footprint.tables hstopped
  have hadapter : b'.adapter = b.adapter := congrArg Footprint.adapter hstopped
  have hsession : b'.session = none := congrArg Footprint.session hstopped
  simp only [← hadapter, footprint, Footprint.closed]
  cases hopen : b'.adapter with
  | none => simp [htables, hopen, hsession]
  | some adapter => simp [hd.closeAdapter, htables, hsession]

theorem holds_backendLoadLibrary :
    Holds (At tables f) (loadLibrary windows) (fun _ => At tables f) (fun _ => At tables f) := by
  apply holds_read.bind
  intro b
  split_ifs
  · exact holds_pure fun _ hb => hb.1
  · have hload : Holds (At tables f) (onHost (HostProgram.loadLibrary windows))
        (fun _ b => At tables f b ∧ True) (fun _ => At tables f) :=
      holds_onHost_same (Q := fun _ => True)
        ((holds_loadLibrary hd).weaken fun _ _ hs => ⟨hs, trivial⟩)
    have hboth := hload.bind (f := fun _ => modify fun b => { b with moduleLoaded := true })
      (Q := fun (_ : Unit) => At tables f) fun _ => holds_modify fun _ hb => hb.1
    exact ⟨fun hb => hboth.ok hb.1, fun hb => hboth.error hb.1⟩

/-- A handle from Wintun: closing it would leave the tables that there were. -/
theorem holds_openOrCreateAdapter (name : List UInt16) :
    Holds (At tables f) (openOrCreateAdapter windows name)
      (fun adapter b => ∃ t, f.Opens windows created adapter t ∧
        At tables { f with tables := t } b)
      (fun _ => At tables f) := by
  have hopen : Holds (At tables f) (ask (windows.wintunOpenAdapter name))
      (fun adapter b => At tables f b ∧ ∀ h, adapter = some h → created h = false)
      (fun _ => At tables f) := by
    apply holds_onHost_same (Q := fun adapter => ∀ h, adapter = some h → created h = false)
    constructor
    · intro s s' a hs hrun
      cases hrun
      refine ⟨(hd.openAdapter name s).trans hs, ?_⟩
      intro h hh
      exact hd.opened name s h _ (Prod.ext hh rfl)
    · intro s s' e hs hrun
      cases hrun
  apply hopen.bind
  intro adapter
  apply holds_of_fact
  intro hcreated
  cases adapter with
  | some h =>
    refine holds_pure fun b hb => ⟨f.tables, ?_, hb⟩
    simp [Footprint.Opens, Footprint.closed, hcreated h rfl]
  | none =>
    have hcreate : Holds (fun s => tables s = f.tables)
        (HostProgram.ask (windows.wintunCreateAdapter name))
        (fun adapter s => f.Opens windows created adapter (tables s))
        (fun _ s => tables s = f.tables) := by
      apply holds_hostAsked
      intro s adapter s' hs hrun
      cases adapter with
      | none =>
        have hsame := (hd.createAdapter_none name s s' hrun).trans hs
        simp [Footprint.Opens, Footprint.closed, hsame]
      | some h =>
        obtain ⟨hcreated, hback⟩ := hd.createAdapter_some name s h s' hrun
        simp [Footprint.Opens, Footprint.closed, hcreated, hback, hs]
    apply (holds_onHost (R := fun _ t => t = f.tables) hcreate).mono (fun _ hb => hb)
    · intro adapter b hb
      exact hb
    · intro e b hb
      obtain ⟨t, ht, hat⟩ := hb
      subst ht
      exact hat

theorem holds_takeAdapter (hf : f.Coherent windows) (hnone : f.adapter = none)
    (adapter : Option AdapterHandle) {t : IpTables} (ht : f.Opens windows created adapter t) :
    Holds (At tables { f with tables := t }) (takeAdapter windows adapter)
      (fun _ b => ∃ f', At tables f' b ∧ f'.adapter ≠ none ∧ f'.Coherent windows ∧
        f'.closed windows created = f)
      (fun _ => At tables f) := by
  have hclosed : { f with adapter := none }.closed windows created = f := by
    rw [← hnone]
    exact Footprint.closed_of_coherent windows created hf hnone
  rw [Footprint.Opens, hclosed] at ht
  cases adapter with
  | none =>
    have hsame : { f with tables := t } = f := by
      have hcoherent : ({ f with tables := t, adapter := none } : Footprint).Coherent windows :=
        hf.absent hnone
      have hback := Footprint.closed_of_coherent windows created hcoherent rfl
      rw [← hnone] at hback ht
      exact hback.symm.trans ht
    rw [hsame]
    exact holds_onHost_throw fun _ => ⟨_, rfl⟩
  | some adapter =>
    have hkeep : Holds (At tables { f with tables := t })
        (modify fun b : WindowsNetworkBackend σ =>
          { b with adapter := some adapter, luid := windows.wintunGetAdapterLuid adapter })
        (fun (_ : Unit) => At tables ⟨t, some adapter, f.session, windows.wintunGetAdapterLuid adapter⟩)
        (fun (_ : Exception) => At tables f) := by
      apply holds_modify
      intro b hb
      have htables : tables b.host = t := congrArg Footprint.tables hb
      have hsession : b.session = f.session := congrArg Footprint.session hb
      simp [At, footprint, htables, hsession]
    apply hkeep.bind
    intro _
    split_ifs with hzero
    · have hclose : Holds
          (At tables ⟨t, some adapter, f.session, windows.wintunGetAdapterLuid adapter⟩)
          (modify (closeAdapter windows) : Program σ Unit) (fun _ => At tables f)
          (fun _ => At tables f) := by
        apply holds_modify
        intro b hb
        rw [At, footprint_closeAdapter hd, show footprint tables b = _ from hb]
        exact ht
      apply hclose.bind
      intro _
      exact holds_throw fun _ hb => hb
    · exact holds_pure fun b hb => ⟨_, hb, by simp, rfl, ht⟩

/-- Opening leaves an adapter whose closing leaves what closing before would have, or nothing. -/
theorem holds_openAdapter (hf : f.Coherent windows) :
    Holds (At tables f) (openAdapter windows)
      (fun _ b => ∃ f', At tables f' b ∧ f'.adapter ≠ none ∧ f'.Coherent windows ∧
        f'.closed windows created = f.closed windows created)
      (fun _ b => At tables f b ∧ f.adapter = none) := by
  apply holds_read.bind
  intro b
  apply holds_of_fact
  intro hat
  have hadapter : b.adapter = f.adapter := congrArg Footprint.adapter hat
  rw [hadapter]
  cases hnone : f.adapter with
  | some adapter =>
    refine holds_pure fun b hb => ⟨f, hb, ?_, hf, rfl⟩
    simp [hnone]
  | none =>
    rw [Footprint.closed_of_coherent windows created hf hnone]
    have hrest := (holds_backendLoadLibrary (f := f) hd).bind (f := fun _ => do
      let adapter ← openOrCreateAdapter windows (← get).adapterName
      takeAdapter windows adapter)
      (Q := fun _ b => ∃ f', At tables f' b ∧ f'.adapter ≠ none ∧ f'.Coherent windows ∧
        f'.closed windows created = f) ?_
    · apply hrest.mono (fun _ hb => hb)
      · intro _ b hb
        obtain ⟨f', hat, hopen, hcoherent, hback⟩ := hb
        exact ⟨f', hat, hopen, hcoherent, hback⟩
      · intro _ b hb
        exact ⟨hb, rfl⟩
    intro _
    apply holds_read.bind
    intro b
    apply holds_of_fact
    intro _
    apply (holds_openOrCreateAdapter hd b.adapterName).bind
    intro adapter
    apply holds_exists
    intro t
    have htake (ht : f.Opens windows created adapter t) := holds_takeAdapter hd hf hnone adapter ht
    exact ⟨fun hb => (htake hb.1).ok hb.2, fun hb => (htake hb.1).error hb.2⟩

theorem holds_startPacketSession :
    Holds (At tables f) (startPacketSession windows)
      (fun _ => TakenBack windows tables created allowed f (some .stopPacketSession))
      (fun _ => At tables f) := by
  apply holds_read.bind
  intro b
  apply holds_of_fact
  intro hat
  have hadapter : b.adapter = f.adapter := congrArg Footprint.adapter hat
  have hsession : b.session = f.session := congrArg Footprint.session hat
  rw [hadapter, hsession]
  cases hopen : f.adapter with
  | none => exact holds_throw fun _ hb => hb
  | some adapter =>
    cases hno : f.session with
    | some session => exact holds_throw fun _ hb => hb
    | none =>
      have hreset : Holds (At tables f)
          (modify fun b : WindowsNetworkBackend σ => { b with interrupted := false })
          (fun (_ : Unit) => At tables f) (fun (_ : Exception) => At tables f) :=
        holds_modify fun _ hb => hb
      apply hreset.bind
      intro _
      apply (holds_ask (hd.startSession adapter (4 * 1024 * 1024))).bind
      intro session
      cases session with
      | none => exact holds_onHost_throw fun _ => ⟨_, rfl⟩
      | some session =>
        apply holds_modify
        intro b hb
        refine ⟨trivial, ?_⟩
        have hback : { footprint tables b with session := none } = f := by
          rw [show footprint tables b = f from hb, ← hno]
        exact hback

omit hd in
theorem holds_requireLuid :
    Holds (At tables f) (requireLuid : Program σ NetLuid)
      (fun luid b => At tables f b ∧ luid = f.luid ∧ f.adapter ≠ none ∧ f.luid ≠ 0)
      (fun _ => At tables f) := by
  apply holds_read.bind
  intro b
  apply holds_of_fact
  intro hat
  have hadapter : b.adapter = f.adapter := congrArg Footprint.adapter hat
  have hluid : b.luid = f.luid := congrArg Footprint.luid hat
  rw [hadapter, hluid]
  split_ifs with hclosed
  · exact holds_throw fun _ hb => hb
  · exact holds_pure fun b hb => ⟨hb, rfl, fun h => hclosed (.inl h), fun h => hclosed (.inr h)⟩

theorem holds_interfaceRow (family : AddressFamily) :
    Holds (At tables f) (interfaceRow windows family)
      (fun mtu b => At tables f b ∧ f.HasMtu family mtu) (fun _ => At tables f) := by
  apply holds_requireLuid.bind
  intro luid
  apply holds_of_fact
  intro hopen
  obtain ⟨rfl, hadapter, hluid⟩ := hopen
  have hread : Holds (At tables f) (ask (windows.getIpInterfaceEntry f.luid family))
      (fun row b => At tables f b ∧
        (row.1 = NO_ERROR → f.tables.mtu (f.luid, family) = some row.2))
      (fun _ => At tables f) := by
    apply holds_onHost_same
      (Q := fun row : UInt32 × UInt32 => row.1 = NO_ERROR → f.tables.mtu (f.luid, family) = some row.2)
    constructor
    · intro s s' row hs hrun
      cases hrun
      refine ⟨(hd.getInterface f.luid family s).trans hs, ?_⟩
      intro hresult
      rw [← hs]
      exact hd.gotInterface f.luid family s _ _ (Prod.ext (Prod.ext hresult rfl) rfl)
    · intro s s' e hs hrun
      cases hrun
  apply hread.bind
  intro row
  apply holds_of_fact
  intro hrow
  apply ((holds_checked windows _ row.1).mono (fun _ hb => hb) (fun _ _ hb => hb)
    fun _ _ hb => hb.1).bind
  intro _
  apply holds_of_fact
  intro hresult
  exact holds_pure fun b hb => ⟨hb, hadapter, hluid, hrow hresult⟩

omit hd in
/-- A call that adds a row, with the call that takes it away. -/
theorem holds_adds {x : StateM σ UInt32} {u : UndoCall}
    (hx : ∀ s r s', tables s = f.tables → x s = (r, s') → if r = NO_ERROR
      then ({ f with tables := tables s' } : Footprint).Enabled allowed u ∧
        ({ f with tables := tables s' } : Footprint).undo windows created u = f
      else tables s' = f.tables) :
    Holds (At tables f) (ask x)
      (fun r b => if r = NO_ERROR then TakenBack windows tables created allowed f (some u) b
        else At tables f b)
      (fun _ => At tables f) := by
  constructor
  · intro b b' r hb hrun
    obtain rfl : footprint tables b = f := hb
    cases hrun
    have hadded := hx b.host _ _ rfl rfl
    split_ifs at hadded ⊢ with hr
    · exact hadded
    · exact congrArg (fun t => (⟨t, b.adapter, b.session, b.luid⟩ : Footprint)) hadded
  · intro b b' e hb hrun
    cases hrun

omit hd in
/-- A function that has asked for a row to be added. -/
theorem holds_added {u : UndoCall} {result : UInt32} {operation : Bytes} {rest : Program σ Bool}
    (hrest : Holds (TakenBack windows tables created allowed f (some u)) rest
      (fun added => TakenBack windows tables created allowed f (if added then some u else none))
      (fun _ => At tables f)) :
    Holds (fun b => if result = NO_ERROR then TakenBack windows tables created allowed f (some u) b
        else At tables f b)
      (if result = ERROR_OBJECT_ALREADY_EXISTS then pure false
        else do
          onHost (HostProgram.check windows operation result)
          rest)
      (fun added => TakenBack windows tables created allowed f (if added then some u else none))
      (fun _ => At tables f) := by
  by_cases hexists : result = ERROR_OBJECT_ALREADY_EXISTS
  · have hfailed : result ≠ NO_ERROR := by
      rw [hexists]
      decide
    rw [if_pos hexists]
    simp only [if_neg hfailed]
    exact holds_pure fun b hb => hb
  · rw [if_neg hexists]
    by_cases hok : result = NO_ERROR
    · simp only [if_pos hok]
      exact ((holds_checked windows operation result).mono (fun _ hb => hb) (fun _ _ hb => hb.1)
        fun _ _ hb => absurd hok hb.2).bind fun _ => hrest
    · simp only [if_neg hok]
      exact ((holds_checked windows operation result).mono (fun _ hb => hb)
        (fun _ _ hb => absurd hb.2 hok) fun _ _ hb => hb.1).bind fun _ => hrest

theorem holds_addInterfaceAddress (address : Address) :
    Holds (At tables f) (addInterfaceAddress windows address)
      (fun added => TakenBack windows tables created allowed f
        (if added then some (.removeInterfaceAddress address) else none))
      (fun _ => At tables f) := by
  apply holds_requireLuid.bind
  intro luid
  apply holds_of_fact
  intro hopen
  obtain ⟨rfl, hadapter, hluid⟩ := hopen
  have hadds : Holds (At tables f)
      (ask (windows.createUnicastIpAddressEntry (addressRow f.luid address)))
      (fun r b => if r = NO_ERROR
        then TakenBack windows tables created allowed f (some (.removeInterfaceAddress address)) b
        else At tables f b)
      (fun _ => At tables f) := by
    apply holds_adds
    intro s r s' hs hrun
    have hadded := hd.createUnicast _ s r s' hrun
    rw [hs] at hadded
    unfold IpTables.AddsUnicast at hadded
    split_ifs at hadded ⊢ with hr
    · obtain ⟨hnew, htables⟩ := hadded
      refine ⟨trivial, ?_⟩
      simp [Footprint.undo, hluid, htables, IpTables.setUnicast_self hnew]
    · exact hadded
  apply hadds.bind
  intro result
  exact holds_added (holds_pure fun _ hb => hb)

theorem holds_addRoute (route : Route) :
    Holds (At tables f) (addRoute windows route)
      (fun added => TakenBack windows tables created allowed f
        (if added then some (.removeRoute route) else none))
      (fun _ => At tables f) := by
  apply holds_requireLuid.bind
  intro luid
  apply holds_of_fact
  intro hopen
  obtain ⟨rfl, hadapter, hluid⟩ := hopen
  have hadds : Holds (At tables f) (ask (windows.createIpForwardEntry2 (routeRow f.luid route)))
      (fun r b => if r = NO_ERROR
        then TakenBack windows tables created allowed f (some (.removeRoute route)) b
        else At tables f b)
      (fun _ => At tables f) := by
    apply holds_adds
    intro s r s' hs hrun
    have hadded := hd.createForward _ s r s' hrun
    rw [hs] at hadded
    unfold IpTables.AddsForward at hadded
    split_ifs at hadded ⊢ with hr
    · obtain ⟨hnew, htables⟩ := hadded
      refine ⟨trivial, ?_⟩
      simp [Footprint.undo, hluid, htables, IpTables.setForward_self hnew]
    · exact hadded
  apply hadds.bind
  intro result
  apply holds_added
  have hflush := holds_leaves (E := fun _ => At tables f)
    (P := fun g => g.Enabled allowed (.removeRoute route) ∧
      g.undo windows created (.removeRoute route) = f) (hd.flush route.family)
  exact hflush.bind fun _ => holds_pure fun _ hb => hb

omit hd in
/-- The MTU that is read back is allowed. -/
theorem allowed_of_hasMtu (hs : windows.Steady tables allowed) {family : AddressFamily}
    {mtu : UInt32} (h : f.HasMtu family mtu) {b : WindowsNetworkBackend σ} (hb : At tables f b) :
    allowed f.luid family mtu := by
  apply hs.inForce f.luid family mtu b.host
  have htables : tables b.host = f.tables := congrArg Footprint.tables hb
  rw [htables]
  exact h.2.2

theorem holds_setMtu {E : Exception → WindowsNetworkBackend σ → Prop} (family : AddressFamily)
    (mtu : UInt32) :
    Holds (At tables f) (ask (windows.setIpInterfaceEntry f.luid family mtu))
      (fun r b => if r = NO_ERROR then At tables (f.withMtu family mtu) b else At tables f b) E := by
  constructor
  · intro b b' r hb hrun
    obtain rfl : footprint tables b = f := hb
    cases hrun
    have hset := hd.setInterface b.luid family mtu b.host _ _ rfl
    change if (windows.setIpInterfaceEntry b.luid family mtu b.host).1 = NO_ERROR then _ else _
    by_cases hr : (windows.setIpInterfaceEntry b.luid family mtu b.host).1 = NO_ERROR
    · rw [if_pos hr] at hset ⊢
      exact congrArg (fun t => (⟨t, b.adapter, b.session, b.luid⟩ : Footprint)) hset
    · rw [if_neg hr] at hset ⊢
      exact congrArg (fun t => (⟨t, b.adapter, b.session, b.luid⟩ : Footprint)) hset
  · intro b b' e hb hrun
    cases hrun

theorem holds_setMtu_allowed (hs : windows.Steady tables allowed)
    {E : Exception → WindowsNetworkBackend σ → Prop} {family : AddressFamily} {mtu : UInt32}
    (hthere : f.tables.mtu (f.luid, family) ≠ none) (hallowed : allowed f.luid family mtu) :
    Holds (At tables f) (ask (windows.setIpInterfaceEntry f.luid family mtu))
      (fun _ => At tables (f.withMtu family mtu)) E := by
  have hset := holds_setMtu (f := f) (E := E) hd family mtu
  refine ⟨fun hb hrun => ?_, hset.error⟩
  have hset := hset.ok hb hrun
  obtain rfl : footprint tables _ = f := hb
  cases hrun
  rwa [if_pos (hs.setInterface _ _ _ _ hthere hallowed)] at hset

theorem holds_setInterfaceMtu (hs : windows.Steady tables allowed) (mtu : UInt32) :
    Holds (At tables f) (setInterfaceMtu windows mtu)
      (fun prior => TakenBack windows tables created allowed f (prior.map .restoreInterfaceMtu))
      (fun _ => At tables f) := by
  apply (holds_interfaceRow hd .inet).bind
  intro ipv4
  apply holds_of_fact
  intro h4
  apply (holds_interfaceRow hd .inet6).bind
  intro ipv6
  apply holds_of_fact
  intro h6
  split_ifs with hsame
  · exact holds_pure fun b hb => hb
  apply holds_read.bind
  intro b
  apply holds_of_fact
  intro hat
  have hluid : b.luid = f.luid := congrArg Footprint.luid hat
  rw [hluid]
  have hallowed4 : allowed f.luid .inet ipv4 := allowed_of_hasMtu hs h4 hat
  have hallowed6 : allowed f.luid .inet6 ipv6 := allowed_of_hasMtu hs h6 hat
  apply (holds_setMtu hd .inet mtu).bind
  intro result
  have hset4 : Holds (fun b => if result = NO_ERROR then At tables (f.withMtu .inet mtu) b
        else At tables f b)
      (onHost (HostProgram.check windows (text "set Wintun interface MTU") result))
      (fun _ => At tables (f.withMtu .inet mtu)) (fun _ => At tables f) := by
    apply (holds_checked windows _ result).mono fun _ hb => hb
    · intro _ b hb
      exact (if_pos hb.2).mp hb.1
    · intro _ b hb
      exact (if_neg hb.2).mp hb.1
  apply hset4.bind
  intro _
  apply (holds_setMtu (f := f.withMtu .inet mtu) hd .inet6 mtu).bind
  intro result6
  by_cases hr : result6 = NO_ERROR
  · simp only [if_pos hr, if_neg (not_not_intro hr)]
    refine holds_pure fun b hb => ?_
    obtain ⟨hadapter, hopen, hmtu4⟩ := h4
    have hat : footprint tables b = (f.withMtu .inet mtu).withMtu .inet6 mtu := hb
    have hback := Footprint.withMtu_back ⟨hadapter, hopen, hmtu4⟩ h6 mtu
    refine ⟨?_, ?_⟩
    · rw [hat]
      refine ⟨hadapter, hopen, ?_, ?_, hallowed4, hallowed6⟩
      · simp [Footprint.withMtu, IpTables.setMtu]
      · simp [Footprint.withMtu]
    · rw [hat]
      exact hback
  · simp only [if_neg hr, if_pos hr]
    have hback : Holds (At tables (f.withMtu .inet mtu))
        (ask (windows.setIpInterfaceEntry f.luid .inet ipv4)) (fun _ => At tables f)
        (fun _ => At tables f) := by
      have hset := holds_setMtu_allowed (f := f.withMtu .inet mtu) (E := fun _ => At tables f) hd hs
        (by simp [Footprint.withMtu]) hallowed4
      rwa [Footprint.withMtu_undo h4] at hset
    apply hback.bind
    intro _
    have hthrow := holds_onHost_throw (P := At tables f) (Q := fun (_ : Unit) _ => False)
      (x := HostProgram.throwWindowsError windows (text "set Wintun IPv6 interface MTU") result6)
      fun _ => ⟨_, rfl⟩
    exact hthrow.bind fun _ => holds_pure fun b hb => False.elim hb

end Setup

/-! ### What the undo functions do -/

section Undo

variable (hd : windows.Documented tables created) (hs : windows.Steady tables allowed)
include hd hs

theorem deleted_forward (row : ForwardRow) (s : σ) :
    tables (windows.deleteIpForwardEntry2 row s).2 = (tables s).setForward row.key none := by
  rw [hd.deleteForward row s _ _ rfl]
  split_ifs with hr
  · rfl
  · have hgone : (tables s).forward row.key = none := by
      by_contra hthere
      exact hr (hs.deleteForward row s hthere)
    exact (IpTables.setForward_self hgone).symm

theorem deleted_unicast (row : UnicastAddressRow) (s : σ) :
    tables (windows.deleteUnicastIpAddressEntry row s).2 = (tables s).setUnicast row.key none := by
  rw [hd.deleteUnicast row s _ _ rfl]
  split_ifs with hr
  · rfl
  · have hgone : (tables s).unicast row.key = none := by
      by_contra hthere
      exact hr (hs.deleteUnicast row s hthere)
    exact (IpTables.setUnicast_self hgone).symm

omit hd hs in
theorem holds_requireLuid_open (hadapter : f.adapter ≠ none) (hluid : f.luid ≠ 0) :
    Holds (At tables f) (requireLuid : Program σ NetLuid)
      (fun luid b => At tables f b ∧ luid = f.luid) (fun _ _ => False) := by
  apply holds_read.bind
  intro b
  apply holds_of_fact
  intro hat
  have hadapter' : b.adapter = f.adapter := congrArg Footprint.adapter hat
  have hluid' : b.luid = f.luid := congrArg Footprint.luid hat
  rw [hadapter', hluid', if_neg (not_or.mpr ⟨hadapter, hluid⟩)]
  exact holds_pure fun b hb => ⟨hb, rfl⟩

/-- An interface that is there is read. -/
theorem holds_interfaceRow_open (family : AddressFamily) (hadapter : f.adapter ≠ none)
    (hluid : f.luid ≠ 0) (hthere : f.tables.mtu (f.luid, family) ≠ none) :
    Holds (At tables f) (interfaceRow windows family) (fun _ => At tables f)
      (fun _ _ => False) := by
  apply (holds_requireLuid_open hadapter hluid).bind
  intro luid
  apply holds_of_fact
  intro hsame
  obtain rfl := hsame
  have hread : Holds (At tables f) (ask (windows.getIpInterfaceEntry f.luid family))
      (fun row b => At tables f b ∧ row.1 = NO_ERROR) (fun _ _ => False) := by
    constructor
    · intro b b' row hb hrun
      have hkept := (holds_ask (E := fun _ _ => False) (hd.getInterface f.luid family)).ok hb hrun
      refine ⟨hkept, ?_⟩
      have htables : tables b.host = f.tables := congrArg Footprint.tables hb
      cases hrun
      exact hs.getInterface f.luid family b.host (by rwa [htables])
    · intro b b' e hb hrun
      cases hrun
  apply hread.bind
  intro row
  apply holds_of_fact
  intro hresult
  exact ((holds_checked windows _ row.1).mono (fun _ hb => hb) (fun _ _ hb => hb.1)
    fun _ _ hb => hb.2 hresult).bind fun _ => holds_pure fun _ hb => hb

theorem holds_restoreMtus {mtu : InterfaceMtuSnapshot}
    (hu : f.Enabled allowed (.restoreInterfaceMtu mtu)) :
    Holds (At tables f) (restoreMtus windows mtu)
      (fun _ => At tables ((f.withMtu .inet mtu.ipv4).withMtu .inet6 mtu.ipv6))
      (fun _ _ => False) := by
  obtain ⟨hadapter, hluid, h4, h6, hallowed4, hallowed6⟩ := hu
  apply (holds_interfaceRow_open hd hs .inet hadapter hluid h4).bind
  intro _
  apply holds_read.bind
  intro b
  apply holds_of_fact
  intro hat
  have hluid' : b.luid = f.luid := congrArg Footprint.luid hat
  rw [hluid']
  apply (holds_setMtu_allowed hd hs h4 hallowed4).bind
  intro _
  have h6' : (f.withMtu .inet mtu.ipv4).tables.mtu (f.luid, .inet6) ≠ none := by
    rwa [Footprint.withMtu, IpTables.setMtu_mtu_of_ne _ _ (by decide)]
  apply (holds_interfaceRow_open (f := f.withMtu .inet mtu.ipv4) hd hs .inet6 hadapter hluid
    h6').bind
  intro _
  exact (holds_setMtu_allowed (f := f.withMtu .inet mtu.ipv4) hd hs h6' hallowed6).bind fun _ =>
    holds_pure fun _ hb => hb

theorem footprint_undo (b : WindowsNetworkBackend σ) (u : UndoCall)
    (hu : (footprint tables b).Enabled allowed u) :
    footprint tables ((backend windows).undo b u) = (footprint tables b).undo windows created u := by
  cases u with
  | removeRoute route =>
    change footprint tables (removeRoute windows route b) =
      if b.luid = 0 then footprint tables b else _
    unfold removeRoute
    split_ifs with hluid
    · rfl
    · simp [footprint, hd.flush route.family _, deleted_forward hd hs]
  | restoreInterfaceMtu mtu =>
    have hrestore := holds_restoreMtus hd hs hu
    change footprint tables (restoreMtus windows mtu b).2 = _
    rcases hrun : restoreMtus windows mtu b with ⟨r, b'⟩
    cases r with
    | ok u => exact hrestore.ok rfl hrun
    | error e => exact False.elim (hrestore.error rfl hrun)
  | removeInterfaceAddress address =>
    change footprint tables (removeInterfaceAddress windows address b) =
      if b.luid = 0 then footprint tables b else _
    unfold removeInterfaceAddress
    split_ifs with hluid
    · rfl
    · simp [footprint, deleted_unicast hd hs]
  | stopPacketSession => exact footprint_stopPacketSession hd b
  | closeAdapter => exact footprint_closeAdapter hd b

end Undo

end WindowsNetworkBackend

end PersonalVpn.Client
