import PersonalVpn.Client.ClientNetworkTransaction
import PersonalVpn.Lib.Run
import Mathlib.Data.Set.Insert

/-! A transaction takes back exactly what it has set up, in the reverse order. -/

namespace PersonalVpn.Client

open PersonalVpn.Core Protocol

inductive Adapter where
  | closed
  | opened
  | inSession
  deriving DecidableEq, Repr

/-- What a backend changes. -/
structure System where
  adapter : Adapter
  addresses : Set Address
  mtu : InterfaceMtuSnapshot
  routes : Set Route

/-- The `noexcept` calls of a backend. -/
inductive UndoCall where
  | removeRoute (route : Route)
  | restoreInterfaceMtu (mtu : InterfaceMtuSnapshot)
  | removeInterfaceAddress (address : Address)
  | stopPacketSession
  | closeAdapter
  deriving DecidableEq, Repr

namespace UndoCall

/-- What the call takes away is there. -/
def Undoable : UndoCall → System → Prop
  | removeRoute route, s => route ∈ s.routes
  | restoreInterfaceMtu _, _ => True
  | removeInterfaceAddress address, s => address ∈ s.addresses
  | stopPacketSession, s => s.adapter = .inSession
  | closeAdapter, s => s.adapter = .opened

def apply (s : System) : UndoCall → System
  | removeRoute route => { s with routes := s.routes \ {route} }
  | restoreInterfaceMtu mtu => { s with mtu }
  | removeInterfaceAddress address => { s with addresses := s.addresses \ {address} }
  | stopPacketSession => { s with adapter := .opened }
  | closeAdapter => { s with adapter := .closed }

end UndoCall

/-- A call of a backend, a setup call with what it has returned. -/
inductive BackendCall where
  | openAdapter (returned : Except Exception Unit)
  | startPacketSession (returned : Except Exception Unit)
  | addInterfaceAddress (address : Address) (returned : Except Exception Bool)
  | setInterfaceMtu (mtu : UInt32) (returned : Except Exception (Option InterfaceMtuSnapshot))
  | addRoute (route : Route) (returned : Except Exception Bool)
  | undo (call : UndoCall)

namespace BackendCall

def IsSetup : BackendCall → Prop
  | undo _ => False
  | _ => True

/-- The call that takes a setup call back, if that has created or changed something. -/
def undoneBy : BackendCall → Option UndoCall
  | openAdapter (.ok ()) => some .closeAdapter
  | startPacketSession (.ok ()) => some .stopPacketSession
  | addInterfaceAddress address (.ok true) => some (.removeInterfaceAddress address)
  | setInterfaceMtu _ (.ok (some prior)) => some (.restoreInterfaceMtu prior)
  | addRoute route (.ok true) => some (.removeRoute route)
  | _ => none

/-- The call has led from one system to another, from where it can be taken back. -/
def Reversible (c : BackendCall) (s s' : System) : Prop :=
  (c.undoneBy = none → s' = s) ∧ ∀ u, c.undoneBy = some u → u.Undoable s' ∧ u.apply s' = s

theorem Reversible.unchanged {c : BackendCall} {s s' : System} (hnone : c.undoneBy = none)
    (hs : s' = s) : c.Reversible s s' := by
  refine ⟨fun _ => hs, ?_⟩
  intro u hu
  rw [hnone] at hu
  cases hu

theorem Reversible.changed {c : BackendCall} {u : UndoCall} {s s' : System}
    (hsome : c.undoneBy = some u) (hu : u.Undoable s') (hs : u.apply s' = s) :
    c.Reversible s s' := by
  refine ⟨?_, ?_⟩
  · intro hnone
    rw [hsome] at hnone
    cases hnone
  · intro v hv
    rw [hsome] at hv
    cases hv
    exact ⟨hu, hs⟩

end BackendCall

namespace ClientNetworkBackend

variable {σ : Type}

def undo (b : ClientNetworkBackend σ) (s : σ) : UndoCall → σ
  | .removeRoute route => b.removeRoute route s
  | .restoreInterfaceMtu mtu => b.restoreInterfaceMtu mtu s
  | .removeInterfaceAddress address => b.removeInterfaceAddress address s
  | .stopPacketSession => b.stopPacketSession s
  | .closeAdapter => b.closeAdapter s

/-- What a backend promises about the system that its state stands for. A setup call that throws
leaves the system as it is; an object that exists is not created again. -/
structure Contract (b : ClientNetworkBackend σ) (view : σ → System) : Prop where
  openAdapter_error : ∀ {s s' e}, b.openAdapter s = (.error e, s') → view s' = view s
  openAdapter_ok : ∀ {s s'}, (view s).adapter = .closed → b.openAdapter s = (.ok (), s') →
    view s' = { view s with adapter := .opened }
  startPacketSession_error : ∀ {s s' e}, b.startPacketSession s = (.error e, s') →
    view s' = view s
  startPacketSession_ok : ∀ {s s'}, (view s).adapter = .opened →
    b.startPacketSession s = (.ok (), s') → view s' = { view s with adapter := .inSession }
  addInterfaceAddress_error : ∀ {s s' a e}, b.addInterfaceAddress a s = (.error e, s') →
    view s' = view s
  addInterfaceAddress_exists : ∀ {s s' a created}, b.addInterfaceAddress a s = (.ok created, s') →
    a ∈ (view s).addresses → created = false ∧ view s' = view s
  addInterfaceAddress_new : ∀ {s s' a created}, b.addInterfaceAddress a s = (.ok created, s') →
    a ∉ (view s).addresses → created = true ∧
      view s' = { view s with addresses := insert a (view s).addresses }
  setInterfaceMtu_error : ∀ {s s' mtu e}, b.setInterfaceMtu mtu s = (.error e, s') →
    view s' = view s
  setInterfaceMtu_none : ∀ {s s' mtu}, b.setInterfaceMtu mtu s = (.ok none, s') → view s' = view s
  setInterfaceMtu_some : ∀ {s s' mtu prior}, b.setInterfaceMtu mtu s = (.ok (some prior), s') →
    prior = (view s).mtu ∧ ∃ changed, view s' = { view s with mtu := changed }
  addRoute_error : ∀ {s s' r e}, b.addRoute r s = (.error e, s') → view s' = view s
  addRoute_exists : ∀ {s s' r created}, b.addRoute r s = (.ok created, s') →
    r ∈ (view s).routes → created = false ∧ view s' = view s
  addRoute_new : ∀ {s s' r created}, b.addRoute r s = (.ok created, s') →
    r ∉ (view s).routes → created = true ∧
      view s' = { view s with routes := insert r (view s).routes }
  undo : ∀ {s call}, UndoCall.Undoable call (view s) → view (b.undo s call) = call.apply (view s)

namespace Contract

variable {b : ClientNetworkBackend σ} {view : σ → System} (hb : b.Contract view)
include hb

theorem openAdapter_reversible {s s' : σ} {r : Except Exception Unit}
    (hs : (view s).adapter = .closed) (h : b.openAdapter s = (r, s')) :
    (BackendCall.openAdapter r).Reversible (view s) (view s') := by
  cases r with
  | error e => exact .unchanged rfl (hb.openAdapter_error h)
  | ok u =>
    have hopened := hb.openAdapter_ok hs h
    apply BackendCall.Reversible.changed (u := .closeAdapter) rfl
    · simp [UndoCall.Undoable, hopened]
    · simp [UndoCall.apply, hopened, ← hs]

theorem startPacketSession_reversible {s s' : σ} {r : Except Exception Unit}
    (hs : (view s).adapter = .opened) (h : b.startPacketSession s = (r, s')) :
    (BackendCall.startPacketSession r).Reversible (view s) (view s') := by
  cases r with
  | error e => exact .unchanged rfl (hb.startPacketSession_error h)
  | ok u =>
    have hstarted := hb.startPacketSession_ok hs h
    apply BackendCall.Reversible.changed (u := .stopPacketSession) rfl
    · simp [UndoCall.Undoable, hstarted]
    · simp [UndoCall.apply, hstarted, ← hs]

theorem addInterfaceAddress_reversible {s s' : σ} {a : Address} {r : Except Exception Bool}
    (h : b.addInterfaceAddress a s = (r, s')) :
    (BackendCall.addInterfaceAddress a r).Reversible (view s) (view s') := by
  cases r with
  | error e => exact .unchanged rfl (hb.addInterfaceAddress_error h)
  | ok created =>
    by_cases ha : a ∈ (view s).addresses
    · obtain ⟨hcreated, hsame⟩ := hb.addInterfaceAddress_exists h ha
      rw [hcreated]
      exact .unchanged rfl hsame
    · obtain ⟨hcreated, hnew⟩ := hb.addInterfaceAddress_new h ha
      rw [hcreated]
      apply BackendCall.Reversible.changed (u := .removeInterfaceAddress a) rfl
      · simp [UndoCall.Undoable, hnew]
      · simp [UndoCall.apply, hnew, Set.insert_sdiff_self_of_notMem ha]

theorem addRoute_reversible {s s' : σ} {route : Route} {r : Except Exception Bool}
    (h : b.addRoute route s = (r, s')) :
    (BackendCall.addRoute route r).Reversible (view s) (view s') := by
  cases r with
  | error e => exact .unchanged rfl (hb.addRoute_error h)
  | ok created =>
    by_cases hroute : route ∈ (view s).routes
    · obtain ⟨hcreated, hsame⟩ := hb.addRoute_exists h hroute
      rw [hcreated]
      exact .unchanged rfl hsame
    · obtain ⟨hcreated, hnew⟩ := hb.addRoute_new h hroute
      rw [hcreated]
      apply BackendCall.Reversible.changed (u := .removeRoute route) rfl
      · simp [UndoCall.Undoable, hnew]
      · simp [UndoCall.apply, hnew, Set.insert_sdiff_self_of_notMem hroute]

theorem setInterfaceMtu_reversible {s s' : σ} {mtu : UInt32}
    {r : Except Exception (Option InterfaceMtuSnapshot)} (h : b.setInterfaceMtu mtu s = (r, s')) :
    (BackendCall.setInterfaceMtu mtu r).Reversible (view s) (view s') := by
  cases r with
  | error e => exact .unchanged rfl (hb.setInterfaceMtu_error h)
  | ok prior =>
    cases prior with
    | none => exact .unchanged rfl (hb.setInterfaceMtu_none h)
    | some prior =>
      obtain ⟨hprior, changed, hchanged⟩ := hb.setInterfaceMtu_some h
      apply BackendCall.Reversible.changed (u := .restoreInterfaceMtu prior) rfl trivial
      simp [UndoCall.apply, hchanged, hprior]

end Contract

/-- A setup call and its entry in the record of the calls. -/
def note {α : Type} (x : Fallible Exception σ α) (entry : Except Exception α → BackendCall) :
    Fallible Exception (σ × List BackendCall) α := fun w =>
  ((x w.1).1, (x w.1).2, w.2 ++ [entry (x w.1).1])

/-- The backend, with a record of the calls. -/
def logged (b : ClientNetworkBackend σ) : ClientNetworkBackend (σ × List BackendCall) :=
  let noteUndo (w : σ × List BackendCall) (call : UndoCall) : σ × List BackendCall :=
    (b.undo w.1 call, w.2 ++ [.undo call])
  { openAdapter := note b.openAdapter .openAdapter
    startPacketSession := note b.startPacketSession .startPacketSession
    addInterfaceAddress a := note (b.addInterfaceAddress a) (.addInterfaceAddress a)
    setInterfaceMtu mtu := note (b.setInterfaceMtu mtu) (.setInterfaceMtu mtu)
    addRoute r := note (b.addRoute r) (.addRoute r)
    removeRoute r w := noteUndo w (.removeRoute r)
    restoreInterfaceMtu mtu w := noteUndo w (.restoreInterfaceMtu mtu)
    removeInterfaceAddress a w := noteUndo w (.removeInterfaceAddress a)
    stopPacketSession w := noteUndo w .stopPacketSession
    closeAdapter w := noteUndo w .closeAdapter }

end ClientNetworkBackend

namespace ClientNetworkTransaction

variable {σ : Type}

/-- The calls that `rollback` makes, in their order. -/
def undoCalls (t : ClientNetworkTransaction) : List UndoCall :=
  t.createdRoutes.reverse.map .removeRoute ++ t.priorMtu.toList.map .restoreInterfaceMtu ++
    (if t.ipv6AddressCreated
      then t.ipv6Address.toList.map fun a => .removeInterfaceAddress (.ipv6 a) else []) ++
    (if t.addressCreated then [.removeInterfaceAddress (.ipv4 t.address)] else []) ++
    (if t.sessionStarted then [.stopPacketSession] else []) ++
    (if t.adapterOpen then [.closeAdapter] else [])

/-- Nothing is set up. -/
def Idle (t : ClientNetworkTransaction) : Prop := t = { address := t.address }

theorem rollback_system (b : ClientNetworkBackend σ) (w : ClientNetworkTransaction × σ) :
    (rollback b w).2 = Run.run b.undo w.2 w.1.undoCalls := by
  have hroutes : ∀ (routes : List Route) (s : σ),
      routes.foldl (fun s route => b.removeRoute route s) s =
        Run.run b.undo s (routes.map .removeRoute) := by
    intro routes s
    simp [Run.run, List.foldl_map, ClientNetworkBackend.undo]
  simp only [rollback, undoCalls, Run.run_append, hroutes]
  cases w.1.priorMtu <;> cases w.1.ipv6AddressCreated <;> cases w.1.ipv6Address <;>
    cases w.1.addressCreated <;> cases w.1.sessionStarted <;> cases w.1.adapterOpen <;> rfl

theorem rollback_idle (b : ClientNetworkBackend σ) {w : ClientNetworkTransaction × σ}
    (h : w.1.ipv6AddressCreated = true → w.1.ipv6Address.isSome) : Idle (rollback b w).1 := by
  simp only [rollback, Idle]
  cases hc : w.1.ipv6AddressCreated with
  | false => rfl
  | true =>
    obtain ⟨a, ha⟩ := Option.isSome_iff_exists.mp (h hc)
    simp [ha]

/-- The calls of the record that have set something up can be taken back from here. -/
structure Pending (view : σ → System) (start : System) (log : List BackendCall)
    (w : ClientNetworkTransaction × σ × List BackendCall) : Prop where
  recorded : ∃ setups, (∀ c ∈ setups, c.IsSetup) ∧ w.2.2 = log ++ setups ∧
    w.1.undoCalls = (setups.filterMap BackendCall.undoneBy).reverse
  undoable : Run.Along UndoCall.apply (fun s u => u.Undoable s) (view w.2.1) w.1.undoCalls
  restores : Run.run UndoCall.apply (view w.2.1) w.1.undoCalls = start
  ipv6 : w.1.ipv6AddressCreated = true → w.1.ipv6Address.isSome

namespace Pending

variable {b : ClientNetworkBackend σ} {view : σ → System} {start : System}
  {log : List BackendCall} {w : ClientNetworkTransaction × σ × List BackendCall}

theorem refl {t : ClientNetworkTransaction} {s : σ} (h : t.undoCalls = [])
    (hipv6 : t.ipv6AddressCreated = false) : Pending view (view s) log (t, s, log) where
  recorded := ⟨[], by simp [h]⟩
  undoable := by simp [h, Run.Along]
  restores := by simp [h]
  ipv6 := by simp [hipv6]

/-- One more setup call. -/
theorem push (h : Pending view start log w) {t : ClientNetworkTransaction} {s : σ}
    {c : BackendCall} (hsetup : c.IsSetup) (hc : c.Reversible (view w.2.1) (view s))
    (hundo : t.undoCalls = c.undoneBy.toList ++ w.1.undoCalls)
    (hipv6 : t.ipv6AddressCreated = true → t.ipv6Address.isSome) :
    Pending view start log (t, s, w.2.2 ++ [c]) := by
  obtain ⟨setups, hall, hlog, hcalls⟩ := h.recorded
  have hrecorded : ∃ setups, (∀ c ∈ setups, c.IsSetup) ∧ w.2.2 ++ [c] = log ++ setups ∧
      t.undoCalls = (setups.filterMap BackendCall.undoneBy).reverse := by
    refine ⟨setups ++ [c], ?_, ?_, ?_⟩
    · intro d hd
      obtain hd | hd := List.mem_append.mp hd
      · exact hall d hd
      · rw [List.mem_singleton.mp hd]
        exact hsetup
    · rw [hlog, List.append_assoc]
    · rw [hundo, hcalls]
      cases hu : c.undoneBy <;> simp [hu]
  cases hu : c.undoneBy with
  | none =>
    have hsame : view s = view w.2.1 := hc.1 hu
    have hcalls : t.undoCalls = w.1.undoCalls := by simp [hundo, hu]
    refine ⟨hrecorded, ?_, ?_, hipv6⟩
    · rw [hcalls, hsame]
      exact h.undoable
    · rw [hcalls, hsame]
      exact h.restores
  | some u =>
    obtain ⟨hundoable, hback⟩ := hc.2 u hu
    have hcalls : t.undoCalls = u :: w.1.undoCalls := by simp [hundo, hu]
    refine ⟨hrecorded, ?_, ?_, hipv6⟩
    · rw [hcalls, Run.Along, hback]
      exact ⟨hundoable, h.undoable⟩
    · rw [hcalls, Run.run_cons, hback]
      exact h.restores

theorem view_undo (hb : b.Contract view) {s : σ} {calls : List UndoCall}
    (h : Run.Along UndoCall.apply (fun s u => u.Undoable s) (view s) calls) :
    view (Run.run b.undo s calls) = Run.run UndoCall.apply (view s) calls := by
  induction calls generalizing s with
  | nil => rfl
  | cons call calls ih =>
    have hcall := hb.undo h.1
    rw [Run.run_cons, Run.run_cons, ← hcall]
    apply ih
    rw [hcall]
    exact h.2

theorem logged_undo (s : σ) (log : List BackendCall) (calls : List UndoCall) :
    Run.run b.logged.undo (s, log) calls =
      (Run.run b.undo s calls, log ++ calls.map BackendCall.undo) := by
  induction calls generalizing s log with
  | nil => simp
  | cons call calls ih =>
    have hcall : b.logged.undo (s, log) call = (b.undo s call, log ++ [.undo call]) := by
      cases call <;> rfl
    simp [hcall, ih]

/-- Rolling back makes the undo calls of what was set up, last first, and is then where the
transaction started. -/
theorem rollback (h : Pending view start log w) (hb : b.Contract view) :
    let w' := ClientNetworkTransaction.rollback b.logged w
    Idle w'.1 ∧ view w'.2.1 = start ∧ ∃ setups, (∀ c ∈ setups, c.IsSetup) ∧
      w.2.2 = log ++ setups ∧
      w'.2.2 = w.2.2 ++ (setups.filterMap BackendCall.undoneBy).reverse.map .undo := by
  intro w'
  obtain ⟨setups, hall, hlog, hcalls⟩ := h.recorded
  have hrun : w'.2 = (Run.run b.undo w.2.1 w.1.undoCalls, w.2.2 ++ w.1.undoCalls.map .undo) := by
    rw [← logged_undo]
    exact rollback_system b.logged w
  refine ⟨rollback_idle b.logged h.ipv6, ?_, setups, hall, hlog, ?_⟩
  · rw [hrun, view_undo hb h.undoable]
    exact h.restores
  · rw [hrun, hcalls]

end Pending

section Setup

variable {b : ClientNetworkBackend σ} {view : σ → System} {start : System}
  {log : List BackendCall}

theorem holds_call {α : Type} {x : Fallible Exception σ α}
    {set : α → ClientNetworkTransaction → ClientNetworkTransaction}
    {P M : ClientNetworkTransaction × σ → Prop}
    {E : Exception → ClientNetworkTransaction × σ → Prop}
    (hok : ∀ w, P w → ∀ a s, x w.2 = (.ok a, s) → M (set a w.1, s))
    (herror : ∀ w, P w → ∀ e s, x w.2 = (.error e, s) → E e (w.1, s)) :
    Fallible.Holds P (call x set) (fun _ => M) E := by
  apply Fallible.Holds.bind (M := fun a w => M (set a w.1, w.2))
  · constructor
    · intro w w' a hw hrun
      rcases hx : x w.2 with ⟨r, s⟩
      simp only [hx] at hrun
      cases hrun
      exact hok w hw a s hx
    · intro w w' e hw hrun
      rcases hx : x w.2 with ⟨r, s⟩
      simp only [hx] at hrun
      cases hrun
      exact herror w hw e s hx
  · intro a
    exact Fallible.holds_modify fun _ hw => hw

theorem transaction_bind {α : Type} (k : ClientNetworkTransaction → Step σ α)
    (w : ClientNetworkTransaction × σ) : (transaction >>= k) w = k w.1 w := rfl

theorem holds_transaction {P : ClientNetworkTransaction × σ → Prop}
    {M : ClientNetworkTransaction → ClientNetworkTransaction × σ → Prop}
    {E : Exception → ClientNetworkTransaction × σ → Prop} (h : ∀ w, P w → M w.1 w) :
    Fallible.Holds P transaction M E := by
  constructor
  · intro w w' t hw hrun
    cases hrun
    exact h w hw
  · intro w w' e hw hrun
    cases hrun

/-- A setup call leaves something to undo exactly if it has created or changed something. -/
theorem holds_note {α : Type} {x : Fallible Exception σ α}
    (entry : Except Exception α → BackendCall)
    {set : α → ClientNetworkTransaction → ClientNetworkTransaction}
    {P M : ClientNetworkTransaction × σ × List BackendCall → Prop}
    (hP : ∀ w, P w → Pending view start log w) (hsetup : ∀ r, (entry r).IsSetup)
    (hthrow : ∀ e, (entry (.error e)).undoneBy = none)
    (hreversible : ∀ w, P w → ∀ r s, x w.2.1 = (r, s) →
      (entry r).Reversible (view w.2.1) (view s))
    (hundo : ∀ w, P w → ∀ a, (set a w.1).undoCalls =
      (entry (.ok a)).undoneBy.toList ++ w.1.undoCalls)
    (hipv6 : ∀ w, P w → ∀ a, (set a w.1).ipv6AddressCreated = true → (set a w.1).ipv6Address.isSome)
    (hM : ∀ w, P w → ∀ a s, x w.2.1 = (.ok a, s) → ∀ log',
      Pending view start log (set a w.1, s, log') → M (set a w.1, s, log')) :
    Fallible.Holds P (call (ClientNetworkBackend.note x entry) set) (fun _ => M)
      (fun _ => Pending view start log) := by
  apply holds_call
  · intro w hw a s hrun
    rcases hx : x w.2.1 with ⟨r, s'⟩
    simp only [ClientNetworkBackend.note, hx] at hrun
    cases hrun
    exact hM w hw a s' hx _ ((hP w hw).push (hsetup _) (hreversible w hw _ _ hx) (hundo w hw a)
      (hipv6 w hw a))
  · intro w hw e s hrun
    rcases hx : x w.2.1 with ⟨r, s'⟩
    simp only [ClientNetworkBackend.note, hx] at hrun
    cases hrun
    exact (hP w hw).push (hsetup _) (hreversible w hw _ _ hx) (by simp [hthrow]) (hP w hw).ipv6

theorem addRoute_pending (hb : b.Contract view) (parsers : AddressParsers)
    (assignment : IpAssignment) (cidr : Bytes) :
    Fallible.Holds (Pending view start log) (addRoute b.logged parsers assignment cidr)
      (fun _ => Pending view start log) (fun _ => Pending view start log) := by
  apply Fallible.holds_ofExcept.bind
  intro route
  apply holds_note (.addRoute route)
  · intro w hw
    exact hw
  · simp [BackendCall.IsSetup]
  · simp [BackendCall.undoneBy]
  · intro w hw r s hx
    exact hb.addRoute_reversible hx
  · intro w hw created
    cases created <;> simp [undoCalls, BackendCall.undoneBy]
  · intro w hw created
    cases created <;> simpa using hw.ipv6
  · intro w hw created s hx log' h
    exact h

theorem addIpv6Address_pending (hb : b.Contract view) (address : Option Ipv6InterfaceAddress) :
    Fallible.Holds
      (fun w => Pending view start log w ∧ w.1.ipv6Address = address ∧
        w.1.ipv6AddressCreated = false ∧ w.1.priorMtu = none ∧ w.1.createdRoutes = [])
      (addIpv6Address b.logged address)
      (fun _ w => Pending view start log w ∧ w.1.priorMtu = none ∧ w.1.createdRoutes = [])
      (fun _ => Pending view start log) := by
  cases address with
  | none =>
    apply Fallible.holds_modify
    intro w hw
    exact ⟨hw.1, hw.2.2.2⟩
  | some address =>
    apply holds_note (.addInterfaceAddress (.ipv6 address))
    · intro w hw
      exact hw.1
    · simp [BackendCall.IsSetup]
    · simp [BackendCall.undoneBy]
    · intro w hw r s hx
      exact hb.addInterfaceAddress_reversible hx
    · intro w hw created
      obtain ⟨-, haddress, hcreated, hmtu, hroutes⟩ := hw
      cases created <;> simp [undoCalls, BackendCall.undoneBy, haddress, hcreated, hmtu, hroutes]
    · intro w hw created hcreated
      simp [hw.2.1]
    · intro w hw created s hx log' h
      exact ⟨h, hw.2.2.2⟩

/-- The transaction that enters the `try` block. -/
def entered (address : InterfaceAddress) (ipv6Address : Option Ipv6InterfaceAddress) :
    ClientNetworkTransaction :=
  { address, ipv6Address }

theorem install_pending (hb : b.Contract view) (parsers : AddressParsers)
    (assignment : IpAssignment) (routeCidrs : List Bytes) (address : InterfaceAddress)
    (ipv6Address : Option Ipv6InterfaceAddress) :
    Fallible.Holds
      (fun w => Pending view start log w ∧ w.1 = entered address ipv6Address ∧
        (view w.2.1).adapter = .closed)
      (install b.logged parsers assignment routeCidrs)
      (fun _ w => Pending view start log w ∧ w.1.active = true)
      (fun _ => Pending view start log) := by
  apply Fallible.Holds.bind (M := fun _ w => Pending view start log w ∧
    w.1 = { entered address ipv6Address with adapterOpen := true } ∧
    (view w.2.1).adapter = .opened)
  · apply holds_note .openAdapter
    · intro w hw
      exact hw.1
    · simp [BackendCall.IsSetup]
    · simp [BackendCall.undoneBy]
    · intro w hw r s hx
      exact hb.openAdapter_reversible hw.2.2 hx
    · intro w hw u
      simp [undoCalls, BackendCall.undoneBy, hw.2.1, entered]
    · intro w hw u
      simp [hw.2.1, entered]
    · intro w hw u s hx log' h
      have hopened := hb.openAdapter_ok hw.2.2 hx
      exact ⟨h, by simp [hw.2.1], by simp [hopened]⟩
  intro _
  apply Fallible.Holds.bind (M := fun _ w => Pending view start log w ∧
    w.1 = { entered address ipv6Address with adapterOpen := true, sessionStarted := true })
  · apply holds_note .startPacketSession
    · intro w hw
      exact hw.1
    · simp [BackendCall.IsSetup]
    · simp [BackendCall.undoneBy]
    · intro w hw r s hx
      exact hb.startPacketSession_reversible hw.2.2 hx
    · intro w hw u
      simp [undoCalls, BackendCall.undoneBy, hw.2.1, entered]
    · intro w hw u
      simp [hw.2.1, entered]
    · intro w hw u s hx log' h
      exact ⟨h, by simp [hw.2.1]⟩
  intro _
  apply Fallible.Holds.bind (M := fun t w => Pending view start log w ∧ w.1 = t ∧
    t = { entered address ipv6Address with adapterOpen := true, sessionStarted := true })
  · apply holds_transaction
    intro w hw
    exact ⟨hw.1, rfl, hw.2⟩
  intro t
  apply Fallible.Holds.bind (M := fun _ w => Pending view start log w ∧
    w.1.ipv6Address = t.ipv6Address ∧ w.1.ipv6AddressCreated = false ∧ w.1.priorMtu = none ∧
    w.1.createdRoutes = [])
  · apply holds_note (.addInterfaceAddress (.ipv4 t.address))
    · intro w hw
      exact hw.1
    · simp [BackendCall.IsSetup]
    · simp [BackendCall.undoneBy]
    · intro w hw r s hx
      exact hb.addInterfaceAddress_reversible hx
    · intro w hw created
      obtain ⟨-, hw, ht⟩ := hw
      cases created <;> simp [undoCalls, BackendCall.undoneBy, hw, ht, entered]
    · intro w hw created
      simp [hw.2.1, hw.2.2, entered]
    · intro w hw created s hx log' h
      exact ⟨h, by simp [hw.2.1], by simp [hw.2.1, hw.2.2, entered]⟩
  intro _
  apply (addIpv6Address_pending hb t.ipv6Address).bind
  intro _
  apply Fallible.Holds.bind (M := fun _ => Pending view start log)
  · apply holds_note (.setInterfaceMtu assignment.mtu.toUInt32)
    · intro w hw
      exact hw.1
    · simp [BackendCall.IsSetup]
    · simp [BackendCall.undoneBy]
    · intro w hw r s hx
      exact hb.setInterfaceMtu_reversible hx
    · intro w hw prior
      cases prior <;> simp [undoCalls, BackendCall.undoneBy, hw.2.1, hw.2.2]
    · intro w hw prior
      exact hw.1.ipv6
    · intro w hw prior s hx log' h
      exact h
  intro _
  apply (Fallible.holds_forM (addRoute_pending hb parsers assignment) routeCidrs).bind
  intro _
  apply Fallible.holds_modify
  intro w hw
  exact ⟨⟨hw.recorded, hw.undoable, hw.restores, hw.ipv6⟩, rfl⟩

/-- `activate` on an idle transaction enters the `try` block, whatever address was there before. -/
theorem activate_idle (c : ClientNetworkBackend σ) (parsers : AddressParsers)
    (assignment : IpAssignment) {routeCidrs : List Bytes} (hroutes : routeCidrs ≠ [])
    {w : ClientNetworkTransaction × σ} (hw : Idle w.1) :
    activate c parsers assignment routeCidrs w =
      tryCatch (install c parsers assignment routeCidrs) (fun e w => (.error e, rollback c w))
        (entered ⟨assignment.clientAddress, assignment.prefixLength⟩
          (if assignment.ipv6PrefixLength ≠ 0
            then some ⟨assignment.clientIpv6Address, assignment.ipv6PrefixLength⟩ else none),
          w.2) := by
  obtain ⟨t, s⟩ := w
  have ht : t = { address := t.address } := hw
  rw [activate, transaction_bind, ht]
  simp [hroutes]
  rfl

theorem activate_no_routes (c : ClientNetworkBackend σ) (parsers : AddressParsers)
    (assignment : IpAssignment) {w : ClientNetworkTransaction × σ} (hw : Idle w.1) :
    activate c parsers assignment [] w =
      (.error (.invalidArgument (text "at least one tunnel route is required")), w) := by
  obtain ⟨t, s⟩ := w
  have ht : t = { address := t.address } := hw
  rw [activate, transaction_bind, ht]
  rfl

theorem activate_active (c : ClientNetworkBackend σ) (parsers : AddressParsers)
    (assignment : IpAssignment) (routeCidrs : List Bytes) {w : ClientNetworkTransaction × σ}
    (hw : w.1.active = true) :
    activate c parsers assignment routeCidrs w =
      (.error (.logicError (text "network transaction is already active")), w) := by
  rw [activate, transaction_bind]
  simp [hw]
  rfl

theorem rollback_of_idle (c : ClientNetworkBackend σ) {w : ClientNetworkTransaction × σ}
    (hw : Idle w.1) : rollback c w = w := by
  obtain ⟨t, s⟩ := w
  have ht : t = { address := t.address } := hw
  rw [ht]
  rfl

end Setup

/-- Nothing is set up, or everything is, with what `rollback` needs to know of it. -/
def Kept (t : ClientNetworkTransaction) : Prop :=
  Idle t ∨ t.active = true ∧ (t.ipv6AddressCreated = true → t.ipv6Address.isSome)

section AnyBackend

variable (c : ClientNetworkBackend σ) (parsers : AddressParsers)

theorem Kept.rollback {w : ClientNetworkTransaction × σ} (h : Kept w.1) :
    Idle (rollback c w).1 := by
  obtain hidle | ⟨-, hipv6⟩ := h
  · rw [rollback_of_idle c hidle]
    exact hidle
  · exact rollback_idle c hipv6

theorem install_kept (assignment : IpAssignment) (routeCidrs : List Bytes)
    (ipv6Address : Option Ipv6InterfaceAddress) :
    let P (w : ClientNetworkTransaction × σ) : Prop := w.1.ipv6Address = ipv6Address ∧
      (w.1.ipv6AddressCreated = true → ipv6Address.isSome)
    Fallible.Holds P (install c parsers assignment routeCidrs)
      (fun _ w => P w ∧ w.1.active = true) (fun _ => P) := by
  intro P
  have hcall {α : Type} (x : Fallible Exception σ α)
      (set : α → ClientNetworkTransaction → ClientNetworkTransaction)
      (h : ∀ a t, (set a t).ipv6Address = t.ipv6Address ∧
        (set a t).ipv6AddressCreated = t.ipv6AddressCreated) :
      Fallible.Holds P (call x set) (fun _ => P) (fun _ => P) := by
    apply holds_call
    · intro w hw a s hx
      simp only [P, h]
      exact hw
    · intro w hw e s hx
      exact hw
  apply (hcall _ _ (by simp)).bind
  intro _
  apply (hcall _ _ (by simp)).bind
  intro _
  apply Fallible.Holds.bind (M := fun t w => P w ∧ t.ipv6Address = ipv6Address)
  · apply holds_transaction
    intro w hw
    exact ⟨hw, hw.1⟩
  intro t
  apply Fallible.holds_of_fact
  intro ht
  apply (hcall _ _ (by simp)).bind
  intro _
  apply Fallible.Holds.bind (M := fun _ => P)
  · rw [ht]
    cases hipv6 : ipv6Address with
    | none => exact Fallible.holds_modify fun _ hw => hw
    | some address =>
      apply holds_call
      · intro w hw created s hx
        exact ⟨hw.1, by simp [hipv6]⟩
      · intro w hw e s hx
        exact hw
  intro _
  apply (hcall _ _ (by simp)).bind
  intro _
  apply Fallible.Holds.bind (M := fun _ => P)
  · apply Fallible.holds_forM
    intro cidr
    apply Fallible.holds_ofExcept.bind
    intro route
    apply hcall
    intro created t
    cases created <;> simp
  intro _
  apply Fallible.holds_modify
  intro w hw
  exact ⟨hw, rfl⟩

/-- From an idle transaction `activate` sets everything up or nothing. -/
theorem activate_kept (assignment : IpAssignment) (routeCidrs : List Bytes)
    {w w' : ClientNetworkTransaction × σ} {r : Except Exception Unit} (hw : Idle w.1)
    (h : activate c parsers assignment routeCidrs w = (r, w')) : Kept w'.1 := by
  by_cases hroutes : routeCidrs = []
  · rw [hroutes, activate_no_routes _ _ _ hw] at h
    cases h
    exact .inl hw
  rw [activate_idle _ _ _ hroutes hw] at h
  have hinstall := install_kept c parsers assignment routeCidrs
    (if assignment.ipv6PrefixLength ≠ 0
      then some ⟨assignment.clientIpv6Address, assignment.ipv6PrefixLength⟩ else none)
  rcases hx : install c parsers assignment routeCidrs (entered _ _, w.2) with ⟨r', w''⟩
  cases r' with
  | ok u =>
    rw [Fallible.tryCatch_ok hx] at h
    cases h
    obtain ⟨⟨haddress, hcreated⟩, hactive⟩ := hinstall.ok ⟨rfl, by simp [entered]⟩ hx
    refine .inr ⟨hactive, ?_⟩
    rw [haddress]
    exact hcreated
  | error e =>
    rw [Fallible.tryCatch_error hx] at h
    cases h
    obtain ⟨haddress, hcreated⟩ := hinstall.error ⟨rfl, by simp [entered]⟩ hx
    refine .inl (rollback_idle c ?_)
    rw [haddress]
    exact hcreated

end AnyBackend

/-- The undo calls that take the setup calls back, the last of them first. -/
def undone (setups : List BackendCall) : List BackendCall :=
  (setups.filterMap BackendCall.undoneBy).reverse.map .undo

section Runs

variable {b : ClientNetworkBackend σ} {view : σ → System} (hb : b.Contract view)
  (parsers : AddressParsers)
include hb

theorem activate_ok {assignment : IpAssignment} {routeCidrs : List Bytes}
    {w w' : ClientNetworkTransaction × σ × List BackendCall} (hw : Idle w.1)
    (hclosed : (view w.2.1).adapter = .closed)
    (h : activate b.logged parsers assignment routeCidrs w = (.ok (), w')) :
    Pending view (view w.2.1) w.2.2 w' ∧ w'.1.active = true := by
  by_cases hroutes : routeCidrs = []
  · rw [hroutes, activate_no_routes _ _ _ hw] at h
    cases h
  rw [activate_idle _ _ _ hroutes hw] at h
  rcases hx : install b.logged parsers assignment routeCidrs (entered _ _, w.2) with ⟨r, w''⟩
  cases r with
  | error e =>
    rw [Fallible.tryCatch_error hx] at h
    cases h
  | ok u =>
    rw [Fallible.tryCatch_ok hx] at h
    cases h
    exact (install_pending hb parsers assignment routeCidrs _ _).ok
      ⟨Pending.refl rfl rfl, rfl, hclosed⟩ hx

theorem activate_error {assignment : IpAssignment} {routeCidrs : List Bytes} {e : Exception}
    {w w' : ClientNetworkTransaction × σ × List BackendCall} (hw : Idle w.1)
    (hclosed : (view w.2.1).adapter = .closed)
    (h : activate b.logged parsers assignment routeCidrs w = (.error e, w')) :
    Idle w'.1 ∧ view w'.2.1 = view w.2.1 ∧
      ∃ setups, (∀ c ∈ setups, c.IsSetup) ∧ w'.2.2 = w.2.2 ++ setups ++ undone setups := by
  by_cases hroutes : routeCidrs = []
  · rw [hroutes, activate_no_routes _ _ _ hw] at h
    cases h
    exact ⟨hw, rfl, [], by simp [undone]⟩
  rw [activate_idle _ _ _ hroutes hw] at h
  rcases hx : install b.logged parsers assignment routeCidrs (entered _ _, w.2) with ⟨r, w''⟩
  cases r with
  | ok u =>
    rw [Fallible.tryCatch_ok hx] at h
    cases h
  | error e' =>
    rw [Fallible.tryCatch_error hx] at h
    cases h
    have hpending : Pending view (view w.2.1) w.2.2 w'' :=
      (install_pending hb parsers assignment routeCidrs _ _).error
        ⟨Pending.refl rfl rfl, rfl, hclosed⟩ hx
    obtain ⟨hidle, hback, setups, hall, hlog, hundone⟩ := hpending.rollback hb
    refine ⟨hidle, hback, setups, hall, ?_⟩
    rw [hundone, hlog, undone]

end Runs

/-- The calls on a transaction. -/
inductive TransactionCall where
  | activate (assignment : IpAssignment) (routeCidrs : List Bytes)
  | rollback

/-- An exception goes to the caller; the transaction stays. -/
def answer (b : ClientNetworkBackend σ) (parsers : AddressParsers)
    (w : ClientNetworkTransaction × σ) : TransactionCall → ClientNetworkTransaction × σ
  | .activate assignment routeCidrs => (activate b parsers assignment routeCidrs w).2
  | .rollback => rollback b w

/-- Nothing is set up, or everything is that `activate` was asked for. -/
def Settled (view : σ → System) (start : System)
    (w : ClientNetworkTransaction × σ × List BackendCall) : Prop :=
  Idle w.1 ∧ view w.2.1 = start ∨ w.1.active = true ∧ ∃ log, Pending view start log w

theorem Settled.answer {b : ClientNetworkBackend σ} {view : σ → System} (hb : b.Contract view)
    (parsers : AddressParsers) {start : System} (hstart : start.adapter = .closed)
    {w : ClientNetworkTransaction × σ × List BackendCall} (h : Settled view start w)
    (call : TransactionCall) : Settled view start (answer b.logged parsers w call) := by
  cases call with
  | activate assignment routeCidrs =>
    obtain ⟨hidle, hview⟩ | ⟨hactive, hpending⟩ := h
    · have hclosed : (view w.2.1).adapter = .closed := by rw [hview, hstart]
      rcases hr : activate b.logged parsers assignment routeCidrs w with ⟨r, w'⟩
      rw [ClientNetworkTransaction.answer, hr]
      cases r with
      | ok u =>
        obtain ⟨hpending, hactive⟩ := activate_ok hb parsers hidle hclosed hr
        rw [hview] at hpending
        exact .inr ⟨hactive, _, hpending⟩
      | error e =>
        obtain ⟨hidle', hview', -⟩ := activate_error hb parsers hidle hclosed hr
        exact .inl ⟨hidle', hview'.trans hview⟩
    · rw [ClientNetworkTransaction.answer, activate_active _ _ _ _ hactive]
      exact .inr ⟨hactive, hpending⟩
  | rollback =>
    obtain ⟨hidle, hview⟩ | ⟨hactive, log, hpending⟩ := h
    · rw [ClientNetworkTransaction.answer, rollback_of_idle _ hidle]
      exact .inl ⟨hidle, hview⟩
    · obtain ⟨hidle, hview, -⟩ := hpending.rollback hb
      exact .inl ⟨hidle, hview⟩

/-- After any calls of a transaction on a system with the adapter closed: what an `activate` sets up
is taken back by its own failure or by `rollback`, call by call in the reverse order. -/
theorem network_transaction_reversible {b : ClientNetworkBackend σ} {view : σ → System}
    (hb : b.Contract view) (parsers : AddressParsers) {s : σ}
    (hclosed : (view s).adapter = .closed) (calls : List TransactionCall) :
    let w := Run.run (answer b.logged parsers) ({}, s, []) calls
    (w.1.active = false → view w.2.1 = view s ∧ ∀ assignment routeCidrs,
      let r := activate b.logged parsers assignment routeCidrs w
      let r₀ := activate b.logged parsers assignment routeCidrs ({}, w.2)
      -- `activate` throws
      (∀ e, r.1 = .error e → r.2.1.active = false ∧ view r.2.2.1 = view s ∧
        ∃ setups, (∀ c ∈ setups, c.IsSetup) ∧ r.2.2.2 = w.2.2 ++ setups ++ undone setups) ∧
      -- `activate` succeeds, and `rollback` is called
      (r.1 = .ok () → r.2.1.active = true ∧ view (rollback b.logged r.2).2.1 = view s ∧
        ∃ setups, (∀ c ∈ setups, c.IsSetup) ∧ r.2.2.2 = w.2.2 ++ setups ∧
          (rollback b.logged r.2).2.2 = r.2.2.2 ++ undone setups) ∧
      -- a transaction that was used before does what a new one would do
      r.1 = r₀.1 ∧ r.2.2 = r₀.2.2 ∧ r.2.1.active = r₀.2.1.active) ∧
    (w.1.active = true → ∀ assignment routeCidrs,
      activate b.logged parsers assignment routeCidrs w =
        (.error (.logicError (text "network transaction is already active")), w)) ∧
    (rollback b.logged w).1.active = false ∧
    rollback b.logged (rollback b.logged w) = rollback b.logged w := by
  intro w
  have hsettled : Settled view (view s) w :=
    Run.invariant (P := Settled view (view s)) (s := ({}, s, []))
      (fun _ call h => Settled.answer hb parsers hclosed h call) (.inl ⟨rfl, rfl⟩) calls
  have hidle_active {t : ClientNetworkTransaction} (h : Idle t) : t.active = false := by
    rw [h]
  have hrollback : Idle (rollback b.logged w).1 := by
    obtain ⟨hidle, -⟩ | ⟨-, log, hpending⟩ := hsettled
    · rw [rollback_of_idle _ hidle]
      exact hidle
    · exact (hpending.rollback hb).1
  refine ⟨?_, ?_, hidle_active hrollback, rollback_of_idle _ hrollback⟩
  · intro hinactive
    obtain ⟨hidle, hview⟩ | ⟨hactive, -⟩ := hsettled
    · refine ⟨hview, ?_⟩
      intro assignment routeCidrs r r₀
      have hadapter : (view w.2.1).adapter = .closed := by rw [hview, hclosed]
      refine ⟨?_, ?_, ?_⟩
      · intro e he
        obtain ⟨hidle', hview', hsetups⟩ :=
          activate_error hb parsers hidle hadapter (Prod.ext he rfl)
        exact ⟨hidle_active hidle', hview'.trans hview, hsetups⟩
      · intro hok
        obtain ⟨hpending, hactive⟩ := activate_ok hb parsers hidle hadapter (Prod.ext hok rfl)
        obtain ⟨-, hview', setups, hall, hlog, hundone⟩ := hpending.rollback hb
        exact ⟨hactive, hview'.trans hview, setups, hall, hlog, hundone⟩
      · have hnew : Idle ({} : ClientNetworkTransaction) := rfl
        by_cases hroutes : routeCidrs = []
        · have hr := activate_no_routes b.logged parsers assignment hidle
          have hr₀ := activate_no_routes b.logged parsers assignment (w := ({}, w.2)) hnew
          simp only [r, r₀, hroutes, hr, hr₀, true_and]
          exact hinactive
        · have hsame : r = r₀ := by
            simp only [r, r₀, activate_idle _ _ _ hroutes hidle]
            rw [activate_idle _ _ _ hroutes hnew]
          simp [hsame]
    · rw [hactive] at hinactive
      cases hinactive
  · intro hactive assignment routeCidrs
    exact activate_active _ _ _ _ hactive

/-- A host that keeps its addresses and routes in tables. -/
structure Host where
  adapter : Adapter := .closed
  addresses : List Address := []
  mtu : InterfaceMtuSnapshot := ⟨1500, 1500⟩
  routes : List Route := []
  deriving DecidableEq, Repr

namespace Host

def view (h : Host) : System where
  adapter := h.adapter
  addresses := { a | a ∈ h.addresses }
  mtu := h.mtu
  routes := { r | r ∈ h.routes }

def backend : ClientNetworkBackend Host where
  openAdapter h := (.ok (), { h with adapter := .opened })
  startPacketSession h := (.ok (), { h with adapter := .inSession })
  addInterfaceAddress a h :=
    if a ∈ h.addresses then (.ok false, h)
    else (.ok true, { h with addresses := a :: h.addresses })
  setInterfaceMtu mtu h :=
    if h.mtu = ⟨mtu, mtu⟩ then (.ok none, h) else (.ok (some h.mtu), { h with mtu := ⟨mtu, mtu⟩ })
  addRoute r h :=
    if r ∈ h.routes then (.ok false, h) else (.ok true, { h with routes := r :: h.routes })
  removeRoute r h := { h with routes := h.routes.filter (· ≠ r) }
  restoreInterfaceMtu mtu h := { h with mtu }
  removeInterfaceAddress a h := { h with addresses := h.addresses.filter (· ≠ a) }
  stopPacketSession h := { h with adapter := .opened }
  closeAdapter h := { h with adapter := .closed }

theorem backend_contract : backend.Contract view where
  openAdapter_error := by
    intro s s' e h
    cases h
  openAdapter_ok := by
    intro s s' hs h
    cases h
    rfl
  startPacketSession_error := by
    intro s s' e h
    cases h
  startPacketSession_ok := by
    intro s s' hs h
    cases h
    rfl
  addInterfaceAddress_error := by
    intro s s' a e h
    by_cases ha : a ∈ s.addresses <;> simp only [backend, ha, if_true, if_false] at h <;> cases h
  addInterfaceAddress_exists := by
    intro s s' a created h ha
    have ha : a ∈ s.addresses := ha
    simp only [backend, if_pos ha] at h
    cases h
    exact ⟨rfl, rfl⟩
  addInterfaceAddress_new := by
    intro s s' a created h ha
    have ha : a ∉ s.addresses := ha
    simp only [backend, if_neg ha] at h
    cases h
    refine ⟨rfl, ?_⟩
    simp [view, Set.insert_def]
  setInterfaceMtu_error := by
    intro s s' mtu e h
    by_cases hmtu : s.mtu = ⟨mtu, mtu⟩ <;> simp only [backend, hmtu, if_true, if_false] at h <;>
      cases h
  setInterfaceMtu_none := by
    intro s s' mtu h
    by_cases hmtu : s.mtu = ⟨mtu, mtu⟩
    · simp only [backend, if_pos hmtu] at h
      cases h
      rfl
    · simp only [backend, if_neg hmtu] at h
      cases h
  setInterfaceMtu_some := by
    intro s s' mtu prior h
    by_cases hmtu : s.mtu = ⟨mtu, mtu⟩
    · simp only [backend, if_pos hmtu] at h
      cases h
    · simp only [backend, if_neg hmtu] at h
      cases h
      exact ⟨rfl, _, rfl⟩
  addRoute_error := by
    intro s s' r e h
    by_cases hr : r ∈ s.routes <;> simp only [backend, hr, if_true, if_false] at h <;> cases h
  addRoute_exists := by
    intro s s' r created h hr
    have hr : r ∈ s.routes := hr
    simp only [backend, if_pos hr] at h
    cases h
    exact ⟨rfl, rfl⟩
  addRoute_new := by
    intro s s' r created h hr
    have hr : r ∉ s.routes := hr
    simp only [backend, if_neg hr] at h
    cases h
    refine ⟨rfl, ?_⟩
    simp [view, Set.insert_def]
  undo := by
    intro s call h
    cases call with
    | removeRoute r =>
      simp only [ClientNetworkBackend.undo, backend, UndoCall.apply, view]
      congr 1
      ext x
      simp
    | restoreInterfaceMtu mtu => rfl
    | removeInterfaceAddress a =>
      simp only [ClientNetworkBackend.undo, backend, UndoCall.apply, view]
      congr 1
      ext x
      simp
    | stopPacketSession => rfl
    | closeAdapter => rfl

end Host

/-- 10.66.0.2/24 behind 10.66.0.1. -/
def hostAssignment : IpAssignment where
  clientAddress := #v[10, 66, 0, 2]
  gatewayAddress := #v[10, 66, 0, 1]
  prefixLength := 24
  mtu := 1400
  leaseSeconds := 3600
  clientIpv6Address := Ipv6Address.zero
  gatewayIpv6Address := Ipv6Address.zero
  ipv6PrefixLength := 0

/-- A host whose second route is not one: the first is taken back. -/
theorem network_transaction_reversible_host :
    let parsers : AddressParsers := ⟨fun _ => none, fun _ => none⟩
    let routes := [text "10.20.0.0/16", text "10.20.0.0"]
    let r := activate Host.backend.logged parsers hostAssignment routes ({}, {}, [])
    r.1 = .error (.invalidArgument (text "route must use IPv4 CIDR notation")) ∧
      r.2.1.active = false ∧ Host.view r.2.2.1 = Host.view {} := by
  intro parsers routes r
  have hr : r.1 = .error (.invalidArgument (text "route must use IPv4 CIDR notation")) := by
    decide +kernel
  have hreversible := network_transaction_reversible Host.backend_contract parsers (s := {}) rfl []
  rw [Run.run_nil] at hreversible
  have hthrows := ((hreversible.1 rfl).2 hostAssignment routes).1
  have hrun : activate Host.backend.logged parsers hostAssignment routes ({}, {}, []) = r := rfl
  -- without its value, which is large
  clear_value r
  rw [hrun] at hthrows
  obtain ⟨hactive, hview, -⟩ := hthrows _ hr
  exact ⟨hr, hactive, hview⟩

end ClientNetworkTransaction

end PersonalVpn.Client
