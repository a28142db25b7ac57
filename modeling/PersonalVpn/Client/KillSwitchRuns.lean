import PersonalVpn.Client.KillSwitchPolicy
import PersonalVpn.Client.KillSwitchRemovals
import PersonalVpn.Lib.Run

/-! The filters of a machine over the calls of its processes, their ends and restarts of the machine. -/

namespace PersonalVpn.Client

open PersonalVpn.Core

/-- A filter of the platform, with the key that it was given and, where a dynamic session has added
it, the process whose session this is. -/
structure InstalledFilter where
  filterKey : Guid
  filter : WfpFilter
  process : Option Nat

/-- The filters of the sublayer, the `tunnel_policy_session_` of each process, and whether the
platform's service runs. -/
structure FilteringMachine where
  filters : List InstalledFilter := []
  session : Nat → Option Engine := fun _ => none
  running : Bool := true

/-- The calls of the processes with the answers of the platform, and what ends processes. The keys are
those of the filters that a call adds. A process that ends within a call has no answer to its
commit. -/
inductive KillSwitchEvent where
  | enable (process : Nat) (wfp : Wfp) (keys : Nat → Guid) (endpoints : List WindowsVpnEndpoint)
  | disable (process : Nat) (wfp : Wfp)
  | replace (process : Nat) (wfp : Wfp) (keys : Nat → Guid) (tunnelInterfaceIndex : UInt32)
  | close (process : Nat) (wfp : Wfp)
  | exit (process : Nat)
  | shutdown
  | start

/-- The filters after a transaction of a process. -/
def transacted (filters : List InstalledFilter) (process : Nat) (keys : Nat → Guid)
    (changes : List (Engine × WfpChange)) : List InstalledFilter :=
  (filters.filter fun f => f.filterKey ∉ deletedFilters changes) ++
    (addedFilters changes).mapIdx fun n (sessionFlags, filter) =>
      { filterKey := keys n
        filter
        process := if sessionFlags &&& kDynamicSession ≠ 0 then some process else none }

/-- The filters after the dynamic session of a process has been closed. -/
def withoutSession (filters : List InstalledFilter) (process : Nat) : List InstalledFilter :=
  filters.filter fun f => f.process ≠ some process

namespace FilteringMachine

/-- The call of an event returns. -/
def succeeds (m : FilteringMachine) : KillSwitchEvent → Bool
  | .enable _ wfp _ endpoints =>
    m.running && (enableWindowsKillSwitch wfp endpoints {}).1.toOption.isSome
  | .disable _ wfp => m.running && (disableWindowsKillSwitch wfp {}).1.toOption.isSome
  | .replace process wfp _ index => m.running &&
    (replaceWindowsTunnelPermit wfp index { dynamicSession := m.session process }).1.toOption.isSome
  | _ => true

def step (m : FilteringMachine) : KillSwitchEvent → FilteringMachine
  | .enable process wfp keys endpoints =>
    let s := (enableWindowsKillSwitch wfp endpoints {}).2
    if m.running then { m with filters := transacted m.filters process keys s.committed } else m
  | .disable process wfp =>
    let s := (disableWindowsKillSwitch wfp {}).2
    if m.running then
      { m with filters := transacted m.filters process (fun _ => kProviderKey) s.committed }
    else m
  | .replace process wfp keys index =>
    if m.running then
      let (result, s) := replaceWindowsTunnelPermit wfp index { dynamicSession := m.session process }
      -- only a call that fails at once leaves the old session open
      let filters := match result, s.dynamicSession with
        | .error _, some _ => m.filters
        | _, _ => withoutSession m.filters process
      { m with
        filters := transacted filters process keys s.committed
        session := Function.update m.session process s.dynamicSession }
    else m
  | .close process wfp =>
    let s := (closeWindowsTunnelPermit wfp { dynamicSession := m.session process }).2
    { m with
      filters := withoutSession m.filters process
      session := Function.update m.session process s.dynamicSession }
  | .exit process =>
    { m with
      filters := withoutSession m.filters process
      session := Function.update m.session process none }
  | .shutdown =>
    { filters := m.filters.filter fun f => f.process = none
      session := fun _ => none
      running := false }
  | .start => { m with running := true }

/-- The filters in force: before the platform's service runs, those for the boot. -/
def inForce (m : FilteringMachine) : List WfpFilter :=
  (m.filters.map InstalledFilter.filter).filter fun f =>
    decide (f.flags &&& kFilterBootTime = 0) = m.running

/-- The packet may leave. -/
def Permits (m : FilteringMachine) (p : OutboundPacket) : Prop :=
  Permitted kSubLayerKey m.inForce p

/-- The keys of the filters that belong to the provider. -/
def owned (m : FilteringMachine) : Set Guid :=
  {key | ∃ f ∈ m.filters, f.filterKey = key ∧ f.filter.providerKey = some kProviderKey}

/-- No two filters have the same key. -/
def Distinct (m : FilteringMachine) : Prop := (m.filters.map InstalledFilter.filterKey).Nodup

/-- The platform knows its filters, and gives new ones new keys. -/
def Truthful (m : FilteringMachine) (e : KillSwitchEvent) : Prop :=
  (m.step e).Distinct ∧ match e with
    | .enable _ wfp _ _ => wfp.Truthful m.owned
    | .disable _ wfp => wfp.Truthful m.owned
    | _ => True

end FilteringMachine

/-- What the kill switch is for: the endpoints that the machine is locked to, if it is, the interface
that each process lets packets through, and whether the machine has started. -/
structure Lock where
  endpoints : Option (List WindowsVpnEndpoint) := none
  tunnel : Nat → Option UInt32 := fun _ => none
  running : Bool := true

namespace Lock

/-- A call that fails changes nothing, except that a process that has tried to replace its permit for
another interface has none. -/
def step (l : Lock) (succeeds : Bool) : KillSwitchEvent → Lock
  | .enable _ _ _ endpoints => if succeeds then { l with endpoints := some endpoints } else l
  | .disable _ _ => if succeeds then { l with endpoints := none } else l
  | .replace process _ _ index => { l with
      tunnel := Function.update l.tunnel process
        (if succeeds then some index else if index = 0 then l.tunnel process else none) }
  | .close process _ => { l with tunnel := Function.update l.tunnel process none }
  | .exit process => { l with tunnel := Function.update l.tunnel process none }
  | .shutdown => { l with tunnel := fun _ => none, running := false }
  | .start => { l with running := true }

/-- A locked machine lets nothing through until it has started, and then what leaves through a tunnel
or goes to an endpoint by TCP. -/
def Allows (l : Lock) (p : OutboundPacket) : Prop :=
  ∀ endpoints, l.endpoints = some endpoints → l.running = true ∧
    ((∃ process, l.tunnel process = some p.interfaceIndex) ∨ ∃ e ∈ endpoints, p.IsTcpTo e)

end Lock

namespace FilteringMachine

variable {m : FilteringMachine} {l : Lock}

/-- The filters of a process, or those that stay. -/
def standing (filters : List InstalledFilter) (process : Option Nat) : List WfpFilter :=
  (filters.filter fun f => f.process = process).map InstalledFilter.filter

/-- The filters of the machine are those of the lock. -/
structure Enforces (m : FilteringMachine) (l : Lock) : Prop where
  running : m.running = l.running
  session : ∀ process, m.session process = none ↔ l.tunnel process = none
  down : m.running = false → ∀ process, l.tunnel process = none
  distinct : m.Distinct
  own : ∀ f ∈ m.filters, f.filter.providerKey = some kProviderKey ↔ f.process = none
  lasting : standing m.filters none = (l.endpoints.map killSwitchFilters).getD []
  tunnels : ∀ process, standing m.filters (some process) =
    ((l.tunnel process).map tunnelFilters).getD []

theorem enforces_fresh : Enforces {} {} where
  running := rfl
  session _ := ⟨fun _ => rfl, fun _ => rfl⟩
  down _ _ := rfl
  distinct := List.nodup_nil
  own _ hf := absurd hf List.not_mem_nil
  lasting := rfl
  tunnels _ := rfl

theorem providerKey_of_mem_killSwitchFilters {endpoints : List WindowsVpnEndpoint} {f : WfpFilter}
    (hf : f ∈ killSwitchFilters endpoints) : f.providerKey = some kProviderKey := by
  simp only [killSwitchFilters, List.mem_append, List.mem_cons, List.not_mem_nil, or_false,
    mem_familyFilters] at hf
  obtain ((rfl | rfl) | ⟨e, -, -, rfl | rfl⟩ | rfl | rfl) | ⟨e, -, -, rfl | rfl⟩ | rfl | rfl := hf <;>
    rfl

theorem providerKey_of_mem_tunnelFilters {index : UInt32} {f : WfpFilter}
    (hf : f ∈ tunnelFilters index) : f.providerKey = none := by
  obtain ⟨layer, -, rfl⟩ := List.mem_map.mp hf
  rfl

/-! ### The filters after a transaction -/

/-- The filters that a transaction has added. -/
def additions (process : Nat) (keys : Nat → Guid) (added : List (UInt32 × WfpFilter)) :
    List InstalledFilter :=
  added.mapIdx fun n (sessionFlags, filter) =>
    { filterKey := keys n
      filter
      process := if sessionFlags &&& kDynamicSession ≠ 0 then some process else none }

theorem mem_additions {process : Nat} {keys : Nat → Guid} {sessionFlags : UInt32}
    {added : List WfpFilter} {f : InstalledFilter}
    (hf : f ∈ additions process keys (WfpProgram.ofSession sessionFlags added)) :
    f.filter ∈ added ∧
      f.process = if sessionFlags &&& kDynamicSession ≠ 0 then some process else none := by
  obtain ⟨n, hn, rfl⟩ := List.mem_mapIdx.mp hf
  simp [WfpProgram.ofSession]

theorem map_additions (process : Nat) (keys : Nat → Guid) (sessionFlags : UInt32)
    (added : List WfpFilter) :
    (additions process keys (WfpProgram.ofSession sessionFlags added)).map InstalledFilter.filter =
      added := by
  apply List.ext_getElem
  · simp [additions, WfpProgram.ofSession]
  · intro n hn hn'
    simp [additions, WfpProgram.ofSession]

/-- What a transaction without deletions leaves. -/
theorem transacted_keep (filters : List InstalledFilter) (process : Nat) (keys : Nat → Guid)
    {changes : List (Engine × WfpChange)} (hdeleted : ∀ key, key ∉ deletedFilters changes) :
    transacted filters process keys changes =
      filters ++ additions process keys (addedFilters changes) := by
  have hkeep : filters.filter (fun f => f.filterKey ∉ deletedFilters changes) = filters :=
    List.filter_eq_self.mpr fun f _ => by simpa using hdeleted f.filterKey
  rw [transacted, hkeep]
  rfl

/-- What a transaction that deletes the filters of the provider leaves. -/
theorem Enforces.transacted_purge (h : m.Enforces l) (process : Nat) (keys : Nat → Guid)
    {changes : List (Engine × WfpChange)}
    (hdeleted : ∀ key, key ∈ deletedFilters changes ↔ key ∈ m.owned) :
    transacted m.filters process keys changes =
      m.filters.filter (fun f => f.process ≠ none) ++
        additions process keys (addedFilters changes) := by
  have hkeep : m.filters.filter (fun f => f.filterKey ∉ deletedFilters changes) =
      m.filters.filter fun f => f.process ≠ none := by
    apply List.filter_congr
    intro f hf
    have hiff : f.filterKey ∈ deletedFilters changes ↔ f.process = none := by
      rw [hdeleted, ← h.own f hf]
      constructor
      · rintro ⟨g, hg, hkey, howned⟩
        rwa [← List.inj_on_of_nodup_map h.distinct hg hf hkey]
      · intro howned
        exact ⟨f, hf, rfl, howned⟩
    simp [hiff]
  rw [transacted, hkeep]
  rfl

theorem standing_append (filters filters' : List InstalledFilter) (process : Option Nat) :
    standing (filters ++ filters') process = standing filters process ++ standing filters' process := by
  simp [standing]

/-- Filters of one owner. -/
theorem standing_owner {filters : List InstalledFilter} {owner : Option Nat}
    (howner : ∀ f ∈ filters, f.process = owner) (process : Option Nat) :
    standing filters process =
      if owner = process then filters.map InstalledFilter.filter else [] := by
  unfold standing
  split_ifs with hsame
  · have hall : filters.filter (fun f => f.process = process) = filters :=
      List.filter_eq_self.mpr fun f hf => by simp [howner f hf, hsame]
    rw [hall]
  · have hnone : filters.filter (fun f => f.process = process) = [] :=
      List.filter_eq_nil_iff.mpr fun f hf => by simp [howner f hf, hsame]
    rw [hnone]
    rfl

/-- Some filters go, and those that are left are the ones of certain owners. -/
theorem standing_filter (filters : List InstalledFilter) (keeps : Option Nat → Prop)
    [DecidablePred keeps] (process : Option Nat) :
    standing (filters.filter fun f => keeps f.process) process =
      if keeps process then standing filters process else [] := by
  unfold standing
  rw [List.filter_filter]
  split_ifs with hkeeps
  · congr 1
    apply List.filter_congr
    intro f _
    by_cases hprocess : f.process = process
    · simp [hprocess, hkeeps]
    · simp [hprocess]
  · rw [List.map_eq_nil_iff, List.filter_eq_nil_iff]
    intro f _
    by_cases hprocess : f.process = process
    · simp [hprocess, hkeeps]
    · simp [hprocess]

theorem standing_withoutSession (filters : List InstalledFilter) (process : Nat)
    (owner : Option Nat) : standing (Client.withoutSession filters process) owner =
      if owner = some process then [] else standing filters owner := by
  rw [Client.withoutSession, standing_filter filters (fun owner => owner ≠ some process), ite_not]

theorem Enforces.nothing (h : m.Enforces l) {process : Nat} (hno : l.tunnel process = none) :
    standing m.filters (some process) = [] := by
  rw [h.tunnels, hno]
  rfl

/-! ### What each event does -/

/-- Locking the machine to other endpoints, or to none, leaves the tunnels. -/
theorem Enforces.purged (h : m.Enforces l) {process : Nat} {keys : Nat → Guid}
    {changes : List (Engine × WfpChange)} (endpoints : Option (List WindowsVpnEndpoint))
    (hdeleted : ∀ key, key ∈ deletedFilters changes ↔ key ∈ m.owned)
    (hadded : addedFilters changes =
      WfpProgram.ofSession 0 ((endpoints.map killSwitchFilters).getD []))
    (hdistinct : Distinct { m with filters := transacted m.filters process keys changes }) :
    Enforces { m with filters := transacted m.filters process keys changes }
      { l with endpoints } := by
  have hfilters := h.transacted_purge process keys hdeleted
  rw [hadded] at hfilters
  have hdynamic : (0 : UInt32) &&& kDynamicSession = 0 := by decide
  have hnew : ∀ f ∈ additions process keys
      (WfpProgram.ofSession 0 ((endpoints.map killSwitchFilters).getD [])), f.process = none := by
    intro f hf
    rw [(mem_additions hf).2, if_neg (by simp [hdynamic])]
  refine ⟨h.running, h.session, h.down, hdistinct, ?_, ?_, ?_⟩
  · intro f hf
    dsimp only at hf
    rw [hfilters] at hf
    obtain hf | hf := List.mem_append.mp hf
    · exact h.own f (List.mem_of_mem_filter hf)
    · have howned : f.filter.providerKey = some kProviderKey := by
        have hmem := (mem_additions hf).1
        cases endpoints with
        | none => exact absurd hmem List.not_mem_nil
        | some endpoints => exact providerKey_of_mem_killSwitchFilters hmem
      simp [howned, hnew f hf]
  · rw [hfilters, standing_append, standing_filter m.filters (fun owner => owner ≠ none),
      standing_owner hnew, map_additions]
    simp
  · intro process'
    rw [hfilters, standing_append, standing_filter m.filters (fun owner => owner ≠ none),
      standing_owner hnew, if_pos (by simp), if_neg (by simp), List.append_nil]
    exact h.tunnels process'

/-- The dynamic session of a process is closed, or gone with the process. -/
theorem Enforces.withoutSession (h : m.Enforces l) (process : Nat) :
    Enforces { m with
      filters := Client.withoutSession m.filters process
      session := Function.update m.session process none }
      { l with tunnel := Function.update l.tunnel process none } := by
  refine ⟨h.running, ?_, ?_, ?_, ?_, ?_, ?_⟩
  · intro process'
    by_cases hsame : process' = process
    · simp [hsame]
    · simpa [Function.update_of_ne hsame] using h.session process'
  · intro hdown process'
    by_cases hsame : process' = process
    · simp [hsame]
    · simpa [Function.update_of_ne hsame] using h.down hdown process'
  · exact h.distinct.sublist (List.filter_sublist.map _)
  · intro f hf
    exact h.own f (List.mem_of_mem_filter hf)
  · rw [standing_withoutSession, if_neg (by simp)]
    exact h.lasting
  · intro process'
    dsimp only
    rw [standing_withoutSession]
    by_cases hsame : process' = process
    · simp [hsame]
    · rw [if_neg (by simpa using hsame), Function.update_of_ne hsame]
      exact h.tunnels process'

/-- A process adds its permits where it has none. -/
theorem Enforces.permitted (h : m.Enforces l) (process : Nat) (keys : Nat → Guid) (index : UInt32)
    (changes : List (Engine × WfpChange)) (session : Option Engine) (hup : m.running = true)
    (hno : l.tunnel process = none) (hsession : session.isSome = true)
    (hdeleted : ∀ key, key ∉ deletedFilters changes)
    (hadded : addedFilters changes = WfpProgram.ofSession kDynamicSession (tunnelFilters index))
    (hdistinct : Distinct { m with filters := transacted m.filters process keys changes }) :
    Enforces { m with
      filters := transacted m.filters process keys changes
      session := Function.update m.session process session }
      { l with tunnel := Function.update l.tunnel process (some index) } := by
  have hfilters := transacted_keep m.filters process keys hdeleted
  rw [hadded] at hfilters
  have hdynamic : kDynamicSession &&& kDynamicSession ≠ 0 := by decide
  have hnew : ∀ f ∈ additions process keys
      (WfpProgram.ofSession kDynamicSession (tunnelFilters index)), f.process = some process := by
    intro f hf
    rw [(mem_additions hf).2, if_pos hdynamic]
  have hsome : session ≠ none := by
    intro hnone
    rw [hnone] at hsession
    cases hsession
  refine ⟨h.running, ?_, ?_, hdistinct, ?_, ?_, ?_⟩
  · intro process'
    by_cases hsame : process' = process
    · simp [hsame, hsome]
    · simpa [Function.update_of_ne hsame] using h.session process'
  · intro hdown
    exact absurd (hup.symm.trans hdown) (by decide)
  · intro f hf
    dsimp only at hf
    rw [hfilters] at hf
    obtain hf | hf := List.mem_append.mp hf
    · exact h.own f hf
    · simp [providerKey_of_mem_tunnelFilters (mem_additions hf).1, hnew f hf]
  · rw [hfilters, standing_append, standing_owner hnew]
    simpa using h.lasting
  · intro process'
    dsimp only
    rw [hfilters, standing_append, standing_owner hnew, map_additions]
    by_cases hsame : process' = process
    · rw [hsame, if_pos rfl, Function.update_self, h.nothing hno]
      rfl
    · rw [if_neg (by simpa using fun heq => hsame heq.symm), List.append_nil,
        Function.update_of_ne hsame]
      exact h.tunnels process'

theorem isSome_toOption_of_ok {α ε : Type} {r : Except ε α} {a : α} (h : r = .ok a) :
    r.toOption.isSome = true := by
  rw [h]
  rfl

theorem isSome_toOption_of_error {α ε : Type} {r : Except ε α} {e : ε} (h : r = .error e) :
    r.toOption.isSome = false := by
  rw [h]
  rfl

/-- A transaction without changes. -/
theorem transacted_nil (filters : List InstalledFilter) (process : Nat) (keys : Nat → Guid) :
    transacted filters process keys [] = filters := by
  rw [transacted_keep _ _ _ (by simp [deletedFilters])]
  exact List.append_nil _

theorem Enforces.enable (h : m.Enforces l) {process : Nat} {wfp : Wfp} {keys : Nat → Guid}
    {endpoints : List WindowsVpnEndpoint}
    (ht : m.Truthful (.enable process wfp keys endpoints)) :
    (m.step (.enable process wfp keys endpoints)).Enforces
      (l.step (m.succeeds (.enable process wfp keys endpoints))
        (.enable process wfp keys endpoints)) := by
  obtain ⟨hdistinct, htruthful⟩ := ht
  rcases hrun : enableWindowsKillSwitch wfp endpoints {} with ⟨r, s⟩
  have hsucceeds : m.succeeds (.enable process wfp keys endpoints) =
      (m.running && r.toOption.isSome) := by rw [succeeds, hrun]
  have hstep : m.step (.enable process wfp keys endpoints) = if m.running then
      { m with filters := transacted m.filters process keys s.committed } else m := by
    rw [step, hrun]
  rw [hstep] at hdistinct ⊢
  rw [hsucceeds]
  by_cases hup : m.running = true
  · rw [if_pos hup] at hdistinct ⊢
    rw [hup, Bool.true_and, ← hup]
    cases r with
    | error e =>
      have hsame : s.committed = [] :=
        (WfpProgram.commits_enableWindowsKillSwitch wfp endpoints []).error rfl hrun
      rw [hsame, transacted_nil]
      exact h
    | ok a =>
      have hadded := (WfpProgram.commits_enableWindowsKillSwitch wfp endpoints []).ok rfl hrun
      have hdeleted := ((WfpProgram.purges_enableWindowsKillSwitch htruthful endpoints [] none).ok
        ⟨rfl, rfl⟩ hrun).2
      refine h.purged (some endpoints) ?_ ?_ hdistinct
      · intro key
        rw [hdeleted]
        simp [deletedFilters]
      · rw [hadded]
        rfl
  · rw [if_neg hup, Bool.eq_false_of_not_eq_true hup]
    exact h

theorem Enforces.disable (h : m.Enforces l) {process : Nat} {wfp : Wfp}
    (ht : m.Truthful (.disable process wfp)) :
    (m.step (.disable process wfp)).Enforces
      (l.step (m.succeeds (.disable process wfp)) (.disable process wfp)) := by
  obtain ⟨hdistinct, htruthful⟩ := ht
  rcases hrun : disableWindowsKillSwitch wfp {} with ⟨r, s⟩
  have hsucceeds : m.succeeds (.disable process wfp) = (m.running && r.toOption.isSome) := by
    rw [succeeds, hrun]
  have hstep : m.step (.disable process wfp) = if m.running then
      { m with filters := transacted m.filters process (fun _ => kProviderKey) s.committed }
      else m := by
    rw [step, hrun]
  rw [hstep] at hdistinct ⊢
  rw [hsucceeds]
  by_cases hup : m.running = true
  · rw [if_pos hup] at hdistinct ⊢
    rw [hup, Bool.true_and, ← hup]
    cases r with
    | error e =>
      have hsame : s.committed = [] :=
        (WfpProgram.commits_disableWindowsKillSwitch wfp []).error rfl hrun
      rw [hsame, transacted_nil]
      exact h
    | ok a =>
      have hadded := (WfpProgram.commits_disableWindowsKillSwitch wfp []).ok rfl hrun
      have hdeleted := ((WfpProgram.purges_disableWindowsKillSwitch htruthful [] none).ok
        ⟨rfl, rfl⟩ hrun).2
      refine h.purged none ?_ ?_ hdistinct
      · intro key
        rw [hdeleted]
        simp [deletedFilters]
      · rw [hadded]
        rfl
  · rw [if_neg hup, Bool.eq_false_of_not_eq_true hup]
    exact h

theorem Enforces.replace (h : m.Enforces l) {process : Nat} {wfp : Wfp} {keys : Nat → Guid}
    {index : UInt32} (ht : m.Truthful (.replace process wfp keys index)) :
    (m.step (.replace process wfp keys index)).Enforces
      (l.step (m.succeeds (.replace process wfp keys index))
        (.replace process wfp keys index)) := by
  obtain ⟨hdistinct, -⟩ := ht
  have heffect := WfpProgram.holds_replaceWindowsTunnelPermit wfp index [] (m.session process)
  have hcommits := WfpProgram.commits_replaceWindowsTunnelPermit wfp index []
  rcases hrun : replaceWindowsTunnelPermit wfp index { dynamicSession := m.session process }
    with ⟨r, s⟩
  have hsucceeds : m.succeeds (.replace process wfp keys index) =
      (m.running && r.toOption.isSome) := by rw [succeeds, hrun]
  rw [hsucceeds]
  by_cases hup : m.running = true
  · simp only [step, hrun, if_pos hup] at hdistinct ⊢
    rw [hup, Bool.true_and, ← hup]
    have hclosed := h.withoutSession process
    cases r with
    | error e =>
      obtain ⟨hcommitted, hsession⟩ := heffect.error ⟨rfl, rfl⟩ hrun
      rw [hcommitted, hsession]
      simp only [transacted_nil]
      by_cases hindex : index = 0
      · -- nothing was closed, and there may have been nothing to close
        have hkept : l.step false (.replace process wfp keys index) = l := by
          simp [Lock.step, hindex]
        rw [if_pos hindex, Function.update_eq_self]
        change Enforces _ (l.step false (.replace process wfp keys index))
        rw [hkept]
        cases hheld : m.session process with
        | some session => exact h
        | none =>
          have hno := (h.session process).mp hheld
          rw [← hheld, Function.update_eq_self, ← hno, Function.update_eq_self] at hclosed
          exact hclosed
      · have hlost : l.step false (.replace process wfp keys index) =
            { l with tunnel := Function.update l.tunnel process none } := by
          simp [Lock.step, hindex]
        rw [if_neg hindex]
        change Enforces _ (l.step false (.replace process wfp keys index))
        rw [hlost]
        exact hclosed
    | ok a =>
      obtain ⟨hsession, hdeleted⟩ := heffect.ok ⟨rfl, rfl⟩ hrun
      have hadded := hcommits.ok rfl hrun
      have hpermitted := hclosed.permitted process keys index s.committed s.dynamicSession hup
        (Function.update_self _ _ _) hsession (fun key hkey => absurd ((hdeleted key).mp hkey) List.not_mem_nil) hadded hdistinct
      dsimp only at hpermitted
      rwa [Function.update_idem, Function.update_idem] at hpermitted
  · have hdown := Bool.eq_false_of_not_eq_true hup
    have hnone : (if index = 0 then l.tunnel process else none) = l.tunnel process := by
      rw [h.down hdown process, ite_self]
    have hsame : l.step false (.replace process wfp keys index) = l := by
      simp [Lock.step, hnone]
    rw [step, if_neg hup, hdown, Bool.false_and, hsame]
    exact h

theorem Enforces.step (h : m.Enforces l) {e : KillSwitchEvent} (ht : m.Truthful e) :
    (m.step e).Enforces (l.step (m.succeeds e) e) := by
  cases e with
  | enable process wfp keys endpoints => exact h.enable ht
  | disable process wfp => exact h.disable ht
  | replace process wfp keys index => exact h.replace ht
  | close process wfp =>
    obtain ⟨calls, hrun⟩ := WfpProgram.closeWindowsTunnelPermit_run wfp
      { dynamicSession := m.session process }
    simp only [FilteringMachine.step, hrun]
    exact h.withoutSession process
  | exit process => exact h.withoutSession process
  | shutdown =>
    refine ⟨rfl, fun _ => ⟨fun _ => rfl, fun _ => rfl⟩, fun _ _ => rfl, ?_, ?_, ?_, ?_⟩
    · exact h.distinct.sublist (List.filter_sublist.map _)
    · intro f hf
      exact h.own f (List.mem_of_mem_filter hf)
    · rw [FilteringMachine.step, standing_filter m.filters (fun owner => owner = none), if_pos rfl]
      exact h.lasting
    · intro process
      rw [FilteringMachine.step, standing_filter m.filters (fun owner => owner = none),
        if_neg (by simp)]
      rfl
  | start =>
    refine ⟨rfl, h.session, ?_, h.distinct, h.own, h.lasting, h.tunnels⟩
    intro hno
    cases hno

/-! ### Which packets leave -/

theorem mem_inForce {f : WfpFilter} : f ∈ m.inForce ↔
    (∃ process, f ∈ standing m.filters process) ∧
      decide (f.flags &&& kFilterBootTime = 0) = m.running := by
  rw [inForce, List.mem_filter, decide_eq_true_eq]
  apply and_congr_left
  intro _
  constructor
  · intro hf
    obtain ⟨g, hg, rfl⟩ := List.mem_map.mp hf
    exact ⟨g.process, List.mem_map_of_mem (List.mem_filter.mpr ⟨hg, by simp⟩)⟩
  · rintro ⟨process, hf⟩
    obtain ⟨g, hg, rfl⟩ := List.mem_map.mp hf
    exact List.mem_map_of_mem (List.mem_of_mem_filter hg)

theorem permitted_congr {subLayerKey : Guid} {filters filters' : List WfpFilter}
    (h : ∀ f, f ∈ filters ↔ f ∈ filters') (p : OutboundPacket) :
    Permitted subLayerKey filters p ↔ Permitted subLayerKey filters' p := by
  have hlayer (layerKey : Guid) (f : WfpFilter) : f ∈ atLayer subLayerKey layerKey filters ↔
      f ∈ atLayer subLayerKey layerKey filters' := by
    simp [atLayer, h]
  unfold Permitted
  rw [filterRules.admits_congr (hlayer _), filterRules.admits_congr (hlayer _)]

/-- The filters that the open tunnels have added. -/
theorem Enforces.mem_tunnel (h : m.Enforces l) {process : Nat} {f : WfpFilter} :
    f ∈ standing m.filters (some process) ↔
      ∃ index, l.tunnel process = some index ∧ f ∈ tunnelFilters index := by
  rw [h.tunnels]
  cases l.tunnel process with
  | none => simp
  | some index => simp

theorem tunnelFilters_flags {index : UInt32} {f : WfpFilter} (hf : f ∈ tunnelFilters index) :
    f.flags &&& kFilterBootTime = 0 ∧ f.action = .permit := by
  obtain ⟨layer, -, rfl⟩ := List.mem_map.mp hf
  exact ⟨(by decide : (0 : UInt32) &&& kFilterBootTime = 0), rfl⟩

/-- A machine that is not locked lets everything through. -/
theorem Enforces.unlocked (h : m.Enforces l) (hno : l.endpoints = none) (p : OutboundPacket) :
    m.Permits p := by
  have hpermits : ∀ f ∈ m.inForce, f.action = .permit := by
    intro f hf
    obtain ⟨⟨process, hf⟩, -⟩ := mem_inForce.mp hf
    cases process with
    | none =>
      rw [h.lasting, hno] at hf
      exact absurd hf List.not_mem_nil
    | some process =>
      obtain ⟨index, -, hf⟩ := h.mem_tunnel.mp hf
      exact (tunnelFilters_flags hf).2
  have hlayer (layerKey : Guid) : ∀ f ∈ atLayer kSubLayerKey layerKey m.inForce,
      f.action = .permit := fun f hf => hpermits f (mem_atLayer.mp hf).1
  exact ⟨filterRules.admits_of_permits (hlayer _), filterRules.admits_of_permits (hlayer _)⟩

theorem mem_killSwitchFilters {endpoints : List WindowsVpnEndpoint} {f : WfpFilter} :
    f ∈ killSwitchFilters endpoints ↔
      (∃ ipv6, f = blockFilter (outboundIpPacket ipv6) kFilterBootTime) ∨
      ∃ ipv6, f ∈ familyFilters (outboundIpPacket ipv6) (outboundTransport ipv6) ipv6 endpoints := by
  simp only [killSwitchFilters, List.mem_append, List.mem_cons, List.not_mem_nil, or_false,
    Bool.exists_bool, or_assoc]
  rfl

theorem familyFilters_flags {packetLayer transportLayer : Guid} {ipv6 : Bool}
    {endpoints : List WindowsVpnEndpoint} {f : WfpFilter}
    (hf : f ∈ familyFilters packetLayer transportLayer ipv6 endpoints) :
    f.flags &&& kFilterBootTime = 0 := by
  have hflags : kFilterPersistent &&& kFilterBootTime = 0 := by decide
  obtain ⟨e, -, -, rfl | rfl⟩ | rfl | rfl := mem_familyFilters.mp hf <;> exact hflags

/-- Before the platform's service runs a locked machine lets nothing through. -/
theorem Enforces.booting (h : m.Enforces l) {endpoints : List WindowsVpnEndpoint}
    (hlocked : l.endpoints = some endpoints) (hdown : m.running = false) (p : OutboundPacket) :
    ¬m.Permits p := by
  have hmem (f : WfpFilter) : f ∈ m.inForce ↔
      ∃ ipv6, f = blockFilter (outboundIpPacket ipv6) kFilterBootTime := by
    rw [mem_inForce, hdown, decide_eq_false_iff_not]
    constructor
    · rintro ⟨⟨process, hf⟩, hflags⟩
      cases process with
      | none =>
        rw [h.lasting, hlocked] at hf
        obtain hboot | ⟨ipv6, hf⟩ := mem_killSwitchFilters.mp hf
        · exact hboot
        · exact absurd (familyFilters_flags hf) hflags
      | some process =>
        obtain ⟨index, -, hf⟩ := h.mem_tunnel.mp hf
        exact absurd (tunnelFilters_flags hf).1 hflags
    · intro hboot
      refine ⟨⟨none, ?_⟩, ?_⟩
      · rw [h.lasting, hlocked]
        exact mem_killSwitchFilters.mpr (.inl hboot)
      · obtain ⟨ipv6, rfl⟩ := hboot
        exact (by decide : kFilterBootTime &&& kFilterBootTime ≠ 0)
  intro hpermits
  let block := blockFilter (outboundIpPacket p.remote.isIpv6) kFilterBootTime
  have hblock : block ∈ atLayer kSubLayerKey (outboundIpPacket p.remote.isIpv6) m.inForce :=
    mem_atLayer.mpr ⟨(hmem block).mpr ⟨_, rfl⟩, rfl, rfl⟩
  have hdecides : filterRules.Decides
      (atLayer kSubLayerKey (outboundIpPacket p.remote.isIpv6) m.inForce) p block := by
    refine ⟨fun c hc => absurd hc List.not_mem_nil, fun f hf _ => ?_⟩
    obtain ⟨ipv6, rfl⟩ := (hmem f).mp (mem_atLayer.mp hf).1
    exact le_rfl
  have hno : block.action = .permit := hpermits.1 block hblock hdecides
  cases hno

/-- What leaves a locked machine that has started. -/
theorem Enforces.locked (h : m.Enforces l) {endpoints : List WindowsVpnEndpoint}
    (hlocked : l.endpoints = some endpoints) (hup : m.running = true) (p : OutboundPacket) :
    m.Permits p ↔ (∃ process, l.tunnel process = some p.interfaceIndex) ∨
      ∃ e ∈ endpoints, p.IsTcpTo e := by
  -- the same filters as after one call, with those of the tunnels
  let s : WfpState :=
    { committed := (killSwitchFilters endpoints).map fun f => (⟨0, 0⟩, .filterAdd f) }
  have hs : addedFilters s.committed = WfpProgram.ofSession 0 (killSwitchFilters endpoints) := by
    simp [s, addedFilters, WfpProgram.ofSession, List.filterMap_map]
  let tunnels := (m.filters.filter fun f => f.process ≠ none).map InstalledFilter.filter
  have hmem_tunnels (f : WfpFilter) : f ∈ tunnels ↔
      ∃ process index, l.tunnel process = some index ∧ f ∈ tunnelFilters index := by
    simp only [← h.mem_tunnel]
    constructor
    · intro hf
      obtain ⟨g, hg, rfl⟩ := List.mem_map.mp hf
      obtain ⟨hg, hsome⟩ := List.mem_filter.mp hg
      obtain ⟨process, hprocess⟩ := Option.ne_none_iff_exists'.mp (of_decide_eq_true hsome)
      exact ⟨process, List.mem_map_of_mem (List.mem_filter.mpr ⟨hg, by simp [hprocess]⟩)⟩
    · rintro ⟨process, hf⟩
      obtain ⟨g, hg, rfl⟩ := List.mem_map.mp hf
      obtain ⟨hg, hprocess⟩ := List.mem_filter.mp hg
      refine List.mem_map_of_mem (List.mem_filter.mpr ⟨hg, ?_⟩)
      simp [of_decide_eq_true hprocess]
  have hmem (f : WfpFilter) : f ∈ m.inForce ↔ f ∈ persistentFilters s ++ tunnels := by
    rw [mem_inForce, hup, decide_eq_true_eq, List.mem_append, mem_persistentFilters hs,
      hmem_tunnels]
    constructor
    · rintro ⟨⟨process, hf⟩, hflags⟩
      cases process with
      | none =>
        rw [h.lasting, hlocked] at hf
        obtain ⟨ipv6, rfl⟩ | hf := mem_killSwitchFilters.mp hf
        · exact absurd hflags (by decide : kFilterBootTime &&& kFilterBootTime ≠ 0)
        · exact .inl hf
      | some process => exact .inr ⟨process, h.mem_tunnel.mp hf⟩
    · rintro (⟨ipv6, hf⟩ | ⟨process, index, hopen, hf⟩)
      · refine ⟨⟨none, ?_⟩, familyFilters_flags hf⟩
        rw [h.lasting, hlocked]
        exact mem_killSwitchFilters.mpr (.inr ⟨ipv6, hf⟩)
      · exact ⟨⟨some process, h.mem_tunnel.mpr ⟨index, hopen, hf⟩⟩, (tunnelFilters_flags hf).1⟩
  have hranked : ∀ f ∈ tunnels, f.Ranked := by
    intro f hf
    obtain ⟨process, index, -, hf⟩ := (hmem_tunnels f).mp hf
    exact tunnelFilters_ranked index f hf
  have htunnel {layer : Guid} (hlayer : layer ∈
      [kOutboundIpPacketV4, kOutboundIpPacketV6, kOutboundTransportV4, kOutboundTransportV6]) :
      PermitsAt layer tunnels p ↔ ∃ process, l.tunnel process = some p.interfaceIndex := by
    constructor
    · rintro ⟨f, hf, hat, hmatches, hpermit⟩
      obtain ⟨process, index, hopen, hf⟩ := (hmem_tunnels f).mp hf
      have hindex := (permitsAt_tunnelFilters p hlayer).mp ⟨f, hf, hat, hmatches, hpermit⟩
      exact ⟨process, by rw [hopen, hindex]⟩
    · rintro ⟨process, hopen⟩
      obtain ⟨f, hf, hrest⟩ := (permitsAt_tunnelFilters p hlayer).mpr rfl
      exact ⟨f, (hmem_tunnels f).mpr ⟨process, _, hopen, hf⟩, hrest⟩
  have hpacket : outboundIpPacket p.remote.isIpv6 ∈
      [kOutboundIpPacketV4, kOutboundIpPacketV6, kOutboundTransportV4, kOutboundTransportV6] := by
    cases p.remote.isIpv6 <;> decide
  have htransport : outboundTransport p.remote.isIpv6 ∈
      [kOutboundIpPacketV4, kOutboundIpPacketV6, kOutboundTransportV4, kOutboundTransportV6] := by
    cases p.remote.isIpv6 <;> decide
  rw [Permits, permitted_congr hmem, permitted_iff hs hranked, htunnel hpacket, htunnel htransport]
  constructor
  · rintro ⟨-, htcp | hopen⟩
    · exact .inr htcp
    · exact .inl hopen
  · rintro (hopen | ⟨e, he, htcp⟩)
    · exact ⟨.inr hopen, .inr hopen⟩
    · exact ⟨.inl ⟨e, he, htcp.1⟩, .inl ⟨e, he, htcp⟩⟩

theorem Enforces.permits_iff (h : m.Enforces l) (p : OutboundPacket) :
    m.Permits p ↔ l.Allows p := by
  unfold Lock.Allows
  cases hlocked : l.endpoints with
  | none => simp [h.unlocked hlocked p]
  | some endpoints =>
    simp only [Option.some.injEq, forall_eq']
    rw [← h.running]
    cases hup : m.running with
    | false => simp [h.booting hlocked hup p]
    | true => simp [h.locked hlocked hup p]

/-- A machine and the lock that it is to enforce. -/
def stepBoth (x : FilteringMachine × Lock) (e : KillSwitchEvent) : FilteringMachine × Lock :=
  (x.1.step e, x.2.step (x.1.succeeds e) e)

/-- Whatever processes call, in any order, with whatever answers, and whenever they end or the machine
restarts, a packet leaves exactly where the lock allows it. -/
theorem permits_iff_allows (es : List KillSwitchEvent)
    (hes : Run.Along stepBoth (fun x => x.1.Truthful) ({}, {}) es) (p : OutboundPacket) :
    let x := Run.run stepBoth ({}, {}) es
    x.1.Permits p ↔ x.2.Allows p := by
  intro x
  have hx : x.1.Enforces x.2 := Run.along_invariant (P := fun x => x.1.Enforces x.2)
    (fun _ _ hx ht => hx.step ht) enforces_fresh hes
  exact hx.permits_iff p

/-- A platform that grants every call and knows these filters. -/
def granting (keys : List Guid) : Wfp where
  result _ _ := ERROR_SUCCESS
  engineHandle _ := 1
  provider _ := ⟨kProviderKey, [], kProviderPersistent⟩
  subLayer _ := ⟨kSubLayerKey, [], kSubLayerPersistent, some kProviderKey, 0x7fff⟩
  entries _ := [keys]

theorem truthful_granting {keys : List Guid}
    (h : (m.filters.filter fun f => f.filter.providerKey = some kProviderKey).map
      InstalledFilter.filterKey = keys) : (granting keys).Truthful m.owned := by
  refine ⟨fun n key => ?_, fun _ _ _ _ hno => ?_⟩
  · have hall : enumerated ((granting keys).entries n) = keys := by
      by_cases hnil : keys = [] <;> simp [granting, enumerated, hnil]
    rw [hall, ← h]
    simp [owned, and_comm, and_left_comm]
  · exact absurd hno (by decide : ERROR_SUCCESS ≠ FWP_E_FILTER_NOT_FOUND)

def numbered (n : Nat) : Guid := ⟨UInt32.ofNat n, 0, 0, Vector.replicate 8 0⟩

/-- A machine is locked to one endpoint and then to another, lets packets through an interface while
its process lives, and restarts. -/
def lockedTwice : List KillSwitchEvent :=
  let endpoint (last : UInt8) := Endpoint.toWindows (.v4 #v[192, 0, 2, last] 443)
  [.enable 0 (granting []) numbered [endpoint 1], .replace 0 (granting []) (numbered <| · + 100) 7,
    .enable 0 (granting ((List.range 8).map numbered)) (numbered <| · + 200) [endpoint 2],
    .shutdown, .start]

instance (m : FilteringMachine) : Decidable m.Distinct := inferInstanceAs (Decidable (List.Nodup _))

theorem permits_iff_allows_lockedTwice :
    let x := Run.run stepBoth ({}, {}) lockedTwice
    x.1.Permits ⟨.ipv4 #v[192, 0, 2, 2], IPPROTO_TCP, 443, 3⟩ ∧
      ¬x.1.Permits ⟨.ipv4 #v[192, 0, 2, 1], IPPROTO_TCP, 443, 7⟩ := by
  intro x
  let endpoint := Endpoint.toWindows (.v4 #v[192, 0, 2, 2] 443)
  have hremote : endpoint.remote = .ipv4 #v[192, 0, 2, 2] := Endpoint.remote_toWindows _
  have hlocked : x.2.endpoints = some [endpoint] := by decide +kernel
  have htruthful : Run.Along stepBoth (fun x => x.1.Truthful) ({}, {}) lockedTwice := by
    refine ⟨⟨by decide +kernel, ?_⟩, ⟨by decide +kernel, trivial⟩, ⟨by decide +kernel, ?_⟩,
      ⟨by decide +kernel, trivial⟩, ⟨by decide +kernel, trivial⟩, trivial⟩
    · exact truthful_granting (by decide +kernel)
    · exact truthful_granting (by decide +kernel)
  have hiff := permits_iff_allows lockedTwice htruthful
  constructor
  · refine (hiff _).mpr fun endpoints heq => ⟨rfl, .inr ?_⟩
    obtain rfl := Option.some.inj (hlocked.symm.trans heq)
    exact ⟨endpoint, List.mem_singleton_self _, hremote.symm, rfl, rfl⟩
  · intro hpermits
    obtain ⟨-, ⟨process, hopen⟩ | ⟨e, he, hto, -⟩⟩ := (hiff _).mp hpermits _ hlocked
    · cases hopen
    · rw [List.mem_singleton.mp he, hremote] at hto
      exact absurd hto (by decide)

end FilteringMachine

end PersonalVpn.Client
