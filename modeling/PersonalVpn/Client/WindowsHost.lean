import PersonalVpn.Client.FilteringPlatform

/-! What the network backend calls of Windows, of IP Helper and of Wintun, and what these calls are
documented to do to the tables of a host. -/

namespace PersonalVpn.Client

open PersonalVpn.Core

/-- `NET_LUID`, zero where there is no interface. -/
abbrev NetLuid := UInt64

inductive AddressFamily where
  | inet
  | inet6
  deriving DecidableEq, Repr

/-- `SOCKADDR_INET` without a port. -/
inductive SockaddrInet where
  | ipv4 (address : Ipv4Address)
  | ipv6 (address : Ipv6Address)
  deriving DecidableEq, Repr

def SockaddrInet.family : SockaddrInet → AddressFamily
  | ipv4 _ => .inet
  | ipv6 _ => .inet6

/-- `MIB_UNICASTIPADDRESS_ROW`. -/
structure UnicastAddressRow where
  interfaceLuid : NetLuid
  address : SockaddrInet
  onLinkPrefixLength : UInt8
  prefixOrigin : UInt32
  suffixOrigin : UInt32
  dadState : UInt32
  deriving DecidableEq, Repr

/-- `MIB_IPFORWARD_ROW2`. -/
structure ForwardRow where
  interfaceLuid : NetLuid
  destination : SockaddrInet
  prefixLength : UInt8
  nextHop : SockaddrInet
  sitePrefixLength : UInt8
  metric : UInt32
  protocol : UInt32
  deriving DecidableEq, Repr

/-- A table has one row for an interface and an address. -/
def UnicastAddressRow.key (row : UnicastAddressRow) : NetLuid × SockaddrInet :=
  (row.interfaceLuid, row.address)

abbrev ForwardKey := NetLuid × SockaddrInet × UInt8 × SockaddrInet

def ForwardRow.key (row : ForwardRow) : ForwardKey :=
  (row.interfaceLuid, row.destination, row.prefixLength, row.nextHop)

/-! Constants of the Windows headers. -/

def NO_ERROR : UInt32 := 0
def ERROR_NOT_FOUND : UInt32 := 1168
def ERROR_OBJECT_ALREADY_EXISTS : UInt32 := 5010
def IpPrefixOriginManual : UInt32 := 1
def IpSuffixOriginManual : UInt32 := 1
def IpDadStatePreferred : UInt32 := 4
def MIB_IPPROTO_NETMGMT : UInt32 := 3

/-- The handle of a Wintun adapter. -/
abbrev AdapterHandle := UInt64

/-- The handle of a Wintun packet session. -/
abbrev SessionHandle := UInt64

/-- The calls, on a state that Windows alone reads. -/
structure Windows (σ : Type) where
  getLastError : σ → UInt32
  /-- the text of `std::system_category` for a code -/
  message : UInt32 → Bytes
  loadLibrary : StateM σ Bool
  getProcAddress : Bytes → StateM σ Bool
  wintunOpenAdapter : List UInt16 → StateM σ (Option AdapterHandle)
  wintunCreateAdapter : List UInt16 → StateM σ (Option AdapterHandle)
  wintunCloseAdapter : AdapterHandle → StateM σ Unit
  wintunGetAdapterLuid : AdapterHandle → NetLuid
  wintunStartSession : AdapterHandle → UInt32 → StateM σ (Option SessionHandle)
  wintunEndSession : SessionHandle → StateM σ Unit
  createUnicastIpAddressEntry : UnicastAddressRow → StateM σ UInt32
  deleteUnicastIpAddressEntry : UnicastAddressRow → StateM σ UInt32
  createIpForwardEntry2 : ForwardRow → StateM σ UInt32
  deleteIpForwardEntry2 : ForwardRow → StateM σ UInt32
  /-- with the `NlMtu` of the row -/
  getIpInterfaceEntry : NetLuid → AddressFamily → StateM σ (UInt32 × UInt32)
  setIpInterfaceEntry : NetLuid → AddressFamily → UInt32 → StateM σ UInt32
  flushIpPathTable : AddressFamily → StateM σ UInt32
  getIpForwardTable2 : StateM σ (UInt32 × List ForwardRow)
  getBestRoute2 : SockaddrInet → StateM σ (UInt32 × ForwardRow)
  convertInterfaceLuidToIndex : NetLuid → StateM σ (UInt32 × UInt32)
  convertInterfaceAliasToLuid : List UInt16 → StateM σ (UInt32 × NetLuid)

/-- What is configured on a host: the addresses and routes of its interfaces and their MTUs. -/
structure IpTables where
  unicast : NetLuid × SockaddrInet → Option UnicastAddressRow
  forward : ForwardKey → Option ForwardRow
  mtu : NetLuid × AddressFamily → Option UInt32

namespace IpTables

/-- The tables once an interface is gone. -/
def without (t : IpTables) (luid : NetLuid) : IpTables where
  unicast key := if key.1 = luid then none else t.unicast key
  forward key := if key.1 = luid then none else t.forward key
  mtu key := if key.1 = luid then none else t.mtu key

def HasRoute (t : IpTables) (row : ForwardRow) : Prop := t.forward row.key = some row

/-- The tables with another row for an address, or with none. -/
def setUnicast (t : IpTables) (key : NetLuid × SockaddrInet) (row : Option UnicastAddressRow) :
    IpTables :=
  { t with unicast := Function.update t.unicast key row }

def setForward (t : IpTables) (key : ForwardKey) (row : Option ForwardRow) : IpTables :=
  { t with forward := Function.update t.forward key row }

def setMtu (t : IpTables) (luid : NetLuid) (family : AddressFamily) (mtu : Option UInt32) :
    IpTables :=
  { t with mtu := Function.update t.mtu (luid, family) mtu }

/-- What adding a row does that answers with this result. -/
def AddsUnicast (t : IpTables) (row : UnicastAddressRow) (result : UInt32) (t' : IpTables) : Prop :=
  if result = NO_ERROR then t.unicast row.key = none ∧ t' = t.setUnicast row.key (some row)
  else t' = t

def AddsForward (t : IpTables) (row : ForwardRow) (result : UInt32) (t' : IpTables) : Prop :=
  if result = NO_ERROR then t.forward row.key = none ∧ t' = t.setForward row.key (some row)
  else t' = t

@[simp] theorem setUnicast_setUnicast (t : IpTables) (key : NetLuid × SockaddrInet)
    (row row' : Option UnicastAddressRow) :
    (t.setUnicast key row).setUnicast key row' = t.setUnicast key row' := by
  simp [setUnicast]

@[simp] theorem setForward_setForward (t : IpTables) (key : ForwardKey)
    (row row' : Option ForwardRow) :
    (t.setForward key row).setForward key row' = t.setForward key row' := by
  simp [setForward]

@[simp] theorem setForward_forward_self (t : IpTables) (key : ForwardKey) (row : Option ForwardRow) :
    (t.setForward key row).forward key = row := by
  simp [setForward]

theorem setForward_forward_of_ne (t : IpTables) {key key' : ForwardKey} (h : key' ≠ key)
    (row : Option ForwardRow) : (t.setForward key row).forward key' = t.forward key' := by
  simp [setForward, h]

theorem setUnicast_self {t : IpTables} {key : NetLuid × SockaddrInet}
    {row : Option UnicastAddressRow} (h : t.unicast key = row) : t.setUnicast key row = t := by
  simp [setUnicast, ← h]

theorem setForward_self {t : IpTables} {key : ForwardKey} {row : Option ForwardRow}
    (h : t.forward key = row) : t.setForward key row = t := by
  simp [setForward, ← h]

theorem setMtu_self {t : IpTables} {luid : NetLuid} {family : AddressFamily} {mtu : Option UInt32}
    (h : t.mtu (luid, family) = mtu) : t.setMtu luid family mtu = t := by
  simp [setMtu, ← h]

@[simp] theorem setMtu_mtu_self (t : IpTables) (luid : NetLuid) (family : AddressFamily)
    (mtu : Option UInt32) : (t.setMtu luid family mtu).mtu (luid, family) = mtu := by
  simp [setMtu]

theorem setMtu_mtu_of_ne (t : IpTables) (luid : NetLuid) {family family' : AddressFamily}
    (h : family' ≠ family) (mtu : Option UInt32) :
    (t.setMtu luid family mtu).mtu (luid, family') = t.mtu (luid, family') := by
  simp [setMtu, h]

@[simp] theorem setMtu_setMtu (t : IpTables) (luid : NetLuid) (family : AddressFamily)
    (mtu mtu' : Option UInt32) :
    (t.setMtu luid family mtu).setMtu luid family mtu' = t.setMtu luid family mtu' := by
  simp [setMtu]

theorem setMtu_comm (t : IpTables) (luid : NetLuid) {family family' : AddressFamily}
    (h : family ≠ family') (mtu mtu' : Option UInt32) :
    (t.setMtu luid family mtu).setMtu luid family' mtu' =
      (t.setMtu luid family' mtu').setMtu luid family mtu := by
  simp only [setMtu]
  rw [Function.update_comm (by simp [h])]

end IpTables

/-- The call leaves the tables. -/
def Leaves {σ α : Type} (tables : σ → IpTables) (x : StateM σ α) : Prop :=
  ∀ s, tables (x s).2 = tables s

/-- What the calls are documented to do. An adapter that Wintun creates is one that no row belongs to,
and goes with its rows when it is closed. -/
structure Windows.Documented {σ : Type} (windows : Windows σ) (tables : σ → IpTables)
    (created : AdapterHandle → Bool) : Prop where
  loadLibrary : Leaves tables windows.loadLibrary
  getProcAddress : ∀ name, Leaves tables (windows.getProcAddress name)
  openAdapter : ∀ name, Leaves tables (windows.wintunOpenAdapter name)
  opened : ∀ name s h s', windows.wintunOpenAdapter name s = (some h, s') → created h = false
  createAdapter_none : ∀ name s s', windows.wintunCreateAdapter name s = (none, s') →
    tables s' = tables s
  createAdapter_some : ∀ name s h s', windows.wintunCreateAdapter name s = (some h, s') →
    created h = true ∧ (tables s').without (windows.wintunGetAdapterLuid h) = tables s
  closeAdapter : ∀ h s, tables (windows.wintunCloseAdapter h s).2 =
    if created h then (tables s).without (windows.wintunGetAdapterLuid h) else tables s
  startSession : ∀ h capacity, Leaves tables (windows.wintunStartSession h capacity)
  endSession : ∀ h, Leaves tables (windows.wintunEndSession h)
  createUnicast : ∀ row s r s', windows.createUnicastIpAddressEntry row s = (r, s') →
    (tables s).AddsUnicast row r (tables s')
  deleteUnicast : ∀ row s r s', windows.deleteUnicastIpAddressEntry row s = (r, s') →
    tables s' = if r = NO_ERROR then (tables s).setUnicast row.key none else tables s
  createForward : ∀ row s r s', windows.createIpForwardEntry2 row s = (r, s') →
    (tables s).AddsForward row r (tables s')
  existsForward : ∀ row s s',
    windows.createIpForwardEntry2 row s = (ERROR_OBJECT_ALREADY_EXISTS, s') →
    (tables s).forward row.key ≠ none
  deleteForward : ∀ row s r s', windows.deleteIpForwardEntry2 row s = (r, s') →
    tables s' = if r = NO_ERROR then (tables s).setForward row.key none else tables s
  missingForward : ∀ row s s', windows.deleteIpForwardEntry2 row s = (ERROR_NOT_FOUND, s') →
    (tables s).forward row.key = none
  getInterface : ∀ luid family, Leaves tables (windows.getIpInterfaceEntry luid family)
  gotInterface : ∀ luid family s mtu s',
    windows.getIpInterfaceEntry luid family s = ((NO_ERROR, mtu), s') →
    (tables s).mtu (luid, family) = some mtu
  setInterface : ∀ luid family mtu s r s', windows.setIpInterfaceEntry luid family mtu s = (r, s') →
    tables s' = if r = NO_ERROR then (tables s).setMtu luid family (some mtu) else tables s
  flush : ∀ family, Leaves tables (windows.flushIpPathTable family)
  getTable : Leaves tables windows.getIpForwardTable2
  gotTable : ∀ s rows s', windows.getIpForwardTable2 s = ((NO_ERROR, rows), s') →
    ∀ row : ForwardRow, row.protocol = MIB_IPPROTO_NETMGMT →
      (row ∈ rows ↔ (tables s).forward row.key = some row)
  getBestRoute : ∀ destination, Leaves tables (windows.getBestRoute2 destination)
  luidToIndex : ∀ luid, Leaves tables (windows.convertInterfaceLuidToIndex luid)
  aliasToLuid : ∀ name, Leaves tables (windows.convertInterfaceAliasToLuid name)

/-- What the `noexcept` functions, which cannot report a failure, rely on: a row that is there can be
deleted, an interface that is there can be read, and takes an MTU of its family that is allowed for
it, as the one is that it has. -/
structure Windows.Steady {σ : Type} (windows : Windows σ) (tables : σ → IpTables)
    (allowed : NetLuid → AddressFamily → UInt32 → Prop) : Prop where
  deleteUnicast : ∀ row s, (tables s).unicast row.key ≠ none →
    (windows.deleteUnicastIpAddressEntry row s).1 = NO_ERROR
  deleteForward : ∀ row s, (tables s).forward row.key ≠ none →
    (windows.deleteIpForwardEntry2 row s).1 = NO_ERROR
  getInterface : ∀ luid family s, (tables s).mtu (luid, family) ≠ none →
    (windows.getIpInterfaceEntry luid family s).1.1 = NO_ERROR
  setInterface : ∀ luid family mtu s, (tables s).mtu (luid, family) ≠ none →
    allowed luid family mtu → (windows.setIpInterfaceEntry luid family mtu s).1 = NO_ERROR
  inForce : ∀ luid family mtu s, (tables s).mtu (luid, family) = some mtu →
    allowed luid family mtu

/-- A host that keeps its tables, with one Wintun adapter and the handles it hands out. -/
structure TableHost where
  unicast : NetLuid × SockaddrInet → Option UnicastAddressRow := fun _ => none
  forward : List ForwardRow := []
  mtu : NetLuid × AddressFamily → Option UInt32 := fun _ => none

namespace TableHost

/-- The row with a key. -/
def route (rows : List ForwardRow) (key : ForwardKey) : Option ForwardRow :=
  rows.find? fun row => row.key = key

def tables (s : TableHost) : IpTables := ⟨s.unicast, route s.forward, s.mtu⟩

/-- The adapter is there already. Its interface has the LUID 7 and the index 12. -/
def windows : Windows TableHost where
  getLastError _ := 5
  message _ := text "failed"
  loadLibrary := pure true
  getProcAddress _ := pure true
  wintunOpenAdapter _ := pure (some 1)
  wintunCreateAdapter _ := pure none
  wintunCloseAdapter _ := pure ()
  wintunGetAdapterLuid _ := 7
  wintunStartSession _ _ := pure (some 2)
  wintunEndSession _ := pure ()
  createUnicastIpAddressEntry row s :=
    if (s.unicast row.key).isSome then (ERROR_OBJECT_ALREADY_EXISTS, s)
    else (NO_ERROR, { s with unicast := Function.update s.unicast row.key (some row) })
  deleteUnicastIpAddressEntry row s :=
    if (s.unicast row.key).isSome then
      (NO_ERROR, { s with unicast := Function.update s.unicast row.key none })
    else (ERROR_NOT_FOUND, s)
  createIpForwardEntry2 row s :=
    if (route s.forward row.key).isSome then (ERROR_OBJECT_ALREADY_EXISTS, s)
    else (NO_ERROR, { s with forward := row :: s.forward })
  deleteIpForwardEntry2 row s :=
    if (route s.forward row.key).isSome then
      (NO_ERROR, { s with forward := s.forward.filter fun r => r.key ≠ row.key })
    else (ERROR_NOT_FOUND, s)
  getIpInterfaceEntry luid family s :=
    match s.mtu (luid, family) with
    | some mtu => ((NO_ERROR, mtu), s)
    | none => ((ERROR_NOT_FOUND, 0), s)
  setIpInterfaceEntry luid family mtu s :=
    if (s.mtu (luid, family)).isSome then
      (NO_ERROR, { s with mtu := Function.update s.mtu (luid, family) (some mtu) })
    else (ERROR_NOT_FOUND, s)
  flushIpPathTable _ := pure NO_ERROR
  getIpForwardTable2 s :=
    ((NO_ERROR, s.forward.filter fun row => route s.forward row.key = some row), s)
  getBestRoute2 destination s :=
    match s.forward.find? fun row => row.prefixLength = 0 ∧ row.destination.family = destination.family with
    | some row => ((NO_ERROR, row), s)
    | none => ((ERROR_NOT_FOUND, ⟨0, destination, 0, destination, 0, 0, 0⟩), s)
  convertInterfaceLuidToIndex _ := pure (NO_ERROR, 12)
  convertInterfaceAliasToLuid _ := pure (NO_ERROR, 7)

theorem route_cons (row : ForwardRow) (rows : List ForwardRow) :
    route (row :: rows) = Function.update (route rows) row.key (some row) := by
  funext key
  by_cases hkey : row.key = key
  · rw [← hkey, Function.update_self]
    simp [route]
  · rw [Function.update_of_ne (Ne.symm hkey)]
    simp [route, hkey]

theorem route_filter (gone : ForwardKey) (rows : List ForwardRow) :
    route (rows.filter fun row => row.key ≠ gone) = Function.update (route rows) gone none := by
  funext key
  by_cases hkey : key = gone
  · rw [hkey, Function.update_self]
    simp [route]
  · rw [Function.update_of_ne hkey]
    simp only [route, List.find?_filter]
    congr 1
    funext row
    by_cases hrow : row.key = key
    · simp [hrow, hkey]
    · simp [hrow]

theorem documented : windows.Documented tables fun _ => false where
  loadLibrary _ := rfl
  getProcAddress _ _ := rfl
  openAdapter _ _ := rfl
  opened _ _ _ _ _ := rfl
  createAdapter_none _ _ _ h := by
    cases h
    rfl
  createAdapter_some _ _ _ _ h := by cases h
  closeAdapter _ _ := rfl
  startSession _ _ _ := rfl
  endSession _ _ := rfl
  createUnicast row s r s' h := by
    simp only [windows] at h
    split_ifs at h with hthere
    · cases h
      exact (if_neg (by decide)).mpr rfl
    · cases h
      exact (if_pos rfl).mpr ⟨Option.not_isSome_iff_eq_none.mp hthere, rfl⟩
  deleteUnicast row s r s' h := by
    simp only [windows] at h
    split_ifs at h with hthere
    · cases h
      rfl
    · cases h
      rfl
  createForward row s r s' h := by
    simp only [windows] at h
    split_ifs at h with hthere
    · cases h
      exact (if_neg (by decide)).mpr rfl
    · cases h
      refine (if_pos rfl).mpr ⟨Option.not_isSome_iff_eq_none.mp hthere, ?_⟩
      simp [tables, IpTables.setForward, route_cons]
  existsForward row s s' h := by
    simp only [windows] at h
    split_ifs at h with hthere
    · exact Option.isSome_iff_ne_none.mp hthere
    · cases h
  deleteForward row s r s' h := by
    simp only [windows] at h
    split_ifs at h with hthere
    · cases h
      have hgone := route_filter row.key s.forward
      rw [if_pos rfl]
      exact congrArg (fun forward => (⟨s.unicast, forward, s.mtu⟩ : IpTables)) hgone
    · cases h
      rfl
  missingForward row s s' h := by
    simp only [windows] at h
    split_ifs at h with hthere
    · cases h
    · exact Option.not_isSome_iff_eq_none.mp hthere
  getInterface luid family s := by
    simp only [windows]
    split <;> rfl
  gotInterface luid family s mtu s' h := by
    simp only [windows] at h
    cases hmtu : s.mtu (luid, family) with
    | some m =>
      rw [hmtu] at h
      cases h
      exact hmtu
    | none =>
      rw [hmtu] at h
      cases h
  setInterface luid family mtu s r s' h := by
    simp only [windows] at h
    split_ifs at h with hthere
    · cases h
      rfl
    · cases h
      rfl
  flush _ _ := rfl
  getTable _ := rfl
  gotTable s rows s' h row _ := by
    cases h
    rw [List.mem_filter, decide_eq_true_iff]
    exact ⟨fun hrow => hrow.2, fun hrow => ⟨List.mem_of_find?_eq_some hrow, hrow⟩⟩
  getBestRoute destination s := by
    simp only [windows]
    split <;> rfl
  luidToIndex _ _ := rfl
  aliasToLuid _ _ := rfl

theorem steady : windows.Steady tables fun _ _ _ => True where
  deleteUnicast row s h := by
    have hthere : (s.unicast row.key).isSome = true := Option.isSome_iff_ne_none.mpr h
    simp only [windows, if_pos hthere]
  deleteForward row s h := by
    have hthere : (route s.forward row.key).isSome = true := Option.isSome_iff_ne_none.mpr h
    simp only [windows, if_pos hthere]
  getInterface luid family s h := by
    obtain ⟨mtu, hmtu⟩ := Option.ne_none_iff_exists'.mp h
    simp only [windows, show s.mtu (luid, family) = some mtu from hmtu]
  setInterface luid family mtu s h _ := by
    have hthere : (s.mtu (luid, family)).isSome = true := Option.isSome_iff_ne_none.mpr h
    simp only [windows, if_pos hthere]
  inForce _ _ _ _ _ := trivial

end TableHost

end PersonalVpn.Client
