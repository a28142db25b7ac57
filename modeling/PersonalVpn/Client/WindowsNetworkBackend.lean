import PersonalVpn.Client.WindowsHost
import PersonalVpn.Client.WindowsKillSwitch

namespace PersonalVpn.Client

open PersonalVpn.Core

/-- `WindowsNetworkBackend::Impl`, with the state of the Windows that it runs on. -/
structure WindowsNetworkBackend (σ : Type) where
  adapterName : List UInt16
  moduleLoaded : Bool := false
  interrupted : Bool := false
  adapter : Option AdapterHandle := none
  session : Option SessionHandle := none
  luid : NetLuid := 0
  tunnelPolicySession : Option Engine := none
  host : σ

def addressRow (luid : NetLuid) (address : Address) : UnicastAddressRow where
  interfaceLuid := luid
  address := match address with
    | .ipv4 address => .ipv4 address.address
    | .ipv6 address => .ipv6 address.address
  onLinkPrefixLength := match address with
    | .ipv4 address => address.prefixLength
    | .ipv6 address => address.prefixLength
  prefixOrigin := IpPrefixOriginManual
  suffixOrigin := IpSuffixOriginManual
  dadState := IpDadStatePreferred

def routeRow (luid : NetLuid) (route : Route) : ForwardRow where
  interfaceLuid := luid
  destination := match route with
    | .ipv4 route => .ipv4 route.network
    | .ipv6 route => .ipv6 route.network
  prefixLength := match route with
    | .ipv4 route => route.prefixLength
    | .ipv6 route => route.prefixLength
  nextHop := match route with
    | .ipv4 route => .ipv4 route.gateway
    | .ipv6 route => .ipv6 route.gateway
  sitePrefixLength := match route with
    | .ipv4 route => route.prefixLength
    | .ipv6 route => route.prefixLength
  metric := 5
  protocol := MIB_IPPROTO_NETMGMT

def Route.family : Route → AddressFamily
  | .ipv4 _ => .inet
  | .ipv6 _ => .inet6

/-- A wide string literal of the source. -/
def wideText (s : String) : List UInt16 := s.toList.map fun c => UInt16.ofNat c.toNat

/-- The exports that `load_library` looks up, in its order. -/
def wintunExports : List Bytes :=
  [text "WintunOpenAdapter", text "WintunCreateAdapter", text "WintunCloseAdapter",
    text "WintunGetAdapterLUID", text "WintunStartSession", text "WintunEndSession",
    text "WintunGetReadWaitEvent", text "WintunReceivePacket", text "WintunReleaseReceivePacket",
    text "WintunAllocateSendPacket", text "WintunSendPacket"]

/-- A computation on a host that may throw. -/
abbrev HostProgram (σ : Type) := Fallible Exception σ

namespace HostProgram

variable {σ : Type} (windows : Windows σ)

/-- A call of Windows. -/
def ask {α : Type} (x : StateM σ α) : HostProgram σ α := fun s => (.ok (x s).1, (x s).2)

/-- A `std::system_error` with its `what()`. -/
def systemError (operation : Bytes) (error : UInt32) : Exception :=
  .runtimeError (operation ++ text ": " ++ windows.message error)

def throwWindowsError {α : Type} (operation : Bytes) (error : UInt32) : HostProgram σ α :=
  throw (systemError windows operation error)

def check (operation : Bytes) (result : UInt32) : HostProgram σ Unit :=
  if result = NO_ERROR then pure () else throwWindowsError windows operation result

/-- A function that throws what `GetLastError` says. -/
def throwLastError {α : Type} (operation : Bytes) : HostProgram σ α := fun s =>
  throwWindowsError windows operation (windows.getLastError s) s

def loadFunction (name : Bytes) : HostProgram σ Unit := do
  if ← ask (windows.getProcAddress name) then pure ()
  else throwLastError windows (text "missing Wintun export " ++ name)

/-- `load_library` without its check. -/
def loadLibrary : HostProgram σ Unit := do
  if ← ask windows.loadLibrary then wintunExports.forM (loadFunction windows)
  else throwLastError windows (text "load wintun.dll")

def flushIpPathTables : HostProgram σ Unit := do
  let _ ← ask (windows.flushIpPathTable .inet)
  let _ ← ask (windows.flushIpPathTable .inet6)

end HostProgram

/-- The test in the loop of `remove_owned_default_routes`. -/
def IsOwnedDefaultRoute (luid : NetLuid) (route : ForwardRow) : Prop :=
  route.prefixLength = 0 ∧
    (route.destination = .ipv4 (Vector.replicate 4 0) ∨
      route.destination = .ipv6 (Vector.replicate 16 0)) ∧
    route.interfaceLuid = luid ∧ route.protocol = MIB_IPPROTO_NETMGMT ∧ route.metric = 5

instance (luid : NetLuid) (route : ForwardRow) : Decidable (IsOwnedDefaultRoute luid route) :=
  inferInstanceAs (Decidable (_ ∧ _))

def endpointSockaddr (endpoint : WindowsVpnEndpoint) : SockaddrInet :=
  if endpoint.ipv6 then .ipv6 endpoint.address else .ipv4 (copyN endpoint.address.toList 0 4)

/-- The route to an endpoint that goes where its present route goes. -/
def bypassRow (endpoint : WindowsVpnEndpoint) (priorRoute : ForwardRow) : ForwardRow where
  interfaceLuid := priorRoute.interfaceLuid
  destination := endpointSockaddr endpoint
  prefixLength := if endpoint.ipv6 then 128 else 32
  nextHop := priorRoute.nextHop
  sitePrefixLength := if endpoint.ipv6 then 128 else 32
  metric := 1
  protocol := MIB_IPPROTO_NETMGMT

namespace HostProgram

variable {σ : Type} (windows : Windows σ)

/-- One round of the loop of `remove_owned_default_routes`. -/
def removeOwnedDefaultRoute (luid : NetLuid) (route : ForwardRow) : HostProgram σ Unit := do
  if IsOwnedDefaultRoute luid route then
    let deleteResult ← ask (windows.deleteIpForwardEntry2 route)
    if deleteResult ≠ NO_ERROR ∧ deleteResult ≠ ERROR_NOT_FOUND then
      throwWindowsError windows (text "remove stale VPN default route") deleteResult

def removeOwnedDefaultRoutes (luid : NetLuid) : HostProgram σ Unit := do
  let (tableResult, table) ← ask windows.getIpForwardTable2
  check windows (text "enumerate stale VPN default routes") tableResult
  table.forM (removeOwnedDefaultRoute windows luid)
  flushIpPathTables windows

/-- One round of the loop of `add_transport_bypass_routes`. -/
def addTransportBypassRoute (tunnelLuid : NetLuid) (endpoint : WindowsVpnEndpoint) :
    HostProgram σ Unit := do
  let (routeResult, priorRoute) ← ask (windows.getBestRoute2 (endpointSockaddr endpoint))
  check windows (text "find physical route to VPN server") routeResult
  if priorRoute.interfaceLuid = tunnelLuid then
    throw (.runtimeError
      (text "VPN server route resolves through the tunnel adapter; refusing recursion"))
  let addResult ← ask (windows.createIpForwardEntry2 (bypassRow endpoint priorRoute))
  if addResult ≠ NO_ERROR ∧ addResult ≠ ERROR_OBJECT_ALREADY_EXISTS then
    throwWindowsError windows (text "add VPN server bypass route") addResult

def addTransportBypassRoutes (endpoints : List WindowsVpnEndpoint) (tunnelLuid : NetLuid) :
    HostProgram σ Unit := do
  endpoints.forM (addTransportBypassRoute windows tunnelLuid)
  flushIpPathTables windows

end HostProgram

namespace WindowsNetworkBackend

open HostProgram (systemError throwWindowsError throwLastError check)

variable {σ : Type} (windows : Windows σ)

abbrev Program (σ : Type) := Fallible Exception (WindowsNetworkBackend σ)

def onHost {α : Type} (x : HostProgram σ α) : Program σ α := fun b =>
  ((x b.host).1, { b with host := (x b.host).2 })

/-- A call of Windows. -/
def ask {α : Type} (x : StateM σ α) : Program σ α := onHost (HostProgram.ask x)

/-- The constructor. -/
def create (adapterName : List UInt16) (host : σ) : Except Exception (WindowsNetworkBackend σ) := do
  throwIf (adapterName = [] ∨ adapterName.length > 128)
    (.invalidArgument (text "Wintun adapter name must contain 1 to 128 characters"))
  return { adapterName, host }

def loadLibrary : Program σ Unit := do
  if (← get).moduleLoaded then return
  onHost (HostProgram.loadLibrary windows)
  modify fun b => { b with moduleLoaded := true }

def stopPacketSession (b : WindowsNetworkBackend σ) : WindowsNetworkBackend σ :=
  let b := { b with interrupted := true }
  match b.session with
  | none => b
  | some session => { b with host := (windows.wintunEndSession session b.host).2, session := none }

def closeAdapter (b : WindowsNetworkBackend σ) : WindowsNetworkBackend σ :=
  let b := stopPacketSession windows b
  let b := match b.adapter with
    | none => b
    | some adapter =>
      { b with host := (windows.wintunCloseAdapter adapter b.host).2, adapter := none }
  { b with luid := 0 }

/-- The handle that `open_adapter` takes. -/
def openOrCreateAdapter (name : List UInt16) : Program σ (Option AdapterHandle) := do
  match ← ask (windows.wintunOpenAdapter name) with
  | some adapter => return some adapter
  | none => ask (windows.wintunCreateAdapter name)

/-- `open_adapter` with its handle. -/
def takeAdapter : Option AdapterHandle → Program σ Unit
  | none => onHost (throwLastError windows (text "open or create Wintun adapter"))
  | some adapter => do
    let luid := windows.wintunGetAdapterLuid adapter
    modify fun b => { b with adapter := some adapter, luid }
    if luid = 0 then
      modify (closeAdapter windows)
      throw (.runtimeError (text "Wintun returned an invalid interface LUID"))

def openAdapter : Program σ Unit := do
  if (← get).adapter.isSome then return
  loadLibrary windows
  let adapter ← openOrCreateAdapter windows (← get).adapterName
  takeAdapter windows adapter

def startPacketSession : Program σ Unit := do
  let b ← get
  match b.adapter, b.session with
  | some adapter, none =>
    modify fun b => { b with interrupted := false }
    match ← ask (windows.wintunStartSession adapter (4 * 1024 * 1024)) with
    | none => onHost (throwLastError windows (text "start Wintun packet session"))
    | some session => modify fun b => { b with session := some session }
  | _, _ =>
    throw (.logicError (text "Wintun session requires one open adapter and no prior session"))

def requireLuid : Program σ NetLuid := do
  let b ← get
  if b.adapter = none ∨ b.luid = 0 then
    throw (.logicError (text "Wintun adapter is not open"))
  return b.luid

def interfaceRow (family : AddressFamily) : Program σ UInt32 := do
  let luid ← requireLuid
  let (result, mtu) ← ask (windows.getIpInterfaceEntry luid family)
  onHost (check windows (text "read Wintun IP interface") result)
  return mtu

/-- Both overloads. -/
def addInterfaceAddress (address : Address) : Program σ Bool := do
  let luid ← requireLuid
  let result ← ask (windows.createUnicastIpAddressEntry (addressRow luid address))
  if result = ERROR_OBJECT_ALREADY_EXISTS then return false
  let operation := match address with
    | .ipv4 _ => text "add Wintun interface address"
    | .ipv6 _ => text "add Wintun IPv6 interface address"
  onHost (check windows operation result)
  return true

def addRoute (route : Route) : Program σ Bool := do
  let luid ← requireLuid
  let result ← ask (windows.createIpForwardEntry2 (routeRow luid route))
  if result = ERROR_OBJECT_ALREADY_EXISTS then return false
  let operation := match route with
    | .ipv4 _ => text "add Wintun route"
    | .ipv6 _ => text "add Wintun IPv6 route"
  onHost (check windows operation result)
  let _ ← ask (windows.flushIpPathTable route.family)
  return true

def setInterfaceMtu (mtu : UInt32) : Program σ (Option InterfaceMtuSnapshot) := do
  let ipv4 ← interfaceRow windows .inet
  let ipv6 ← interfaceRow windows .inet6
  if ipv4 = mtu ∧ ipv6 = mtu then return none
  let luid := (← get).luid
  let result ← ask (windows.setIpInterfaceEntry luid .inet mtu)
  onHost (check windows (text "set Wintun interface MTU") result)
  let result ← ask (windows.setIpInterfaceEntry luid .inet6 mtu)
  if result ≠ NO_ERROR then
    let _ ← ask (windows.setIpInterfaceEntry luid .inet ipv4)
    onHost (throwWindowsError windows (text "set Wintun IPv6 interface MTU") result)
  return some ⟨ipv4, ipv6⟩

def removeRoute (route : Route) (b : WindowsNetworkBackend σ) : WindowsNetworkBackend σ :=
  if b.luid = 0 then b
  else
    let host := (windows.deleteIpForwardEntry2 (routeRow b.luid route) b.host).2
    { b with host := (windows.flushIpPathTable route.family host).2 }

/-- The `try` block of `restore_interface_mtu`. -/
def restoreMtus (mtu : InterfaceMtuSnapshot) : Program σ Unit := do
  let _ ← interfaceRow windows .inet
  let luid := (← get).luid
  let _ ← ask (windows.setIpInterfaceEntry luid .inet mtu.ipv4)
  let _ ← interfaceRow windows .inet6
  let _ ← ask (windows.setIpInterfaceEntry luid .inet6 mtu.ipv6)

def restoreInterfaceMtu (mtu : InterfaceMtuSnapshot) (b : WindowsNetworkBackend σ) :
    WindowsNetworkBackend σ :=
  (restoreMtus windows mtu b).2

def removeInterfaceAddress (address : Address) (b : WindowsNetworkBackend σ) :
    WindowsNetworkBackend σ :=
  if b.luid = 0 then b
  else
    { b with
      host := (windows.deleteUnicastIpAddressEntry (addressRow b.luid address) b.host).2 }

/-- The virtual functions. -/
def backend : ClientNetworkBackend (WindowsNetworkBackend σ) where
  openAdapter := openAdapter windows
  startPacketSession := startPacketSession windows
  addInterfaceAddress := addInterfaceAddress windows
  setInterfaceMtu := setInterfaceMtu windows
  addRoute := addRoute windows
  removeRoute := removeRoute windows
  restoreInterfaceMtu := restoreInterfaceMtu windows
  removeInterfaceAddress := removeInterfaceAddress windows
  stopPacketSession := stopPacketSession windows
  closeAdapter := closeAdapter windows

/-- What a call on the filters throws, for the caller of the backend. -/
def wfpException : WfpException → Exception
  | .program e => e
  | .systemError code operation => systemError windows operation code

/-- `enable_windows_kill_switch`, for the caller of the backend. -/
def enableFilters (wfp : Wfp) (endpoints : List WindowsVpnEndpoint) : Program σ Unit :=
  Fallible.ofExcept ((enableWindowsKillSwitch wfp endpoints {}).1.mapError (wfpException windows))

/-- A function of the kill switch on the session that the backend keeps. -/
def runPolicy (x : WfpProgram Unit) : Program σ Unit := fun b =>
  let (result, s) := x { dynamicSession := b.tunnelPolicySession }
  (result.mapError (wfpException windows), { b with tunnelPolicySession := s.dynamicSession })

/-- `enable_kill_switch` up to the permit for the interface, whose index it reads last. -/
def prepareFullTunnel (wfp : Wfp) (endpoints : List WindowsVpnEndpoint) : Program σ UInt32 := do
  openAdapter windows
  enableFilters windows wfp endpoints
  let luid := (← get).luid
  onHost (HostProgram.removeOwnedDefaultRoutes windows luid)
  onHost (HostProgram.addTransportBypassRoutes windows endpoints luid)
  let (indexResult, interfaceIndex) ← ask (windows.convertInterfaceLuidToIndex luid)
  onHost (check windows (text "read Wintun interface index for WFP") indexResult)
  return interfaceIndex

/-- `enable_kill_switch`, with what the filtering platform answers to either function. -/
def enableKillSwitch (wfp permitWfp : Wfp) (endpoints : List WindowsVpnEndpoint) :
    Program σ Unit := do
  let interfaceIndex ← prepareFullTunnel windows wfp endpoints
  runPolicy windows (replaceWindowsTunnelPermit permitWfp interfaceIndex)

/-- `disable_kill_switch` up to the filters. -/
def removeAliasDefaultRoutes : HostProgram σ Unit := do
  let (result, luid) ←
    HostProgram.ask (windows.convertInterfaceAliasToLuid (wideText "PersonalVPN"))
  if result = NO_ERROR then HostProgram.removeOwnedDefaultRoutes windows luid

def disableKillSwitch (wfp : Wfp) : HostProgram σ Unit := do
  removeAliasDefaultRoutes windows
  Fallible.ofExcept ((disableWindowsKillSwitch wfp {}).1.mapError (wfpException windows))

end WindowsNetworkBackend

end PersonalVpn.Client
