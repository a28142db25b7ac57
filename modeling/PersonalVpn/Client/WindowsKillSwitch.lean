import PersonalVpn.Client.FilteringPlatform
import PersonalVpn.Client.RuntimeIo
import PersonalVpn.Lib.LittleEndian

namespace PersonalVpn.Client

open PersonalVpn.Core

def kProviderKey : Guid :=
  ⟨0x8c73dcad, 0xa270, 0x45a9, #v[0x90, 0x27, 0x2f, 0x5b, 0x13, 0x90, 0x7d, 0x11]⟩

def kSubLayerKey : Guid :=
  ⟨0x02a254b3, 0x51d2, 0x4b0c, #v[0x8e, 0xf7, 0x6a, 0x79, 0xa1, 0x7f, 0x42, 0x3e]⟩

def kProviderPersistent : UInt32 := 0x00000001
def kSubLayerPersistent : UInt16 := 0x0001
def kFilterPersistent : UInt32 := 0x00000001
def kFilterBootTime : UInt32 := 0x00000002
def kIncludeBootTimeFilters : UInt32 := 0x00000008
def kDynamicSession : UInt32 := 0x00000001
def kAllowWeight : UInt64 := 0xF000000000000000
def kBlockWeight : UInt64 := 0x1000000000000000
def kMaximumEndpoints : Nat := 32

/-! Constants of the Windows headers. -/

def ERROR_SUCCESS : UInt32 := 0
def FWP_E_FILTER_NOT_FOUND : UInt32 := 0x80320003
def FWP_E_PROVIDER_NOT_FOUND : UInt32 := 0x80320005
def FWP_E_SUBLAYER_NOT_FOUND : UInt32 := 0x80320007
def IPPROTO_TCP : UInt8 := 6

/-- `FWPM_PROVIDER0`. -/
structure WfpProvider where
  providerKey : Guid
  displayName : Bytes
  flags : UInt32
  deriving DecidableEq, Repr

/-- `FWPM_SUBLAYER0`. -/
structure WfpSubLayer where
  subLayerKey : Guid
  displayName : Bytes
  flags : UInt16
  providerKey : Option Guid
  weight : UInt16
  deriving DecidableEq, Repr

/-- An open engine session, with the flags it was opened with. -/
structure Engine where
  handle : UInt64
  sessionFlags : UInt32
  deriving DecidableEq, Repr

/-- What a transaction changes. -/
inductive WfpChange where
  | providerAdd (provider : WfpProvider)
  | providerDelete (key : Guid)
  | subLayerAdd (subLayer : WfpSubLayer)
  | subLayerDelete (key : Guid)
  | filterAdd (filter : WfpFilter)
  | filterDelete (key : Guid)
  deriving DecidableEq, Repr

/-- The calls of the platform's interface that return a result. -/
inductive WfpCall where
  | engineOpen (sessionFlags : UInt32)
  | engineClose (engine : Engine)
  | transactionBegin (engine : Engine)
  | transactionCommit (engine : Engine)
  | transactionAbort (engine : Engine)
  | providerGetByKey (engine : Engine) (key : Guid)
  | subLayerGetByKey (engine : Engine) (key : Guid)
  | filterCreateEnumHandle (engine : Engine) (providerKey : Guid) (flags : UInt32)
  | filterEnum (engine : Engine) (numEntriesRequested : UInt32)
  | filterDestroyEnumHandle (engine : Engine)
  | change (engine : Engine) (change : WfpChange)

/-- What the platform answers to the calls of a run, by their numbers. -/
structure Wfp where
  result : Nat → WfpCall → UInt32
  engineHandle : Nat → UInt64
  provider : Nat → WfpProvider
  subLayer : Nat → WfpSubLayer
  -- the keys that an enumeration hands out, call by call until a call hands out none
  entries : Nat → List (List Guid)

inductive WfpException where
  | program (e : Exception)
  | systemError (code : UInt32) (operation : Bytes)
  deriving DecidableEq, Repr

/-- The calls made so far and what they have changed. -/
structure WfpState where
  calls : Nat := 0
  pending : List (Engine × WfpChange) := []
  committed : List (Engine × WfpChange) := []
  dynamicSession : Option Engine := none

abbrev WfpProgram := Fallible WfpException WfpState

namespace WfpProgram

variable (wfp : Wfp) (engine : Engine)

def ask {α : Type} (answer : Nat → α) : WfpProgram α := fun s =>
  (.ok (answer s.calls), { s with calls := s.calls + 1 })

def call (c : WfpCall) : WfpProgram UInt32 := ask (wfp.result · c)

def failIf (c : Prop) [Decidable c] (e : WfpException) : WfpProgram Unit :=
  if c then throw e else pure ()

def checkWfp (result : UInt32) (operation : Bytes) : WfpProgram Unit :=
  failIf (result ≠ ERROR_SUCCESS) (.systemError result operation)

/-- A call that changes something once its transaction is committed. -/
def change (c : WfpChange) : WfpProgram UInt32 := do
  let result ← call wfp (.change engine c)
  if result = ERROR_SUCCESS then
    modify fun s => { s with pending := s.pending ++ [(engine, c)] }
  return result

/-- `FwpmEngineOpen0` with its check. -/
def engineOpen (sessionFlags : UInt32) (operation : Bytes) : WfpProgram Engine := do
  let (result, handle) ← ask fun n => (wfp.result n (.engineOpen sessionFlags), wfp.engineHandle n)
  checkWfp result operation
  return ⟨handle, sessionFlags⟩

def engineClose : WfpProgram Unit := do
  let _ ← call wfp (.engineClose engine)

def transactionBegin : WfpProgram Unit := do
  checkWfp (← call wfp (.transactionBegin engine)) (text "begin WFP transaction")
  modify fun s => { s with pending := [] }

def transactionCommit : WfpProgram Unit := do
  checkWfp (← call wfp (.transactionCommit engine)) (text "commit WFP transaction")
  modify fun s => { s with committed := s.committed ++ s.pending, pending := [] }

def transactionAbort : WfpProgram Unit := do
  let _ ← call wfp (.transactionAbort engine)
  modify fun s => { s with pending := [] }

/-- A scope with a `Transaction`, up to its `commit`. -/
def transaction (body : WfpProgram Unit) : WfpProgram Unit := do
  transactionBegin wfp engine
  tryCatch (do body; transactionCommit wfp engine) fun e => do
    transactionAbort wfp engine
    throw e

/-- A scope with an `Engine`. -/
def withEngine (body : Engine → WfpProgram Unit) : WfpProgram Unit := do
  let engine ← engineOpen wfp 0 (text "open Windows Filtering Platform engine")
  tryCatch (body engine) fun e => do
    engineClose wfp engine
    throw e
  engineClose wfp engine

def ensureProvider : WfpProgram Unit := do
  let (result, existingProvider) ← ask fun n =>
    (wfp.result n (.providerGetByKey engine kProviderKey), wfp.provider n)
  if result = ERROR_SUCCESS then
    failIf (existingProvider.flags &&& kProviderPersistent = 0)
      (.program (.runtimeError (text "existing PersonalVPN WFP provider is not persistent")))
  else if result = FWP_E_PROVIDER_NOT_FOUND then
    checkWfp
      (← change wfp engine (.providerAdd
        { providerKey := kProviderKey
          displayName := text "PersonalVPN fail-closed policy"
          flags := kProviderPersistent }))
      (text "add persistent WFP provider")
  else
    throw (.systemError result (text "inspect WFP provider"))

def ensureSubLayer : WfpProgram Unit := do
  let (result, existingSublayer) ← ask fun n =>
    (wfp.result n (.subLayerGetByKey engine kSubLayerKey), wfp.subLayer n)
  if result = ERROR_SUCCESS then
    failIf (¬(existingSublayer.flags &&& kSubLayerPersistent ≠ 0 ∧
        existingSublayer.providerKey = some kProviderKey))
      (.program (.runtimeError (text "existing PersonalVPN WFP sublayer has invalid ownership")))
  else if result = FWP_E_SUBLAYER_NOT_FOUND then
    checkWfp
      (← change wfp engine (.subLayerAdd
        { subLayerKey := kSubLayerKey
          displayName := text "PersonalVPN fail-closed policy"
          flags := kSubLayerPersistent
          providerKey := some kProviderKey
          weight := 0x7fff }))
      (text "add persistent WFP sublayer")
  else
    throw (.systemError result (text "inspect WFP sublayer"))

def ensureProviderAndSublayer : WfpProgram Unit := do
  ensureProvider wfp engine
  ensureSubLayer wfp engine

/-- The loop of `enumerate_provider_filters`. -/
def collectKeys : List (List Guid) → List Guid → WfpProgram (List Guid)
  | [], keys => do
    checkWfp (← call wfp (.filterEnum engine 128)) (text "enumerate PersonalVPN WFP filters")
    return keys
  | entries :: batches, keys => do
    checkWfp (← call wfp (.filterEnum engine 128)) (text "enumerate PersonalVPN WFP filters")
    if entries = [] then return keys else collectKeys batches (keys ++ entries)

def enumerateProviderFilters : WfpProgram (List Guid) := do
  let (result, batches) ← ask fun n =>
    (wfp.result n (.filterCreateEnumHandle engine kProviderKey kIncludeBootTimeFilters),
      wfp.entries n)
  checkWfp result (text "create WFP filter enumeration")
  let keys ← tryCatch (collectKeys wfp engine batches []) fun e => do
    let _ ← call wfp (.filterDestroyEnumHandle engine)
    throw e
  checkWfp (← call wfp (.filterDestroyEnumHandle engine)) (text "destroy WFP filter enumeration")
  return keys

def deleteProviderFilters : WfpProgram Unit := do
  let keys ← enumerateProviderFilters wfp engine
  keys.forM fun key => do
    let result ← change wfp engine (.filterDelete key)
    failIf (result ≠ ERROR_SUCCESS ∧ result ≠ FWP_E_FILTER_NOT_FOUND)
      (.systemError result (text "delete PersonalVPN WFP filter"))

end WfpProgram

/-! ### The filters of the policy -/

/-- The filter that `add_filter` adds. -/
def killSwitchFilter (layer : Guid) (flags : UInt32) (action : ActionType) (weight : UInt64)
    (conditions : List FilterCondition) (persistentProviderOwned : Bool) : WfpFilter where
  displayName := text "PersonalVPN dual-stack fail-closed"
  flags := flags
  providerKey := if persistentProviderOwned then some kProviderKey else none
  layerKey := layer
  subLayerKey := kSubLayerKey
  weight := weight
  filterCondition := conditions
  action := action

def interfaceCondition (interfaceIndex : UInt32) : FilterCondition :=
  ⟨kInterfaceIndexCondition, .uint32 interfaceIndex⟩

/-- `std::memcpy` of four bytes into a word of a little-endian machine. -/
def memcpyWord (bytes : Ipv4Address) : UInt32 := UInt32.ofNat (LittleEndian.value bytes.toList)

/-- The value in network order of the bytes that a word takes in memory. -/
def ntohl (word : UInt32) : UInt32 :=
  UInt32.ofNat (BigEndian.value (LittleEndian.bytes 4 word.toNat))

def endpointAddressCondition (endpoint : WindowsVpnEndpoint) : FilterCondition :=
  if endpoint.ipv6 then
    ⟨kRemoteAddressCondition, .v6AddrMask endpoint.address 128⟩
  else
    ⟨kRemoteAddressCondition,
      .v4AddrMask (ntohl (memcpyWord (copyN endpoint.address.toList 0 4))) 0xffffffff⟩

namespace WfpProgram

variable (wfp : Wfp) (engine : Engine)

def addFilter (layer : Guid) (flags : UInt32) (action : ActionType) (weight : UInt64)
    (conditions : List FilterCondition) (persistentProviderOwned : Bool := true) :
    WfpProgram Unit := do
  checkWfp
    (← change wfp engine (.filterAdd
      (killSwitchFilter layer flags action weight conditions persistentProviderOwned)))
    (text "add WFP kill-switch filter")

def addUnconditionalFilter (layer : Guid) (flags : UInt32) (action : ActionType)
    (weight : UInt64) : WfpProgram Unit :=
  addFilter wfp engine layer flags action weight []

def addInterfaceAllow (layer : Guid) (interfaceIndex : UInt32) : WfpProgram Unit :=
  addFilter wfp engine layer 0 .permit kAllowWeight [interfaceCondition interfaceIndex] false

def addEndpointAllow (packetLayer transportLayer : Guid) (endpoint : WindowsVpnEndpoint) :
    WfpProgram Unit := do
  addFilter wfp engine packetLayer kFilterPersistent .permit kAllowWeight
    [endpointAddressCondition endpoint]
  addFilter wfp engine transportLayer kFilterPersistent .permit kAllowWeight
    [endpointAddressCondition endpoint, ⟨kProtocolCondition, .uint8 IPPROTO_TCP⟩,
      ⟨kRemotePortCondition, .uint16 endpoint.port⟩]

def addFamilyPolicy (packetLayer transportLayer : Guid) (ipv6 : Bool)
    (endpoints : List WindowsVpnEndpoint) : WfpProgram Unit := do
  endpoints.forM fun endpoint =>
    if endpoint.ipv6 = ipv6 then addEndpointAllow wfp engine packetLayer transportLayer endpoint
    else pure ()
  addUnconditionalFilter wfp engine transportLayer kFilterPersistent .block kBlockWeight
  addUnconditionalFilter wfp engine packetLayer kFilterPersistent .block kBlockWeight

def removeProvider : WfpProgram Unit := do
  let sublayerResult ← change wfp engine (.subLayerDelete kSubLayerKey)
  failIf (sublayerResult ≠ ERROR_SUCCESS ∧ sublayerResult ≠ FWP_E_SUBLAYER_NOT_FOUND)
    (.systemError sublayerResult (text "remove PersonalVPN WFP sublayer"))
  let providerResult ← change wfp engine (.providerDelete kProviderKey)
  failIf (providerResult ≠ ERROR_SUCCESS ∧ providerResult ≠ FWP_E_PROVIDER_NOT_FOUND)
    (.systemError providerResult (text "remove PersonalVPN WFP provider"))

/-- The checks of one endpoint. -/
def checkEndpoint (endpoint : WindowsVpnEndpoint) : WfpProgram Unit :=
  failIf
    (endpoint.port = 0 ∨
      (endpoint.address.toList.take (if endpoint.ipv6 then 16 else 4)).all (· = 0) = true)
    (.program (.invalidArgument (text "kill switch endpoint address or port is invalid")))

end WfpProgram

open WfpProgram

def enableWindowsKillSwitch (wfp : Wfp) (endpoints : List WindowsVpnEndpoint) :
    WfpProgram Unit := do
  failIf (endpoints = [] ∨ endpoints.length > kMaximumEndpoints)
    (.program (.invalidArgument (text "kill switch requires valid VPN endpoints and interface")))
  endpoints.forM checkEndpoint
  withEngine wfp fun engine => transaction wfp engine do
    ensureProviderAndSublayer wfp engine
    deleteProviderFilters wfp engine
    addUnconditionalFilter wfp engine kOutboundIpPacketV4 kFilterBootTime .block kBlockWeight
    addUnconditionalFilter wfp engine kOutboundIpPacketV6 kFilterBootTime .block kBlockWeight
    addFamilyPolicy wfp engine kOutboundIpPacketV4 kOutboundTransportV4 false endpoints
    addFamilyPolicy wfp engine kOutboundIpPacketV6 kOutboundTransportV6 true endpoints

def closeWindowsTunnelPermit (wfp : Wfp) : WfpProgram Unit := do
  match (← get).dynamicSession with
  | none => pure ()
  | some session =>
    engineClose wfp session
    modify fun s => { s with dynamicSession := none }

def replaceWindowsTunnelPermit (wfp : Wfp) (tunnelInterfaceIndex : UInt32) : WfpProgram Unit := do
  failIf (tunnelInterfaceIndex = 0)
    (.program (.invalidArgument (text "Wintun interface index is invalid")))
  closeWindowsTunnelPermit wfp
  let newSession ← engineOpen wfp kDynamicSession (text "open dynamic WFP tunnel-permit session")
  tryCatch
    (transaction wfp newSession do
      addInterfaceAllow wfp newSession kOutboundIpPacketV4 tunnelInterfaceIndex
      addInterfaceAllow wfp newSession kOutboundIpPacketV6 tunnelInterfaceIndex
      addInterfaceAllow wfp newSession kOutboundTransportV4 tunnelInterfaceIndex
      addInterfaceAllow wfp newSession kOutboundTransportV6 tunnelInterfaceIndex)
    fun e => do
      engineClose wfp newSession
      throw e
  modify fun s => { s with dynamicSession := some newSession }

def disableWindowsKillSwitch (wfp : Wfp) : WfpProgram Unit :=
  withEngine wfp fun engine => transaction wfp engine do
    let filters ← enumerateProviderFilters wfp engine
    if filters = [] then
      removeProvider wfp engine
    else
      deleteProviderFilters wfp engine
      removeProvider wfp engine

end PersonalVpn.Client
