import PersonalVpn.Core.AddressText
import PersonalVpn.Lib.Fallible

namespace PersonalVpn.Client

open PersonalVpn.Core Protocol

structure InterfaceAddress where
  address : Ipv4Address
  prefixLength : UInt8
  deriving DecidableEq, Repr

structure Ipv6InterfaceAddress where
  address : Ipv6Address
  prefixLength : UInt8
  deriving DecidableEq, Repr

structure Ipv4Route where
  network : Ipv4Address
  prefixLength : UInt8
  gateway : Ipv4Address
  deriving DecidableEq, Repr

structure Ipv6Route where
  network : Ipv6Address
  prefixLength : UInt8
  gateway : Ipv6Address
  deriving DecidableEq, Repr

/-- `std::variant<Ipv4Route, Ipv6Route>`, what the overloads of `add_route` and `remove_route`
take. -/
inductive Route where
  | ipv4 (route : Ipv4Route)
  | ipv6 (route : Ipv6Route)
  deriving DecidableEq, Repr

/-- What the overloads of `add_interface_address` and `remove_interface_address` take. -/
inductive Address where
  | ipv4 (address : InterfaceAddress)
  | ipv6 (address : Ipv6InterfaceAddress)
  deriving DecidableEq, Repr

structure InterfaceMtuSnapshot where
  ipv4 : UInt32
  ipv6 : UInt32
  deriving DecidableEq, Repr

/-- The texts before and behind the first slash of a route, where neither is empty. -/
def splitCidr (cidr : Bytes) : Option (Bytes × Bytes) :=
  match cidr.takeWhile (· ≠ 47), cidr.dropWhile (· ≠ 47) with
  | addressText@(_ :: _), _ :: prefixText@(_ :: _) => some (addressText, prefixText)
  | _, _ => none

/-- The prefix length of a route, a whole number up to the width of the address. -/
def parsePrefix (maximum : Nat) (prefixText : Bytes) : Option Nat :=
  match fromChars 16 prefixText with
  | some (value, []) => if value > maximum then none else some value
  | _ => none

/-- The loop that clears the bits behind the prefix of an IPv6 address. -/
def canonicalNetwork (network : Ipv6Address) (prefixLength : Nat) : Ipv6Address :=
  let clear (canonical : Ipv6Address) (bit : Nat) : Ipv6Address :=
    canonical.setIfInBounds (bit / 8)
      (canonical.getD (bit / 8) 0 &&& ~~~((1 : UInt8) <<< UInt8.ofNat (7 - bit % 8)))
  (List.range' prefixLength (128 - prefixLength)).foldl clear network

def parseRoute (cidr : Bytes) (gateway : Ipv4Address) : Except Exception Ipv4Route :=
  match splitCidr cidr with
  | none => .error (.invalidArgument (text "route must use IPv4 CIDR notation"))
  | some (addressText, prefixText) =>
    match parsePrefix 32 prefixText with
    | none => .error (.invalidArgument (text "route prefix is out of range"))
    | some prefixLength => do
      let network ← parseIpv4Address addressText
      return ⟨network, UInt8.ofNat prefixLength, gateway⟩

def parseRouteV6 (parsers : AddressParsers) (cidr : Bytes) (gateway : Ipv6Address) :
    Except Exception Ipv6Route :=
  match splitCidr cidr with
  | none => .error (.invalidArgument (text "route must use IPv6 CIDR notation"))
  | some (addressText, prefixText) =>
    match parsePrefix 128 prefixText with
    | none => .error (.invalidArgument (text "IPv6 route prefix is out of range"))
    | some prefixLength => do
      let network ← parseIpv6Address parsers addressText
      throwIf (network ≠ canonicalNetwork network prefixLength)
        (.invalidArgument (text "IPv6 route address must be canonical network address"))
      return ⟨network, UInt8.ofNat prefixLength, gateway⟩

/-- The virtual functions, on a state that the backend alone reads. -/
structure ClientNetworkBackend (σ : Type) where
  openAdapter : Fallible Exception σ Unit
  startPacketSession : Fallible Exception σ Unit
  addInterfaceAddress : Address → Fallible Exception σ Bool
  setInterfaceMtu : UInt32 → Fallible Exception σ (Option InterfaceMtuSnapshot)
  addRoute : Route → Fallible Exception σ Bool
  -- the `noexcept` functions
  removeRoute : Route → σ → σ
  restoreInterfaceMtu : InterfaceMtuSnapshot → σ → σ
  removeInterfaceAddress : Address → σ → σ
  stopPacketSession : σ → σ
  closeAdapter : σ → σ

structure ClientNetworkTransaction where
  address : InterfaceAddress := ⟨Vector.replicate 4 0, 0⟩
  ipv6Address : Option Ipv6InterfaceAddress := none
  createdRoutes : List Route := []
  priorMtu : Option InterfaceMtuSnapshot := none
  adapterOpen : Bool := false
  sessionStarted : Bool := false
  addressCreated : Bool := false
  ipv6AddressCreated : Bool := false
  active : Bool := false
  deriving DecidableEq, Repr

namespace ClientNetworkTransaction

variable {σ : Type} (backend : ClientNetworkBackend σ) (parsers : AddressParsers)

/-- A transaction beside the state of its backend. -/
abbrev Step (σ : Type) := Fallible Exception (ClientNetworkTransaction × σ)

def transaction : Step σ ClientNetworkTransaction := fun w => (.ok w.1, w)

def assign (f : ClientNetworkTransaction → ClientNetworkTransaction) : Step σ Unit := fun w =>
  (.ok (), f w.1, w.2)

/-- `field_ = backend_.call();`. A call that throws sets nothing. -/
def call {α : Type} (x : Fallible Exception σ α)
    (set : α → ClientNetworkTransaction → ClientNetworkTransaction) : Step σ Unit := do
  let returned ← (fun w => ((x w.2).1, w.1, (x w.2).2) : Step σ α)
  assign (set returned)

def rollback (w : ClientNetworkTransaction × σ) : ClientNetworkTransaction × σ :=
  let s := w.1.createdRoutes.reverse.foldl (fun s route => backend.removeRoute route s) w.2
  let s := match w.1.priorMtu with
    | some mtu => backend.restoreInterfaceMtu mtu s
    | none => s
  let (s, ipv6AddressCreated) := match w.1.ipv6AddressCreated, w.1.ipv6Address with
    | true, some address => (backend.removeInterfaceAddress (.ipv6 address) s, false)
    | created, _ => (s, created)
  let s := if w.1.addressCreated then backend.removeInterfaceAddress (.ipv4 w.1.address) s else s
  let s := if w.1.sessionStarted then backend.stopPacketSession s else s
  let s := if w.1.adapterOpen then backend.closeAdapter s else s
  ({ w.1 with
      active := false
      createdRoutes := []
      priorMtu := none
      ipv6AddressCreated
      addressCreated := false
      sessionStarted := false
      adapterOpen := false
      ipv6Address := none }, s)

/-- One round of the loop over the routes. -/
def addRoute (assignment : IpAssignment) (cidr : Bytes) : Step σ Unit := do
  let route ← Fallible.ofExcept <| if 58 ∈ cidr
    then Route.ipv6 <$> parseRouteV6 parsers cidr assignment.gatewayIpv6Address
    else Route.ipv4 <$> parseRoute cidr assignment.gatewayAddress
  call (backend.addRoute route) fun created t =>
    if created then { t with createdRoutes := t.createdRoutes ++ [route] } else t

/-- The address of the second family, where the assignment has one. -/
def addIpv6Address (address : Option Ipv6InterfaceAddress) : Step σ Unit :=
  match address with
  | none => pure ()
  | some address => call (backend.addInterfaceAddress (.ipv6 address)) fun created t =>
    { t with ipv6AddressCreated := created }

/-- The `try` block of `activate`. -/
def install (assignment : IpAssignment) (routeCidrs : List Bytes) : Step σ Unit := do
  call backend.openAdapter fun _ t => { t with adapterOpen := true }
  call backend.startPacketSession fun _ t => { t with sessionStarted := true }
  let t ← transaction
  call (backend.addInterfaceAddress (.ipv4 t.address)) fun created t =>
    { t with addressCreated := created }
  addIpv6Address backend t.ipv6Address
  call (backend.setInterfaceMtu assignment.mtu.toUInt32) fun prior t => { t with priorMtu := prior }
  routeCidrs.forM (addRoute backend parsers assignment)
  assign fun t => { t with active := true }

def activate (assignment : IpAssignment) (routeCidrs : List Bytes) : Step σ Unit := do
  let t ← transaction
  if t.active ∨ t.adapterOpen ∨ t.sessionStarted ∨ t.addressCreated ∨ t.ipv6AddressCreated ∨
      t.createdRoutes ≠ [] then
    throw (.logicError (text "network transaction is already active"))
  else if routeCidrs = [] then
    throw (.invalidArgument (text "at least one tunnel route is required"))
  else
    assign fun t =>
      { t with
        address := ⟨assignment.clientAddress, assignment.prefixLength⟩
        ipv6Address := if assignment.ipv6PrefixLength ≠ 0
          then some ⟨assignment.clientIpv6Address, assignment.ipv6PrefixLength⟩ else none }
    tryCatch (install backend parsers assignment routeCidrs)
      fun e w => (.error e, rollback backend w)

end ClientNetworkTransaction

end PersonalVpn.Client
