import PersonalVpn.Core.LeaseManager
import PersonalVpn.Core.Packet
import PersonalVpn.Protocol.Frame

namespace PersonalVpn.Core

open Protocol

inductive SessionState where
  | awaitingHello
  | established
  | closing
  | closed
  deriving DecidableEq, Repr

inductive SessionErrorCode where
  | unexpectedMessage
  | invalidSequence
  | invalidControlPayload
  | leaseUnavailable
  | invalidIpv4Packet
  | sourceAddressMismatch
  | invalidIpv6Packet
  deriving DecidableEq, Repr

/-- `static_cast<std::uint16_t>(code)`. -/
def SessionErrorCode.raw : SessionErrorCode → UInt16
  | .unexpectedMessage => 1
  | .invalidSequence => 2
  | .invalidControlPayload => 3
  | .leaseUnavailable => 4
  | .invalidIpv4Packet => 5
  | .sourceAddressMismatch => 6
  | .invalidIpv6Packet => 7

structure SessionResult where
  outboundFrames : List Frame := []
  packetsToTun : List Bytes := []
  closeTransport : Bool := false
  deriving DecidableEq, Repr

structure SessionController where
  identity : Bytes
  state : SessionState := .awaitingHello
  lease : Option Lease := none
  negotiatedMtu : UInt16 := 1400
  nextExpectedSequence : UInt64 := 1
  nextOutboundSequence : UInt64 := 1

namespace SessionController

/-- The constructor. -/
def create (authenticatedIdentity : Bytes) : Except Exception SessionController :=
  if authenticatedIdentity = [] then
    .error (.invalidArgument (text "authenticated session identity must not be empty"))
  else .ok { identity := authenticatedIdentity }

/-- What a call that uses the shared manager returns, with the controller and the manager after
it. -/
abbrev Outcome (α : Type) := α × SessionController × LeaseManager

def makeOutbound (s : SessionController) (type : MessageType) (payload : Bytes) :
    Frame × SessionController :=
  (⟨type, 0, s.nextOutboundSequence, payload⟩,
    { s with nextOutboundSequence := s.nextOutboundSequence + 1 })

def releaseLease (s : SessionController) (m : LeaseManager) : SessionController × LeaseManager :=
  match s.lease with
  | some lease => ({ s with lease := none }, (m.release lease).2)
  | none => (s, m)

def onTransportClosed (s : SessionController) (m : LeaseManager) :
    SessionController × LeaseManager :=
  { s with state := .closed }.releaseLease m

/-- The destructor's effect on the manager. -/
def destroy (s : SessionController) (m : LeaseManager) : LeaseManager := (s.releaseLease m).2

def fail (s : SessionController) (m : LeaseManager) (code : SessionErrorCode) (message : Bytes) :
    Outcome (Except Exception SessionResult) :=
  match encodeErrorMessage ⟨code.raw, message⟩ with
  | .error e => (.error e, s, m)
  | .ok payload =>
    let (frame, s) := s.makeOutbound .error payload
    let result : SessionResult := { outboundFrames := [frame], closeTransport := true }
    (.ok result, { s with state := .closing }.releaseLease m)

/-- The error code and text the source writes to its output parameters. -/
def validateIpv4Packet (s : SessionController) (packet : Bytes) (errorCode : SessionErrorCode) :
    Except (SessionErrorCode × Bytes) Unit :=
  match s.lease with
  | none => .error (errorCode, text "session has no active virtual IP lease")
  | some lease =>
    if packet.length < 20 then
      .error (errorCode, text "IPv4 packet is shorter than the minimum header")
    else if packet.length > s.negotiatedMtu.toNat then
      .error (errorCode, text "IPv4 packet exceeds the negotiated tunnel MTU")
    else if packetVersion packet ≠ 4 ∨ ipv4HeaderLength packet < 20 ∨
        ipv4HeaderLength packet > packet.length then
      .error (errorCode, text "IPv4 version or header length is invalid")
    else if lengthField packet 2 ≠ packet.length then
      .error (errorCode, text "IPv4 total length does not match the tunnel frame")
    else if ipv4Source packet ≠ lease.address then
      .error (.sourceAddressMismatch,
        text "IPv4 source address does not match the authenticated lease")
    else .ok ()

def validateIpv6Packet (s : SessionController) (packet : Bytes) (errorCode : SessionErrorCode) :
    Except (SessionErrorCode × Bytes) Unit :=
  match s.lease with
  | none =>
    .error (errorCode, text "IPv6 packet is invalid or outside the negotiated tunnel policy")
  | some lease =>
    if lease.ipv6Address = Ipv6Address.zero ∨ packet.length < 40 ∨
        packet.length > s.negotiatedMtu.toNat ∨ packetVersion packet ≠ 6 then
      .error (errorCode, text "IPv6 packet is invalid or outside the negotiated tunnel policy")
    else if lengthField packet 4 + 40 ≠ packet.length then
      .error (errorCode, text "IPv6 payload length does not match the tunnel frame")
    else if ipv6Source packet ≠ lease.ipv6Address then
      .error (.sourceAddressMismatch, text "IPv6 source does not match the authenticated lease")
    else .ok ()

/-- The `try` block that answers CLIENT_HELLO. -/
def acceptHello (s : SessionController) (m : LeaseManager) (payload : Bytes) (now : TimePoint) :
    Outcome (Except Exception SessionResult) :=
  match decodeClientHello payload with
  | .error e => (.error e, s, m)
  | .ok hello =>
    match m.acquire s.identity now with
    | (.error e, m) => (.error e, s, m)
    | (.ok lease, m) =>
      let assignment := m.toAssignment lease
      let negotiatedMtu := min hello.requestedMtu assignment.mtu
      let s := { s with lease := some lease, negotiatedMtu, state := .established }
      match encodeIpAssignment { assignment with mtu := negotiatedMtu } with
      | .error e => (.error e, s, m)
      | .ok payload =>
        let (frame, s) := s.makeOutbound .ipAssign payload
        (.ok { outboundFrames := [frame] }, s, m)

/-- The first message of a session. -/
def handleHello (s : SessionController) (m : LeaseManager) (frame : Frame) (now : TimePoint) :
    Outcome (Except Exception SessionResult) :=
  if frame.type ≠ .clientHello then
    s.fail m .unexpectedMessage (text "CLIENT_HELLO must be the first tunnel message")
  else
    match s.acceptHello m frame.payload now with
    | (.error (.invalidArgument what), s, m) => s.fail m .invalidControlPayload what
    | (.error (.runtimeError what), s, m) => s.fail m .leaseUnavailable what
    | outcome => outcome

/-- `lease_manager_.renew(*lease_, now)`. An established session has a lease. -/
def renewLease (s : SessionController) (m : LeaseManager) (now : TimePoint) :
    Option Lease × LeaseManager :=
  match s.lease with
  | some lease => m.renew lease now
  | none => (none, m)

/-- The switch on the message type of an established session. -/
def dispatch (s : SessionController) (m : LeaseManager) (frame : Frame) :
    Outcome (Except Exception SessionResult) :=
  match frame.type with
  | .dataIpv4 =>
    match s.validateIpv4Packet frame.payload .invalidIpv4Packet with
    | .error (code, message) => s.fail m code message
    | .ok () => (.ok { packetsToTun := [frame.payload] }, s, m)
  | .dataIpv6 =>
    match s.validateIpv6Packet frame.payload .invalidIpv6Packet with
    | .error (code, message) => s.fail m code message
    | .ok () => (.ok { packetsToTun := [frame.payload] }, s, m)
  | .ping =>
    match decodeLivenessProbe frame.payload with
    | .error (.invalidArgument what) => s.fail m .invalidControlPayload what
    | .error e => (.error e, s, m)
    | .ok probe =>
      let (pong, s) := s.makeOutbound .pong (encodeLivenessProbe probe)
      (.ok { outboundFrames := [pong] }, s, m)
  | .close =>
    match decodeCloseMessage frame.payload with
    | .error (.invalidArgument what) => s.fail m .invalidControlPayload what
    | .error e => (.error e, s, m)
    | .ok _ => (.ok { closeTransport := true }, { s with state := .closed }.releaseLease m)
  | .error =>
    match decodeErrorMessage frame.payload with
    | .error (.invalidArgument what) => s.fail m .invalidControlPayload what
    | .error e => (.error e, s, m)
    | .ok _ => (.ok { closeTransport := true }, { s with state := .closed }.releaseLease m)
  | .clientHello | .ipAssign | .pong =>
    s.fail m .unexpectedMessage (text "message type is not valid in this server session state")

/-- A message of an established session. Data and probes renew the lease first. -/
def handleEstablished (s : SessionController) (m : LeaseManager) (frame : Frame)
    (now : TimePoint) : Outcome (Except Exception SessionResult) :=
  if frame.type = .dataIpv4 ∨ frame.type = .dataIpv6 ∨ frame.type = .ping then
    match s.renewLease m now with
    | (none, m) =>
      s.fail m .leaseUnavailable (text "authenticated virtual IP lease has expired or changed")
    | (some renewed, m) => { s with lease := some renewed }.dispatch m frame
  else s.dispatch m frame

def handle (s : SessionController) (m : LeaseManager) (frame : Frame) (now : TimePoint) :
    Outcome (Except Exception SessionResult) :=
  if s.state = .closing ∨ s.state = .closed then (.ok { closeTransport := true }, s, m)
  else if frame.sequence ≠ s.nextExpectedSequence then
    s.fail m .invalidSequence
      (text "unexpected inbound sequence; expected " ++ toText s.nextExpectedSequence.toNat)
  else
    let s := { s with nextExpectedSequence := s.nextExpectedSequence + 1 }
    if s.state = .awaitingHello then s.handleHello m frame now
    else s.handleEstablished m frame now

/-- The end of `make_data_to_client`: renew the lease, then frame the packet. -/
def renewAndSend (s : SessionController) (m : LeaseManager) (type : MessageType) (packet : Bytes)
    (now : TimePoint) : Outcome (Option Frame) :=
  match s.renewLease m now with
  | (none, m) => (none, { s with state := .closing }.releaseLease m)
  | (some renewed, m) =>
    let (frame, s) := { s with lease := some renewed }.makeOutbound type packet
    (some frame, s, m)

def makeDataToClient (s : SessionController) (m : LeaseManager) (packet : Bytes)
    (now : TimePoint) : Outcome (Option Frame) :=
  match s.lease with
  | none => (none, s, m)
  | some lease =>
    if s.state ≠ .established ∨ packet = [] ∨ packet.length > s.negotiatedMtu.toNat then
      (none, s, m)
    else if packetVersion packet = 6 then
      if packet.length < 40 ∨ lease.ipv6Address = Ipv6Address.zero then (none, s, m)
      else if lengthField packet 4 + 40 ≠ packet.length ∨
          ipv6Destination packet ≠ lease.ipv6Address then (none, s, m)
      else s.renewAndSend m .dataIpv6 packet now
    else if packet.length < 20 then (none, s, m)
    else if packetVersion packet ≠ 4 ∨ ipv4HeaderLength packet < 20 ∨
        ipv4HeaderLength packet > packet.length ∨ lengthField packet 2 ≠ packet.length ∨
        ipv4Destination packet ≠ lease.address then (none, s, m)
    else s.renewAndSend m .dataIpv4 packet now

end SessionController

end PersonalVpn.Core
