import PersonalVpn.Core.LeaseManager
import PersonalVpn.Core.Packet
import PersonalVpn.Protocol.Frame

namespace PersonalVpn.Core

open Protocol

inductive ClientSessionState where
  | idle
  | awaitingAssignment
  | established
  | closing
  | closed
  deriving DecidableEq, Repr

inductive ClientSessionErrorCode where
  | unexpectedMessage
  | invalidSequence
  | invalidControlPayload
  | invalidAssignment
  | invalidIpv4Packet
  | addressMismatch
  | invalidIpv6Packet
  deriving DecidableEq, Repr

/-- `static_cast<std::uint16_t>(code)`. -/
def ClientSessionErrorCode.raw : ClientSessionErrorCode → UInt16
  | .unexpectedMessage => 101
  | .invalidSequence => 102
  | .invalidControlPayload => 103
  | .invalidAssignment => 104
  | .invalidIpv4Packet => 105
  | .addressMismatch => 106
  | .invalidIpv6Packet => 107

structure ClientSessionResult where
  outboundFrames : List Frame := []
  packetsToTun : List Bytes := []
  assignment : Option IpAssignment := none
  remoteError : Option ErrorMessage := none
  closeTransport : Bool := false
  deriving DecidableEq, Repr

structure ClientSessionController where
  requestedMtu : UInt16
  state : ClientSessionState := .idle
  assignment : Option IpAssignment := none
  pendingPingNonce : Option UInt64 := none
  nextExpectedSequence : UInt64 := 1
  nextOutboundSequence : UInt64 := 1
  deriving DecidableEq, Repr

/-- The hello of a client. -/
def clientHello (requestedMtu : UInt16) : ClientHello :=
  ⟨requestedMtu, kCapabilityIpv4 ||| kCapabilityIpv6⟩

namespace ClientSessionController

/-- The constructor. -/
def create (requestedMtu : UInt16) : Except Exception ClientSessionController := do
  let _ ← encodeClientHello (clientHello requestedMtu)
  return { requestedMtu }

def makeOutbound (c : ClientSessionController) (type : MessageType) (payload : Bytes) :
    Frame × ClientSessionController :=
  (⟨type, 0, c.nextOutboundSequence, payload⟩,
    { c with nextOutboundSequence := c.nextOutboundSequence + 1 })

def start (c : ClientSessionController) : Except Exception Frame × ClientSessionController :=
  if c.state ≠ .idle then
    (.error (.logicError (text "client session has already started")), c)
  else
    let c := { c with state := .awaitingAssignment }
    match encodeClientHello (clientHello c.requestedMtu) with
    | .error e => (.error e, c)
    | .ok payload =>
      let (frame, c) := c.makeOutbound .clientHello payload
      (.ok frame, c)

def fail (c : ClientSessionController) (code : ClientSessionErrorCode) (message : Bytes) :
    Except Exception ClientSessionResult × ClientSessionController :=
  match encodeErrorMessage ⟨code.raw, message⟩ with
  | .error e => (.error e, c)
  | .ok payload =>
    let (frame, c) := c.makeOutbound .error payload
    (.ok { outboundFrames := [frame], closeTransport := true }, { c with state := .closing })

/-- `address_value` computes what `LeaseManager::to_integer` does. -/
def addressValue (address : Ipv4Address) : UInt32 := toInteger address

def assignmentIsAcceptable (c : ClientSessionController) (a : IpAssignment) : Bool :=
  if a.mtu > c.requestedMtu ∨ a.clientAddress = a.gatewayAddress then false
  else
    let mask := prefixMask a.prefixLength
    let client := addressValue a.clientAddress
    let gateway := addressValue a.gatewayAddress
    if client &&& mask ≠ gateway &&& mask then false
    else
      let network := gateway &&& mask
      let broadcast := network ||| ~~~mask
      if a.prefixLength ≤ 30 ∧ (client = network ∨ client = broadcast ∨ gateway = network ∨
          gateway = broadcast) then false
      else if a.ipv6PrefixLength = 0 then
        a.clientIpv6Address == Ipv6Address.zero && a.gatewayIpv6Address == Ipv6Address.zero
      else if a.ipv6PrefixLength ≠ 64 ∨ a.clientIpv6Address = a.gatewayIpv6Address ∨
          a.clientIpv6Address.toList.take 8 ≠ a.gatewayIpv6Address.toList.take 8 then false
      else true

/-- The error code and text the source writes to its output parameters. -/
def validateIpv4Packet (c : ClientSessionController) (packet : Bytes) (fromServer : Bool)
    (errorCode : ClientSessionErrorCode) : Except (ClientSessionErrorCode × Bytes) Unit :=
  match c.assignment with
  | none =>
    .error (errorCode, text "IPv4 packet size is outside the negotiated tunnel policy")
  | some assignment =>
    if packet.length < 20 ∨ packet.length > assignment.mtu.toNat then
      .error (errorCode, text "IPv4 packet size is outside the negotiated tunnel policy")
    else if packetVersion packet ≠ 4 ∨ ipv4HeaderLength packet < 20 ∨
        ipv4HeaderLength packet > packet.length ∨ lengthField packet 2 ≠ packet.length then
      .error (errorCode, text "IPv4 header or total length is invalid")
    else
      let packetAddress := if fromServer then ipv4Destination packet else ipv4Source packet
      if packetAddress ≠ assignment.clientAddress then
        .error (.addressMismatch,
          if fromServer then
            text "server IPv4 destination does not match the assigned client address"
          else text "local IPv4 source does not match the assigned client address")
      else .ok ()

def validateIpv6Packet (c : ClientSessionController) (packet : Bytes) (fromServer : Bool)
    (errorCode : ClientSessionErrorCode) : Except (ClientSessionErrorCode × Bytes) Unit :=
  match c.assignment with
  | none =>
    .error (errorCode, text "IPv6 packet size or version is outside the assigned tunnel policy")
  | some assignment =>
    if assignment.ipv6PrefixLength = 0 ∨ packet.length < 40 ∨
        packet.length > assignment.mtu.toNat ∨ packetVersion packet ≠ 6 then
      .error (errorCode, text "IPv6 packet size or version is outside the assigned tunnel policy")
    else if lengthField packet 4 + 40 ≠ packet.length then
      .error (errorCode, text "IPv6 payload length does not match the tunnel frame")
    else
      let packetAddress := copyN packet (if fromServer then 24 else 8) 16
      -- both branches of `expected` are the client's address
      if packetAddress ≠ assignment.clientIpv6Address then
        .error (.addressMismatch,
          if fromServer then
            text "server IPv6 destination does not match assigned client address"
          else text "local IPv6 source does not match assigned client address")
      else .ok ()

/-- The first message from the server. -/
def handleAssignment (c : ClientSessionController) (frame : Frame) :
    Except Exception ClientSessionResult × ClientSessionController :=
  if frame.type ≠ .ipAssign then
    c.fail .unexpectedMessage (text "IP_ASSIGN must be the first server message")
  else
    match decodeIpAssignment frame.payload with
    | .error (.invalidArgument what) => c.fail .invalidControlPayload what
    | .error e => (.error e, c)
    | .ok assignment =>
      if !c.assignmentIsAcceptable assignment then
        c.fail .invalidAssignment (text "server IP assignment violates client tunnel policy")
      else
        (.ok { assignment := some assignment },
          { c with assignment := some assignment, state := .established })

/-- The switch on the message type of an established session. -/
def dispatch (c : ClientSessionController) (frame : Frame) :
    Except Exception ClientSessionResult × ClientSessionController :=
  match frame.type with
  | .dataIpv4 =>
    match c.validateIpv4Packet frame.payload true .invalidIpv4Packet with
    | .error (code, message) => c.fail code message
    | .ok () => (.ok { packetsToTun := [frame.payload] }, c)
  | .dataIpv6 =>
    match c.validateIpv6Packet frame.payload true .invalidIpv6Packet with
    | .error (code, message) => c.fail code message
    | .ok () => (.ok { packetsToTun := [frame.payload] }, c)
  | .ping =>
    match decodeLivenessProbe frame.payload with
    | .error (.invalidArgument what) => c.fail .invalidControlPayload what
    | .error e => (.error e, c)
    | .ok probe =>
      let (pong, c) := c.makeOutbound .pong (encodeLivenessProbe probe)
      (.ok { outboundFrames := [pong] }, c)
  | .pong =>
    match decodeLivenessProbe frame.payload with
    | .error (.invalidArgument what) => c.fail .invalidControlPayload what
    | .error e => (.error e, c)
    | .ok probe =>
      if c.pendingPingNonce ≠ some probe.nonce then
        c.fail .invalidControlPayload (text "PONG nonce does not match an outstanding PING")
      else (.ok {}, { c with pendingPingNonce := none })
  | .error =>
    match decodeErrorMessage frame.payload with
    | .error (.invalidArgument what) => c.fail .invalidControlPayload what
    | .error e => (.error e, c)
    | .ok message =>
      (.ok { remoteError := some message, closeTransport := true }, { c with state := .closed })
  | .close =>
    match decodeCloseMessage frame.payload with
    | .error (.invalidArgument what) => c.fail .invalidControlPayload what
    | .error e => (.error e, c)
    | .ok _ => (.ok { closeTransport := true }, { c with state := .closed })
  | .clientHello | .ipAssign =>
    c.fail .unexpectedMessage
      (text "message type is not valid in the established client state")

def handle (c : ClientSessionController) (frame : Frame) :
    Except Exception ClientSessionResult × ClientSessionController :=
  if c.state = .idle ∨ c.state = .closing ∨ c.state = .closed then
    (.ok { closeTransport := true }, c)
  else if frame.sequence ≠ c.nextExpectedSequence then
    c.fail .invalidSequence
      (text "unexpected inbound sequence; expected " ++ toText c.nextExpectedSequence.toNat)
  else
    let c := { c with nextExpectedSequence := c.nextExpectedSequence + 1 }
    if c.state = .awaitingAssignment then c.handleAssignment frame else c.dispatch frame

def makeDataToServer (c : ClientSessionController) (packet : Bytes) :
    Option Frame × ClientSessionController :=
  if c.state ≠ .established then (none, c)
  else if packet ≠ [] ∧ packetVersion packet = 6 then
    match c.validateIpv6Packet packet false .invalidIpv6Packet with
    | .error _ => (none, c)
    | .ok () =>
      let (frame, c) := c.makeOutbound .dataIpv6 packet
      (some frame, c)
  else
    match c.validateIpv4Packet packet false .invalidIpv4Packet with
    | .error _ => (none, c)
    | .ok () =>
      let (frame, c) := c.makeOutbound .dataIpv4 packet
      (some frame, c)

def makePing (c : ClientSessionController) (nonce : UInt64) :
    Option Frame × ClientSessionController :=
  if c.state ≠ .established then (none, c)
  else if c.pendingPingNonce ≠ none then (none, c)
  else
    let c := { c with pendingPingNonce := some nonce }
    let (frame, c) := c.makeOutbound .ping (encodeLivenessProbe ⟨nonce⟩)
    (some frame, c)

def makeClose (c : ClientSessionController) (code : UInt16) :
    Option Frame × ClientSessionController :=
  if c.state ≠ .awaitingAssignment ∧ c.state ≠ .established then (none, c)
  else
    let c := { c with state := .closing }
    let (frame, c) := c.makeOutbound .close (encodeCloseMessage ⟨code⟩)
    (some frame, c)

def onTransportClosed (c : ClientSessionController) : ClientSessionController :=
  { c with state := .closed }

end ClientSessionController

end PersonalVpn.Core
