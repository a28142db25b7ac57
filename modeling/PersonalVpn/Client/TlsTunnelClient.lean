import PersonalVpn.Core.ClientSessionController
import PersonalVpn.Core.OutboundFrameQueue

namespace PersonalVpn.Client

open PersonalVpn.Core Protocol

/-- The category of an `error_code`: the SSL one, or any other. -/
inductive ErrorCategory where
  | ssl
  | other
  deriving DecidableEq, Repr

/-- What made a client give up on the byte stream: `push` threw, `handle` rejected a frame through
`fail`, or `handle` returned a remote error. -/
inductive Fault where
  | undecodable
  | rejected
  | remote
  deriving DecidableEq, Repr

/-- The client's end of a tunnel. Besides the members of the source it has the operations that are
outstanding, how often and with what the close handler was called, and the histories of packets
handed to the sink, of bytes handed to the decoder, of frames handed to the controller, of buffers
handed to the transport and of the first fault. -/
structure TlsTunnelClient where
  controller : ClientSessionController
  decoder : FrameDecoder := {}
  outboundQueue : OutboundFrameQueue
  remoteError : Option ErrorMessage := none
  retryableClose : Bool := true
  started : Bool := false
  writeInProgress : Bool := false
  closeAfterWrite : Bool := false
  stopped : Bool := false
  handshaking : Bool := false
  reading : Bool := false
  closed : Option (Option ErrorMessage × Bool) := none
  closeCalls : Nat := 0
  tun : List Bytes := []
  received : Bytes := []
  handled : List Frame := []
  written : List Bytes := []
  fault : Option Fault := none

/-- What runs on the strand of a client. -/
inductive ClientEvent where
  | start (sniConfigured : Bool)
  | handshake (error : Option ErrorCategory)
  | read (read : Except ErrorCategory Bytes)
  | write (error : Option ErrorCategory)
  | sendIpv4 (packet : Bytes)
  | ping (nonce : UInt64)
  | stop (code : UInt16)
  | abort

namespace TlsTunnelClient

/-- The constructor. -/
def create (expectedServerName : Bytes) (requestedMtu : UInt16)
    (maximumQueuedFrames maximumQueuedBytes : Nat) : Except Exception TlsTunnelClient := do
  let controller ← ClientSessionController.create requestedMtu
  let outboundQueue ← OutboundFrameQueue.create maximumQueuedFrames maximumQueuedBytes
  throwIf (expectedServerName = [])
    (.invalidArgument (text "expected server name must not be empty"))
  return { controller, outboundQueue }

def closeNow (t : TlsTunnelClient) : TlsTunnelClient :=
  if t.stopped then t
  else
    { t with
      stopped := true
      controller := t.controller.onTransportClosed
      outboundQueue := t.outboundQueue.clear
      closed := some (t.remoteError, t.retryableClose)
      closeCalls := t.closeCalls + 1 }

/-- `close_now` on a path that first clears `retryable_close_`. -/
def closeForGood (t : TlsTunnelClient) : TlsTunnelClient := { t with retryableClose := false }.closeNow

/-- `close_now` on a transport error, which is retryable unless it comes from TLS. -/
def closeOnError (t : TlsTunnelClient) (error : ErrorCategory) : TlsTunnelClient :=
  { t with retryableClose := decide (error ≠ ErrorCategory.ssl) }.closeNow

def readNext (t : TlsTunnelClient) : TlsTunnelClient :=
  if t.stopped || t.closeAfterWrite then t else { t with reading := true }

def writeNext (t : TlsTunnelClient) : TlsTunnelClient :=
  match t.stopped, t.outboundQueue.front with
  | false, .ok buffer => { t with writeInProgress := true, written := t.written ++ [buffer] }
  | _, _ =>
    let t := { t with writeInProgress := false }
    if t.closeAfterWrite then t.closeNow else t

def enqueueFrame (t : TlsTunnelClient) (frame : Frame) : Except Exception Bool × TlsTunnelClient :=
  if t.stopped then (.ok false, { t with retryableClose := false })
  else
    match t.outboundQueue.tryEnqueue frame with
    | (.ok true, outboundQueue) =>
      let t := { t with outboundQueue }
      (.ok true, if t.writeInProgress then t else t.writeNext)
    | (.ok false, outboundQueue) => (.ok false, { t with outboundQueue, retryableClose := false })
    | (.error e, outboundQueue) => (.error e, { t with outboundQueue })

/-- The completion of an `async_write`. -/
def handleWrite (t : TlsTunnelClient) (error : Option ErrorCategory) : TlsTunnelClient :=
  if t.stopped then t
  else
    match error with
    | some error => t.closeOnError error
    | none =>
      match t.outboundQueue.popFront with
      | .ok outboundQueue => { t with outboundQueue }.writeNext
      | .error _ => t

/-- The loop of `apply_result` over the frames: whether the queue took them all. -/
def enqueueAll (t : TlsTunnelClient) : List Frame → Except Exception Bool × TlsTunnelClient
  | [] => (.ok true, t)
  | frame :: frames =>
    match t.enqueueFrame frame with
    | (.ok true, t) => t.enqueueAll frames
    | refused => refused

/-- `apply_result` after the assignment. An exception is left to the `catch` of `handle_read`. -/
def applyOutput (t : TlsTunnelClient) (result : ClientSessionResult) : TlsTunnelClient :=
  let t := { t with tun := t.tun ++ result.packetsToTun }
  match t.enqueueAll result.outboundFrames with
  | (.error _, t) => t.closeForGood
  | (.ok false, t) => t.closeForGood
  | (.ok true, t) =>
    if result.closeTransport then
      let t := { t with closeAfterWrite := true }
      if !t.writeInProgress && t.outboundQueue.queue.isEmpty then t.closeNow else t
    else t

/-- `apply_result`, with the assignment handler. -/
def applyResult (accepts : IpAssignment → Bool) (t : TlsTunnelClient)
    (result : ClientSessionResult) : TlsTunnelClient :=
  let t := match result.remoteError with
    | some e => { t with remoteError := some e, retryableClose := false }
    | none => t
  match result.assignment with
  | some assignment => if accepts assignment then t.applyOutput result else t.closeForGood
  | none => t.applyOutput result

/-- The fault a result of the controller stands for. Only `fail` emits an ERROR. -/
def faultOf (result : ClientSessionResult) : Option Fault :=
  if result.remoteError.isSome then some .remote
  else if result.outboundFrames.any (fun f => decide (f.type = .error)) then some .rejected
  else none

/-- One frame of the loop of `handle_read`. -/
def handleFrame (accepts : IpAssignment → Bool) (t : TlsTunnelClient) (frame : Frame) :
    TlsTunnelClient :=
  match t.controller.handle frame with
  | (.error _, controller) =>
    { t with controller, handled := t.handled ++ [frame] }.closeForGood
  | (.ok result, controller) =>
    { t with
      controller
      handled := t.handled ++ [frame]
      fault := faultOf result }.applyResult accepts result

/-- The loop of `handle_read`. -/
def handleFrames (accepts : IpAssignment → Bool) (t : TlsTunnelClient) :
    List Frame → TlsTunnelClient
  | [] => t
  | frame :: frames =>
    let t := t.handleFrame accepts frame
    if t.stopped || t.closeAfterWrite then t else t.handleFrames accepts frames

def handleRead (accepts : IpAssignment → Bool) (t : TlsTunnelClient)
    (read : Except ErrorCategory Bytes) : TlsTunnelClient :=
  let t := { t with reading := false }
  if t.stopped then t
  else
    match read with
    | .error error => t.closeOnError error
    | .ok data =>
      let t := { t with received := t.received ++ data }
      match t.decoder.push data with
      | (.error _, decoder) => { t with decoder, fault := some .undecodable }.closeForGood
      | (.ok frames, decoder) => ({ t with decoder }.handleFrames accepts frames).readNext

def startOnStrand (t : TlsTunnelClient) (sniConfigured : Bool) : TlsTunnelClient :=
  if t.stopped || t.started then t
  else
    let t := { t with started := true }
    if sniConfigured then { t with handshaking := true } else t.closeForGood

def handleHandshake (t : TlsTunnelClient) (error : Option ErrorCategory) : TlsTunnelClient :=
  let t := { t with handshaking := false }
  if t.stopped then t
  else
    match error with
    | some error => t.closeOnError error
    | none =>
      match t.controller.start with
      | (.error _, controller) => { t with controller }
      | (.ok frame, controller) =>
        match { t with controller }.enqueueFrame frame with
        | (.ok true, t) => t.readNext
        | (.ok false, t) => t.closeForGood
        | (.error _, t) => t

/-- The common part of `send_ipv4_from_tun` and `ping`, with the frame the controller made. -/
def sendFrame (t : TlsTunnelClient) (made : Option Frame × ClientSessionController) :
    TlsTunnelClient :=
  if t.stopped || t.closeAfterWrite then t
  else
    match made with
    | (none, controller) => { t with controller }
    | (some frame, controller) =>
      match { t with controller }.enqueueFrame frame with
      | (.ok true, t) => t
      | (.ok false, t) => t.closeNow
      | (.error _, t) => t

def sendIpv4FromTun (t : TlsTunnelClient) (packet : Bytes) : TlsTunnelClient :=
  t.sendFrame (t.controller.makeDataToServer packet)

def ping (t : TlsTunnelClient) (nonce : UInt64) : TlsTunnelClient :=
  t.sendFrame (t.controller.makePing nonce)

def stop (t : TlsTunnelClient) (code : UInt16) : TlsTunnelClient :=
  if t.stopped then t
  else
    match t.controller.makeClose code with
    | (none, controller) => { t with controller }.closeNow
    | (some frame, controller) =>
      match { t with controller, closeAfterWrite := true }.enqueueFrame frame with
      | (.ok true, t) => t
      | (.ok false, t) => t.closeNow
      | (.error _, t) => t

/-- One event. A completion comes only for an operation that is outstanding. -/
def step (accepts : IpAssignment → Bool) (t : TlsTunnelClient) : ClientEvent → TlsTunnelClient
  | .start sniConfigured => t.startOnStrand sniConfigured
  | .handshake error => if t.handshaking then t.handleHandshake error else t
  | .read read => if t.reading then t.handleRead accepts read else t
  | .write error => if t.writeInProgress then t.handleWrite error else t
  | .sendIpv4 packet => t.sendIpv4FromTun packet
  | .ping nonce => t.ping nonce
  | .stop code => t.stop code
  | .abort => t.closeNow

end TlsTunnelClient

end PersonalVpn.Client
