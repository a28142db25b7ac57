import PersonalVpn.Core.OutboundFrameQueue
import PersonalVpn.Core.SessionController

namespace PersonalVpn.Server

open PersonalVpn.Core Protocol

structure ServerMetrics where
  acceptedConnections : UInt64 := 0
  capacityRejections : UInt64 := 0
  handshakeFailures : UInt64 := 0
  handshakeTimeouts : UInt64 := 0
  idleTimeouts : UInt64 := 0
  establishedSessions : UInt64 := 0
  closedSessions : UInt64 := 0
  queueOverflows : UInt64 := 0
  uplinkPackets : UInt64 := 0
  uplinkBytes : UInt64 := 0
  downlinkPackets : UInt64 := 0
  downlinkBytes : UInt64 := 0
  deriving DecidableEq, Repr

/-- What the sessions of a server share: the lease manager, the metrics, and whatever the handlers
they are constructed with act on. -/
structure Shared (σ : Type) where
  manager : LeaseManager
  metrics : ServerMetrics := {}
  outside : σ

/-- The handlers a session is constructed with. -/
structure Handlers (σ : Type) where
  packetSink : Bytes → σ → σ
  established : Lease → σ → Bool × σ
  closed : Option Lease → σ → σ

/-- How far `close_now` has come. Its effects on shared state are two steps of their own, between
which other strands run. -/
inductive CloseStage where
  | open
  | releasing
  | notifying
  | done
  deriving DecidableEq, Repr

/-- A session of the server. Besides the members of the source it has the frames of the current
read that the loop of `handle_read` has not come to, whether a read is outstanding, how far
`close_now` has come, and the histories of bytes handed to the decoder, of frames handed to the
controller, of frames the queue took and refused, and of buffers handed to the transport. -/
structure TlsTunnelSession where
  controller : Option SessionController := none
  decoder : FrameDecoder := {}
  outboundQueue : OutboundFrameQueue
  routeLease : Option Lease := none
  writeInProgress : Bool := false
  closeAfterWrite : Bool := false
  stopped : Bool := false
  establishedCounted : Bool := false
  inbound : List Frame := []
  reading : Bool := false
  closing : CloseStage := .open
  received : Bytes := []
  handled : List Frame := []
  queued : List Frame := []
  refused : List Frame := []
  written : List Bytes := []

namespace TlsTunnelSession

/-- `close_now` before its first effect on shared state. -/
def closeNow (s : TlsTunnelSession) : TlsTunnelSession :=
  if s.stopped then s else { s with stopped := true, closing := .releasing, inbound := [] }

def readNext (s : TlsTunnelSession) : TlsTunnelSession :=
  if s.stopped then s else { s with reading := true }

def writeNext (s : TlsTunnelSession) : TlsTunnelSession :=
  match s.stopped, s.outboundQueue.front with
  | false, .ok buffer => { s with writeInProgress := true, written := s.written ++ [buffer] }
  | _, _ =>
    let s := { s with writeInProgress := false }
    if s.closeAfterWrite then s.closeNow else s

def enqueueFrame (s : TlsTunnelSession) (frame : Frame) :
    Except Exception Bool × TlsTunnelSession :=
  if s.stopped then (.ok false, s)
  else
    match s.outboundQueue.tryEnqueue frame with
    | (.ok true, outboundQueue) =>
      let s := { s with outboundQueue, queued := s.queued ++ [frame] }
      (.ok true, if s.writeInProgress then s else s.writeNext)
    | (.ok false, outboundQueue) =>
      (.ok false, { s with outboundQueue, refused := s.refused ++ [frame] })
    | (.error e, outboundQueue) => (.error e, { s with outboundQueue })

/-- The completion of an `async_write`. -/
def handleWrite (s : TlsTunnelSession) (failed : Bool) : TlsTunnelSession :=
  if s.stopped then s
  else if failed then s.closeNow
  else
    match s.outboundQueue.popFront with
    | .ok outboundQueue => { s with outboundQueue }.writeNext
    | .error _ => s

variable {σ : Type}

/-- The loop of `apply_result` over the packets. -/
def deliver (h : Handlers σ) (w : Shared σ) : List Bytes → Shared σ
  | [] => w
  | packet :: packets =>
    let metrics := { w.metrics with
      uplinkPackets := w.metrics.uplinkPackets + 1
      uplinkBytes := w.metrics.uplinkBytes + UInt64.ofNat packet.length }
    deliver h { w with metrics, outside := h.packetSink packet w.outside } packets

/-- The loop of `apply_result` over the frames: whether the queue took them all. -/
def enqueueAll (s : TlsTunnelSession) : List Frame → Except Exception Bool × TlsTunnelSession
  | [] => (.ok true, s)
  | frame :: frames =>
    match s.enqueueFrame frame with
    | (.ok true, s) => s.enqueueAll frames
    | refused => refused

/-- `apply_result`. An exception is left to the `catch` of `handle_read`. -/
def applyResult (h : Handlers σ) (s : TlsTunnelSession) (w : Shared σ) (result : SessionResult) :
    TlsTunnelSession × Shared σ :=
  let w := deliver h w result.packetsToTun
  match s.enqueueAll result.outboundFrames with
  | (.error _, s) => (s.closeNow, w)
  | (.ok false, s) =>
    (s.closeNow,
      { w with metrics := { w.metrics with queueOverflows := w.metrics.queueOverflows + 1 } })
  | (.ok true, s) =>
    if result.closeTransport then
      let s := { s with closeAfterWrite := true }
      (if !s.writeInProgress && s.outboundQueue.queue.isEmpty then s.closeNow else s, w)
    else (s, w)

/-- The part of the loop of `handle_read` that announces a newly established session: whether the
handler admitted it. -/
def announce (h : Handlers σ) (s : TlsTunnelSession) (w : Shared σ) (c : SessionController) :
    Bool × TlsTunnelSession × Shared σ :=
  match s.routeLease, c.state, c.lease with
  | none, .established, some lease =>
    let s := { s with routeLease := some lease }
    match h.established lease w.outside with
    | (false, outside) => (false, s, { w with outside })
    | (true, outside) =>
      let metrics := if s.establishedCounted then w.metrics
        else { w.metrics with establishedSessions := w.metrics.establishedSessions + 1 }
      (true, { s with establishedCounted := true }, { w with metrics, outside })
  | _, _, _ => (true, s, w)

/-- The loop body of `handle_read` after the controller has handled the frame. -/
def conclude (h : Handlers σ) (s : TlsTunnelSession) (w : Shared σ) (c : SessionController)
    (result : SessionResult) : TlsTunnelSession × Shared σ :=
  match announce h s w c with
  | (false, s, w) => (s.closeNow, w)
  | (true, s, w) => applyResult h s w result

/-- One frame of the loop of `handle_read`. Reading starts once there is a controller. -/
def handleFrame (h : Handlers σ) (s : TlsTunnelSession) (w : Shared σ) (frame : Frame)
    (now : TimePoint) : TlsTunnelSession × Shared σ :=
  match s.controller with
  | none => (s, w)
  | some c =>
    match c.handle w.manager frame now with
    | (.error _, c, manager) =>
      ({ s with controller := some c, handled := s.handled ++ [frame] }.closeNow,
        { w with manager })
    | (.ok result, c, manager) =>
      conclude h { s with controller := some c, handled := s.handled ++ [frame] }
        { w with manager } c result

/-- The end of the loop body of `handle_read`: leave the loop, or go on to the next frame, or to the
next read after the last one. -/
def continueReading (s : TlsTunnelSession) : TlsTunnelSession :=
  if s.stopped || s.closeAfterWrite then { s with inbound := [] }
  else if s.inbound.isEmpty then s.readNext
  else s

/-- `handle_read` up to its loop. -/
def handleRead (s : TlsTunnelSession) (read : Option Bytes) : TlsTunnelSession :=
  let s := { s with reading := false }
  if s.stopped then s
  else
    match read with
    | none => s.closeNow
    | some data =>
      let s := { s with received := s.received ++ data }
      match s.decoder.push data with
      | (.error _, decoder) => { s with decoder }.closeNow
      | (.ok frames, decoder) => { s with decoder, inbound := frames }.continueReading

/-- The next frame of the loop of `handle_read`. -/
def handleNextFrame (h : Handlers σ) (s : TlsTunnelSession) (w : Shared σ) (now : TimePoint) :
    TlsTunnelSession × Shared σ :=
  match s.inbound with
  | [] => (s, w)
  | frame :: inbound =>
    let (s, w) := handleFrame h { s with inbound } w frame now
    (s.continueReading, w)

def handleHandshake (s : TlsTunnelSession) (w : Shared σ) (fingerprint : Option Bytes) :
    TlsTunnelSession × Shared σ :=
  if s.stopped then (s, w)
  else
    match fingerprint with
    | none =>
      (s.closeNow, { w with
        metrics := { w.metrics with handshakeFailures := w.metrics.handshakeFailures + 1 } })
    | some identity =>
      match SessionController.create identity with
      | .error _ => (s.closeNow, w)
      | .ok c => ({ s with controller := some c }.readNext, w)

/-- The handler that `start_on_strand` gives the deadline timer. -/
def handshakeTimeout (s : TlsTunnelSession) (w : Shared σ) : TlsTunnelSession × Shared σ :=
  if s.stopped || s.controller.isSome then (s, w)
  else
    (s.closeNow, { w with
      metrics := { w.metrics with handshakeTimeouts := w.metrics.handshakeTimeouts + 1 } })

/-- The handler that `arm_idle_timeout` gives the deadline timer. -/
def idleTimeout (s : TlsTunnelSession) (w : Shared σ) : TlsTunnelSession × Shared σ :=
  if s.stopped then (s, w)
  else
    (s.closeNow, { w with
      metrics := { w.metrics with idleTimeouts := w.metrics.idleTimeouts + 1 } })

/-- The common part of `send_ipv4_from_tun` and `send_ipv6_from_tun`, with what each of them counts
when the queue refuses the frame and when it takes it. -/
def sendFromTun (overflow sent : ServerMetrics → ServerMetrics) (s : TlsTunnelSession)
    (w : Shared σ) (packet : Bytes) (now : TimePoint) : TlsTunnelSession × Shared σ :=
  match s.stopped, s.controller with
  | false, some c =>
    match c.makeDataToClient w.manager packet now with
    | (none, c, manager) =>
      let s := { s with controller := some c }
      (if c.state ≠ .established then s.closeNow else s, { w with manager })
    | (some frame, c, manager) =>
      let w := { w with manager }
      match { s with controller := some c }.enqueueFrame frame with
      | (.ok true, s) => (s, { w with metrics := sent w.metrics })
      | (.ok false, s) => (s.closeNow, { w with metrics := overflow w.metrics })
      | (.error _, s) => (s, w)
  | _, _ => (s, w)

def sendIpv4FromTun (s : TlsTunnelSession) (w : Shared σ) (packet : Bytes) (now : TimePoint) :
    TlsTunnelSession × Shared σ :=
  sendFromTun (fun m => { m with queueOverflows := m.queueOverflows + 1 })
    (fun m => { m with
      downlinkPackets := m.downlinkPackets + 1
      downlinkBytes := m.downlinkBytes + UInt64.ofNat packet.length }) s w packet now

def sendIpv6FromTun (s : TlsTunnelSession) (w : Shared σ) (packet : Bytes) (now : TimePoint) :
    TlsTunnelSession × Shared σ :=
  sendFromTun id id s w packet now

/-- The rest of `close_now`, one of its two effects at a time. -/
def closeStep (h : Handlers σ) (s : TlsTunnelSession) (w : Shared σ) :
    TlsTunnelSession × Shared σ :=
  match s.closing with
  | .releasing =>
    let w := { w with
      metrics := { w.metrics with closedSessions := w.metrics.closedSessions + 1 } }
    match s.controller with
    | none => ({ s with outboundQueue := s.outboundQueue.clear, closing := .notifying }, w)
    | some c =>
      let (c, manager) := c.onTransportClosed w.manager
      ({ s with
        controller := some c
        outboundQueue := s.outboundQueue.clear
        closing := .notifying }, { w with manager })
  | .notifying => ({ s with closing := .done }, { w with outside := h.closed s.routeLease w.outside })
  | _ => (s, w)

end TlsTunnelSession

/-- What runs on the strand of a session. -/
inductive SessionEvent where
  | handshake (fingerprint : Option Bytes)
  | handshakeTimeout
  | read (read : Option Bytes)
  | frame (now : TimePoint)
  | write (failed : Bool)
  | sendIpv4 (packet : Bytes) (now : TimePoint)
  | sendIpv6 (packet : Bytes) (now : TimePoint)
  | idleTimeout
  | stop
  | close

namespace TlsTunnelSession

variable {σ : Type}

/-- While the loop of `handle_read` has frames left nothing else runs on the strand. -/
def whenIdle (s : TlsTunnelSession) (w : Shared σ) (after : TlsTunnelSession × Shared σ) :
    TlsTunnelSession × Shared σ :=
  if s.inbound ≠ [] then (s, w) else after

/-- One event. A completion comes only for an operation that is outstanding. -/
def step (h : Handlers σ) (s : TlsTunnelSession) (w : Shared σ) :
    SessionEvent → TlsTunnelSession × Shared σ
  | .handshake fingerprint =>
    s.whenIdle w (if s.controller.isSome then (s, w) else s.handleHandshake w fingerprint)
  | .handshakeTimeout => s.whenIdle w (s.handshakeTimeout w)
  | .read read => s.whenIdle w (if s.reading then s.handleRead read else s, w)
  | .frame now => s.handleNextFrame h w now
  | .write failed => s.whenIdle w (if s.writeInProgress then s.handleWrite failed else s, w)
  | .sendIpv4 packet now => s.whenIdle w (s.sendIpv4FromTun w packet now)
  | .sendIpv6 packet now => s.whenIdle w (s.sendIpv6FromTun w packet now)
  | .idleTimeout => s.whenIdle w (s.idleTimeout w)
  | .stop => s.whenIdle w (s.closeNow, w)
  | .close => s.closeStep h w

end TlsTunnelSession

end PersonalVpn.Server
